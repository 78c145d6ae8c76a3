import WatchFirmware.Ble.RoundTrip
import WatchFirmware.Ble.ConnectionSafety
import WatchFirmware.Ble.MultichunkRun
import WatchFirmware.StateManager.AlarmSafety
import WatchFirmware.StateManager.AlarmLedger
import WatchFirmware.RuntimeManager.Conservation
import WatchFirmware.StorageManager.StorageManager
import WatchFirmware.StorageManager.LastWrite
import WatchFirmware.UartOta.ImageIntegrity
import WatchFirmware.PowerManager.WakeRequest
import WatchFirmware.LvglBridge.LvglBridge
import WatchFirmware.LvglBridge.SuspendSafety
import WatchFirmware.StateManager.AlarmBlock
import WatchFirmware.StateManager.AlarmOrder
import WatchFirmware.Ble.Resync
import WatchFirmware.RuntimeManager.ApiCalls
import WatchFirmware.RuntimeManager.WatchdogSafety
import WatchFirmware.Common.RingStorage
import WatchFirmware.DisplayDriver.DisplayDriver
import WatchFirmware.DisplayDriver.PanelSafety
import WatchFirmware.NotificationManager.NotificationManager
import WatchFirmware.NotificationManager.NotificationUi
import WatchFirmware.NotificationManager.Dismissal
import WatchFirmware.AlarmApp.AlarmUi
import WatchFirmware.StateManager.EditAtomic
import WatchFirmware.Ble.Fragmentation
import WatchFirmware.Ble.ReceiveSafety
import WatchFirmware.Ble.Draining
import WatchFirmware.Ble.MultichunkOwnership
import WatchFirmware.WeatherApp.ShownDay
import WatchFirmware.MotionStage1.AssertionSafety
import WatchFirmware.SensorManager.ImuFifo
import WatchFirmware.MotionStage1.NoMotion
import WatchFirmware.MotionStage1.PeakSeparation
import WatchFirmware.MotionStage1.WindowOverlap
import WatchFirmware.UartOta.SendLoop
import WatchFirmware.UartOta.ReceiveLoop
import WatchFirmware.Ble.ResponseHandler
import WatchFirmware.UiBase.Navigation
import WatchFirmware.PowerManager.PhaseShift
import WatchFirmware.EncoderDriver.Button
import WatchFirmware.WakelockManager.WakelockManager
import WatchFirmware.IrBlaster.Symbols
import WatchFirmware.BatteryDriver.BatteryDriver
import WatchFirmware.EventManager.Delivery
import WatchFirmware.Bmp180Driver.ReadSafety
import WatchFirmware.SensorManager.ImuRestore
import WatchFirmware.SleepLockService.Balance
import WatchFirmware.NotificationManager.Interleaving
import WatchFirmware.WeatherApp.Navigation
import WatchFirmware.AppMgr.PickerSafety
import WatchFirmware.IrBlaster.ShutdownSafety
import WatchFirmware.StopwatchApp.LapRecord
import WatchFirmware.StateManager.WatchState
import WatchFirmware.Ble.ReportDelivery
import WatchFirmware.WatchfaceMgr.HomeScreen
import WatchFirmware.Common.Calendar
import WatchFirmware.AlarmApp.CreatedAlarm
import WatchFirmware.DisplayDriver.AtomicFlush
import WatchFirmware.EncoderDriver.KeyDelivery
import WatchFirmware.SettingsApp.InForce
