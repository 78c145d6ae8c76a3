import WatchFirmware.Ble.Types
import WatchFirmware.Shared.ByteOrder
import WatchFirmware.Shared.Loop

set_option autoImplicit false

namespace WatchFirmware.Ble

open Loop

abbrev bleMsgTimeSize : Nat := 4
abbrev bleMsgWeatherSize : Nat := 148

structure HourlyWeather where
  -- scaled by 10
  temperature : Int16
  humidity : Byte
  precipProb : Byte
  weatherCode : Byte
  windSpeed : Byte
  deriving DecidableEq, Repr

@[ext] structure WeatherSync where
  expiresAt : UInt32
  hourlyToday : Fin 24 → HourlyWeather

def readUInt32 (payload : List Byte) (idx : Nat) : Option UInt32 :=
  match payload[idx]?, payload[idx + 1]?, payload[idx + 2]?, payload[idx + 3]? with
  | some first, some second, some third, some fourth =>
      some (first.toUInt32 <<< 24 ||| second.toUInt32 <<< 16 ||| third.toUInt32 <<< 8 ||| fourth.toUInt32 <<< 0)
  | _, _, _, _ => none

-- From here on none is a read behind the end of the payload.
def parseDateTimePayload (payload : List Byte) : Option UInt32 := readUInt32 payload 0

/-- The loop of `parse_weather_payload`; the destination is what the caller had on its stack. -/
structure HourLoop where
  idx : Nat
  weatherState : WeatherSync

def parseHour (payload : List Byte) (loop : HourLoop) (hour : Fin 24) : Option HourLoop :=
  match payload[loop.idx]?, payload[loop.idx + 1]?, payload[loop.idx + 2]?, payload[loop.idx + 3]?,
    payload[loop.idx + 4]?, payload[loop.idx + 5]? with
  | some high, some low, some humidity, some precipProb, some weatherCode, some windSpeed =>
      let temperature := Int16.ofNat (high.toNat <<< 8 ||| low.toNat)
      let parsed : HourlyWeather := ⟨temperature, humidity, precipProb, weatherCode, windSpeed⟩
      some ⟨loop.idx + 6,
        { loop.weatherState with hourlyToday := Function.update loop.weatherState.hourlyToday hour parsed }⟩
  | _, _, _, _, _, _ => none

def parseWeatherPayload (payload : List Byte) (weatherState : WeatherSync) : Option WeatherSync :=
  (readUInt32 payload 0).bind fun expiresAt =>
    ((List.finRange 24).foldlM (parseHour payload) ⟨4, { weatherState with expiresAt }⟩).map HourLoop.weatherState

def encodeHour (weather : HourlyWeather) : List Byte :=
  ByteOrder.bytes 2 weather.temperature.toUInt16.toNat ++
    [weather.humidity, weather.precipProb, weather.weatherCode, weather.windSpeed]

def encodeTime (epoch : UInt32) : List Byte := ByteOrder.bytes 4 epoch.toNat

def encodeWeather (weather : WeatherSync) : List Byte :=
  encodeTime weather.expiresAt ++ (List.finRange 24).flatMap fun hour => encodeHour (weather.hourlyToday hour)

@[simp] theorem encodeTime_length (epoch : UInt32) : (encodeTime epoch).length = bleMsgTimeSize :=
  ByteOrder.bytes_length 4 _

@[simp] theorem encodeHour_length (weather : HourlyWeather) : (encodeHour weather).length = 6 := by
  simp [encodeHour]

@[simp] theorem encodeWeather_length (weather : WeatherSync) : (encodeWeather weather).length = bleMsgWeatherSize := by
  simp [encodeWeather, List.length_flatMap]

theorem toUInt32_shift {width : Nat} (small : width ≤ 24) (byte : Byte) :
    (byte.toUInt32 <<< UInt32.ofNat width).toNat = byte.toNat <<< width := by
  have wide := byte.toNat_lt
  have bound : byte.toNat * 2 ^ width < 2 ^ 32 := by
    have power : 2 ^ width ≤ 2 ^ 24 := Nat.pow_le_pow_right (by decide) small
    calc byte.toNat * 2 ^ width ≤ 255 * 2 ^ 24 := Nat.mul_le_mul (by omega) power
      _ < 2 ^ 32 := by decide
  rw [UInt32.toNat_shiftLeft, UInt8.toNat_toUInt32, UInt32.toNat_ofNat', Nat.mod_eq_of_lt (by omega : width < 2 ^ 32),
    Nat.mod_eq_of_lt (by omega : width < 32), Nat.shiftLeft_eq, Nat.mod_eq_of_lt bound]

theorem readUInt32_eq {payload rest : List Byte} {idx : Nat} {first second third fourth : Byte}
    (there : payload.drop idx = first :: second :: third :: fourth :: rest) :
    readUInt32 payload idx = some (UInt32.ofNat (ByteOrder.value [first, second, third, fourth])) := by
  have lies (k : Nat) : payload[idx + k]? = (first :: second :: third :: fourth :: rest)[k]? := by
    rw [← there, List.getElem?_drop]
  have zero := lies 0
  rw [Nat.add_zero] at zero
  rw [readUInt32, zero, lies 1, lies 2, lies 3]
  simp only [List.getElem?_cons_zero, List.getElem?_cons_succ]
  have whole : (first.toUInt32 <<< 24 ||| second.toUInt32 <<< 16 ||| third.toUInt32 <<< 8 |||
      fourth.toUInt32 <<< 0).toNat = ByteOrder.value [first, second, third, fourth] := by
    rw [← ByteOrder.value_quad, UInt32.toNat_or, UInt32.toNat_or, UInt32.toNat_or]
    rw [← @toUInt32_shift 24 (by decide), ← @toUInt32_shift 16 (by decide), ← @toUInt32_shift 8 (by decide),
      ← @toUInt32_shift 0 (by decide)]
    rfl
  rw [← whole, UInt32.ofNat_toNat]

theorem readUInt32_encodeTime {payload rest : List Byte} {idx : Nat} {epoch : UInt32}
    (there : payload.drop idx = encodeTime epoch ++ rest) : readUInt32 payload idx = some epoch := by
  have four : ∃ first second third fourth, encodeTime epoch = [first, second, third, fourth] := ⟨_, _, _, _, rfl⟩
  obtain ⟨first, second, third, fourth, bytes⟩ := four
  have number : ByteOrder.value [first, second, third, fourth] = epoch.toNat := by
    rw [← bytes, encodeTime, ByteOrder.value_bytes]
    exact Nat.mod_eq_of_lt epoch.toNat_lt
  rw [bytes] at there
  rw [readUInt32_eq there, number, UInt32.ofNat_toNat]

theorem temperature_read {temperature : Int16} {high low : Byte}
    (bytes : ByteOrder.bytes 2 temperature.toUInt16.toNat = [high, low]) :
    Int16.ofNat (high.toNat <<< 8 ||| low.toNat) = temperature := by
  have small : temperature.toUInt16.toNat < 2 ^ 16 := temperature.toUInt16.toNat_lt
  have number : ByteOrder.value [high, low] = temperature.toUInt16.toNat := by
    rw [← bytes, ByteOrder.value_bytes]
    exact Nat.mod_eq_of_lt small
  have converted : Int16.ofNat temperature.toUInt16.toNat =
      (UInt16.ofNat temperature.toUInt16.toNat).toInt16 := rfl
  rw [ByteOrder.value_pair, number, converted, UInt16.ofNat_toNat, Int16.toInt16_toUInt16]

theorem parseHour_encodeHour {payload rest : List Byte} {weather : HourlyWeather} (loop : HourLoop)
    (there : payload.drop loop.idx = encodeHour weather ++ rest) (hour : Fin 24) :
    parseHour payload loop hour = some ⟨loop.idx + 6,
      { loop.weatherState with hourlyToday := Function.update loop.weatherState.hourlyToday hour weather }⟩ := by
  have two : ∃ high low, ByteOrder.bytes 2 weather.temperature.toUInt16.toNat = [high, low] := ⟨_, _, rfl⟩
  obtain ⟨high, low, bytes⟩ := two
  have lies (k : Nat) : payload[loop.idx + k]? =
      (high :: low :: weather.humidity :: weather.precipProb :: weather.weatherCode :: weather.windSpeed :: rest)[k]? := by
    rw [← List.getElem?_drop, there, encodeHour, bytes]
    rfl
  have zero := lies 0
  rw [Nat.add_zero] at zero
  rw [parseHour, zero, lies 1, lies 2, lies 3, lies 4, lies 5]
  simp only [List.getElem?_cons_zero, List.getElem?_cons_succ, temperature_read bytes]

theorem hours_drop (weather : WeatherSync) {hour : Nat} (inside : hour < 24) :
    ((List.finRange 24).flatMap fun hour => encodeHour (weather.hourlyToday hour)).drop (6 * hour) =
      encodeHour (weather.hourlyToday ⟨hour, inside⟩) ++
        ((List.finRange 24).drop (hour + 1)).flatMap fun hour => encodeHour (weather.hourlyToday hour) := by
  have sizes : (((List.finRange 24).map fun hour => encodeHour (weather.hourlyToday hour)).map
      List.length).take hour = List.replicate hour 6 := by
    apply List.ext_getElem
    · simp [Nat.le_of_lt inside]
    · simp
  have skipped := List.drop_sum_flatten ((List.finRange 24).map fun hour => encodeHour (weather.hourlyToday hour)) hour
  rw [sizes, List.sum_replicate, smul_eq_mul, Nat.mul_comm] at skipped
  rw [List.flatMap_def, List.flatMap_def, skipped, ← List.map_drop,
    List.drop_eq_getElem_cons (by rw [List.length_finRange]; exact inside)]
  simp

structure HourLoop.Read (loop : HourLoop) (weather : WeatherSync) (count : Nat) : Prop where
  idx : loop.idx = 4 + 6 * count
  expiresAt : loop.weatherState.expiresAt = weather.expiresAt
  hours : ∀ hour : Fin 24, hour.val < count → loop.weatherState.hourlyToday hour = weather.hourlyToday hour

theorem HourLoop.Read.next {loop : HourLoop} {weather : WeatherSync} {count : Nat} (read : loop.Read weather count)
    (inside : count < 24) (stale : List Byte) :
    ∃ next, parseHour (encodeWeather weather ++ stale) loop ⟨count, inside⟩ = some next ∧
      next.Read weather (count + 1) := by
  obtain ⟨idx, expiresAt, hours⟩ := read
  have long : 6 * count ≤
      ((List.finRange 24).flatMap fun hour => encodeHour (weather.hourlyToday hour)).length := by
    simp [List.length_flatMap]
    omega
  have behind : (encodeTime weather.expiresAt).length = 4 := encodeTime_length _
  have there : (encodeWeather weather ++ stale).drop loop.idx = encodeHour (weather.hourlyToday ⟨count, inside⟩) ++
      (((List.finRange 24).drop (count + 1)).flatMap (fun hour => encodeHour (weather.hourlyToday hour)) ++ stale) := by
    rw [idx, encodeWeather, List.append_assoc, ← List.drop_drop, ← behind, List.drop_left,
      List.drop_append_of_le_length long, hours_drop weather inside, List.append_assoc]
  refine ⟨_, parseHour_encodeHour loop there ⟨count, inside⟩, ?_⟩
  constructor
  case idx =>
    simp only [idx]
    omega
  case expiresAt => exact expiresAt
  case hours =>
    intro hour before
    by_cases last : hour = ⟨count, inside⟩
    next =>
      subst last
      exact Function.update_self ..
    next =>
      have earlier : hour.val < count := by
        have other : hour.val ≠ count := fun same => last (Fin.ext same)
        omega
      exact (Function.update_of_ne last _ _).trans (hours hour earlier)

/-- What the parser writes over any destination is what the phone encoded. -/
theorem parseWeatherPayload_encodeWeather (weather weatherState : WeatherSync) (stale : List Byte) :
    parseWeatherPayload (encodeWeather weather ++ stale) weatherState = some weather := by
  have expires : readUInt32 (encodeWeather weather ++ stale) 0 = some weather.expiresAt := by
    apply readUInt32_encodeTime
    rw [List.drop_zero, encodeWeather, List.append_assoc]
  have start : HourLoop.Read ⟨4, { weatherState with expiresAt := weather.expiresAt }⟩ weather 0 :=
    ⟨rfl, rfl, fun hour before => absurd before (Nat.not_lt_zero _)⟩
  have each : ∀ count, (inside : count < (List.finRange 24).length) → ∀ loop : HourLoop, loop.Read weather count →
      ∃ next, parseHour (encodeWeather weather ++ stale) loop (List.finRange 24)[count] = some next ∧
        next.Read weather (count + 1) := by
    intro count inside loop read
    rw [List.getElem_finRange]
    exact read.next (by rwa [List.length_finRange] at inside) stale
  obtain ⟨after, ran, read⟩ := @foldlM_total _ _ _ _ (fun count loop => HourLoop.Read loop weather count) _ each start
  rw [List.length_finRange] at read
  have same : after.weatherState = weather :=
    WeatherSync.ext read.expiresAt (funext fun hour => read.hours hour hour.isLt)
  rw [parseWeatherPayload, expires, Option.bind_some, ran, Option.map_some, same]

theorem exists_encodeHour (high low humidity precipProb weatherCode windSpeed : Byte) :
    ∃ weather, encodeHour weather = [high, low, humidity, precipProb, weatherCode, windSpeed] := by
  have small : ByteOrder.value [high, low] < 2 ^ 16 := Nat.lt_of_lt_of_eq (ByteOrder.value_lt [high, low]) (by simp)
  refine ⟨⟨(UInt16.ofNat (ByteOrder.value [high, low])).toInt16, humidity, precipProb, weatherCode, windSpeed⟩, ?_⟩
  rw [encodeHour, UInt16.toUInt16_toInt16, UInt16.toNat_ofNat', Nat.mod_eq_of_lt small,
    ByteOrder.bytes_value_of_length (by rfl)]
  rfl

theorem exists_head {data : List Byte} {more : Nat} (long : more + 1 ≤ data.length) :
    ∃ head rest, data = head :: rest ∧ more ≤ rest.length := by
  obtain ⟨head, rest, rfl⟩ := List.exists_cons_of_length_pos (Nat.lt_of_lt_of_le (Nat.succ_pos _) long)
  exact ⟨head, rest, rfl, Nat.le_of_succ_le_succ long⟩

theorem exists_encodeHours {count : Nat} {data : List Byte} (sized : data.length = 6 * count) :
    ∃ hours : Fin count → HourlyWeather, (List.finRange count).flatMap (fun hour => encodeHour (hours hour)) = data := by
  induction count generalizing data with
  | zero =>
      refine ⟨Fin.elim0, ?_⟩
      rw [List.eq_nil_of_length_eq_zero sized]
      rfl
  | succ count ih =>
      have long : 6 ≤ data.length := by omega
      obtain ⟨high, _, rfl, five⟩ := exists_head long
      obtain ⟨low, _, rfl, four⟩ := exists_head five
      obtain ⟨humidity, _, rfl, three⟩ := exists_head four
      obtain ⟨precipProb, _, rfl, two⟩ := exists_head three
      obtain ⟨weatherCode, _, rfl, one⟩ := exists_head two
      obtain ⟨windSpeed, rest, rfl, _⟩ := exists_head one
      obtain ⟨hours, encoded⟩ := @ih rest (by simp only [List.length_cons] at sized; omega)
      obtain ⟨first, bytes⟩ := exists_encodeHour high low humidity precipProb weatherCode windSpeed
      refine ⟨Fin.cons first hours, ?_⟩
      rw [List.finRange_succ, List.flatMap_cons, List.flatMap_map]
      simp only [Fin.cons_zero, Fin.cons_succ, bytes, encoded]
      rfl

theorem exists_encodeTime {data : List Byte} (sized : data.length = bleMsgTimeSize) :
    ∃ epoch, encodeTime epoch = data := by
  have small : ByteOrder.value data < 2 ^ 32 := by
    have bound := ByteOrder.value_lt data
    rw [sized] at bound
    exact bound
  refine ⟨UInt32.ofNat (ByteOrder.value data), ?_⟩
  rw [encodeTime, UInt32.toNat_ofNat', Nat.mod_eq_of_lt small]
  exact ByteOrder.bytes_value_of_length sized

theorem exists_encodeWeather {data : List Byte} (sized : data.length = bleMsgWeatherSize) :
    ∃ weather, encodeWeather weather = data := by
  obtain ⟨expiresAt, time⟩ := @exists_encodeTime (data.take 4) (by rw [List.length_take, sized]; rfl)
  obtain ⟨hourlyToday, hours⟩ := @exists_encodeHours 24 (data.drop 4) (by rw [List.length_drop, sized]; rfl)
  refine ⟨⟨expiresAt, hourlyToday⟩, ?_⟩
  rw [encodeWeather, time, hours, List.take_append_drop]

end WatchFirmware.Ble
