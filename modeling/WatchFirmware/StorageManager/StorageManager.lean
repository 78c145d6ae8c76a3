import WatchFirmware.RuntimeManager.Conservation
import WatchFirmware.Shared.Replay

set_option autoImplicit false

namespace WatchFirmware.StorageManager

open RuntimeManager

abbrev Byte := UInt8

abbrev storageMaxDataSize : Nat := 220

inductive StorageOp where
  | save
  | eraseKey
  | eraseAll
  deriving DecidableEq, Repr

-- The key up to its NUL and the data up to data_len; the rest of both buffers is zero.
structure StorageWork where
  appId : Byte
  opType : StorageOp
  key : List Byte
  data : List Byte
  deriving DecidableEq, Repr

/-- A blob by namespace and key. The namespace app_%03u is the app id. -/
structure StorageKey where
  appId : Byte
  key : List Byte
  deriving DecidableEq, Repr

abbrev Nvs := StorageKey → Option (List Byte)

namespace Nvs

def setBlob (nvs : Nvs) (appId : Byte) (key data : List Byte) : Nvs :=
  Function.update nvs ⟨appId, key⟩ (some data)

def eraseKey (nvs : Nvs) (appId : Byte) (key : List Byte) : Nvs :=
  Function.update nvs ⟨appId, key⟩ none

def eraseAll (nvs : Nvs) (appId : Byte) : Nvs := fun key =>
  if key.appId = appId then none else nvs key

end Nvs

/-- The NVS operations of a handler run; open, commit and close succeed. -/
def storageManagerExecuteWork (nvs : Nvs) (work : StorageWork) : Nvs :=
  match work.opType with
  | .save => if work.key.length ≤ 15 then nvs.setBlob work.appId work.key work.data else nvs
  | .eraseKey => if work.key.length ≤ 15 then nvs.eraseKey work.appId work.key else nvs
  | .eraseAll => nvs.eraseAll work.appId

/-- A public call; a NULL key or NULL data is none, and data has at least len bytes. -/
inductive StorageRequest where
  | saveKey (appId : Byte) (key : Option (List Byte)) (data : Option (List Byte)) (len : Byte)
  | eraseKey (appId : Byte) (key : Option (List Byte))
  | eraseAll (appId : Byte)
  deriving DecidableEq, Repr

def storageManagerSaveKey (appId : Byte) (key data : Option (List Byte)) (len : Byte) :
    Option StorageWork :=
  match key, data with
  | some key, some data =>
      if 15 < key.length ∨ storageMaxDataSize < len.toNat then none
      else some ⟨appId, .save, key, data.take len.toNat⟩
  | _, _ => none

def storageManagerEraseKey (appId : Byte) (key : Option (List Byte)) : Option StorageWork :=
  match key with
  | some key => if 15 < key.length then none else some ⟨appId, .eraseKey, key, []⟩
  | none => none

def storageManagerEraseAll (appId : Byte) : StorageWork := ⟨appId, .eraseAll, [], []⟩

/-- What a call hands to `schedule_system_work`, if its parameters are valid. -/
def StorageRequest.work : StorageRequest → Option StorageWork
  | saveKey appId key data len => storageManagerSaveKey appId key data len
  | eraseKey appId key => storageManagerEraseKey appId key
  | eraseAll appId => some (storageManagerEraseAll appId)

variable {Other : Type}

abbrev Call (Other : Type) := StorageWork ⊕ Other

def delayedWork (work : StorageWork) : WorkItem (Call Other) := ⟨some (.call (.inl work)), .system⟩

def storageOperation (item : WorkItem (Call Other)) : Option StorageWork :=
  match item.handler with
  | some (.call (.inl work)) => some work
  | _ => none

/-- The runtime with the flash; `executed` records the operations in the order of their execution. -/
structure Storage (Other : Type) where
  runtime : Runtime (Call Other)
  nvs : Nvs
  executed : List (Work (Call Other))

inductive Action (Other : Type) where
  | storage (caller : Option WorkerId) (request : StorageRequest) (timesOut : Bool)
  | execute (i : WorkerId)
  | runtime (action : Runtime.Action (Call Other))

def schedule (caller : Option WorkerId) (work : StorageWork) (timesOut : Bool) :
    Runtime.Action (Call Other) :=
  let request := Runtime.Request.scheduleSystemWork (delayedWork work)
  match caller, timesOut with
  | none, false => .request request
  | none, true => .requestTimeout request
  | some i, false => .call i request
  | some i, true => .callTimeout i request

-- storage_manager_execute_work is static, so only the storage calls schedule it.
def foreign : Runtime.Action (Call Other) → Bool
  | .request (.scheduleWork _ item) | .requestTimeout (.scheduleWork _ item)
  | .call _ (.scheduleWork _ item) | .callTimeout _ (.scheduleWork _ item) =>
      (storageOperation item).isNone
  | _ => true

namespace Storage

def operating (s : Storage Other) (i : WorkerId) : Option (Work (Call Other) × StorageWork) :=
  match (s.runtime.workers i).pc with
  | .handle work _ =>
      if s.executed.any fun other => other.id = work.id then none
      else (storageOperation work.item).map fun op => (work, op)
  | _ => none

/-- A handler returns only after its operation. -/
def mayStep (s : Storage Other) : Runtime.Action (Call Other) → Bool
  | .worker i => (s.operating i).isNone
  | _ => true

def step (s : Storage Other) : Action Other → Option (Storage Other)
  | .storage caller request timesOut =>
      match request.work with
      | none => some s
      | some work =>
          (s.runtime.step (schedule caller work timesOut)).map fun after => { s with runtime := after }
  | .execute i =>
      if s.runtime.workerRuns i then
        (s.operating i).map fun (work, op) =>
          { s with nvs := storageManagerExecuteWork s.nvs op, executed := s.executed ++ [work] }
      else none
  | .runtime action =>
      if foreign action && s.mayStep action then
        (s.runtime.step action).map fun after => { s with runtime := after }
      else none

structure Initial (first : Nvs) (s : Storage Other) : Prop where
  runtime : s.runtime.Initial
  nvs : s.nvs = first
  executed : s.executed = []

end Storage

end WatchFirmware.StorageManager
