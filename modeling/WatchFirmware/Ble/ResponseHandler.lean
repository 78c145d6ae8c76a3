import WatchFirmware.Ble.Types
import WatchFirmware.Shared.Memory

set_option autoImplicit false

namespace WatchFirmware.Ble

abbrev bleMsgMinNotificationSize : Nat := 5
abbrev maxNotificationTitleSize : Nat := 14
abbrev maxNotificationBodySize : Nat := 100

/-- An array of `size` characters. -/
structure CharArray (size : Nat) where
  cells : List Byte
  sized : cells.length = size

/-- The `memcpy` of a text and the store of the NUL behind it; none where they leave the array. -/
def CharArray.copyString {size : Nat} (dest : CharArray size) (text : List Byte) : Option (CharArray size) :=
  if room : text.length + 1 ≤ size then
    some
      { cells := text ++ 0 :: dest.cells.drop (text.length + 1)
        sized := by
          rw [List.length_append, List.length_cons, List.length_drop, dest.sized]
          omega }
  else none

def CharArray.Holds {size : Nat} (dest : CharArray size) (text : List Byte) : Prop :=
  text ++ [0] <+: dest.cells

/-- The fields of `notification_t` that are decoded; a handler is an address, none for NULL. -/
structure NotificationFields where
  app : Byte
  appName : CharArray maxNotificationTitleSize
  body : CharArray maxNotificationBodySize
  actionHandler : Option Nat
  dismissHandler : Option Nat

/-- The text copied and the index behind the field; the inner none is the answer false, the outer one
an access outside the payload or the array. -/
def extractLeanString {destMax : Nat} (payload : List Byte) (payloadLen currentIdx : Nat)
    (destBuf : CharArray destMax) : Option (Option (Nat × CharArray destMax)) :=
  if payloadLen ≤ currentIdx then some none
  else
    payload[currentIdx]?.bind fun strLen =>
      let idx := (currentIdx + 1) % 65536
      if payloadLen < idx + strLen.toNat then some none
      else
        let copyBytes := if strLen.toNat < destMax - 1 then strLen.toNat else destMax - 1
        (Memory.read payload idx copyBytes).bind fun copied =>
          (destBuf.copyString copied).map fun dest => some ((idx + strLen.toNat) % 65536, dest)

-- A title that is copied stays in the destination when the body behind it is refused.
def parseNotificationPayload (payload : List Byte) (len : Nat) (dest : NotificationFields) :
    Option (Bool × NotificationFields) :=
  if len < bleMsgMinNotificationSize then some (false, dest)
  else
    payload[0]?.bind fun app =>
      let dest := { dest with app }
      (extractLeanString payload len 1 dest.appName).bind fun
        | none => some (false, dest)
        | some (idx, appName) =>
            let dest := { dest with appName }
            (extractLeanString payload len idx dest.body).map fun
              | none => (false, dest)
              | some (_, body) => (true, { dest with body, actionHandler := none, dismissHandler := none })

def leanString (text : List Byte) : List Byte := UInt8.ofNat text.length :: text

/-- The documented layout of a notification. -/
def encodeNotification (app : Byte) (title body : List Byte) : List Byte :=
  app :: (leanString title ++ leanString body)

def Field (bytes text rest : List Byte) : Prop := text.length < 256 ∧ bytes = leanString text ++ rest

theorem Field.unique {bytes text rest other remainder : List Byte} (field : Field bytes text rest)
    (again : Field bytes other remainder) : text = other ∧ rest = remainder := by
  obtain ⟨short, rfl⟩ := field
  obtain ⟨small, same⟩ := again
  obtain ⟨head, tail⟩ := List.cons.inj same
  have length : text.length = other.length := by
    have equal := congrArg UInt8.toNat head
    rwa [UInt8.toNat_ofNat', UInt8.toNat_ofNat', Nat.mod_eq_of_lt short, Nat.mod_eq_of_lt small] at equal
  exact List.append_inj tail length

theorem field_cons {strLen : Byte} {more : List Byte} (inside : strLen.toNat ≤ more.length) :
    Field (strLen :: more) (more.take strLen.toNat) (more.drop strLen.toNat) := by
  have length : (more.take strLen.toNat).length = strLen.toNat := List.length_take_of_le inside
  refine ⟨by rw [length]; exact strLen.toNat_lt, ?_⟩
  rw [leanString, length, UInt8.ofNat_toNat, List.cons_append, List.take_append_drop]

theorem extractLeanString_field {destMax : Nat} (positive : 0 < destMax) {front bytes text rest : List Byte}
    (field : Field bytes text rest) (small : (front ++ bytes).length ≤ bleMaxPayloadSize)
    (dest : CharArray destMax) :
    ∃ copied : CharArray destMax, copied.Holds (text.take (destMax - 1)) ∧ ∀ stale,
      extractLeanString (front ++ bytes ++ stale) (front ++ bytes).length front.length dest =
        some (some ((front ++ leanString text).length, copied)) := by
  obtain ⟨short, rfl⟩ := field
  have length : (UInt8.ofNat text.length).toNat = text.length := by
    rw [UInt8.toNat_ofNat', Nat.mod_eq_of_lt short]
  simp only [leanString, List.length_append, List.length_cons, bleMaxPayloadSize] at small
  have copyBytes : (if text.length < destMax - 1 then text.length else destMax - 1) =
      (text.take (destMax - 1)).length := by
    rw [List.length_take]
    split <;> omega
  have fits : (text.take (destMax - 1)).length + 1 ≤ destMax := by
    rw [List.length_take]
    omega
  refine ⟨⟨text.take (destMax - 1) ++ 0 :: dest.cells.drop ((text.take (destMax - 1)).length + 1), ?_⟩, ?_, ?_⟩
  next =>
    rw [List.length_append, List.length_cons, List.length_drop, dest.sized]
    omega
  next => exact ⟨dest.cells.drop ((text.take (destMax - 1)).length + 1), by simp⟩
  next =>
    intro stale
    have first : (front ++ (leanString text ++ rest) ++ stale)[front.length]? =
        some (UInt8.ofNat text.length) := by simp [leanString]
    have behind : (front.length + 1) % 65536 = front.length + 1 := Nat.mod_eq_of_lt (by omega)
    have after : (front.length + 1 + text.length) % 65536 = front.length + 1 + text.length :=
      Nat.mod_eq_of_lt (by omega)
    have source : Memory.read (front ++ (leanString text ++ rest) ++ stale) (front.length + 1)
        (text.take (destMax - 1)).length = some (text.take (destMax - 1)) := by
      rw [Memory.read_inside (by simp [leanString]; omega)]
      have shifted : (front ++ (leanString text ++ rest) ++ stale).drop (front.length + 1) =
          text ++ (rest ++ stale) := by simp [leanString, List.drop_append]
      have cut : min (destMax - 1) text.length ≤ text.length := Nat.min_le_right _ _
      rw [shifted, List.length_take, List.take_append_of_le_length cut, ← List.take_take, List.take_length]
    unfold extractLeanString
    rw [if_neg (by simp [leanString]), first, Option.bind_some]
    simp only [length, behind, after]
    rw [if_neg (by simp [leanString]; omega), copyBytes, source, Option.bind_some, CharArray.copyString,
      dif_pos fits, Option.map_some]
    simp [leanString, Nat.add_assoc, Nat.add_comm 1]

theorem extractLeanString_refused {destMax : Nat} {front bytes : List Byte}
    (fieldless : ¬∃ text rest, Field bytes text rest) (small : (front ++ bytes).length ≤ bleMaxPayloadSize)
    (dest : CharArray destMax) (stale : List Byte) :
    extractLeanString (front ++ bytes ++ stale) (front ++ bytes).length front.length dest = some none := by
  unfold extractLeanString
  cases bytes with
  | nil => rw [if_pos (by simp)]
  | cons strLen more =>
      have long : more.length < strLen.toNat := by
        by_contra inside
        exact fieldless ⟨_, _, field_cons (Nat.le_of_not_lt inside)⟩
      have first : (front ++ strLen :: more ++ stale)[front.length]? = some strLen := by simp
      simp only [List.length_append, List.length_cons, bleMaxPayloadSize] at small
      have behind : (front.length + 1) % 65536 = front.length + 1 := Nat.mod_eq_of_lt (by omega)
      rw [if_neg (by simp), first, Option.bind_some]
      simp only [behind]
      rw [if_pos (by simp; omega)]

def Lies (data : List Byte) (app : Byte) (title body : List Byte) : Prop :=
  title.length < 256 ∧ body.length < 256 ∧ ∃ rest, data = encodeNotification app title body ++ rest

theorem lies_cons {first app : Byte} {bytes title body : List Byte} :
    Lies (first :: bytes) app title body ↔
      first = app ∧ ∃ behind rest, Field bytes title behind ∧ Field behind body rest := by
  constructor
  next =>
    rintro ⟨titleFits, bodyFits, rest, same⟩
    rw [encodeNotification, List.cons_append, List.append_assoc] at same
    obtain ⟨rfl, tail⟩ := List.cons.inj same
    exact ⟨rfl, leanString body ++ rest, rest, ⟨titleFits, tail⟩, bodyFits, rfl⟩
  next =>
    rintro ⟨rfl, behind, rest, ⟨titleFits, rfl⟩, bodyFits, rfl⟩
    exact ⟨titleFits, bodyFits, rest, by simp [encodeNotification]⟩

/-- The decoder never faults, whatever lies behind the payload: it accepts the payloads of at least five
bytes in which both strings lie, and copies what the two arrays have room for. -/
theorem parseNotificationPayload_exact {data : List Byte} (small : data.length ≤ bleMaxPayloadSize)
    (dest : NotificationFields) :
    ∃ accepted after, (∀ stale, parseNotificationPayload (data ++ stale) data.length dest =
        some (accepted, after)) ∧
      (accepted = true ↔ bleMsgMinNotificationSize ≤ data.length ∧ ∃ app title body, Lies data app title body) ∧
      (accepted = true → ∀ app title body, Lies data app title body →
        after.app = app ∧ after.appName.Holds (title.take 13) ∧ after.body.Holds (body.take 99) ∧
          after.actionHandler = none ∧ after.dismissHandler = none) := by
  by_cases short : data.length < bleMsgMinNotificationSize
  next =>
    refine ⟨false, dest, fun stale => ?_, ?_, fun accepted => by contradiction⟩
    next => rw [parseNotificationPayload, if_pos short]
    next => exact iff_of_false Bool.noConfusion fun both => Nat.not_le_of_lt short both.1
  next =>
    obtain ⟨app, bytes, rfl⟩ : ∃ app bytes, data = app :: bytes := by
      cases data with
      | nil => exact (short (by decide)).elim
      | cons app bytes => exact ⟨app, bytes, rfl⟩
    have ran (stale : List Byte) : parseNotificationPayload (app :: bytes ++ stale) (app :: bytes).length dest =
        (extractLeanString ([app] ++ bytes ++ stale) ([app] ++ bytes).length [app].length dest.appName).bind fun
          | none => some (false, { dest with app })
          | some (idx, appName) =>
              (extractLeanString ([app] ++ bytes ++ stale) ([app] ++ bytes).length idx dest.body).map fun
                | none => (false, { dest with app, appName })
                | some (_, body) =>
                    (true, { dest with app, appName, body, actionHandler := none, dismissHandler := none }) := by
      rw [parseNotificationPayload, if_neg short]
      rfl
    by_cases titled : ∃ title rest, Field bytes title rest
    next =>
      obtain ⟨title, behind, field⟩ := titled
      obtain ⟨name, named, copiesName⟩ := @extractLeanString_field _ (by decide) [app] _ _ _ field small dest.appName
      have split : [app] ++ bytes = [app] ++ leanString title ++ behind := by rw [field.2, List.append_assoc]
      have smaller : ([app] ++ leanString title ++ behind).length ≤ bleMaxPayloadSize := split ▸ small
      by_cases bodied : ∃ body rest, Field behind body rest
      next =>
        obtain ⟨body, rest, second⟩ := bodied
        obtain ⟨text, held, copiesText⟩ := extractLeanString_field (by decide) second smaller dest.body
        refine ⟨true, { dest with
          app, appName := name, body := text, actionHandler := none, dismissHandler := none }, ?_, ?_, ?_⟩
        next =>
          intro stale
          rw [ran, copiesName, Option.bind_some]
          simp only
          rw [split, copiesText, Option.map_some]
        next =>
          apply iff_of_true rfl
          exact ⟨Nat.le_of_not_lt short, app, title, body, lies_cons.mpr ⟨rfl, behind, rest, field, second⟩⟩
        next =>
          intro _ other first last lies
          obtain ⟨rfl, tail, remainder, one, two⟩ := lies_cons.mp lies
          obtain ⟨rfl, rfl⟩ := field.unique one
          obtain ⟨rfl, _⟩ := second.unique two
          exact ⟨rfl, named, held, rfl, rfl⟩
      next =>
        refine ⟨false, { dest with app, appName := name }, ?_, ?_, fun accepted => by contradiction⟩
        next =>
          intro stale
          rw [ran, copiesName, Option.bind_some]
          simp only
          rw [split, extractLeanString_refused bodied smaller, Option.map_some]
        next =>
          apply iff_of_false Bool.noConfusion
          rintro ⟨_, other, first, last, lies⟩
          obtain ⟨_, tail, remainder, one, two⟩ := lies_cons.mp lies
          obtain ⟨_, rfl⟩ := field.unique one
          exact bodied ⟨last, remainder, two⟩
    next =>
      refine ⟨false, { dest with app }, ?_, ?_, fun accepted => by contradiction⟩
      next =>
        intro stale
        rw [ran, extractLeanString_refused titled small, Option.bind_some]
      next =>
        apply iff_of_false Bool.noConfusion
        rintro ⟨_, other, first, last, lies⟩
        obtain ⟨_, tail, remainder, one, _⟩ := lies_cons.mp lies
        exact titled ⟨first, tail, one⟩

/-- Decoding is exact on every payload that fits, and undoes the documented encoding up to truncation. -/
theorem notification_decoded (dest : NotificationFields) :
    (∀ data : List Byte, data.length ≤ bleMaxPayloadSize →
      ∃ accepted after, (∀ stale, parseNotificationPayload (data ++ stale) data.length dest =
          some (accepted, after)) ∧
        (accepted = true ↔
          bleMsgMinNotificationSize ≤ data.length ∧ ∃ app title body, Lies data app title body) ∧
        (accepted = true → ∀ app title body, Lies data app title body →
          after.appName.Holds (title.take 13) ∧ after.body.Holds (body.take 99))) ∧
    ∀ app title body, bleMsgMinNotificationSize ≤ (encodeNotification app title body).length →
      (encodeNotification app title body).length ≤ bleMaxPayloadSize →
      ∃ after, parseNotificationPayload (encodeNotification app title body)
          (encodeNotification app title body).length dest = some (true, after) ∧
        after.app = app ∧ after.appName.Holds (title.take 13) ∧ after.body.Holds (body.take 99) := by
  constructor
  next =>
    intro data small
    obtain ⟨accepted, after, ran, accepts, decodes⟩ := parseNotificationPayload_exact small dest
    refine ⟨accepted, after, ran, accepts, fun taken app title body lies => ?_⟩
    obtain ⟨_, named, held, _⟩ := decodes taken app title body lies
    exact ⟨named, held⟩
  next =>
    intro app title body enough small
    obtain ⟨accepted, after, ran, accepts, decodes⟩ := parseNotificationPayload_exact small dest
    have lies : Lies (encodeNotification app title body) app title body := by
      simp only [encodeNotification, leanString, List.length_cons, List.length_append, bleMaxPayloadSize] at small
      exact ⟨by omega, by omega, [], (List.append_nil _).symm⟩
    have taken : accepted = true := accepts.mpr ⟨enough, app, title, body, lies⟩
    obtain ⟨sameApp, named, held, _⟩ := decodes taken app title body lies
    have plain := ran []
    rw [List.append_nil, taken] at plain
    exact ⟨after, plain, sameApp, named, held⟩

end WatchFirmware.Ble
