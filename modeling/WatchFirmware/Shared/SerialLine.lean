import Mathlib

set_option autoImplicit false

/-- A serial line in one direction: what is on the wire, and what has arrived and is not read yet. -/
structure SerialLine (α : Type) where
  wire : List α
  arrived : List α
  deriving DecidableEq

namespace SerialLine

variable {α Noise : Type}

-- A byte may wait on the wire for any time; whatever happens to it happens when it is the oldest.
inductive Fault (Noise : Type) where
  | deliver
  | drop
  | duplicate
  | corrupt (noise : Noise)
  deriving DecidableEq, Repr

def contents (line : SerialLine α) : List α := line.arrived ++ line.wire

def send (line : SerialLine α) (items : List α) : SerialLine α :=
  { line with wire := line.wire ++ items }

/-- What a reader takes that asks for `count` items, and the line it leaves. -/
def read (line : SerialLine α) (count : Nat) : List α × SerialLine α :=
  (line.arrived.take count, { line with arrived := line.arrived.drop count })

def flushInput (line : SerialLine α) : SerialLine α := { line with arrived := [] }

def behave (garble : Noise → α → α) (line : SerialLine α) (fault : Fault Noise) :
    Option (SerialLine α) :=
  match line.wire with
  | [] => none
  | head :: rest =>
      match fault with
      | .deliver => some { wire := rest, arrived := line.arrived ++ [head] }
      | .drop => some { line with wire := rest }
      | .duplicate => some { line with wire := head :: head :: rest }
      | .corrupt noise => some { line with wire := garble noise head :: rest }

end SerialLine
