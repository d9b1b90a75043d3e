/-!
# Tuple types

An EVEX memory operand stores a short displacement divided by `N`; its tuple type gives `N`.
-/

namespace OpcodeForest

/-- `nX` scales by `X`; `nXbY` scales by `X`, and by `Y` when one element is broadcast. -/
inductive TupleType where
  | n1 | n2 | n4 | n8 | n16 | n32 | n64
  | n8b4 | n16b4 | n32b4 | n64b4
  | n16b8 | n32b8 | n64b8
  | n4b2 | n8b2 | n16b2 | n32b2 | n64b2
deriving DecidableEq, Repr

namespace TupleType

/-- In numbering order. -/
def all : List TupleType :=
  [n1, n2, n4, n8, n16, n32, n64, n8b4, n16b4, n32b4, n64b4, n16b8, n32b8, n64b8,
    n4b2, n8b2, n16b2, n32b2, n64b2]

def ofNumber? (n : Nat) : Option TupleType := all[n]?

def number (t : TupleType) : Nat := t.ctorIdx

/-- `N` for a whole operand. -/
def full : TupleType → Nat
  | n1 => 1
  | n2 => 2
  | n4 | n4b2 => 4
  | n8 | n8b4 | n8b2 => 8
  | n16 | n16b4 | n16b8 | n16b2 => 16
  | n32 | n32b4 | n32b8 | n32b2 => 32
  | n64 | n64b4 | n64b8 | n64b2 => 64

/-- `N` for one broadcast element, where the tuple type has one. -/
def element? : TupleType → Option Nat
  | n8b4 | n16b4 | n32b4 | n64b4 => some 4
  | n16b8 | n32b8 | n64b8 => some 8
  | n4b2 | n8b2 | n16b2 | n32b2 | n64b2 => some 2
  | n1 | n2 | n4 | n8 | n16 | n32 | n64 => none

/-- The factor of a one-byte displacement. -/
def scale (t : TupleType) (broadcast : Bool) : Nat :=
  if broadcast then t.element?.getD t.full else t.full

def name (t : TupleType) : String :=
  match t.element? with
  | none => "N" ++ toString t.full
  | some e => "N" ++ toString t.full ++ "b" ++ toString e

def ofName? (s : String) : Option TupleType := all.find? (·.name == s)

end TupleType

end OpcodeForest
