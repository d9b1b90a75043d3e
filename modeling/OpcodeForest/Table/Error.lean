/-!
# Table errors

What can be wrong with serialized decode tables, and how it is reported.
-/

namespace OpcodeForest

/-- The tag spaces of serialized nodes. XOP tables use that of VEX. -/
inductive Family where
  | legacy | vex | evex
deriving DecidableEq, Repr

namespace Family

def name : Family → String
  | legacy => "legacy"
  | vex => "vex"
  | evex => "evex"

end Family

/-- The kinds of record: one node, or an array of nodes. -/
inductive SlotKind where
  | handler | array
deriving DecidableEq, Repr

namespace SlotKind

def name : SlotKind → String
  | handler => "handler"
  | array => "array"

end SlotKind

inductive TableError where
  | unexpectedEnd (offset : Nat)
  | unknownRecordKind (kind : UInt8) (offset : Nat)
  | unknownTag (family : Family) (tag : UInt8) (offset : Nat)
  | unknownCode (value offset : Nat)
  | unknownRegister (value : UInt8) (offset : Nat)
  | unknownTupleType (value : UInt8) (offset : Nat)
  | invalidBool (value : UInt8) (offset : Nat)
  | integerOverflow (offset : Nat)
  | badSlot (slot available : Nat)
  | slotKindMismatch (slot : Nat) (expected found : SlotKind)
  | arrayKindMismatch (expected found : UInt8)
  | arrayOverflow (declared filled : Nat)
  | arrayLength (expected found : Nat)
  /-- A repeated entry where one node has to stand. -/
  | repeatInScalar
  | missingRoots (expected found : Nat)
  | tooManySlots
  | codesNotAdjacent (base : Nat)
  | unsupportedEntry (family : Family) (entry : String)
deriving DecidableEq, Repr

namespace TableError

def message : TableError → String
  | unexpectedEnd offset => s!"unexpected end of table data at offset {offset}"
  | unknownRecordKind kind offset => s!"unknown record kind {kind} at offset {offset}"
  | unknownTag family tag offset =>
      s!"unknown {family.name} handler tag {tag} at offset {offset}"
  | unknownCode value offset => s!"code value {value} out of range at offset {offset}"
  | unknownRegister value offset => s!"register id {value} out of range at offset {offset}"
  | unknownTupleType value offset => s!"tuple type {value} out of range at offset {offset}"
  | invalidBool value offset => s!"boolean byte {value} is not 0 or 1 at offset {offset}"
  | integerOverflow offset => s!"compressed integer overflows u32 at offset {offset}"
  | badSlot slot available =>
      s!"back-reference to slot {slot} but only {available} slots exist"
  | slotKindMismatch slot expected found =>
      s!"slot {slot} holds {found.name}, expected {expected.name}"
  | arrayKindMismatch expected found =>
      s!"array reference kind byte {found}, expected {expected}"
  | arrayOverflow declared filled =>
      s!"array record declares {declared} slots but handlers fill {filled}"
  | arrayLength expected found => s!"array has {found} entries, node needs {expected}"
  | repeatInScalar => "dup/invalid2 run is not allowed where a single handler is expected"
  | missingRoots expected found =>
      s!"table blob has {found} root arrays, expected {expected}"
  | tooManySlots => "more than 256 records in one blob"
  | codesNotAdjacent base => s!"codes starting at {base} are not consecutive"
  | unsupportedEntry family entry => s!"{family.name} tables have no {entry} entry"

end TableError

end OpcodeForest
