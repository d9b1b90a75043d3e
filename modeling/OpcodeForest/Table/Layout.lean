import OpcodeForest.Node

/-!
# Node layouts

A serialized node is a tag and the fields that the tag announces. A layout lists the fields, a
`Payload` holds what has been read of them, and a `Kind` builds the node from its payload.

A 32-bit number is written in groups of seven bits, least significant first. The top bit of a
byte says that another group follows; five groups are enough.
-/

namespace OpcodeForest

namespace Compressed

/-- Groups that a 32-bit number may need. -/
def maxGroups : Nat := 5

/-- The groups of `n`, at most `groups` of them. -/
def encodeGroups : (groups : Nat) → Nat → List UInt8
  | 0, _ => []
  | groups + 1, n =>
      if n < 128 then [UInt8.ofNat n]
      else UInt8.ofNat (n % 128 + 128) :: encodeGroups groups (n / 128)

def encode (n : UInt32) : List UInt8 := encodeGroups maxGroups n.toNat

end Compressed

/-- A field of a serialized node. -/
inductive FieldKind where
  /-- A code that stands for itself and the `n - 1` codes after it. -/
  | codes (n : Nat)
  /-- A code and the next one, which serves 32 and 64 bits alike. -/
  | codesWidened
  /-- A register that is used `copies` times. -/
  | register (copies : Nat)
  | tuple
  | flag
  | number
  /-- Lock rules as bits. -/
  | locks
  /-- Entries for `n` child nodes. -/
  | children (n : Nat)
  /-- A reference to an array of `n` nodes. -/
  | table (n : Nat)
  /-- A counted list of child entries, each with the switches that select it. -/
  | alternatives
  /-- A counted list of bytes, each with its code. -/
  | trailing
deriving DecidableEq, Repr

/-- What the fields of a node hold. -/
structure Payload where
  codes : List Code := []
  registers : List Register := []
  tuple : TupleType := .n1
  flags : List Bool := []
  number : UInt32 := 0
  locks : LockRules := {}
  children : List NodeId := []
  tables : List (List NodeId) := []
  alternatives : List (NodeId × Options) := []
  trailing : List (UInt8 × Code) := []
deriving DecidableEq, Repr

namespace Payload

def child (p : Payload) (n : Nat) : NodeId := p.children.getD n .invalid

def table (p : Payload) (n : Nat) : List NodeId := p.tables.getD n []

def register (p : Payload) (n : Nat) : Register := p.registers.getD n .none

/-- The instruction of form `form` with this payload. -/
def leaf (p : Payload) (form : Form) : Leaf :=
  { form, codes := p.codes, registers := p.registers, number := p.number, locks := p.locks
    tuple := p.tuple, flags := p.flags }

end Payload

/-- The kinds of node that a tag can name. -/
inductive Kind where
  | byMode (modRM : Bool)
  | byForm
  | byOption (modRM : Bool)
  | escape
  | group
  | splitGroup
  | fineGroup
  | mandatory (modRM : Bool)
  | mandatoryByForm
  | mandatoryKept
  | payloadPrefix (modRM : Bool)
  | byW
  | byLength (modRM : Bool)
  | byLengthRounded
  | vex2
  | vex3
  | xop
  | evex
  | trailing
  | segment (strong : Bool)
  | operandSize
  | addressSize
  | lock
  | repne
  | rep
  | rex
  | leaf (form : Form)
deriving DecidableEq, Repr

namespace Kind

/-- Each child with the bit, counted in steps of two, that says whether it uses the prefix
up. -/
def withUses (bits first : Nat) (children : List NodeId) : List (NodeId × Bool) :=
  children.zipIdx.map fun (child, n) => (child, bits.testBit (first + 2 * n))

/-- The children by vector length; lengths that have none are invalid. -/
def padLengths (modRM : Bool) (children : List NodeId) : List NodeId :=
  children ++ List.replicate (4 - children.length) (if modRM then .invalid else .invalidNoModRM)

/-- The node of this kind with the given payload. -/
def node (p : Payload) : Kind → Node
  | byMode modRM => .byMode modRM (p.child 0) (p.child 1)
  | byForm => .byForm (p.child 0) (p.child 1)
  | byOption modRM => .byOption modRM (p.child 0) p.alternatives
  | escape => .escape (p.table 0)
  | group => .group (p.table 0)
  | splitGroup => .splitGroup (p.table 0) (p.table 1)
  | fineGroup => .fineGroup (p.table 0) (p.table 1)
  | mandatory modRM => .mandatory modRM p.children
  | mandatoryByForm =>
      .mandatoryByForm (withUses p.number.toNat 0 (p.children.take 4))
        (withUses p.number.toNat 1 (p.children.drop 4))
  | mandatoryKept =>
      let bits := p.number.toNat
      .mandatoryKept p.children (bits.testBit 0) (bits.testBit 1) (bits.testBit 2)
  | payloadPrefix modRM => .payloadPrefix modRM p.children
  | byW => .byW (p.child 0) (p.child 1)
  | byLength modRM => .byLength modRM (padLengths modRM p.children)
  | byLengthRounded => .byLengthRounded p.children
  | vex2 => .vex2 (p.child 0)
  | vex3 => .vex3 (p.child 0)
  | xop => .xop (p.child 0)
  | evex => .evex (p.child 0)
  | trailing => .trailing p.trailing
  | segment strong => .segment strong (p.register 0)
  | operandSize => .operandSize
  | addressSize => .addressSize
  | lock => .lock
  | repne => .repne
  | rep => .rep
  | rex => .rex (p.child 0) p.number.toNat
  | leaf form => .leaf (p.leaf form)

end Kind

/-- What a tag announces. -/
inductive TagRule where
  /-- One of the nodes that every forest has. -/
  | sentinel (id : NodeId)
  /-- Two invalid opcodes. -/
  | invalidPair
  /-- A count and an entry that stands so many times. -/
  | repeated
  /-- The node of an earlier record. -/
  | handlerReference
  /-- The array of an earlier record, where a layout asks for one. -/
  | arrayReference
  | node (kind : Kind) (layout : List FieldKind)
deriving DecidableEq, Repr

/-- A tag's name and meaning. -/
structure TagRow where
  name : String
  rule : TagRule
deriving DecidableEq, Repr

end OpcodeForest
