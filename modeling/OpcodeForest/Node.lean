import OpcodeForest.Code.Basic
import OpcodeForest.Form
import OpcodeForest.Mode
import OpcodeForest.Register
import OpcodeForest.TupleType

/-!
# Decode nodes

A decode table is a forest of small nodes that refer to each other by number. Inner nodes look
at something the encoding has spelled so far and pick a child; leaves are instructions. Opcode
groups are shared between map entries, so a node may have several parents.
-/

namespace OpcodeForest

/-- A node of a forest by its number. -/
structure NodeId where
  index : Nat
deriving DecidableEq, Repr

namespace NodeId

/-- The invalid opcode that has a ModRM byte. -/
def invalid : NodeId := ⟨0⟩
/-- The invalid opcode without one. -/
def invalidNoModRM : NodeId := ⟨1⟩
/-- The empty place of a fine group: the coarse group decides. -/
def null : NodeId := ⟨2⟩

end NodeId

instance : Inhabited NodeId := ⟨.invalid⟩

/-- What the lock and repeat prefixes may do to an instruction that stores to memory. -/
structure LockRules where
  lock : Bool := false
  xacquire : Bool := false
  xrelease : Bool := false
  /-- The repeat prefixes have their hint meaning without a lock prefix too. -/
  hintAlone : Bool := false
deriving DecidableEq, Repr

namespace LockRules

/-- The known rules among the bits of `n`. -/
def ofBits (n : Nat) : LockRules :=
  { lock := n.testBit 0, xacquire := n.testBit 1, xrelease := n.testBit 2
    hintAlone := n.testBit 3 }

end LockRules

/-- An instruction of the table: a form and what it is instantiated with. A form with several
codes takes the one that the width in force selects. -/
structure Leaf where
  form : Form
  codes : List Code := []
  registers : List Register := []
  /-- The register number that the opcode spells. -/
  number : UInt32 := 0
  locks : LockRules := {}
  tuple : TupleType := .n1
  flags : List Bool := []
deriving DecidableEq, Repr

namespace Leaf

def code (l : Leaf) (n : Nat) : Code := l.codes.getD n .Invalid

def register (l : Leaf) (n : Nat) : Register := l.registers.getD n .none

def flag (l : Leaf) (n : Nat) : Bool := l.flags.getD n false

end Leaf

/-- A node. Where a constructor has a field `modRM`, it says whether the ModRM byte has been
read when the node is reached; the other inner nodes say so by their nature. -/
inductive Node where
  | invalid (modRM : Bool)
  | null
  /-- By processor mode. -/
  | byMode (modRM : Bool) (other long : NodeId)
  /-- By the ModRM byte naming a register or memory. -/
  | byForm (reg mem : NodeId)
  /-- The first alternative whose switches are on. -/
  | byOption (modRM : Bool) (default : NodeId) (alternatives : List (NodeId × Options))
  /-- By a further opcode byte. -/
  | escape (map : List NodeId)
  /-- By the register field. -/
  | group (table : List NodeId)
  /-- By the register field, apart for memory and register forms. -/
  | splitGroup (mem reg : List NodeId)
  /-- By the register field, and in register form by the low six bits where that is given. -/
  | fineGroup (coarse fine : List NodeId)
  /-- By the mandatory prefix, which is used up. -/
  | mandatory (modRM : Bool) (children : List NodeId)
  /-- By the mandatory prefix, apart for register and memory forms; each child says whether
  it uses the prefix up. -/
  | mandatoryByForm (reg mem : List (NodeId × Bool))
  /-- By the mandatory prefix; `F3` and `F2` are used up where said. -/
  | mandatoryKept (children : List NodeId) (clearF3 clearF2 readsModRM : Bool)
  /-- By the prefix field of a VEX, XOP or EVEX payload. -/
  | payloadPrefix (modRM : Bool) (children : List NodeId)
  /-- By the `W` bit. -/
  | byW (w0 w1 : NodeId)
  /-- By the vector length. -/
  | byLength (modRM : Bool) (children : List NodeId)
  /-- By the vector length, which is 512 bits when the length bits spell a rounding mode. -/
  | byLengthRounded (children : List NodeId)
  /-- A two-byte VEX payload, or `otherwise` where that cannot be. -/
  | vex2 (otherwise : NodeId)
  /-- A three-byte VEX payload. -/
  | vex3 (otherwise : NodeId)
  /-- An XOP payload. -/
  | xop (otherwise : NodeId)
  /-- An EVEX payload. -/
  | evex (otherwise : NodeId)
  /-- An instruction whose code is spelled by a byte after its operands. -/
  | trailing (codes : List (UInt8 × Code))
  /-- A segment byte; `strong` ones outrank the others in 64-bit mode. -/
  | segment (strong : Bool) (register : Register)
  | operandSize
  | addressSize
  | lock
  | repne
  | rep
  /-- A REX byte in 64-bit mode. -/
  | rex (otherwise : NodeId) (bits : Nat)
  | leaf (leaf : Leaf)
deriving DecidableEq, Repr

namespace Node

/-- The ModRM byte must have been read before the node is run. -/
def hasModRM : Node → Bool
  | invalid modRM | byMode modRM _ _ | byOption modRM _ _ | mandatory modRM _
  | payloadPrefix modRM _ | byLength modRM _ => modRM
  | byForm _ _ | group _ | splitGroup _ _ | fineGroup _ _ | mandatoryByForm _ _ | byW _ _
  | byLengthRounded _ | vex2 _ | vex3 _ | xop _ | evex _ | trailing _ => true
  | null | escape _ | mandatoryKept _ _ _ _ | segment _ _ | operandSize | addressSize | lock
  | repne | rep | rex _ _ => false
  | leaf l => l.form.hasModRM

/-- The name of a node's kind. -/
def kindName : Node → String
  | invalid _ => "Invalid"
  | null => "Null"
  | byMode false _ _ => "Bitness"
  | byMode true _ _ => "BitnessDontReadModRM"
  | byForm _ _ => "Rm"
  | byOption false _ _ => "Options"
  | byOption true _ _ => "OptionsDontReadModRM"
  | escape _ => "AnotherTable"
  | group _ => "Group"
  | splitGroup _ _ => "Group8x8"
  | fineGroup _ _ => "Group8x64"
  | mandatory true _ => "MandatoryPrefix"
  | mandatory false _ => "MandatoryPrefixNoModRM"
  | mandatoryByForm _ _ => "MandatoryPrefix3"
  | mandatoryKept _ _ _ _ => "MandatoryPrefix4"
  | payloadPrefix true _ => "MandatoryPrefix2"
  | payloadPrefix false _ => "MandatoryPrefix2NoModRM"
  | byW _ _ => "W"
  | byLength true _ => "VectorLength"
  | byLength false _ => "VectorLengthNoModRM"
  | byLengthRounded _ => "VectorLengthEr"
  | vex2 _ => "Vex2Escape"
  | vex3 _ => "Vex3Escape"
  | xop _ => "XopEscape"
  | evex _ => "EvexEscape"
  | trailing _ => "D3Now"
  | segment false _ => "PrefixEsCsSsDs"
  | segment true _ => "PrefixFsGs"
  | operandSize => "Prefix66"
  | addressSize => "Prefix67"
  | lock => "PrefixF0"
  | repne => "PrefixF2"
  | rep => "PrefixF3"
  | rex _ _ => "PrefixRex"
  | leaf l => l.form.name

end Node

/-- Nodes by number. The first three are the sentinels that `NodeId` names. -/
structure Forest where
  nodes : Array Node
deriving DecidableEq, Repr

namespace Forest

/-- The forest of the sentinels alone. -/
def fresh : Forest := ⟨#[.invalid true, .invalid false, .null]⟩

def size (f : Forest) : Nat := f.nodes.size

def isEmpty (f : Forest) : Bool := f.nodes.isEmpty

/-- Adds a node under the next free number. -/
def push (f : Forest) (n : Node) : Forest := ⟨f.nodes.push n⟩

def get? (f : Forest) (id : NodeId) : Option Node := f.nodes[id.index]?

/-- The node `id`; a number the forest lacks stands for the invalid opcode. -/
def get (f : Forest) (id : NodeId) : Node := (f.get? id).getD (.invalid true)

end Forest

end OpcodeForest
