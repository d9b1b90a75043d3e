import OpcodeForest.Instruction
import OpcodeForest.Plan

/-!
# Decode state

What is known of one instruction while its bytes are read: the bytes still to come, the fields
that prefix and payload bytes have spelled, and the draft of the record. A decoder never looks
past the window it is given and never sees the address of the instruction: what depends on the
address is noted in the state and settled when the length is known.
-/

namespace OpcodeForest

/-- The prefix byte that takes part in the opcode. -/
inductive Mandatory where
  | none | p66 | pF3 | pF2
deriving DecidableEq, Repr

namespace Mandatory

/-- The prefix that two payload bits spell. -/
def ofBits (n : Nat) : Mandatory :=
  match n % 4 with
  | 0 => none
  | 1 => p66
  | 2 => pF3
  | _ => pF2

/-- Position among the children of a node that selects by it. -/
def rank : Mandatory → Nat
  | none => 0
  | p66 => 1
  | pF3 => 2
  | pF2 => 3

end Mandatory

/-- Why decoding stops before the end of an instruction. -/
inductive Stop where
  /-- The window ended first. -/
  | starved
  /-- The `used` bytes read so far are no instruction. -/
  | rejected (used : Nat)
  /-- The nodes refer to each other in a circle. -/
  | circular
deriving DecidableEq, Repr

structure State where
  /-- The rest of the window. -/
  pending : List UInt8
  /-- Bytes read. -/
  used : Nat := 0
  modRM : UInt8 := 0
  /-- An operand-size byte came, whether the opcode uses it up or not. -/
  has66 : Bool := false
  hasRex : Bool := false
  w : Bool := false
  /-- Extension of the register field. -/
  r : Bool := false
  /-- Extension of the index field, and of vector registers in `rm`. -/
  x : Bool := false
  /-- Extension of the `rm` and base fields. -/
  b : Bool := false
  /-- Second extension of the register field. -/
  rHigh : Bool := false
  /-- The number that `vvvv` spells, its high extension included. -/
  vvvvField : Nat := 0
  /-- Vector length, or rounding mode. -/
  length : Nat := 0
  /-- Number of the mask register. -/
  mask : Nat := 0
  z : Bool := false
  /-- The EVEX `b` bit: broadcast, or rounding. -/
  evexB : Bool := false
  mandatory : Mandatory := .none
  /-- The segment byte in force outranks the weak ones. -/
  strongSegment : Bool := false
  /-- One-byte displacements are scaled. -/
  evex : Bool := false
  /-- The displacement counts from the end of the instruction. -/
  ipRelative : Option Size := none
  /-- Width and displacement of a near branch. -/
  branch : Option (Size × Int) := none
  /-- A lock byte is allowed. -/
  allowLock : Bool := false
  /-- The bytes are no instruction, but their length is still to be found. -/
  invalid : Bool := false
  draft : Instruction := {}
deriving DecidableEq, Repr

namespace State

/-! ### Reading -/

/-- Reads one byte. -/
def byte (s : State) : Except Stop (UInt8 × State) :=
  match s.pending with
  | [] => .error .starved
  | b :: rest => .ok (b, { s with pending := rest, used := s.used + 1 })

/-- Reads a little-endian number of `n` bytes. -/
def word (n : Nat) (s : State) : Except Stop (Nat × State) :=
  if n ≤ s.pending.length then
    .ok (littleEndian (s.pending.take n),
      { s with pending := s.pending.drop n, used := s.used + n })
  else .error .starved

def readModRM (s : State) : Except Stop State := do
  let (b, s) ← s.byte
  return { s with modRM := b }

/-! ### The ModRM byte -/

def mod (s : State) : Nat := s.modRM.toNat / 64

def reg (s : State) : Nat := s.modRM.toNat / 8 % 8

def rm (s : State) : Nat := s.modRM.toNat % 8

/-- The ModRM byte names a register, not memory. -/
def registerForm (s : State) : Bool := s.mod == 3

/-! ### Widths -/

def operandSize (m : Mode) (s : State) : Size :=
  if s.w then .w64 else m.bitness.operandSize s.has66

def addressSize (m : Mode) (s : State) : Size :=
  m.bitness.addressSize s.draft.prefixes.addressSize

/-- `vvvv` as a register number: outside 64-bit mode three bits count. -/
def vvvv (m : Mode) (s : State) : Nat := if m.long then s.vvvvField else s.vvvvField % 8

/-! ### Verdicts -/

/-- The bytes read so far are no instruction. -/
def reject (s : State) : Except Stop State := .error (.rejected s.used)

/-- Marks the bytes as no instruction if `bad`. -/
def mark (bad : Bool) (s : State) : State := { s with invalid := s.invalid || bad }

/-- A rule that counts in strict mode only. -/
def forbid (m : Mode) (bad : Bool) (s : State) : State := s.mark (m.strict && bad)

/-! ### The draft -/

def addOperand (o : Operand) (s : State) : State :=
  { s with draft := { s.draft with operands := s.draft.operands ++ [o] } }

def addRegister (r : Register) (s : State) : State := s.addOperand ⟨.register, r⟩

def addKind (k : OperandKind) (s : State) : State := s.addOperand ⟨k, .none⟩

/-- Adds an operand of kind `k` whose value is `n`. -/
def addImmediate (k : OperandKind) (n : Nat) (s : State) : State :=
  { s with draft := { s.draft with immediate := UInt64.ofNat n } }.addKind k

def setCode (c : Code) (s : State) : State := { s with draft := { s.draft with code := c } }

def setPrefixes (p : PrefixSet) (s : State) : State :=
  { s with draft := { s.draft with prefixes := p } }

/-- The bytes `F3` and `F2` stop showing on the instruction. -/
def dropRep (s : State) : State := s.setPrefixes { s.draft.prefixes with rep := false }

@[inherit_doc dropRep]
def dropRepne (s : State) : State := s.setPrefixes { s.draft.prefixes with repne := false }

/-- The mandatory prefix is used up by the opcode. -/
def dropMandatory (s : State) : State :=
  match s.mandatory with
  | .none => s
  | .p66 => s.setPrefixes { s.draft.prefixes with operandSize := false }
  | .pF3 => s.dropRep
  | .pF2 => s.dropRepne

end State

/-! ### Widths and registers by rule -/

namespace Sizing

def size (m : Mode) (s : State) : Sizing → Size
  | operand => s.operandSize m
  | operandCapped => if s.operandSize m = .w16 then .w16 else .w32
  | operandFloored => if s.operandSize m = .w64 then .w64 else .w32
  | operandOrLong => if m.long then .w64 else s.operandSize m
  | stack =>
      if m.long then if s.operandSize m = .w16 then .w16 else .w64 else s.operandSize m
  | branch =>
      if m.long then
        if m.options.has .amd && s.operandSize m == .w16 then .w16 else .w64
      else s.operandSize m
  | address => s.addressSize m
  | w => if s.w then .w64 else .w32
  | longW => if m.long && s.w then .w64 else .w32
  | mode => if m.long then .w64 else .w32

end Sizing

namespace Bank

/-- The register that a bank counts from. -/
def first (m : Mode) (s : State) : Bank → Register
  | gpr sizing => .gpr (sizing.size m s)
  | byte => .al
  | file base | vector base | low base => base

/-- The place of register `n` after the first one. Among the bytes a REX prefix puts others in the
place of the high halves. -/
def place (s : State) (n : Nat) : Bank → Nat
  | byte => if s.hasRex && 4 ≤ n then n + 4 else n
  | gpr _ | file _ | vector _ | low _ => n

/-- Register `n` of a bank. -/
def register (m : Mode) (s : State) (n : Nat) (bank : Bank) : Register :=
  (bank.first m s).offset (bank.place s n)

/-- The sums that lead to register `n` leave 32 bits. -/
def overflows (m : Mode) (s : State) (n : Nat) (bank : Bank) : Bool :=
  (bank.first m s).overflows (bank.place s n)

/-- The number that the register field spells. -/
def regNumber (s : State) : Bank → Nat
  | gpr _ | byte | file _ => s.reg + 8 * s.r.toNat
  | vector _ => s.reg + 8 * s.r.toNat + 16 * s.rHigh.toNat
  | low _ => s.reg

/-- The number that the `rm` field spells. -/
def rmNumber (s : State) : Bank → Nat
  | gpr _ | byte | file _ => s.rm + 8 * s.b.toNat
  | vector _ => s.rm + 8 * s.b.toNat + 16 * s.x.toNat
  | low _ => s.rm

end Bank

namespace CodeRule

/-- The code of a leaf. -/
def pick (m : Mode) (s : State) (l : Leaf) : CodeRule → Code
  | only => l.code 0
  | bySize sizing => l.code (sizing.size m s).rank
  | wide sizing => l.code (if sizing.size m s = .w64 then 1 else 0)
  | word sizing => l.code (if sizing.size m s = .w16 then 0 else 1)

end CodeRule

end OpcodeForest
