import OpcodeForest.Code.Basic
import OpcodeForest.Register

/-!
# Decoded instructions

The record of one instruction: its code, its operands and the values the operands refer to. The
values are words, which bytes spell in little-endian order.
-/

namespace OpcodeForest

/-! ### Words -/

/-- The number that `bytes` spell, least significant byte first. -/
def littleEndian : List UInt8 → Nat
  | [] => 0
  | b :: rest => b.toNat + 256 * littleEndian rest

/-- The low `bits` bits of `n` as a two's-complement number. -/
def signed (bits n : Nat) : Int := Int.bmod n (Nat.pow 2 bits)

/-- What a word of `bits` bits holds of `z`, zero-extended to 64 bits. -/
def wrap (bits : Nat) (z : Int) : UInt64 := UInt64.ofNat (z.emod (Nat.pow 2 bits)).toNat

/-- Bit `n` of a byte. -/
def bit (b : UInt8) (n : Nat) : Bool := b.toNat.testBit n

/-! ### Operands and records -/

/-- Where the value of an operand is found. -/
inductive OperandKind where
  | register
  | nearBranch16 | nearBranch32 | nearBranch64
  | farBranch16 | farBranch32
  | immediate8 | immediate8Second | immediate16 | immediate32 | immediate64
  | immediate8to16 | immediate8to32 | immediate8to64 | immediate32to64
  | memorySegSI | memorySegESI | memorySegRSI
  | memorySegDI | memorySegEDI | memorySegRDI
  | memoryESDI | memoryESEDI | memoryESRDI
  | memory
deriving DecidableEq, Repr

namespace OperandKind

def all : List OperandKind :=
  [register, nearBranch16, nearBranch32, nearBranch64, farBranch16, farBranch32,
    immediate8, immediate8Second, immediate16, immediate32, immediate64,
    immediate8to16, immediate8to32, immediate8to64, immediate32to64,
    memorySegSI, memorySegESI, memorySegRSI, memorySegDI, memorySegEDI, memorySegRDI,
    memoryESDI, memoryESEDI, memoryESRDI, memory]

def name : OperandKind → String
  | register => "Register"
  | nearBranch16 => "NearBranch16"
  | nearBranch32 => "NearBranch32"
  | nearBranch64 => "NearBranch64"
  | farBranch16 => "FarBranch16"
  | farBranch32 => "FarBranch32"
  | immediate8 => "Immediate8"
  | immediate8Second => "Immediate8Second"
  | immediate16 => "Immediate16"
  | immediate32 => "Immediate32"
  | immediate64 => "Immediate64"
  | immediate8to16 => "Immediate8to16"
  | immediate8to32 => "Immediate8to32"
  | immediate8to64 => "Immediate8to64"
  | immediate32to64 => "Immediate32to64"
  | memorySegSI => "MemorySegSI"
  | memorySegESI => "MemorySegESI"
  | memorySegRSI => "MemorySegRSI"
  | memorySegDI => "MemorySegDI"
  | memorySegEDI => "MemorySegEDI"
  | memorySegRDI => "MemorySegRDI"
  | memoryESDI => "MemoryESDI"
  | memoryESEDI => "MemoryESEDI"
  | memoryESRDI => "MemoryESRDI"
  | memory => "Memory"

def ofName? (s : String) : Option OperandKind := all.find? (·.name == s)

end OperandKind

/-- An operand; `register` is meaningful for register operands. -/
structure Operand where
  kind : OperandKind := .register
  register : Register := .none
deriving DecidableEq, Repr

/-- The address of the memory operand. -/
structure MemoryOperand where
  base : Register := .none
  index : Register := .none
  /-- Factor of the index: 1, 2, 4 or 8. -/
  scale : Nat := 0
  /-- The displacement at address width; the target address when it is relative to the
  instruction pointer. -/
  displacement : UInt64 := 0
  /-- Bytes that encode the displacement. -/
  displacementSize : Nat := 0
deriving DecidableEq, Repr

/-- Rounding mode that an EVEX encoding fixes. -/
inductive Rounding where
  | none | toNearest | down | up | towardZero
deriving DecidableEq, Repr

namespace Rounding

/-- The mode that two length bits spell. -/
def ofLength (n : Nat) : Rounding :=
  match n % 4 with
  | 0 => toNearest
  | 1 => down
  | 2 => up
  | _ => towardZero

def all : List Rounding := [none, toNearest, down, up, towardZero]

def name : Rounding → String
  | none => "None"
  | toNearest => "RoundToNearest"
  | down => "RoundDown"
  | up => "RoundUp"
  | towardZero => "RoundTowardZero"

def ofName? (s : String) : Option Rounding := all.find? (·.name == s)

end Rounding

/-- The prefix bytes that an instruction still shows: those its opcode has not used up. -/
structure PrefixSet where
  lock : Bool := false
  rep : Bool := false
  repne : Bool := false
  xacquire : Bool := false
  xrelease : Bool := false
  operandSize : Bool := false
  addressSize : Bool := false
deriving DecidableEq, Repr

namespace PrefixSet

/-- Each flag with its name, in bit order. -/
def flags (p : PrefixSet) : List (Bool × String) :=
  [(p.lock, "LOCK"), (p.rep, "REP"), (p.repne, "REPNE"), (p.xacquire, "XACQUIRE"),
    (p.xrelease, "XRELEASE"), (p.operandSize, "OPERAND_SIZE"), (p.addressSize, "ADDRESS_SIZE")]

def bits (p : PrefixSet) : Nat :=
  p.flags.foldr (fun flag acc => (if flag.1 then 1 else 0) + 2 * acc) 0

/-- The known flags among the bits of `n`. -/
def ofBits (n : Nat) : PrefixSet :=
  { lock := n.testBit 0, rep := n.testBit 1, repne := n.testBit 2, xacquire := n.testBit 3,
    xrelease := n.testBit 4, operandSize := n.testBit 5, addressSize := n.testBit 6 }

/-- The names of the flags that are set. -/
def names (p : PrefixSet) : List String := (p.flags.filter (·.1)).map (·.2)

end PrefixSet

/-- A decoded instruction. Every field but `length` and `ip` has its default when the bytes are
no instruction. -/
structure Instruction where
  code : Code := .Invalid
  /-- Bytes the instruction takes. -/
  length : Nat := 0
  ip : UInt64 := 0
  operands : List Operand := []
  memory : MemoryOperand := {}
  segment : Register := .none
  immediate : UInt64 := 0
  /-- The second immediate byte of the few instructions that have two. -/
  immediate2 : UInt8 := 0
  nearBranch : UInt64 := 0
  farBranch : UInt32 := 0
  farSelector : UInt16 := 0
  opMask : Register := .none
  zeroing : Bool := false
  broadcast : Bool := false
  suppressExceptions : Bool := false
  rounding : Rounding := .none
  prefixes : PrefixSet := {}
deriving DecidableEq, Repr

namespace Instruction

def isInvalid (i : Instruction) : Bool := i.code.isInvalid

def nextIp (i : Instruction) : UInt64 := i.ip + UInt64.ofNat i.length

def hasMemoryOperand (i : Instruction) : Bool := i.operands.any (·.kind == .memory)

/-- The value of an immediate operand of kind `kind`, extended to 64 bits as the kind says. -/
def immediateValue? (i : Instruction) : OperandKind → Option UInt64
  | .immediate8 => some (wrap 8 i.immediate.toNat)
  | .immediate8Second => some (UInt64.ofNat i.immediate2.toNat)
  | .immediate16 => some (wrap 16 i.immediate.toNat)
  | .immediate32 => some (wrap 32 i.immediate.toNat)
  | .immediate64 => some i.immediate
  | .immediate8to16 => some (wrap 16 (signed 8 i.immediate.toNat))
  | .immediate8to32 => some (wrap 32 (signed 8 i.immediate.toNat))
  | .immediate8to64 => some (wrap 64 (signed 8 i.immediate.toNat))
  | .immediate32to64 => some (wrap 64 (signed 32 i.immediate.toNat))
  | _ => none

end Instruction

end OpcodeForest
