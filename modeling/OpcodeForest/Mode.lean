/-!
# Processor modes

The three widths an operand or address can have, the three processor modes, and the switches
that a caller sets beside the mode.
-/

namespace OpcodeForest

/-- Width of an operand, an address or a branch target. -/
inductive Size where
  | w16 | w32 | w64
deriving DecidableEq, Repr

namespace Size

def bits : Size → Nat
  | w16 => 16
  | w32 => 32
  | w64 => 64

/-- Position among the three widths. -/
def rank : Size → Nat
  | w16 => 0
  | w32 => 1
  | w64 => 2

end Size

/-- The processor mode instructions are decoded for. -/
inductive Bitness where
  | bits16 | bits32 | bits64
deriving DecidableEq, Repr

namespace Bitness

def bits : Bitness → Nat
  | bits16 => 16
  | bits32 => 32
  | bits64 => 64

def ofBits? : Nat → Option Bitness
  | 16 => some bits16
  | 32 => some bits32
  | 64 => some bits64
  | _ => none

def name : Bitness → String
  | bits16 => "Bits16"
  | bits32 => "Bits32"
  | bits64 => "Bits64"

/-- The operand size of a mode, and the other one that an operand-size byte (66) selects. -/
def operandSize : Bitness → (toggled : Bool) → Size
  | bits16, false | bits32, true | bits64, true => .w16
  | bits16, true | bits32, false | bits64, false => .w32

/-- The address size of a mode, and the other one that an address-size byte (67) selects. -/
def addressSize : Bitness → (toggled : Bool) → Size
  | bits16, false | bits32, true => .w16
  | bits16, true | bits32, false | bits64, true => .w32
  | bits64, false => .w64

end Bitness

/-- A set of decoding switches, one bit each. -/
structure Options where
  bits : UInt8 := 0
deriving DecidableEq, Repr

namespace Options

/-- Skip the checks of reserved bits and of illegal combinations. -/
def noInvalidCheck : Options := ⟨1⟩
/-- Near branches of 64-bit mode honour the operand-size byte. -/
def amd : Options := ⟨2⟩
/-- Decode the whole reserved-nop space as reserved nops. -/
def forceReservedNop : Options := ⟨4⟩
/-- Bounds instructions in place of two reserved nops. -/
def mpx : Options := ⟨8⟩
/-- The `umov` stores of early processors. -/
def umov : Options := ⟨16⟩
/-- `F3 90` is a `nop`. -/
def noPause : Options := ⟨32⟩
/-- `F3 0F 09` is a `wbinvd`. -/
def noWbnoinvd : Options := ⟨64⟩
/-- The `jmpe` escape. -/
def jmpe : Options := ⟨128⟩

/-- The known switches among the bits of `n`. -/
def ofNat (n : Nat) : Options := ⟨UInt8.ofNat n⟩

/-- Every switch of `q` is on; the empty set asks for nothing. -/
def has (o q : Options) : Bool := o.bits &&& q.bits == q.bits

def union (o q : Options) : Options := ⟨o.bits ||| q.bits⟩

end Options

/-- How to decode: the processor mode and the switches. -/
structure Mode where
  bitness : Bitness
  options : Options
deriving DecidableEq, Repr

namespace Mode

/-- 64-bit mode. -/
def long (m : Mode) : Bool := m.bitness == .bits64

/-- Reserved bits and illegal combinations make an instruction invalid. -/
def strict (m : Mode) : Bool := !m.options.has .noInvalidCheck

end Mode

end OpcodeForest
