import OpcodeForest.Decode.State

/-!
# Prefix and payload bytes

What the bytes before the opcode do to the state: prefix bytes, and the payloads that stand for
several of them at once.
-/

namespace OpcodeForest

namespace State

/-! ### Prefix bytes -/

/-- A REX byte counts only directly before the opcode, so any other prefix byte undoes it. -/
def forgetRex (s : State) : State :=
  { s with hasRex := false, w := false, r := false, x := false, b := false }

/-- A segment byte. In 64-bit mode a weak one does not replace a strong one. -/
def applySegment (m : Mode) (strong : Bool) (register : Register) (s : State) : State :=
  let segment :=
    if !m.long || strong || !s.strongSegment then register else s.draft.segment
  forgetRex { s with strongSegment := s.strongSegment || strong
                     draft := { s.draft with segment } }

/-- The operand-size byte. It takes part in the opcode unless `F2` or `F3` does. -/
def applyOperandSize (s : State) : State :=
  let s := s.setPrefixes { s.draft.prefixes with operandSize := true }
  forgetRex { s with has66 := true
                     mandatory := if s.mandatory = .none then .p66 else s.mandatory }

/-- The address-size byte. -/
def applyAddressSize (s : State) : State :=
  forgetRex (s.setPrefixes { s.draft.prefixes with addressSize := true })

/-- The lock byte. -/
def applyLockByte (s : State) : State :=
  forgetRex (s.setPrefixes { s.draft.prefixes with lock := true })

/-- The byte `F2`, which replaces `F3`. -/
def applyRepne (s : State) : State :=
  let s := s.setPrefixes { s.draft.prefixes with rep := false, repne := true }
  forgetRex { s with mandatory := .pF2 }

/-- The byte `F3`, which replaces `F2`. -/
def applyRep (s : State) : State :=
  let s := s.setPrefixes { s.draft.prefixes with rep := true, repne := false }
  forgetRex { s with mandatory := .pF3 }

/-- A REX byte with the bits `WRXB`. -/
def applyRex (bits : Nat) (s : State) : State :=
  { s with hasRex := true, w := bits.testBit 3, r := bits.testBit 2, x := bits.testBit 1,
           b := bits.testBit 0 }

/-! ### Payloads

Payloads spell register extensions and `vvvv` inverted. The extensions count in 64-bit mode
only. -/

/-- No REX byte and no mandatory prefix may stand before a payload. -/
def beginPayload (m : Mode) (s : State) : State :=
  s.forbid m (s.hasRex || s.mandatory != .none)

/-- The four inverted bits of `vvvv` in a payload byte. -/
def payloadVvvv (p : UInt8) : Nat := 15 - p.toNat / 8 % 16

/-- The payload byte of two-byte VEX. -/
def applyVex2 (m : Mode) (p : UInt8) (s : State) : State :=
  { s with w := false
           r := if m.long then !bit p 7 else s.r
           length := p.toNat / 4 % 2
           mandatory := .ofBits p.toNat
           vvvvField := payloadVvvv p }

/-- The payload bytes of three-byte VEX and of XOP. -/
def applyVex3 (m : Mode) (p₁ p₂ : UInt8) (s : State) : State :=
  { s with w := bit p₂ 7
           r := if m.long then !bit p₁ 7 else s.r
           x := if m.long then !bit p₁ 6 else s.x
           b := if m.long then !bit p₁ 5 else s.b
           length := p₂.toNat / 4 % 2
           mandatory := .ofBits p₂.toNat
           vvvvField := payloadVvvv p₂ }

/-- What the payload bytes of EVEX forbid. -/
def checkEvex (m : Mode) (p₀ p₂ : UInt8) (s : State) : State :=
  s.forbid m (bit p₀ 3 || bit p₂ 7 && p₂.toNat % 8 == 0 || !m.long && !bit p₂ 3)

/-- The payload bytes of EVEX. -/
def applyEvex (m : Mode) (p₀ p₁ p₂ : UInt8) (s : State) : State :=
  let mask := p₂.toNat % 8
  { s with evex := true
           w := bit p₁ 7
           r := if m.long then !bit p₀ 7 else s.r
           x := if m.long then !bit p₀ 6 else s.x
           b := if m.long then !bit p₀ 5 else s.b
           rHigh := m.long && !bit p₀ 4
           length := p₂.toNat / 32 % 4
           mandatory := .ofBits p₁.toNat
           vvvvField := payloadVvvv p₁ + 16 * (!bit p₂ 3).toNat
           mask := mask
           z := bit p₂ 7
           evexB := bit p₂ 4
           draft := { s.draft with opMask := if mask = 0 then .none else Register.k0.offset mask
                                   zeroing := bit p₂ 7 } }

end State

end OpcodeForest
