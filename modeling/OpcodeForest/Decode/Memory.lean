import OpcodeForest.Decode.State

/-!
# Memory operands

The ModRM byte, an index byte (SIB) that may follow it and the displacement spell an address
`base + index * scale + displacement`. First the shape of the address is found, which says how
many bytes the displacement takes; then the displacement is read.
-/

namespace OpcodeForest

/-- An address before its displacement is read. -/
structure AddressShape where
  base : Register := .none
  index : Register := .none
  scale : Nat := 1
  /-- Bytes that the displacement takes. -/
  displacementSize : Nat
  /-- The displacement counts from the end of the instruction. -/
  ipRelative : Bool := false
deriving DecidableEq, Repr

namespace AddressShape

/-- Base and index of 16-bit addressing. -/
def pair16 : Nat → Register × Register
  | 0 => (.bx, .si)
  | 1 => (.bx, .di)
  | 2 => (.bp, .si)
  | 3 => (.bp, .di)
  | 4 => (.si, .none)
  | 5 => (.di, .none)
  | 6 => (.bp, .none)
  | _ => (.bx, .none)

/-- 16-bit addressing. -/
def of16 (mod rm : Nat) : AddressShape :=
  if mod = 0 ∧ rm = 6 then { displacementSize := 2 }
  else { base := (pair16 rm).1, index := (pair16 rm).2,
         displacementSize := if mod = 0 then 0 else if mod = 1 then 1 else 2 }

/-- Bytes of the displacement in 32- and 64-bit addressing; without a base there are four. -/
def wideSize (mod : Nat) (noBase : Bool) : Nat :=
  if noBase || mod == 2 then 4 else if mod = 1 then 1 else 0

/-- 32- and 64-bit addressing without an index byte; `gpr` is the first register of the address
size. Displacements without a base are relative to the instruction in 64-bit mode. -/
def plain (m : Mode) (s : State) (gpr : Register) : AddressShape :=
  if s.rm = 5 ∧ s.mod = 0 then
    { base := if m.long then if s.addressSize m = .w64 then .rip else .eip else .none
      displacementSize := 4
      ipRelative := m.long }
  else
    { base := gpr.offset (s.rm + 8 * s.b.toNat), displacementSize := wideSize s.mod false }

/-- The index register that an index byte names: one of `vectors` if given, else a general
one, where number 4 stands for none. -/
def indexOf (m : Mode) (s : State) (gpr : Register) (vectors : Option Register) (sib : UInt8) :
    Register :=
  let field := sib.toNat / 8 % 8 + 8 * s.x.toNat
  match vectors with
  | some base => base.offset (field + if m.long then s.vvvvField / 16 * 16 else 0)
  | none => if field = 4 then .none else gpr.offset field

/-- 32- and 64-bit addressing with the index byte `sib`. -/
def indexed (m : Mode) (s : State) (gpr : Register) (vectors : Option Register) (sib : UInt8) :
    AddressShape :=
  let noBase := sib.toNat % 8 == 5 && s.mod == 0
  { base := if noBase then .none else gpr.offset (sib.toNat % 8 + 8 * s.b.toNat)
    index := indexOf m s gpr vectors sib
    scale := 1 <<< (sib.toNat / 64)
    displacementSize := wideSize s.mod noBase }

end AddressShape

namespace State

/-- Finds the shape of the address, reading the index byte if there is one. -/
def addressShape (m : Mode) (vectors : Option Register) (s : State) :
    Except Stop (AddressShape × State) :=
  match s.addressSize m with
  | .w16 => .ok (.of16 s.mod s.rm, s)
  | size => do
      let gpr := Register.gpr size
      if s.rm = 4 then
        let (sib, s) ← s.byte
        return (.indexed m s gpr vectors sib, s)
      else
        return (.plain m s gpr, s)

/-- The factor of a displacement of `size` bytes. -/
def displacementScale (tuple : TupleType) (size : Nat) (s : State) : Nat :=
  if s.evex && size == 1 then tuple.scale s.draft.broadcast else 1

/-- Reads the memory operand that the ModRM byte names. -/
def readMemory (m : Mode) (tuple : TupleType) (vectors : Option Register) (s : State) :
    Except Stop State := do
  let (shape, s) ← s.addressShape m vectors
  let scale := s.displacementScale tuple shape.displacementSize
  let (n, s) ← s.word shape.displacementSize
  let size := s.addressSize m
  let memory : MemoryOperand :=
    { base := shape.base
      index := shape.index
      scale := shape.scale
      displacement := wrap size.bits (signed (8 * shape.displacementSize) n * scale)
      displacementSize := shape.displacementSize }
  return { s with ipRelative := if shape.ipRelative then some size else none
                  draft := { s.draft with memory } }.addKind .memory

end State

end OpcodeForest
