import OpcodeForest.Proofs.Decode.FollowStep

/-!
# Effective addresses

The tables of the processor manuals that say which address a ModRM byte, an index byte and a
displacement spell, and the memory operands that are read off the same bytes. Addresses are words
of the address size, so sums wrap around as they do in the processor.

* `Addressing`: the fields that spell an address, with the tables for them.
* `MemoryOperand.address`: the address that a memory operand denotes.
* `readMemory_address`: the two are the same, whatever the registers hold.
-/

namespace OpcodeForest

/-- The register is an instruction pointer. -/
def Register.isIp (r : Register) : Bool := r == .rip || r == .eip

/-! ### The tables -/

/-- What the bytes before a displacement and the extension bits say about an address. -/
structure Addressing where
  size : Size
  long : Bool
  mod : Nat
  rm : Nat
  /-- The index byte, where there is one. -/
  sib : UInt8
  /-- Extension of the index field. -/
  x : Bool
  /-- Extension of the `rm` and base fields. -/
  b : Bool
  /-- Extension of the number of a vector. -/
  high : Nat
  /-- First register of the file of vectors that the index is taken from. -/
  vectors : Option Register
deriving DecidableEq

namespace Addressing

/-- An index byte follows. -/
def hasSib (a : Addressing) : Bool := a.size != .w16 && a.rm == 4

/-- Bytes of the displacement. -/
def displacementBytes (a : Addressing) : Nat :=
  match a.mod with
  | 0 =>
      if a.size = .w16 then if a.rm = 6 then 2 else 0
      else if a.rm = 5 ∨ a.rm = 4 ∧ a.sib.toNat % 8 = 5 then 4 else 0
  | 1 => 1
  | _ => if a.size = .w16 then 2 else 4

/-- The displacement counts from the end of the instruction. -/
def ipRelative (a : Addressing) : Bool := a.long && a.mod == 0 && a.rm == 5

/-- General register number `n` of the address size. -/
def general (a : Addressing) (n : Nat) : Register := (Register.gpr a.size).offset n

/-- Factor of the index. -/
def scale (a : Addressing) : Nat :=
  match a.sib.toNat / 64 with
  | 0 => 1
  | 1 => 2
  | 2 => 4
  | _ => 8

variable {w : Nat} (ρ : Register → BitVec w)

/-- Base and index of 16-bit addresses. -/
def sum16 (a : Addressing) : BitVec w :=
  match a.rm with
  | 0 => ρ .bx + ρ .si
  | 1 => ρ .bx + ρ .di
  | 2 => ρ .bp + ρ .si
  | 3 => ρ .bp + ρ .di
  | 4 => ρ .si
  | 5 => ρ .di
  | 6 => if a.mod = 0 then 0 else ρ .bp
  | _ => ρ .bx

/-- The base that the index byte names. -/
def sibBase (a : Addressing) : BitVec w :=
  if a.sib.toNat % 8 = 5 ∧ a.mod = 0 then 0 else ρ (a.general (a.sib.toNat % 8 + 8 * a.b.toNat))

/-- The index that the index byte names: a lane of a vector, or a general register, where number 4
stands for none. -/
def sibIndex (a : Addressing) : BitVec w :=
  let n := a.sib.toNat / 8 % 8 + 8 * a.x.toNat
  match a.vectors with
  | some first => ρ (first.offset (n + if a.long then 16 * a.high else 0))
  | none => if n = 4 then 0 else ρ (a.general n)

/-- Base and index of 32- and 64-bit addresses. -/
def sumWide (a : Addressing) : BitVec w :=
  match a.rm with
  | 4 => a.sibBase ρ + a.sibIndex ρ * BitVec.ofNat w a.scale
  | 5 =>
      if a.mod = 0 then
        if a.long then ρ (if a.size = .w64 then .rip else .eip) else 0
      else ρ (a.general (5 + 8 * a.b.toNat))
  | n => ρ (a.general (n + 8 * a.b.toNat))

/-- The address, given the values of the registers and the displacement. -/
def address (a : Addressing) (d : BitVec w) : BitVec w :=
  (if a.size = .w16 then a.sum16 ρ else a.sumWide ρ) + d

end Addressing

/-- `N` for a whole operand and for a broadcast element. -/
def TupleType.factors : TupleType → Nat × Nat
  | .n1 => (1, 1)
  | .n2 => (2, 2)
  | .n4 => (4, 4)
  | .n8 => (8, 8)
  | .n16 => (16, 16)
  | .n32 => (32, 32)
  | .n64 => (64, 64)
  | .n8b4 => (8, 4)
  | .n16b4 => (16, 4)
  | .n32b4 => (32, 4)
  | .n64b4 => (64, 4)
  | .n16b8 => (16, 8)
  | .n32b8 => (32, 8)
  | .n64b8 => (64, 8)
  | .n4b2 => (4, 2)
  | .n8b2 => (8, 2)
  | .n16b2 => (16, 2)
  | .n32b2 => (32, 2)
  | .n64b2 => (64, 2)

/-- The factors of the manuals are the scales that are used. -/
theorem TupleType.scale_eq (t : TupleType) (broadcast : Bool) :
    t.scale broadcast = if broadcast then t.factors.2 else t.factors.1 := by
  cases t <;> cases broadcast <;> rfl

/-- The word that displacement bytes stand for, sign-extended. -/
def displacementWord (w : Nat) (d : List UInt8) : BitVec w :=
  (BitVec.ofNat (8 * d.length) (littleEndian d)).signExtend w

/-- The address that a memory operand denotes, given the values of the registers. -/
def MemoryOperand.address {w : Nat} (mem : MemoryOperand) (ρ : Register → BitVec w) : BitVec w :=
  ρ mem.base + ρ mem.index * BitVec.ofNat w mem.scale + BitVec.ofNat w mem.displacement.toNat

namespace State

/-- The fields of a state that spell an address, with the index byte `sib`. -/
def addressing (m : Mode) (vectors : Option Register) (sib : UInt8) (s : State) : Addressing :=
  { size := s.addressSize m, long := m.long, mod := s.mod, rm := s.rm, sib, x := s.x, b := s.b,
    high := s.vvvvField / 16, vectors }

/-- The factor of a displacement of `n` bytes: only one byte of EVEX is compressed. -/
def compression (tuple : TupleType) (n : Nat) (s : State) : Nat :=
  if s.evex ∧ n = 1 then if s.draft.broadcast then tuple.factors.2 else tuple.factors.1 else 1

end State

/-! ### Words -/

/-- Wrapping a number is taking it modulo the words of a size. -/
theorem toNat_wrap {w : Nat} (hw : w ≤ 64) (z : Int) :
    (wrap w z).toNat = (BitVec.ofInt w z).toNat := by
  have hz : (z.emod (Nat.pow 2 w)).toNat = (BitVec.ofInt w z).toNat := (BitVec.toNat_ofInt z).symm
  have hlt : (BitVec.ofInt w z).toNat < 2 ^ 64 :=
    Nat.lt_of_lt_of_le (BitVec.isLt _) (Nat.pow_le_pow_right (by decide) hw)
  rw [wrap, hz]
  exact UInt64.toNat_ofNat_of_lt hlt

theorem wrap_eq_ofInt (w : Nat) (z : Int) :
    wrap w z = UInt64.ofNat (BitVec.ofInt w z).toNat :=
  congrArg UInt64.ofNat (BitVec.toNat_ofInt z).symm

/-- A wrapped number denotes the same word. -/
theorem ofNat_toNat_wrap {w : Nat} (hw : w ≤ 64) (z : Int) :
    BitVec.ofNat w (wrap w z).toNat = BitVec.ofInt w z := by
  rw [toNat_wrap hw, BitVec.ofNat_toNat, BitVec.setWidth_eq]

/-- A displacement is extended by its sign to the address size. -/
theorem ofInt_signed (w : Nat) (d : List UInt8) :
    BitVec.ofInt w (signed (8 * d.length) (littleEndian d)) = displacementWord w d := by
  rw [displacementWord, BitVec.signExtend, BitVec.toInt_ofNat']
  rfl

theorem Size.bits_le_64 (size : Size) : size.bits ≤ 64 := by cases size <;> decide

/-- What is stored of a displacement, as a word. -/
theorem ofNat_displacement (size : Size) (d : List UInt8) (n : Nat) :
    BitVec.ofNat size.bits (wrap size.bits (signed (8 * d.length) (littleEndian d) * n)).toNat
      = displacementWord size.bits d * BitVec.ofNat size.bits n := by
  rw [ofNat_toNat_wrap size.bits_le_64, BitVec.ofInt_mul, ofInt_signed, BitVec.ofInt_natCast]

/-! ### Shapes -/

namespace AddressShape

/-- The shape spells what the tables say. -/
structure Spells (shape : AddressShape) (a : Addressing) : Prop where
  displacementSize : shape.displacementSize = a.displacementBytes
  ipRelative : shape.ipRelative = a.ipRelative
  base : a.ipRelative → shape.base = if a.size = .w64 then .rip else .eip
  address : ∀ {w : Nat} (ρ : Register → BitVec w) (d : BitVec w), ρ .none = 0 →
    ρ shape.base + ρ shape.index * BitVec.ofNat w shape.scale + d = a.address ρ d

variable {m : Mode} {s : State} {vectors : Option Register} {sib : UInt8}

/-- Three of the four values of the `mod` field spell memory. -/
theorem mod_cases (h : s.mod ≠ 3) : s.mod = 0 ∨ s.mod = 1 ∨ s.mod = 2 := by
  have hlt : s.modRM.toNat < 256 := s.modRM.toNat_lt
  unfold State.mod at *
  omega

theorem rm_cases (s : State) : s.rm = 0 ∨ s.rm = 1 ∨ s.rm = 2 ∨ s.rm = 3 ∨ s.rm = 4 ∨ s.rm = 5 ∨
    s.rm = 6 ∨ s.rm = 7 := by
  have hlt : s.rm < 8 := Nat.mod_lt _ (by decide)
  omega

/-- There are no 16-bit addresses in 64-bit mode. -/
theorem long_of_addressSize (h : s.addressSize m = .w16) : m.long = false := by
  obtain ⟨bitness, options⟩ := m
  cases bitness with
  | bits16 | bits32 => rfl
  | bits64 =>
      rw [State.addressSize] at h
      cases htoggled : s.draft.prefixes.addressSize with
      | false | true => rw [htoggled] at h; cases h

/-- 16-bit addressing. -/
theorem spells_of16 (hsize : s.addressSize m = .w16) (hmod : s.mod ≠ 3) :
    (of16 s.mod s.rm).Spells (s.addressing m vectors sib) := by
  have hlong := long_of_addressSize hsize
  by_cases hdirect : s.mod = 0 ∧ s.rm = 6
  · rw [of16, if_pos hdirect]
    obtain ⟨hmod, hrm⟩ := hdirect
    refine ⟨?_, ?_, ?_, fun ρ d hnone => ?_⟩
    · simp [State.addressing, Addressing.displacementBytes, hsize, hmod, hrm]
    · simp [State.addressing, Addressing.ipRelative, hlong]
    · simp [State.addressing, Addressing.ipRelative, hlong]
    · simp [State.addressing, Addressing.address, Addressing.sum16, hsize, hmod, hrm, hnone]
  · rw [of16, if_neg hdirect]
    refine ⟨?_, ?_, ?_, fun ρ d hnone => ?_⟩
    · rcases mod_cases hmod with hmod | hmod | hmod <;>
        simp_all [State.addressing, Addressing.displacementBytes]
    · simp [State.addressing, Addressing.ipRelative, hlong]
    · simp [State.addressing, Addressing.ipRelative, hlong]
    · rcases rm_cases s with hrm | hrm | hrm | hrm | hrm | hrm | hrm | hrm <;>
        simp_all [State.addressing, Addressing.address, Addressing.sum16, pair16]

/-- 32- and 64-bit addressing without an index byte. -/
theorem spells_plain (hsize : s.addressSize m ≠ .w16) (hmod : s.mod ≠ 3) (hrm : s.rm ≠ 4) :
    (plain m s (Register.gpr (s.addressSize m))).Spells (s.addressing m vectors sib) := by
  by_cases hdirect : s.rm = 5 ∧ s.mod = 0
  · rw [plain, if_pos hdirect]
    obtain ⟨hrm, hmod⟩ := hdirect
    refine ⟨?_, ?_, ?_, fun ρ d hnone => ?_⟩
    · simp [State.addressing, Addressing.displacementBytes, hsize, hmod, hrm]
    · simp [State.addressing, Addressing.ipRelative, hmod, hrm]
    · simp_all [State.addressing, Addressing.ipRelative]
    · cases hlong : m.long <;>
        simp [State.addressing, Addressing.address, Addressing.sumWide, hsize, hmod, hrm, hnone,
          hlong]
  · rw [plain, if_neg hdirect]
    have hip : (s.addressing m vectors sib).ipRelative = false := by
      rw [not_and] at hdirect
      by_cases hrm : s.rm = 5 <;> simp_all [State.addressing, Addressing.ipRelative]
    refine ⟨?_, hip.symm, fun h => absurd (hip.symm.trans h) Bool.false_ne_true,
      fun ρ d hnone => ?_⟩
    · rcases mod_cases hmod with hmod | hmod | hmod <;>
        simp_all [State.addressing, Addressing.displacementBytes, wideSize]
    · rcases rm_cases s with hrm | hrm | hrm | hrm | hrm | hrm | hrm | hrm <;>
        simp_all [State.addressing, Addressing.address, Addressing.sumWide, Addressing.general]

/-- The top two bits of the index byte spell the scale. -/
theorem scale_eq (sib : UInt8) : 1 <<< (sib.toNat / 64) = (s.addressing m vectors sib).scale := by
  have hlt : sib.toNat / 64 < 4 := by
    have hbyte : sib.toNat < 256 := sib.toNat_lt
    omega
  rw [Addressing.scale, State.addressing]
  generalize sib.toNat / 64 = n at hlt
  match n, hlt with
  | 0, _ | 1, _ | 2, _ | 3, _ => rfl

section Indexed

variable {w : Nat} {ρ : Register → BitVec w}

/-- The base of an index byte, which may be missing. -/
theorem value_base (hnone : ρ .none = 0) :
    ρ (indexed m s (Register.gpr (s.addressSize m)) vectors sib).base
      = (s.addressing m vectors sib).sibBase ρ := by
  simp only [indexed, State.addressing, Addressing.sibBase, Addressing.general, apply_ite ρ, hnone,
    Bool.and_eq_true, beq_iff_eq]
  congr

/-- The index of an index byte, which may be missing too. -/
theorem value_index (hnone : ρ .none = 0) :
    ρ (indexed m s (Register.gpr (s.addressSize m)) vectors sib).index
      = (s.addressing m vectors sib).sibIndex ρ := by
  simp only [indexed, indexOf, State.addressing, Addressing.sibIndex]
  cases vectors with
  | some first => simp only [Nat.mul_comm 16]
  | none => simp only [apply_ite ρ, hnone]; rfl

end Indexed

/-- 32- and 64-bit addressing with an index byte. -/
theorem spells_indexed (hsize : s.addressSize m ≠ .w16) (hmod : s.mod ≠ 3) (hrm : s.rm = 4) :
    (indexed m s (Register.gpr (s.addressSize m)) vectors sib).Spells
      (s.addressing m vectors sib) := by
  refine ⟨?_, ?_, ?_, fun ρ d hnone => ?_⟩
  · rcases mod_cases hmod with hmod | hmod | hmod <;>
      simp [State.addressing, Addressing.displacementBytes, indexed, wideSize, hsize, hmod, hrm]
  · simp [State.addressing, Addressing.ipRelative, indexed, hrm]
  · simp [State.addressing, Addressing.ipRelative, hrm]
  · have hscale : (indexed m s (Register.gpr (s.addressSize m)) vectors sib).scale
        = (s.addressing m vectors sib).scale := scale_eq sib
    have hwide : (s.addressing m vectors sib).size ≠ .w16 := hsize
    have hfour : (s.addressing m vectors sib).rm = 4 := hrm
    rw [value_base hnone, value_index hnone, hscale]
    simp only [Addressing.address, if_neg hwide, Addressing.sumWide, hfour]

/-! ### Instruction pointers as bases -/

/-- No number of a general register leads to the instruction pointer. -/
theorem isIp_general (size : Size) {n : Nat} (h : n < 8) (b : Bool) :
    ((Register.gpr size).offset (n + 8 * b.toNat)).isIp = false := by
  have hall : ∀ n < 16, ((Register.gpr size).offset n).isIp = false := by cases size <;> decide
  refine hall _ ?_
  cases b with
  | false => exact Nat.lt_of_lt_of_le h (by decide)
  | true => exact Nat.add_lt_add_right h 8

theorem isIp_of16 (mod rm : Nat) : (of16 mod rm).base.isIp = false := by
  unfold of16
  split
  · rfl
  · unfold pair16
    dsimp only
    split <;> rfl

/-- Only in 64-bit mode an address can count from the instruction pointer. -/
theorem isIp_plain (s : State) (size : Size) :
    (plain m s (Register.gpr size)).base.isIp = (m.long && s.mod == 0 && s.rm == 5) := by
  by_cases hdirect : s.rm = 5 ∧ s.mod = 0
  · rw [plain, if_pos hdirect, hdirect.1, hdirect.2]
    cases m.long with
    | false => rfl
    | true =>
        rw [if_pos rfl]
        split <;> rfl
  · rw [plain, if_neg hdirect]
    refine (isIp_general size (Nat.mod_lt _ (by decide)) s.b).trans (Eq.symm ?_)
    simp only [Bool.and_eq_false_iff, beq_eq_false_iff_ne]
    by_cases hrm : s.rm = 5
    · exact .inl (.inr fun hmod => hdirect ⟨hrm, hmod⟩)
    · exact .inr hrm

/-- An index byte excludes it. -/
theorem isIp_indexed (s : State) (size : Size) (vectors : Option Register) (sib : UInt8) :
    (indexed m s (Register.gpr size) vectors sib).base.isIp = false := by
  unfold indexed
  dsimp only
  split
  · rfl
  · exact isIp_general size (Nat.mod_lt _ (by decide)) s.b

end AddressShape

/-! ### Memory operands -/

namespace State

variable {m : Mode} {s : State} {vectors : Option Register} {sib : UInt8} {rest : List UInt8}

theorem byte_of_pending {b : UInt8} (h : s.pending = b :: rest) :
    s.byte = .ok (b, { s with pending := rest, used := s.used + 1 }) := by
  rw [byte, h]

/-- The addresses of 32 and 64 bits, as one formula. -/
theorem addressShape_wide (hsize : s.addressSize m ≠ .w16) : s.addressShape m vectors =
    let gpr := Register.gpr (s.addressSize m)
    if s.rm = 4 then s.byte >>= fun b => .ok (.indexed m b.2 gpr vectors b.1, b.2)
    else .ok (.plain m s gpr, s) := by
  unfold addressShape
  cases h : s.addressSize m with
  | w16 => exact absurd h hsize
  | w32 | w64 => rfl

/-- The shape of the address, once the index byte is read. -/
theorem addressShape_spells (hmod : s.mod ≠ 3)
    (hp : s.pending = (if (s.addressing m vectors sib).hasSib then [sib] else []) ++ rest) :
    ∃ shape used, s.addressShape m vectors = .ok (shape, { s with pending := rest, used }) ∧
      shape.Spells (s.addressing m vectors sib) := by
  by_cases hsize : s.addressSize m = .w16
  · have hsib : (s.addressing m vectors sib).hasSib = false := by
      simp [Addressing.hasSib, addressing, hsize]
    rw [hsib] at hp
    refine ⟨.of16 s.mod s.rm, s.used, ?_, AddressShape.spells_of16 hsize hmod⟩
    rw [addressShape, hsize, ← show s.pending = rest from hp]
  rw [addressShape_wide hsize]
  by_cases hrm : s.rm = 4
  · have hsib : (s.addressing m vectors sib).hasSib = true := by
      simp [Addressing.hasSib, addressing, hsize, hrm]
    rw [hsib] at hp
    refine ⟨.indexed m s _ vectors sib, s.used + 1, ?_, AddressShape.spells_indexed hsize hmod hrm⟩
    dsimp only
    rw [if_pos hrm, byte_of_pending hp]
    rfl
  · have hsib : (s.addressing m vectors sib).hasSib = false := by
      simp [Addressing.hasSib, addressing, hrm]
    rw [hsib] at hp
    refine ⟨.plain m s _, s.used, ?_, AddressShape.spells_plain hsize hmod hrm⟩
    dsimp only
    rw [if_neg hrm, ← show s.pending = rest from hp]

/-- The base is an instruction pointer where the tables say so. -/
theorem isIp_base {a : AddressShape × State} (h : s.addressShape m vectors = .ok a) :
    a.1.base.isIp = (m.long && s.mod == 0 && s.rm == 5) := by
  by_cases hsize : s.addressSize m = .w16
  · rw [addressShape, hsize] at h
    cases h
    rw [AddressShape.long_of_addressSize hsize]
    exact AddressShape.isIp_of16 s.mod s.rm
  · rw [addressShape_wide hsize] at h
    dsimp only at h
    by_cases hrm : s.rm = 4
    · rw [if_pos hrm] at h
      rw [hrm]
      cases hb : s.byte with
      | error e => rw [hb] at h; cases h
      | ok b =>
          rw [hb] at h
          cases h
          exact (AddressShape.isIp_indexed b.2 (s.addressSize m) vectors b.1).trans
            (Bool.and_false _).symm
    · rw [if_neg hrm] at h
      cases h
      exact AddressShape.isIp_plain s (s.addressSize m)

/-- Bytes in a row are a number with the lowest byte first. -/
theorem word_of_pending {d : List UInt8} (h : s.pending = d ++ rest) :
    s.word d.length
      = .ok (littleEndian d, { s with pending := rest, used := s.used + d.length }) := by
  have hle : d.length ≤ s.pending.length := by
    rw [h, List.length_append]
    exact Nat.le_add_right _ _
  rw [word, if_pos hle, h, List.take_left, List.drop_left]

/-- The factor of the displacement is that of the table. -/
theorem displacementScale_eq (tuple : TupleType) (n : Nat) (s : State) :
    s.displacementScale tuple n = s.compression tuple n := by
  simp [displacementScale, compression, TupleType.scale_eq]

/-- **Memory operands denote the address of the tables.** -/
theorem readMemory_address (tuple : TupleType) (hmod : s.mod ≠ 3) {d : List UInt8}
    (hd : d.length = (s.addressing m vectors sib).displacementBytes)
    (hp : s.pending
      = (if (s.addressing m vectors sib).hasSib then [sib] else []) ++ (d ++ rest)) :
    ∃ s', s.readMemory m tuple vectors = .ok s' ∧ s'.pending = rest ∧
      s'.draft.memory.base.isIp = (s.addressing m vectors sib).ipRelative ∧
      ((s.addressing m vectors sib).ipRelative →
        s'.draft.memory.base = if s.addressSize m = .w64 then .rip else .eip) ∧
      ∀ ρ : Register → BitVec (s.addressSize m).bits, ρ .none = 0 →
        s'.draft.memory.address ρ = (s.addressing m vectors sib).address ρ
          (displacementWord _ d * BitVec.ofNat _ (s.compression tuple d.length)) := by
  obtain ⟨shape, used, hshape, hspells⟩ := addressShape_spells hmod hp
  have hsize : shape.displacementSize = d.length := hspells.displacementSize.trans hd.symm
  have hread : s.readMemory m tuple vectors = .ok (addMemory m shape
      (s.displacementScale tuple d.length) (littleEndian d)
      { s with pending := rest, used := used + d.length }) := by
    rw [readMemory_eq, hshape]
    show (State.word _ _ >>= fun b => _) = _
    rw [hsize, word_of_pending rfl]
    rfl
  refine ⟨_, hread, rfl, isIp_base hshape, hspells.base, fun ρ hnone => ?_⟩
  rw [← hspells.address ρ _ hnone, ← displacementScale_eq, ← ofNat_displacement, ← hsize]
  rfl

end State

end OpcodeForest
