import OpcodeForest.Instruction.Text
import OpcodeForest.Proofs.Decode.Arrival
import OpcodeForest.Proofs.Decode.ByteOrder

/-!
# Displacements

A displacement stands behind the ModRM byte and the index byte, and is written behind the registers
of its address. An address is a word of the address size, so a negative displacement is stored as a
word of that width: only where it has 64 bits is it written with its sign.

* `Step.ReadsAddress`, `address_step`, `address_steps`: the bytes of an address.
* `Size.displacementText`, `offsetText_of_wrap`: how a displacement is written.
* `Instruction.ShowsAddress`, `displacement_shown`: the text of an instruction that is decoded.
-/

namespace OpcodeForest

/-! ### The bytes of an address -/

namespace Step

/-- The tuple type by which a displacement byte of EVEX is scaled. -/
def tuple (m : Mode) (s : State) : Step → TupleType
  | rmVector _ tuple _ | memVector tuple | memVsib _ tuple => tuple
  | rmScalar => if Sizing.longW.size m s = .w64 then .n8 else .n4
  | _ => .n1

/-- The factor of a displacement of `n` bytes: only one byte of EVEX is scaled. -/
def compression (m : Mode) (s : State) (broadcast : Bool) (n : Nat) (step : Step) : Nat :=
  if s.evex ∧ n = 1 then
    if broadcast then (step.tuple m s).factors.2 else (step.tuple m s).factors.1
  else 1

/-- From `s` to `s'` the step reads an address: an index byte `sib` where there is one, and the
displacement bytes `d`. -/
structure ReadsAddress (m : Mode) (s s' : State) (sib : UInt8) (d : List UInt8) (step : Step) :
    Prop where
  pending : ∃ rest,
    s.pending = (if (s.addressing m step.vectors? sib).hasSib then [sib] else []) ++ (d ++ rest)
  length : d.length = s'.draft.memory.displacementSize
  memory : s'.draft.memory = (AddressShape.spelled m s step.vectors? sib).operand
    (wrap (s.addressSize m).bits (signed (8 * d.length) (littleEndian d)
      * step.compression m s s'.draft.broadcast d.length))

end Step

section

variable {m : Mode} {s s' : State}

/-- The shape of an address, with its index byte. -/
theorem reads_addressShape {vectors : Option Register} {a : AddressShape × State}
    (h : s.addressShape m vectors = .ok a) : ∃ sib, a.1 = .spelled m s vectors sib ∧
      s.Reads (if (s.addressing m vectors sib).hasSib then [sib] else []) a.2 := by
  have hsib : ∀ sib, (s.addressing m vectors sib).hasSib = (s.addressSize m != .w16 && s.rm == 4) :=
    fun _ => rfl
  simp only [hsib, AddressShape.spelled]
  by_cases hsize : s.addressSize m = .w16
  · rw [State.addressShape, hsize] at h
    cases h
    exact ⟨0, (if_pos hsize).symm, by simp [hsize], by simp [hsize]⟩
  · rw [State.addressShape_wide hsize] at h
    simp only [if_neg hsize, bne_iff_ne.mpr hsize, Bool.true_and, beq_iff_eq]
    dsimp only at h
    split at h
    next hrm =>
      obtain ⟨b, hb, h⟩ := bind_eq_ok_iff.mp h
      obtain ⟨p, u, hadvances⟩ := advances_byte hb
      have hreads := reads_byte hb
      cases h
      refine ⟨b.1, ?_, ?_⟩
      · rw [if_pos hrm, hadvances]
        rfl
      · rw [if_pos hrm]
        exact hreads
    next hrm =>
      cases h
      refine ⟨0, (if_neg hrm).symm, ?_⟩
      rw [if_neg hrm]
      exact ⟨rfl, rfl⟩

/-- What is read of a memory operand. -/
structure ReadsMemory (m : Mode) (tuple : TupleType) (vectors : Option Register) (s s' : State)
    (sib : UInt8) (d : List UInt8) : Prop where
  pending : s.pending
    = (if (s.addressing m vectors sib).hasSib then [sib] else []) ++ (d ++ s'.pending)
  length : d.length = s'.draft.memory.displacementSize
  broadcast : s'.draft.broadcast = s.draft.broadcast
  memory : s'.draft.memory = (AddressShape.spelled m s vectors sib).operand
    (wrap (s.addressSize m).bits (signed (8 * d.length) (littleEndian d)
      * s.compression tuple d.length))

theorem readsMemory_readMemory {tuple : TupleType} {vectors : Option Register}
    (h : s.readMemory m tuple vectors = .ok s') :
    ∃ sib d, ReadsMemory m tuple vectors s s' sib d := by
  rw [readMemory_eq] at h
  obtain ⟨a, ha, h⟩ := bind_eq_ok_iff.mp h
  obtain ⟨b, hb, h⟩ := bind_eq_ok_iff.mp h
  cases h
  obtain ⟨sib, hshape, hsib⟩ := reads_addressShape ha
  obtain ⟨d, hd, hn, hword⟩ := reads_word hb
  obtain ⟨p₁, u₁, h₁⟩ := advances_addressShape ha
  obtain ⟨p₂, u₂, h₂⟩ := advances_word hb
  rw [h₁] at h₂
  refine ⟨sib, d, ?_, hd, ?_, ?_⟩
  · rw [hsib.pending, hword.pending]
    rfl
  · show b.2.draft.broadcast = _
    rw [h₂]
  · show AddressShape.operand a.1 _ = _
    rw [hn, ← hd, State.displacementScale_eq, h₁, h₂, hshape]
    rfl

theorem readsMemory_readMem {tuple : TupleType} {vectors : Option Register}
    (h : s.readMem m tuple vectors = .ok s') : ∃ sib d, ReadsMemory m tuple vectors s s' sib d := by
  rw [State.readMem] at h
  split at h
  · cases h
  · exact readsMemory_readMemory h

/-- The step reads the same address from a state with the same fields and bytes. -/
theorem Step.ReadsAddress.of_spelled {step : Step} {sib : UInt8} {d : List UInt8} {s₁ : State}
    (h : step.ReadsAddress m s₁ s' sib d) (hs : s₁.spelled = s.spelled)
    (hp : s₁.pending = s.pending) : step.ReadsAddress m s s' sib d := by
  have hsame : ∀ {α : Type} (f : State → α), f s₁.spelled = f s.spelled := fun f => congrArg f hs
  have hsib : s₁.addressing m step.vectors? sib = s.addressing m step.vectors? sib :=
    hsame (State.addressing m step.vectors? sib)
  have hsize : s₁.addressSize m = s.addressSize m := hsame (State.addressSize m)
  have hshape : AddressShape.spelled m s₁ step.vectors? sib = .spelled m s step.vectors? sib :=
    hsame (AddressShape.spelled m · step.vectors? sib)
  have hfactor : ∀ b n, step.compression m s₁ b n = step.compression m s b n :=
    fun b n => hsame (step.compression m · b n)
  obtain ⟨hpending, hlength, hmemory⟩ := h
  rw [hp, hsib] at hpending
  rw [hsize, hshape, hfactor] at hmemory
  exact ⟨hpending, hlength, hmemory⟩

/-- The address that a step reads, whatever it does after that. -/
theorem ReadsMemory.readsAddress {sib : UInt8} {d : List UInt8} (step : Step) {s₁ s₂ : State}
    (h : ReadsMemory m (step.tuple m s) step.vectors? s₁ s₂ sib d)
    (hs : s₁.spelled = s.spelled) (hp : s₁.pending = s.pending)
    (hmemory : s'.draft.memory = s₂.draft.memory)
    (hbroadcast : s'.draft.broadcast = s₂.draft.broadcast) : step.ReadsAddress m s s' sib d := by
  have htuple : step.tuple m s₁ = step.tuple m s := by
    show step.tuple m s₁.spelled = step.tuple m s.spelled
    rw [hs]
  refine Step.ReadsAddress.of_spelled ⟨⟨s₂.pending, h.pending⟩, hmemory ▸ h.length, ?_⟩ hs hp
  rw [hmemory, h.memory, State.compression, Step.compression, htuple, hbroadcast, h.broadcast]

/-- **The address that a step reads.** -/
theorem address_step {step : Step} (hrole : step.role = .address)
    (hmem : .memory ∈ step.kinds m s) (h : step.run m s = .ok s') :
    ∃ sib d, step.ReadsAddress m s s' sib d := by
  cases step with
  | rm bank =>
      obtain ⟨sib, d, hd⟩ := readsMemory_readMemory (of_memoryForm h hmem)
      exact ⟨sib, d, hd.readsAddress (.rm bank) rfl rfl rfl rfl⟩
  | rmBound =>
      obtain ⟨sib, d, hd⟩ := readsMemory_readMemory (of_memoryForm h hmem)
      exact ⟨sib, d, hd.readsAddress .rmBound rfl rfl rfl rfl⟩
  | rmScalar =>
      obtain ⟨sib, d, hd⟩ := readsMemory_readMemory (of_memoryForm h hmem)
      exact ⟨sib, d, hd.readsAddress .rmScalar rfl rfl rfl rfl⟩
  | rmVector base tuple broadcast =>
      obtain ⟨sib, d, hd⟩ := readsMemory_readMemory
        (s := (s.forbid m (s.evexB && !broadcast)).withBroadcast broadcast) (of_memoryForm h hmem)
      exact ⟨sib, d, hd.readsAddress (.rmVector base tuple broadcast) rfl rfl rfl rfl⟩
  | mem =>
      obtain ⟨sib, d, hd⟩ := readsMemory_readMem h
      exact ⟨sib, d, hd.readsAddress .mem rfl rfl rfl rfl⟩
  | memVector tuple =>
      obtain ⟨sib, d, hd⟩ := readsMemory_readMem (s := s.forbid m _) h
      exact ⟨sib, d, hd.readsAddress (.memVector tuple) rfl rfl rfl rfl⟩
  | memVsib base tuple =>
      obtain ⟨sib, d, hd⟩ := readsMemory_readMem (s := s.mark _) h
      exact ⟨sib, d, hd.readsAddress (.memVsib base tuple) rfl rfl rfl rfl⟩
  | memSib =>
      obtain ⟨sib, d, hd⟩ := readsMemory_readMem (s := s.forbid m _) h
      exact ⟨sib, d, hd.readsAddress .memSib rfl rfl rfl rfl⟩
  | memBound =>
      obtain ⟨s₁, h₁, h⟩ := bind_eq_ok_iff.mp h
      cases h
      obtain ⟨sib, d, hd⟩ := readsMemory_readMem (s := s.forbid m _) h₁
      exact ⟨sib, d, hd.readsAddress .memBound rfl rfl rfl rfl⟩
  | is4BeforeRm base =>
      obtain ⟨s₁, h₁, h⟩ := bind_eq_ok_iff.mp h
      obtain ⟨⟨r, s₂⟩, h₂, h⟩ := bind_eq_ok_iff.mp h
      cases h
      obtain ⟨p, u, rfl⟩ : s₁.Advances s₂ := advances_readIs4 h₂
      have hform : .memory ∈ [Step.formKind s] :=
        (List.mem_cons.mp hmem).resolve_left OperandKind.noConfusion
      obtain ⟨sib, d, hd⟩ := readsMemory_readMemory (of_memoryForm h₁ hform)
      exact ⟨sib, d, hd.readsAddress (.is4BeforeRm base) rfl rfl rfl rfl⟩
  | _ => cases hrole

theorem Step.fillsMemory_of_address {step : Step} (hrole : step.role = .address) :
    step.fillsMemory := by
  cases step with
  | rm | rmBound | rmVector | rmScalar | mem | memVector | memVsib | memSib | memBound
  | is4BeforeRm => rfl
  | _ => cases hrole

/-- Steps that fill in no address leave it alone. -/
theorem memory_of_not_fillsMemory {steps : List Step}
    (hsteps : ∀ step ∈ steps, step.fillsMemory = false) (h : runSteps m steps s = .ok s') :
    s'.draft.memory = s.draft.memory ∧ s'.draft.broadcast = s.draft.broadcast := by
  have hkeep : Field.memory.part s' = Field.memory.part s := by
    refine keeps_steps h .memory fun hfield => ?_
    obtain ⟨step, hstep, hfield⟩ := List.mem_flatMap.mp hfield
    obtain ⟨k, hk, hmemory⟩ := step.kind_of_mem_fields hfield Field.noConfusion
    have hfills := Step.fillsMemory_of_mem (OperandKind.eq_memory hmemory ▸ hk)
    exact Bool.false_ne_true ((hsteps step hstep).symm.trans hfills)
  exact ⟨congrArg (·.draft.memory) hkeep, congrArg (·.draft.broadcast) hkeep⟩

/-- **The address that a plan reads.** -/
theorem address_steps : ∀ {steps : List Step} {s : State},
    Step.addressFirst (steps.map (·.role)) → (steps.filter (·.fillsMemory)).length ≤ 1 →
    (∃ step ∈ steps, step.role = .address ∧ .memory ∈ step.kinds m s) →
    runSteps m steps s = .ok s' →
      ∃ step ∈ steps, step.role = .address ∧ ∃ sib d, step.ReadsAddress m s s' sib d
  | [], _, _, _, hmem, _ => by
      obtain ⟨step, hstep, -⟩ := hmem
      cases hstep
  | step :: rest, s, hfirst, hone, hmem, h => by
      obtain ⟨s₁, h₁, h₂⟩ := bind_eq_ok_iff.mp h
      have hspelled := (effect_step h₁).2.spelled
      rw [List.map_cons] at hfirst
      by_cases hsilent : step.role = .silent
      · rw [hsilent] at hfirst
        have hrest : ∃ step ∈ rest, step.role = .address ∧ .memory ∈ step.kinds m s₁ := by
          obtain ⟨step', hstep', hrole, hkinds⟩ := hmem
          rcases List.mem_cons.mp hstep' with rfl | hstep'
          · cases hsilent.symm.trans hrole
          · exact ⟨step', hstep', hrole, by rwa [Step.kinds_of_spelled hspelled]⟩
        have hfew : (rest.filter (·.fillsMemory)).length ≤ 1 :=
          Nat.le_trans ((List.sublist_cons_self _ _).filter _).length_le hone
        obtain ⟨step', hstep', hrole, sib, d, hd⟩ := address_steps hfirst hfew hrest h₂
        exact ⟨step', List.mem_cons_of_mem _ hstep', hrole, sib, d,
          hd.of_spelled hspelled (pending_of_silent hsilent h₁)⟩
      · -- the first step that reads is the one with the address
        have hnone : ∀ step ∈ rest, step.role ≠ .address := by
          have hall : (rest.map (·.role)).all (· != .address) := by
            revert hfirst
            cases hrole : step.role with
            | silent => exact absurd hrole hsilent
            | _ => exact id
          intro step' hstep' hrole
          have hne := List.all_eq_true.mp hall _ (List.mem_map_of_mem hstep')
          rw [hrole] at hne
          cases hne
        obtain ⟨step', hstep', hrole, hkinds⟩ := hmem
        rcases List.mem_cons.mp hstep' with rfl | hstep'
        · obtain ⟨hmemory, hbroadcast⟩ := memory_of_not_fillsMemory
            (not_fillsMemory_of_cons (Step.fillsMemory_of_address hrole) hone) h₂
          obtain ⟨sib, d, hd⟩ := address_step hrole hkinds h₁
          exact ⟨_, List.mem_cons_self, hrole, sib, d, hd.pending, by rw [hmemory]; exact hd.length,
            by rw [hmemory, hbroadcast]; exact hd.memory⟩
        · exact absurd hrole (hnone step' hstep')

end

/-! ### How large a displacement is -/

/-- The bytes of a displacement, by the address size. -/
theorem AddressShape.displacementSize_spelled (m : Mode) (s : State) (vectors : Option Register)
    (sib : UInt8) : (spelled m s vectors sib).displacementSize
      ∈ if s.addressSize m = .w16 then [0, 1, 2] else [0, 1, 4] := by
  have hwide : ∀ mod noBase, wideSize mod noBase ∈ [0, 1, 4] := by
    intro mod noBase
    unfold wideSize
    split
    · decide
    · split <;> decide
  simp only [spelled]
  split
  · unfold of16
    split
    · decide
    · show (if s.mod = 0 then 0 else if s.mod = 1 then 1 else 2) ∈ _
      split
      · decide
      · split <;> decide
  · split
    · exact hwide _ _
    · unfold plain
      split
      · exact List.mem_of_elem_eq_true rfl
      · exact hwide _ _

theorem Step.compression_le (m : Mode) (s : State) (broadcast : Bool) (n : Nat) (step : Step) :
    step.compression m s broadcast n ≤ if n = 1 then 64 else 1 := by
  have hfactors : ∀ tuple : TupleType, tuple.factors.1 ≤ 64 ∧ tuple.factors.2 ≤ 64 := by
    intro tuple
    cases tuple <;> decide
  unfold compression
  by_cases hn : n = 1
  · rw [if_pos hn]
    split
    · split
      · exact (hfactors _).2
      · exact (hfactors _).1
    · decide
  · rw [if_neg hn, if_neg fun h => hn h.2]

theorem natAbs_signed_le (bits n : Nat) : 2 * (signed bits n).natAbs ≤ 2 ^ bits := by
  have hpos : 0 < 2 ^ bits := Nat.pow_pos (by decide)
  have hlow : -((2 ^ bits : Nat) / 2 : Int) ≤ signed bits n := Int.le_bmod hpos
  have hhigh : signed bits n < ((2 ^ bits : Nat) + 1) / 2 := Int.bmod_lt hpos
  omega

/-- A displacement fits in half of the addresses. -/
theorem natAbs_displacement_lt {m : Mode} {s s' : State} {step : Step} {sib : UInt8}
    {d : List UInt8} (h : step.ReadsAddress m s s' sib d) :
    (signed (8 * d.length) (littleEndian d)
      * step.compression m s s'.draft.broadcast d.length).natAbs
        < 2 ^ min (s.addressSize m).bits 63 := by
  have hsize := AddressShape.displacementSize_spelled m s step.vectors? sib
  have hlength := h.length
  rw [h.memory] at hlength
  rw [← show d.length = (AddressShape.spelled m s step.vectors? sib).displacementSize from hlength]
    at hsize
  have hfactor := step.compression_le m s s'.draft.broadcast d.length
  have hsigned := natAbs_signed_le (8 * d.length) (littleEndian d)
  rw [Int.natAbs_mul, Int.natAbs_natCast]
  refine Nat.lt_of_le_of_lt (Nat.mul_le_mul_left _ hfactor) ?_
  generalize signed (8 * d.length) (littleEndian d) = z at hsigned
  generalize d.length = k at hsize hsigned
  have hwidth : 2 ^ 16 ≤ 2 ^ min (s.addressSize m).bits 63 :=
    Nat.pow_le_pow_right (by decide) (by cases s.addressSize m <;> decide)
  have hcases : k = 0 ∨ k = 1 ∨ k = 2 ∨ k = 4 ∧ s.addressSize m ≠ .w16 := by
    by_cases hnarrow : s.addressSize m = .w16
    · rw [if_pos hnarrow] at hsize
      simp only [List.mem_cons, List.not_mem_nil, or_false] at hsize
      omega
    · rw [if_neg hnarrow] at hsize
      simp only [List.mem_cons, List.not_mem_nil, or_false] at hsize
      exact hsize.imp_right (.imp_right fun hk => .inr ⟨hk, hnarrow⟩)
  rcases hcases with rfl | rfl | rfl | ⟨rfl, hwide⟩
  · simp only [Nat.zero_ne_one, if_false, Nat.mul_zero, Nat.pow_zero] at hsigned ⊢
    omega
  · simp only [if_true] at hsigned ⊢
    omega
  · simp only [Nat.reduceEqDiff, if_false] at hsigned ⊢
    omega
  · have hlong : 32 ≤ min (s.addressSize m).bits 63 := by
      revert hwide
      cases s.addressSize m <;> decide
    have hmore := Nat.pow_le_pow_right (n := 2) (by decide) hlong
    simp only [Nat.reduceEqDiff, if_false] at hsigned ⊢
    omega

/-! ### Displacements as text -/

/-- How the displacement `z` is written behind the registers of an address of this width. Where the
address has 64 bits a negative one has its sign, and else it is the word that stands for it. -/
def Size.displacementText (size : Size) (z : Int) : String :=
  if z = 0 then ""
  else if 0 < z then "+" ++ Hex.marked z.toNat
  else if size = .w64 then "-" ++ Hex.marked z.natAbs
  else "+" ++ Hex.marked (z + (2 ^ size.bits : Nat)).toNat

/-- A word of 64 bits holds a displacement with its sign. -/
theorem signed_wrap_long {z : Int} (hz : z.natAbs < 2 ^ 63) : signed 64 (wrap 64 z).toNat = z := by
  rw [toNat_wrap (by decide), signed, Nat.pow_eq, ← BitVec.toInt_eq_toNat_bmod, BitVec.toInt_ofInt]
  exact Int.bmod_eq_of_le (by omega) (by omega)

/-- A narrower word is a number that is not negative. -/
theorem signed_wrap_narrow {w : Nat} (hw : w ≤ 63) {z : Int} (hz : z.natAbs < 2 ^ w) :
    signed 64 (wrap w z).toNat = if z < 0 then z + (2 ^ w : Nat) else z := by
  have hlt : (BitVec.ofInt w z).toNat < 2 ^ 63 :=
    Nat.lt_of_lt_of_le (BitVec.isLt _) (Nat.pow_le_pow_right (by decide) hw)
  rw [toNat_wrap (Nat.le_trans hw (by decide)), signed, Nat.pow_eq,
    Int.bmod_eq_of_le (by omega) (by omega), BitVec.toNat_ofInt]
  split
  · rw [← Int.add_emod_right, Int.emod_eq_of_lt (by omega) (by omega)]
    omega
  · rw [Int.emod_eq_of_lt (by omega) (by omega)]
    omega

namespace Size

variable {size : Size} {z : Int}

theorem displacementText_of_pos (h : 0 < z) :
    size.displacementText z = "+" ++ Hex.marked z.toNat := by
  rw [displacementText, if_neg (by omega), if_pos h]

theorem displacementText_long (h : z < 0) :
    Size.w64.displacementText z = "-" ++ Hex.marked z.natAbs := by
  rw [displacementText, if_neg (by omega), if_neg (by omega), if_pos rfl]

theorem displacementText_narrow (hsize : size ≠ .w64) (h : z < 0) :
    size.displacementText z = "+" ++ Hex.marked (z + (2 ^ size.bits : Nat)).toNat := by
  rw [displacementText, if_neg (by omega), if_neg (by omega), if_neg hsize]

end Size

/-- What is stored is written as a number of 64 bits. -/
theorem offsetText_eq {mem : MemoryOperand} (hsize : mem.displacementSize ≠ 0) :
    mem.offsetText = Size.w64.displacementText (signed 64 mem.displacement.toNat) := by
  simp only [MemoryOperand.offsetText, hsize, false_or]
  generalize signed 64 mem.displacement.toNat = z
  rcases Int.lt_trichotomy z 0 with hneg | rfl | hpos
  · rw [if_neg (by omega), if_pos hneg, Size.displacementText_long hneg]
  · rfl
  · rw [if_neg (by omega), if_neg (by omega), Size.displacementText_of_pos hpos,
      show z.natAbs = z.toNat by omega]

/-- **How a displacement is written.** -/
theorem offsetText_of_wrap {mem : MemoryOperand} {size : Size} {z : Int}
    (hsize : mem.displacementSize ≠ 0) (hd : mem.displacement = wrap size.bits z)
    (hz : z.natAbs < 2 ^ min size.bits 63) : mem.offsetText = size.displacementText z := by
  rw [offsetText_eq hsize, hd]
  by_cases hlong : size = .w64
  · subst hlong
    rw [show Size.w64.bits = 64 from rfl, signed_wrap_long hz]
  · have hbits : size.bits ≤ 63 := by
      revert hlong
      cases size <;> decide
    rw [Nat.min_eq_left hbits] at hz
    rw [signed_wrap_narrow hbits hz]
    rcases Int.lt_trichotomy z 0 with hneg | rfl | hpos
    · rw [if_pos hneg, Size.displacementText_of_pos (by omega),
        Size.displacementText_narrow hlong hneg]
    · rfl
    · rw [if_neg (by omega), Size.displacementText_of_pos hpos, Size.displacementText_of_pos hpos]

/-! ### Instructions -/

namespace Instruction

/-- The text of a memory operand whose address has the width `size` and the displacement `z`. -/
def shownAddress (size : Size) (z : Int) (i : Instruction) : String :=
  (if i.segment = .none then "" else i.segment.text ++ ":")
    ++ "[" ++ ("+".intercalate i.memory.terms ++ size.displacementText z) ++ "]"
    ++ (if i.broadcast then braced "bcst" else "")

/-- An address of width `size` with the displacement `z` stands among the operands, the first of
which has the mask behind it. -/
structure ShowsAddress (size : Size) (z : Int) (i : Instruction) : Prop where
  operand : ∃ (k : Nat) (o : Operand), i.operands[k]? = some o ∧ o.kind = .memory ∧
    i.operandTexts[k]? = some (i.shownAddress size z ++ if k = 0 then i.maskText else "")
  text : i.text = " ".intercalate (i.prefixes.texts ++ [i.code.name]) ++ " "
    ++ ", ".intercalate i.operandTexts ++ i.roundingText

variable {i : Instruction}

theorem operandTexts_getElem? (k : Nat) : i.operandTexts[k]?
    = i.operands[k]?.map fun o => i.operandText o ++ if k = 0 then i.maskText else "" := by
  unfold operandTexts
  cases i.operands with
  | nil => rfl
  | cons o os =>
      cases k with
      | zero => rfl
      | succ k => simp

theorem memoryText_eq {size : Size} {z : Int} (hip : i.memory.base.isIp = false)
    (hregister : i.memory.base ≠ .none ∨ i.memory.index ≠ .none)
    (hoffset : i.memory.offsetText = size.displacementText z) :
    i.memoryText = i.shownAddress size z := by
  obtain ⟨hrip, heip⟩ := Bool.or_eq_false_iff.mp hip
  have hterms : i.memory.terms ≠ [] := by
    unfold MemoryOperand.terms
    rcases hregister with hbase | hindex
    · rw [if_neg hbase]
      exact List.cons_ne_nil _ _
    · rw [if_neg hindex]
      refine List.append_ne_nil_of_right_ne_nil _ ?_
      split <;> exact List.cons_ne_nil _ _
  have haddress : i.memory.addressText
      = "+".intercalate i.memory.terms ++ size.displacementText z := by
    rw [MemoryOperand.addressText, if_neg, hoffset]
    rintro (h | h | h)
    · exact beq_eq_false_iff_ne.mp hrip h
    · exact beq_eq_false_iff_ne.mp heip h
    · exact hterms h
  rw [memoryText, shownAddress, haddress]

/-- The text of an instruction with a memory operand. -/
theorem showsAddress_of_memoryText {size : Size} {z : Int} (hvalid : i.isInvalid = false)
    (hmem : .memory ∈ i.kinds) (htext : i.memoryText = i.shownAddress size z) :
    i.ShowsAddress size z := by
  obtain ⟨o, ho, hkind⟩ := List.mem_map.mp hmem
  obtain ⟨k, hk⟩ := List.mem_iff_getElem?.mp ho
  have hoperand : i.operandText o = i.shownAddress size z := by
    rw [operandText, hkind]
    exact htext
  refine ⟨⟨k, o, hk, hkind, ?_⟩, ?_⟩
  · rw [operandTexts_getElem?, hk, Option.map_some, hoperand]
  · rw [text, hvalid, if_neg Bool.false_ne_true, if_neg (List.ne_nil_of_mem ho),
      ← String.append_assoc]

end Instruction

section

variable {t : Tables} {m : Mode} {s s' : State} {n : Node} {window bytes : List UInt8}

theorem Node.addressFirst_steps (n : Node) : Step.addressFirst (n.steps.map (·.role)) := by
  cases n with
  | leaf l => exact addressFirst_plan l
  | _ => rfl

theorem Node.length_filter_steps_le (n : Node) :
    (n.steps.filter (·.fillsMemory)).length ≤ 1 := by
  cases n with
  | leaf l => exact length_filter_plan_le l
  | _ => exact Nat.le_of_ble_eq_true rfl

/-- An address with a register and a displacement is one that the ModRM byte names. -/
theorem Step.role_of_address {step : Step} {sib : UInt8} {d : UInt64}
    (hfills : step.fillsMemory)
    (hregister : (step.address m s sib d).base ≠ .none ∨ (step.address m s sib d).index ≠ .none)
    (hsize : (step.address m s sib d).displacementSize ≠ 0) : step.role = .address := by
  cases step with
  | rm | rmBound | rmVector | rmScalar | mem | memVector | memVsib | memSib | memBound
  | is4BeforeRm => rfl
  | offsetMemory => exact (hregister.elim (· rfl) (· rfl)).elim
  | tableMemory => exact absurd rfl hsize
  | _ => cases hfills

/-- The step that reads the address of an instruction is the only one that fills in an address. -/
theorem Node.filter_steps_eq {step : Step} (hstep : step ∈ n.steps) (hrole : step.role = .address) :
    n.steps.filter (·.fillsMemory) = [step] := by
  have hmem : step ∈ n.steps.filter (·.fillsMemory) :=
    List.mem_filter.mpr ⟨hstep, Step.fillsMemory_of_address hrole⟩
  obtain ⟨step', heq⟩ := List.length_eq_one_iff.mp
    (Nat.le_antisymm n.length_filter_steps_le (List.length_pos_of_mem hmem))
  rw [heq] at hmem ⊢
  rw [List.mem_singleton.mp hmem]

/-- **The address that the last node reads.** -/
theorem address_route (hunder : Underway window s) (hfills : n.fillsOperands)
    (h : t.route m n s = .ok (s', .done))
    (hregister : s'.draft.memory.base ≠ .none ∨ s'.draft.memory.index ≠ .none)
    (hsize : s'.draft.memory.displacementSize ≠ 0) : .memory ∈ s'.kinds ∧
      ∃ step ∈ n.steps, step.role = .address ∧ ∃ sib d, step.ReadsAddress m s s' sib d := by
  have hkinds : s'.kinds = n.steps.flatMap (·.kinds m s) := hunder.kinds_route hfills h
  have hmem : .memory ∈ s'.kinds := by
    by_contra hmem
    rw [((tidy_route hfills hunder h).memory_of_unused hmem).1] at hsize
    exact hsize rfl
  refine ⟨hmem, ?_⟩
  rw [hkinds, List.mem_flatMap] at hmem
  obtain ⟨c, s₁, hrun, c', p, u, hs'⟩ := runSteps_route hfills h
  have hmemory : s'.draft.memory = s₁.draft.memory := congrArg (·.draft.memory) hs'
  have hbroadcast : s'.draft.broadcast = s₁.draft.broadcast := congrArg (·.draft.broadcast) hs'
  obtain ⟨step, hstep, hkind, sib, d, hd⟩ := memory_steps hrun hmem
  rw [hmemory, hd] at hregister hsize
  have hrole := Step.role_of_address (Step.fillsMemory_of_mem hkind) hregister hsize
  obtain ⟨step, hstep, hrole, sib, d, haddress⟩ := address_steps n.addressFirst_steps
    n.length_filter_steps_le ⟨step, hstep, hrole, hkind⟩ hrun
  obtain ⟨hpending, hlength, haddress⟩ := haddress.of_spelled (s := s) rfl rfl
  exact ⟨step, hstep, hrole, sib, d, hpending, by rw [hmemory]; exact hlength,
    by rw [hmemory, hbroadcast]; exact haddress⟩

/-- An address that is not relative to the instruction stays as it is. -/
theorem memory_finish_of_not_isIp (hsettled : s'.target.Settled) (haccepted : s'.Accepted m)
    (hip : s'.draft.memory.base.isIp = false) (ip : UInt64) :
    (s'.finish m ip).memory = s'.draft.memory := by
  have hnone : s'.ipRelative = none := Eq.trans hsettled (Register.ipWidth?_of_not_isIp hip)
  rw [memory_finish haccepted, displacement_of_absolute hnone]

/-- The one step of the node that reads an address reads it from `s`: an index byte where there is
one, and the displacement bytes. The instruction shows the displacement that they spell, times the
factor of the step. -/
def Node.ShowsDisplacement (m : Mode) (s : State) (i : Instruction) (n : Node) : Prop :=
  ∃ step sib d rest, n.steps.filter (·.fillsMemory) = [step] ∧ step.role = .address ∧
    s.pending = (if (s.addressing m step.vectors? sib).hasSib then [sib] else []) ++ (d ++ rest) ∧
    d.length = i.memory.displacementSize ∧
    i.ShowsAddress (s.addressSize m)
      (signed (8 * d.length) (littleEndian d) * step.compression m s i.broadcast d.length)

/-- **How the displacement of an address is shown.** Wherever the walk of the instruction ends, one
step there reads the address. Behind its registers stands the displacement that its bytes spell,
times the factor of that step under EVEX: nothing for zero, a positive one after a plus, and a
negative one with its sign if addresses have 64 bits. A negative displacement of a narrower address
is shown without its sign, as the word that stands for it. -/
theorem displacement_shown (t : Tables) (m : Mode) (ip : UInt64) (bytes : List UInt8)
    (hvalid : (t.decode m ip bytes).isInvalid = false)
    (hregister : (t.decode m ip bytes).memory.base ≠ .none ∨
      (t.decode m ip bytes).memory.index ≠ .none)
    (hip : (t.decode m ip bytes).memory.base.isIp = false)
    (hsize : (t.decode m ip bytes).memory.displacementSize ≠ 0) :
    (∃ n s, t.EndsAt m bytes n s) ∧
      ∀ n s, t.EndsAt m bytes n s → n.ShowsDisplacement m s (t.decode m ip bytes) := by
  refine ⟨Tables.endsAt_of_accepts (t.accepts_of_not_isInvalid (Bool.eq_false_iff.mp hvalid)), ?_⟩
  rintro n s ⟨hcomes, -, hfills, s', hroute, haccepted, hdecode⟩
  have hsettled := settled_route hfills hcomes.underway.absolute hroute
  have hmemory : (t.decode m ip bytes).memory = s'.draft.memory := by
    rw [hdecode] at hip ⊢
    rw [base_finish haccepted] at hip
    exact memory_finish_of_not_isIp hsettled haccepted hip ip
  have hbroadcast : (t.decode m ip bytes).broadcast = s'.draft.broadcast := by
    rw [hdecode, State.finish, if_neg haccepted]
  have hkinds : (t.decode m ip bytes).kinds = s'.kinds := by
    rw [hdecode, kinds_finish haccepted]
  have hsize' := hsize
  have hregister' := hregister
  rw [hmemory] at hregister' hsize'
  obtain ⟨hmem, step, hstep, hrole, sib, d, haddress⟩ :=
    address_route hcomes.underway hfills hroute hregister' hsize'
  obtain ⟨rest, hpending⟩ := haddress.pending
  refine ⟨step, sib, d, rest, n.filter_steps_eq hstep hrole, hrole, hpending,
    hmemory ▸ haddress.length, ?_⟩
  refine Instruction.showsAddress_of_memoryText hvalid (hkinds ▸ hmem) ?_
  refine Instruction.memoryText_eq hip hregister (offsetText_of_wrap hsize ?_ ?_)
  · rw [hmemory, haddress.memory, hbroadcast]
    rfl
  · rw [hbroadcast]
    exact natAbs_displacement_lt haddress

end

/-- Without an index byte, a byte behind the ModRM byte is the displacement. -/
theorem Node.ShowsDisplacement.of_byte {m : Mode} {s : State} {i : Instruction} {n : Node}
    {step : Step} {x : UInt8} (h : n.ShowsDisplacement m s i)
    (hstep : n.steps.filter (·.fillsMemory) = [step]) (hrm : s.rm ≠ 4) (hs : s.pending = [x])
    (hsize : i.memory.displacementSize = 1) {z : Int}
    (hz : signed 8 x.toNat * step.compression m s i.broadcast 1 = z) :
    i.ShowsAddress (s.addressSize m) z := by
  obtain ⟨step', sib, d, rest, hstep', -, hpending, hlength, hshows⟩ := h
  obtain rfl : step = step' := List.singleton_inj.mp (hstep.symm.trans hstep')
  have hsib : (s.addressing m step.vectors? sib).hasSib = false := by
    rw [Addressing.hasSib, Bool.and_eq_false_iff]
    exact .inr (beq_false_of_ne hrm)
  rw [hsib, hs, if_neg Bool.false_ne_true, List.nil_append] at hpending
  rw [hsize] at hlength
  obtain ⟨y, rfl⟩ := List.length_eq_one_iff.mp hlength
  obtain rfl : x = y := (List.cons.inj hpending).1
  exact hz ▸ hshows

/-- Tables with a load at the opcode `8B`, and with sums of vectors in a map of EVEX. -/
def offsetBlobs : Blobs :=
  let blank (n : UInt32) : Entry := .repeated n .invalid
  let oneByte : Record := .array [blank 98, .node LegacyTag.evex.byte [.child .invalid], blank 40,
    .node LegacyTag.gvEv.byte [.codes (Code.Mov_r16_rm16.run 3)], blank 116]
  let add : Entry := .node EvexTag.vkHwEr.byte
    [.code (Code.EVEX_Vaddps_xmm_k1z_xmm_xmmm128b32.offset 2), .register .zmm0, .tuple .n64b4,
      .flag false, .flag true]
  let empty : Record := .array [blank 256]
  let bytes (f : Family) (records : List Record) : List UInt8 :=
    (Writer.writeAll { family := f } records).2.bytes
  { legacy := bytes .legacy [empty, empty, empty, oneByte]
    vex := bytes .vex [empty, empty, empty], xop := bytes .vex [empty, empty, empty]
    evex := bytes .evex [.array [.repeated 256 add], empty, empty] }

/-- A sum of vectors of 64 bytes, the last of which may be one word that is broadcast. -/
def vectorSum : Leaf where
  form := .evexVkHWEr
  codes := [Code.EVEX_Vaddps_xmm_k1z_xmm_xmmm128b32.offset 2]
  registers := [.zmm0]
  tuple := .n64b4
  flags := [false, true]

@[inherit_doc offsetBlobs]
def offsetTables : Tables :=
  let blank (n : Nat) : OpcodeMap := List.replicate n .invalid
  let empty : List OpcodeMap := [blank 256, blank 256, blank 256]
  let mov : Node := .leaf { form := .gvEv, codes := Code.Mov_r16_rm16.run 3 }
  { forest := Forest.fresh.push (.evex .invalid) |>.push mov |>.push (.leaf vectorSum)
    legacy := { map0F38 := blank 256, map0F3A := blank 256, map0F := blank 256
                oneByte := blank 98 ++ [⟨3⟩] ++ blank 40 ++ [⟨4⟩] ++ blank 116 }
    vex := empty, xop := empty, evex := [List.replicate 256 ⟨5⟩, blank 256, blank 256] }

theorem load_offsetBlobs : Tables.load offsetBlobs = .ok offsetTables := by decide +kernel

set_option maxRecDepth 4000 in
/-- The displacement -8 behind the frame pointer: its sign is shown in 64-bit mode, and lost in
32-bit mode. Under EVEX the displacement byte -1 stands for 64 bytes, and for 4 with a broadcast. -/
theorem displacement_shown_small :
    let m : Mode := { bitness := .bits64, options := {} }
    let m' : Mode := { bitness := .bits32, options := {} }
    let mov : List UInt8 := [0x8B, 0x45, 0xF8]
    let add (p₂ : UInt8) : List UInt8 := [0x62, 0xF1, 0x7C, p₂, 0x58, 0x40, 0xFF]
    let shows (m : Mode) (bytes : List UInt8) (size : Size) (z : Int) (text : String) : Prop :=
      (offsetTables.decode m 0 bytes).ShowsAddress size z ∧
        (offsetTables.decode m 0 bytes).text = text
    shows m mov .w64 (-8) "Mov_r32_rm32 eax, [rbp-0x8]" ∧
      shows m' mov .w32 (-8) "Mov_r32_rm32 eax, [ebp+0xfffffff8]" ∧
      shows m (add 0x48) .w64 (-1 * 64)
        "EVEX_Vaddps_zmm_k1z_zmm_zmmm512b32_er zmm0, zmm0, [rax-0x40]" ∧
      shows m (add 0x58) .w64 (-1 * 4)
        "EVEX_Vaddps_zmm_k1z_zmm_zmmm512b32_er zmm0, zmm0, [rax-0x4]{bcst}" := by
  intro m m' mov add shows
  have hshows (m : Mode) (bytes : List UInt8) {l : Leaf} {s : State}
      (hcomes : offsetTables.ComesTo m (bytes.take maxLength) (.leaf l) s)
      (haccepts : offsetTables.accepts m bytes)
      (hvalid : (offsetTables.decode m 0 bytes).isInvalid = false)
      (hbase : (offsetTables.decode m 0 bytes).memory.base ≠ .none)
      (hip : (offsetTables.decode m 0 bytes).memory.base.isIp = false)
      (hsize : (offsetTables.decode m 0 bytes).memory.displacementSize = 1) :
      (Node.leaf l).ShowsDisplacement m s (offsetTables.decode m 0 bytes) :=
    (displacement_shown offsetTables m 0 bytes hvalid (.inl hbase) hip (by rw [hsize]; decide)).2
      _ s (Tables.endsAt_of_comesTo ((Tables.load_wellFormed load_offsetBlobs).terminates m)
        hcomes haccepts)
  -- the sums before their ModRM byte
  let s : State := { pending := [0x40, 0xFF], used := 5, modRM := 0xF1, length := 2, evex := true }
  let s' : State := { s with evexB := true }
  refine ⟨⟨?_, by decide +kernel⟩, ⟨?_, by decide +kernel⟩, ⟨?_, by decide +kernel⟩,
    ⟨?_, by decide +kernel⟩⟩
  · exact (hshows m mov ⟨1, _, _, _, rfl, rfl, rfl⟩ (by decide) (by decide) (by decide)
      (by decide) (by decide)).of_byte rfl (by decide) rfl (by decide) (by decide)
  · exact (hshows m' mov ⟨1, _, _, _, rfl, rfl, rfl⟩ (by decide) (by decide) (by decide)
      (by decide) (by decide)).of_byte rfl (by decide) rfl (by decide) (by decide)
  · exact (hshows m (add 0x48) (l := vectorSum) ⟨3, s, ⟨5⟩, .always, by decide +kernel, rfl, rfl⟩
      (by decide) (by decide) (by decide) (by decide) (by decide)).of_byte rfl (by decide) rfl
      (by decide) (by decide +kernel)
  · exact (hshows m (add 0x58) (l := vectorSum) ⟨3, s', ⟨5⟩, .always, by decide +kernel, rfl, rfl⟩
      (by decide) (by decide) (by decide) (by decide) (by decide)).of_byte rfl (by decide) rfl
      (by decide) (by decide +kernel)

end OpcodeForest
