import OpcodeForest.Proofs.Decode.Arrival

/-!
# Gathers and scatters

A gather has a vector of indices in the place of an index register. Its plan asks for an index byte,
for a mask and, where it writes a vector, for one that is not the vector of indices.

* `run_memVsib`: memory with a vector of indices, where all bytes are there.
* `Leaf.indices?`: the first vector that the indices of an EVEX gather, scatter or prefetch count
  from.
* `State.Marked`: verdicts add up, and the bytes that are left stay.
* `run_indexed`, `accepts_indexed`: what such a leaf makes of a state.
* `evex_gather_legal`: the encodings that are legal.
-/

namespace OpcodeForest

section

variable {m : Mode} {s : State} {l : Leaf} {base : Register} {tuple : TupleType} {sib : UInt8}
  {rest : List UInt8}

/-! ### Memory with a vector of indices -/

/-- The bytes that follow the ModRM byte of an address with an index byte: the index byte and a
displacement. -/
def AddressShape.indexedSize (mod : Nat) (sib : UInt8) : Nat :=
  1 + wideSize mod (sib.toNat % 8 == 5 && mod == 0)

/-- The address has an index byte, and all its bytes are there. -/
structure State.Indexed (m : Mode) (sib : UInt8) (rest : List UInt8) (s : State) : Prop where
  wide : s.addressSize m ≠ .w16
  memory : s.mod ≠ 3
  index : s.rm = 4
  pending : s.pending = sib :: rest
  present : AddressShape.indexedSize s.mod sib ≤ (sib :: rest).length

/-- The state with a memory operand read. -/
def State.withMemory (memory : MemoryOperand) (p : List UInt8) (u : Nat) (relative : Option Size)
    (s : State) : State :=
  State.addKind .memory
    { s with pending := p, used := u, ipRelative := relative, draft := { s.draft with memory } }

/-- Adding a memory operand fills in an address and changes nothing else of what was read. -/
theorem exists_withMemory (m : Mode) (shape : AddressShape) (scale n : Nat) (s : State)
    (p : List UInt8) (u : Nat) : ∃ memory relative,
      State.addMemory m shape scale n { s with pending := p, used := u }
        = s.withMemory memory p u relative ∧ memory.index = shape.index :=
  ⟨_, _, rfl, rfl⟩

/-- **Memory with a vector of indices is read** where its bytes are there. -/
theorem run_memVsib (base : Register) (tuple : TupleType) (h : s.Indexed m sib rest) :
    ∃ memory p u relative,
      (Step.memVsib base tuple).run m s = .ok (s.withMemory memory p u relative) ∧
      memory.index = AddressShape.indexOf m s (Register.gpr (s.addressSize m)) (some base) sib := by
  have hindex : s.lacksIndex m = false := by
    rw [State.lacksIndex, h.index, beq_false_of_ne h.wide]
    rfl
  have hmark : s.mark false = s := by rw [State.mark, Bool.or_false]
  have hform : ¬ s.registerForm := fun hform => h.memory (eq_of_beq hform)
  let shape := AddressShape.indexed m s (Register.gpr (s.addressSize m)) (some base) sib
  have hshape : s.addressShape m (some base)
      = .ok (shape, { s with pending := rest, used := s.used + 1 }) := by
    rw [State.addressShape_wide h.wide]
    dsimp only
    rw [if_pos h.index, State.byte_of_pending h.pending]
    rfl
  have hword : shape.displacementSize ≤ rest.length := by
    have hpresent := h.present
    rw [AddressShape.indexedSize, List.length_cons, Nat.add_comm] at hpresent
    exact Nat.le_of_succ_le_succ hpresent
  have hrun : (Step.memVsib base tuple).run m s = .ok (State.addMemory m shape
      (s.displacementScale tuple shape.displacementSize)
      (littleEndian (rest.take shape.displacementSize))
      { s with pending := rest.drop shape.displacementSize
               used := s.used + 1 + shape.displacementSize }) := by
    show (s.mark (s.lacksIndex m)).readMem m tuple (some base) = _
    rw [hindex, hmark, State.readMem, if_neg hform, readMemory_eq, hshape]
    show State.word _ _ >>= _ = _
    rw [State.word, if_pos hword]
    rfl
  obtain ⟨memory, relative, hmemory, hmemoryIndex⟩ := exists_withMemory m shape
    (s.displacementScale tuple shape.displacementSize)
    (littleEndian (rest.take shape.displacementSize)) s (rest.drop shape.displacementSize)
    (s.used + 1 + shape.displacementSize)
  exact ⟨memory, _, _, relative, hrun.trans (congrArg Except.ok hmemory), hmemoryIndex⟩

/-! ### Leaves -/

/-- The vector that the indices of an EVEX gather, scatter or prefetch count from. -/
def Leaf.indices? (l : Leaf) : Option Register :=
  match l.form with
  | .evexVkVsib => some (l.register 1)
  | .evexVsibkV | .evexVsibk => some (l.register 0)
  | _ => none

/-- The number of the vector that a gather writes. -/
def State.destination (s : State) : Nat := s.reg + 8 * s.r.toNat + 16 * s.rHigh.toNat

/-- What a gather forbids: another register in `vvvv`, no mask, zeroing, the bit `b`, and a
destination that is the vector of indices. -/
def Leaf.forbidsIndexed (l : Leaf) (base index : Register) (s : State) : Bool :=
  s.vvvvField != 0 || (s.mask == 0 || s.z || s.evexB)
    || l.form == .evexVkVsib && index.index.val == base.index + s.destination

/-- The three forms with a vector of indices, and where they store it. -/
theorem Leaf.form_of_indices? (h : l.indices? = some base) :
    l.form = .evexVkVsib ∧ base = l.register 1 ∨
      (l.form = .evexVsibkV ∨ l.form = .evexVsibk) ∧ base = l.register 0 := by
  unfold Leaf.indices? at h
  split at h
  next hform => exact .inl ⟨hform, (Option.some.inj h).symm⟩
  next hform => exact .inr ⟨.inl hform, (Option.some.inj h).symm⟩
  next hform => exact .inr ⟨.inr hform, (Option.some.inj h).symm⟩
  next => cases h

/-- `s'` is `s` with the verdict `bad` on it, and perhaps with an opcode and registers. -/
structure State.Marked (bad : Bool) (s s' : State) : Prop where
  spelled : s'.spelled = s.spelled
  pending : s'.pending = s.pending
  notes : s'.notes = s.notes
  memory : s'.draft.memory = s.draft.memory
  invalid : s'.invalid = (s.invalid || bad)

namespace State.Marked

variable {s' s₁ s₂ : State} {bad bad' : Bool}

/-- A rule broken on either way is broken. -/
theorem trans (h : s.Marked bad s₁) (h' : s₁.Marked bad' s₂) : s.Marked (bad || bad') s₂ where
  spelled := h'.spelled.trans h.spelled
  pending := h'.pending.trans h.pending
  notes := h'.notes.trans h.notes
  memory := h'.memory.trans h.memory
  invalid := by rw [h'.invalid, h.invalid, Bool.or_assoc]

theorem setCode (s : State) (c : Code) : s.Marked false (s.setCode c) :=
  ⟨rfl, rfl, rfl, rfl, (Bool.or_false _).symm⟩

theorem addRegister (s : State) (r : Register) : s.Marked false (s.addRegister r) :=
  ⟨rfl, rfl, rfl, rfl, (Bool.or_false _).symm⟩

theorem forbid (s : State) (m : Mode) (bad : Bool) :
    s.Marked (m.strict && bad) (s.forbid m bad) :=
  ⟨rfl, rfl, rfl, rfl, rfl⟩

theorem indexed (h : s.Marked bad s') (hs : s.Indexed m sib rest) : s'.Indexed m sib rest := by
  have hs' : s'.spelled.addressSize m ≠ .w16 ∧ s'.spelled.mod ≠ 3 ∧ s'.spelled.rm = 4 ∧
      AddressShape.indexedSize s'.spelled.mod sib ≤ (sib :: rest).length := by
    rw [h.spelled]
    exact ⟨hs.wide, hs.memory, hs.index, hs.present⟩
  exact ⟨hs'.1, hs'.2.1, hs'.2.2.1, h.pending.trans hs.pending, hs'.2.2.2⟩

end State.Marked

/-- What gathers, scatters and prefetches check first. -/
def State.gatherChecked (m : Mode) (c : Code) (s : State) : State :=
  ((s.setCode c).forbid m (s.vvvvField != 0)).forbid m (s.mask == 0 || s.z || s.evexB)

/-- What is checked before any operand is read. -/
theorem State.marked_gatherChecked (m : Mode) (c : Code) (s : State) :
    s.Marked (m.strict && (s.vvvvField != 0 || (s.mask == 0 || s.z || s.evexB)))
      (s.gatherChecked m c) := by
  have h := ((Marked.setCode s c).trans (.forbid _ m (s.vvvvField != 0))).trans
    (.forbid _ m (s.mask == 0 || s.z || s.evexB))
  rwa [Bool.false_or, ← Bool.and_or_distrib_left] at h

/-- Memory with a vector of indices is read after verdicts as before them. -/
theorem exists_memVsib {s₁ : State} {bad : Bool} (base : Register) (tuple : TupleType)
    (h : s.Indexed m sib rest) (h₁ : s.Marked bad s₁) :
    ∃ s₂, (Step.memVsib base tuple).run m s₁ = .ok s₂ ∧ s₂.spelled = s.spelled ∧
      s₂.notes = s.notes ∧ s₂.invalid = (s.invalid || bad) ∧
      s₂.draft.memory.index
        = AddressShape.indexOf m s (Register.gpr (s.addressSize m)) (some base) sib := by
  obtain ⟨memory, p, u, relative, hrun, hindex⟩ := run_memVsib base tuple (h₁.indexed h)
  have hspelled (s : State) : (s.withMemory memory p u relative).spelled = s.spelled := rfl
  have hnotes (s : State) : (s.withMemory memory p u relative).notes = s.notes := rfl
  have hindexOf : AddressShape.indexOf m s₁.spelled (Register.gpr (s₁.spelled.addressSize m))
      (some base) sib = AddressShape.indexOf m s.spelled (Register.gpr (s.spelled.addressSize m))
        (some base) sib := by
    rw [h₁.spelled]
  exact ⟨_, hrun, (hspelled s₁).trans h₁.spelled, (hnotes s₁).trans h₁.notes, h₁.invalid,
    hindex.trans hindexOf⟩

/-- These checks come first in the plan. -/
theorem run_gatherChecked {steps : List Step}
    (hplan : l.plan = ⟨.only, .noVvvv :: .gatherMask :: steps⟩) :
    l.run m s = runSteps m steps (s.gatherChecked m (l.code 0)) := by
  rw [Leaf.run, hplan]
  rfl

theorem State.strayLock_of_notes {s' : State} (h : s'.notes = s.notes) :
    s'.strayLock = s.strayLock :=
  congrArg (fun notes : Notes => notes.prefixes.lock && !notes.allowLock) h

/-- **What an EVEX gather, scatter or prefetch makes of a state.** -/
theorem run_indexed (hl : l.indices? = some base) (h : s.Indexed m sib rest) :
    ∃ s', l.run m s = .ok s' ∧ s'.strayLock = s.strayLock ∧
      s'.draft.memory.index
        = AddressShape.indexOf m s (Register.gpr (s.addressSize m)) (some base) sib ∧
      s'.invalid = (s.invalid || m.strict && l.forbidsIndexed base s'.draft.memory.index s) := by
  have hfirst := State.marked_gatherChecked m (l.code 0) s
  rcases Leaf.form_of_indices? hl with ⟨hform, rfl⟩ | ⟨hform | hform, rfl⟩
  · have hplan : l.plan = ⟨.only, [.noVvvv, .gatherMask, .reg (.vector (l.register 0)),
        .memVsib (l.register 1) l.tuple, .distinctIndex (l.register 1)]⟩ := by
      simp only [Leaf.plan, hform]
    obtain ⟨s₂, hrun, hspelled, hnotes, hinvalid, hindex⟩ := exists_memVsib (l.register 1) l.tuple h
      (hfirst.trans (.addRegister _ ((l.register 0).offset s.destination)))
    have hdestination : s₂.destination = s.destination := by
      show s₂.spelled.destination = s.spelled.destination
      rw [hspelled]
    have hlast := State.Marked.forbid s₂ m (s₂.indexIs (l.register 1) s₂.destination)
    refine ⟨_, ?_, State.strayLock_of_notes (hlast.notes.trans hnotes),
      (congrArg _ hlast.memory).trans hindex, ?_⟩
    · rw [run_gatherChecked hplan]
      show (Step.memVsib _ _).run m
        ((s.gatherChecked m (l.code 0)).addRegister ((l.register 0).offset s.destination)) >>= _ = _
      rw [hrun]
      rfl
    · rw [Leaf.forbidsIndexed, hform, hlast.invalid, hinvalid, hlast.memory, Bool.or_false,
        Bool.or_assoc, ← Bool.and_or_distrib_left, hdestination]
      rfl
  · have hplan : l.plan = ⟨.only, [.noVvvv, .gatherMask, .memVsib (l.register 0) l.tuple,
        .reg (.vector (l.register 1))]⟩ := by
      simp only [Leaf.plan, hform]
    obtain ⟨s₂, hrun, hspelled, hnotes, hinvalid, hindex⟩ :=
      exists_memVsib (l.register 0) l.tuple h hfirst
    have hlast := State.Marked.addRegister s₂ ((l.register 1).offset s₂.destination)
    refine ⟨_, ?_, State.strayLock_of_notes (hlast.notes.trans hnotes),
      (congrArg _ hlast.memory).trans hindex, ?_⟩
    · rw [run_gatherChecked hplan]
      show (Step.memVsib _ _).run m (s.gatherChecked m (l.code 0)) >>= _ = _
      rw [hrun]
      rfl
    · rw [hlast.invalid, hinvalid, Leaf.forbidsIndexed, hform, Bool.or_false,
        show (Form.evexVsibkV == .evexVkVsib) = false from rfl, Bool.false_and, Bool.or_false]
  · have hplan : l.plan = ⟨.only, [.noVvvv, .gatherMask, .memVsib (l.register 0) l.tuple]⟩ := by
      simp only [Leaf.plan, hform]
    obtain ⟨s₂, hrun, hspelled, hnotes, hinvalid, hindex⟩ :=
      exists_memVsib (l.register 0) l.tuple h hfirst
    refine ⟨s₂, ?_, State.strayLock_of_notes hnotes, hindex, ?_⟩
    · rw [run_gatherChecked hplan]
      show (Step.memVsib _ _).run m (s.gatherChecked m (l.code 0)) >>= _ = _
      rw [hrun]
      rfl
    · rw [hinvalid, Leaf.forbidsIndexed, hform,
        show (Form.evexVsibk == .evexVkVsib) = false from rfl, Bool.false_and, Bool.or_false]

/-! ### Legal encodings -/

/-- Such a plan has memory with a vector of indices. -/
theorem Leaf.exists_memVsib_mem (hl : l.indices? = some base) :
    ∃ tuple, .memVsib base tuple ∈ l.plan.steps := by
  refine ⟨l.tuple, ?_⟩
  rcases Leaf.form_of_indices? hl with ⟨hform, rfl⟩ | ⟨hform | hform, rfl⟩ <;>
    simp [Leaf.plan, hform]

/-- An instruction with a vector of indices has memory with an index byte. -/
theorem memory_of_indices {t : Tables} {bytes : List UInt8} (hl : l.indices? = some base)
    (h : t.EndsAt m bytes (.leaf l) s) : s.mod ≠ 3 ∧ s.rm = 4 := by
  obtain ⟨-, -, hfills, s', hroute, haccepted, -⟩ := h
  obtain ⟨tuple, hmem⟩ := Leaf.exists_memVsib_mem hl
  obtain ⟨-, hruns⟩ := runsTo_route hfills hroute
  have hform : s.registerForm = false := hruns.rejects _ hmem
  have hindex : s.lacksIndex m = false := (hruns.unbroken haccepted).2 _ hmem
  exact ⟨ne_of_beq_false hform, by simpa using (Bool.or_eq_false_iff.mp hindex).2⟩

/-- **A leaf with a vector of indices refuses what it forbids**, and nothing else. -/
theorem accepts_indexed {t : Tables} {bytes : List UInt8} (ht : t.Terminates m) (hm : m.strict)
    (hcomes : t.ComesTo m (bytes.take maxLength) (.leaf l) s) (hl : l.indices? = some base)
    (hlock : s.strayLock = false) (h : s.Indexed m sib rest) {index : Register}
    (hindex : AddressShape.indexOf m s (Register.gpr (s.addressSize m)) (some base) sib = index) :
    (t.accepts m bytes ↔ s.invalid = false ∧ l.forbidsIndexed base index s = false) ∧
      (t.accepts m bytes → ∀ ip, (t.decode m ip bytes).memory.index = index) := by
  obtain ⟨s', hrun, hlock', hindex', hinvalid⟩ := run_indexed hl h
  rw [hindex] at hindex'
  rw [hindex'] at hinvalid
  obtain ⟨haccepts, hdecode⟩ := hcomes.decode_eq ht hrun
  refine ⟨hcomes.accepts_iff_of_forbids ht hm hrun (hlock'.trans hlock) hinvalid, fun h ip => ?_⟩
  rw [hdecode, State.finish, if_neg (haccepts.mp h)]
  exact hindex'

/-- The number of the vector of indices. -/
def gatherIndex (p₀ sib : UInt8) : Nat := sib.toNat / 8 % 8 + 8 * (!bit p₀ 6).toNat

theorem gatherIndex_lt (p₀ sib : UInt8) : gatherIndex p₀ sib < 16 := by
  have hx := (!bit p₀ 6).toNat_le
  rw [gatherIndex]
  omega

/-- The number of the vector that is written or stored. -/
def gatherDestination (p₀ modRM : UInt8) : Nat :=
  modRM.toNat / 8 % 8 + 8 * (!bit p₀ 7).toNat + 16 * (!bit p₀ 4).toNat

/-- The five bits are stored inverted. -/
theorem vvvv_eq_zero_iff (p₁ p₂ : UInt8) :
    State.payloadVvvv p₁ + 16 * (!bit p₂ 3).toNat = 0 ↔ p₁.toNat / 8 % 16 = 15 ∧ bit p₂ 3 := by
  rw [State.payloadVvvv]
  cases bit p₂ 3 with
  | false => exact iff_of_false (by simp) (by simp)
  | true =>
      rw [Bool.not_true, Bool.toNat_false, and_iff_left rfl]
      omega

/-- **The rules in full**: an encoding that breaks none of them. -/
theorem forbidsIndexed_eq_false_iff {k : Nat} (hbase : base.isFirstVector) (hk : k < 32) :
    l.forbidsIndexed base (base.offset k) s = false ↔ s.vvvvField = 0 ∧ s.mask ≠ 0 ∧ s.z = false ∧
      s.evexB = false ∧ (l.form = .evexVkVsib → k ≠ s.destination) := by
  obtain ⟨c, -, -, rfl, hcount⟩ := Register.class_of_isFirstVector hbase
  rw [Leaf.forbidsIndexed, RegisterClass.index_offset (hcount ▸ hk)]
  simp only [Bool.or_eq_false_iff, Bool.and_eq_false_imp, bne_eq_false_iff_eq, beq_iff_eq,
    beq_eq_false_iff_ne, and_assoc, ne_eq, Nat.add_left_cancel_iff]

/-- What an EVEX payload leaves to its leaf, in 64-bit mode. -/
structure State.FollowsEvex (m : Mode) (p₀ p₁ p₂ modRM : UInt8) (s : State) : Prop where
  invalid : s.invalid = (m.strict && (bit p₀ 3 || bit p₂ 7 && p₂.toNat % 8 == 0))
  strayLock : s.strayLock = false
  vvvvField : s.vvvvField = State.payloadVvvv p₁ + 16 * (!bit p₂ 3).toNat
  mask : s.mask = p₂.toNat % 8
  z : s.z = bit p₂ 7
  evexB : s.evexB = bit p₂ 4
  x : s.x = !bit p₀ 6
  destination : s.destination = gatherDestination p₀ modRM
  modRM : s.modRM = modRM

/-- A state after an EVEX payload, read without prefixes before it. -/
theorem State.Bare.followsEvex {s₀ : State} (h : s₀.Bare) (hlong : m.long) (p₀ p₁ p₂ modRM : UInt8)
    (pending : List UInt8) (used : Nat) :
    State.FollowsEvex m p₀ p₁ p₂ modRM
      { s₀.afterEvex m p₀ p₁ p₂ with pending, used, modRM } where
  invalid := by
    show (s₀.invalid || m.strict && (s₀.hasRex || s₀.mandatory != .none) || m.strict &&
      (bit p₀ 3 || bit p₂ 7 && p₂.toNat % 8 == 0 || !m.long && !bit p₂ 3)) = _
    rw [h.invalid, h.hasRex, h.mandatory, hlong]
    simp
  strayLock := by
    show (s₀.draft.prefixes.lock && _) = false
    rw [h.lock, Bool.false_and]
  vvvvField := rfl
  mask := rfl
  z := rfl
  evexB := rfl
  x := if_pos hlong
  destination := by
    show modRM.toNat / 8 % 8 + 8 * (if m.long then _ else _ : Bool).toNat +
      16 * (m.long && !bit p₀ 4).toNat = _
    rw [if_pos hlong, hlong, Bool.true_and]
    rfl
  modRM := rfl

/-- The number of the vector of indices, with the bit that extends `vvvv`. -/
theorem State.FollowsEvex.indexOf {p₀ p₁ p₂ modRM : UInt8} (h : s.FollowsEvex m p₀ p₁ p₂ modRM)
    (hlong : m.long) (gpr base : Register) (sib : UInt8) :
    AddressShape.indexOf m s gpr (some base) sib
      = base.offset (gatherIndex p₀ sib + 16 * (!bit p₂ 3).toNat) := by
  have hvvvv : s.vvvvField / 16 * 16 = 16 * (!bit p₂ 3).toNat := by
    rw [h.vvvvField, State.payloadVvvv]
    omega
  rw [AddressShape.indexOf, if_pos hlong, h.x, hvvvv]
  rfl

/-- **The legal encodings of EVEX gathers, scatters and gather prefetches.** In strict 64-bit mode,
after segment and address-size bytes, the instruction is valid exactly if `vvvv` is unused, there is
a mask, neither `z` nor `b` is set, the operand is memory with an index byte, and a gather does not
write the vector of indices. The bit `p₂ 3` extends `vvvv` to five bits, all of which count as
unused, so the vector of indices is one of the first sixteen. -/
theorem evex_gather_legal {blobs : Blobs} {t : Tables} (ht : Tables.load blobs = .ok t)
    (hm : m.strict) (hlong : m.long) {bytes pre : List UInt8} {e p₀ p₁ p₂ op modRM : UInt8}
    (hbytes : bytes.take maxLength = pre ++ e :: p₀ :: p₁ :: p₂ :: op :: modRM :: rest)
    (hpre : ∀ x ∈ pre, (t.forest.get (t.legacy.oneByte.node x)).isAddressPrefix)
    {otherwise : NodeId} (he : t.forest.get (t.legacy.oneByte.node e) = .evex otherwise)
    (hbit : bit p₀ 3 = false) (hcomes : t.ComesTo m (bytes.take maxLength) (.leaf l) s)
    (hl : l.indices? = some base) (hbase : base.isFirstVector)
    (hpresent : modRM.toNat / 64 ≠ 3 → modRM.toNat % 8 = 4 → rest.head? = some sib ∧
      AddressShape.indexedSize (modRM.toNat / 64) sib ≤ rest.length) :
    (t.accepts m bytes ↔
      p₁.toNat / 8 % 16 = 15 ∧ bit p₂ 3 ∧ p₂.toNat % 8 ≠ 0 ∧ bit p₂ 7 = false ∧ bit p₂ 4 = false ∧
        modRM.toNat / 64 ≠ 3 ∧ modRM.toNat % 8 = 4 ∧
        (l.form = .evexVkVsib → gatherIndex p₀ sib ≠ gatherDestination p₀ modRM)) ∧
      (t.accepts m bytes → ∀ ip,
        (t.decode m ip bytes).memory.index = base.offset (gatherIndex p₀ sib)) := by
  have hterminates := (Tables.load_wellFormed ht).terminates m
  obtain ⟨s₀, hs₀, used, hs⟩ := comesTo_evex ht hlong hpre he (hbytes ▸ hcomes)
  have hfollows : s.FollowsEvex m p₀ p₁ p₂ modRM :=
    hs ▸ hs₀.followsEvex hlong p₀ p₁ p₂ modRM rest used
  have hpending : s.pending = rest := hs ▸ rfl
  clear hs
  have hmod : s.mod = modRM.toNat / 64 := by rw [State.mod, hfollows.modRM]
  have hrm : s.rm = modRM.toNat % 8 := by rw [State.rm, hfollows.modRM]
  rw [← hmod, ← hrm] at hpresent ⊢
  -- without an index byte the leaf refuses, whatever the bytes that follow
  by_cases hmemory : s.mod ≠ 3 ∧ s.rm = 4
  · obtain ⟨hhead, hsize⟩ := hpresent hmemory.1 hmemory.2
    obtain ⟨tail, rfl⟩ := List.head?_eq_some_iff.mp hhead
    have hindexed : s.Indexed m sib tail :=
      ⟨addressSize_of_long hlong, hmemory.1, hmemory.2, hpending, hsize⟩
    have hsmall : gatherIndex p₀ sib + 16 * (!bit p₂ 3).toNat < 32 := by
      have hlow := gatherIndex_lt p₀ sib
      have hhigh := (!bit p₂ 3).toNat_le
      omega
    obtain ⟨hiff, hmemoryIndex⟩ := accepts_indexed hterminates hm hcomes hl hfollows.strayLock
      hindexed (hfollows.indexOf hlong _ base sib)
    rw [forbidsIndexed_eq_false_iff hbase hsmall, hfollows.vvvvField, hfollows.mask, hfollows.z,
      hfollows.evexB, hfollows.destination, hfollows.invalid, hbit, hm, vvvv_eq_zero_iff] at hiff
    refine ⟨⟨fun haccepts => ?_, fun hlegal => ?_⟩, fun haccepts ip => ?_⟩
    · obtain ⟨-, ⟨hvvvv, hhigh⟩, hmask, hz, hb, hdistinct⟩ := hiff.mp haccepts
      rw [hhigh] at hdistinct
      exact ⟨hvvvv, hhigh, hmask, hz, hb, hmemory.1, hmemory.2, hdistinct⟩
    · obtain ⟨hvvvv, hhigh, hmask, hz, hb, -, -, hdistinct⟩ := hlegal
      refine hiff.mpr ⟨by rw [hz]; rfl, ⟨hvvvv, hhigh⟩, hmask, hz, hb, ?_⟩
      rw [hhigh]
      exact hdistinct
    · rw [hmemoryIndex haccepts, (hiff.mp haccepts).2.1.2]
      rfl
  · have hrefused : ¬ t.accepts m bytes := fun haccepts =>
      hmemory (memory_of_indices hl (Tables.endsAt_of_comesTo hterminates hcomes haccepts))
    exact ⟨iff_of_false hrefused fun h => hmemory ⟨h.2.2.2.2.2.1, h.2.2.2.2.2.2.1⟩,
      fun haccepts => absurd haccepts hrefused⟩

end

/-! ### Small tables with a gather -/

/-- Tables with a gather after EVEX payloads. The bytes `64` and `67` are prefixes. -/
def gatherBlobs : Blobs :=
  let blank (n : UInt32) : Entry := .repeated n .invalid
  let oneByte : Record := .array [blank 98, .node LegacyTag.evex.byte [.child .invalid], blank 1,
    .node LegacyTag.strongSegment.byte [.register .fs], blank 2,
    .node LegacyTag.addressSize.byte [], blank 152]
  let gather : Entry := .node EvexTag.vkVsib.byte
    [.code (Code.EVEX_Vpgatherdd_xmm_k1_vm32x.offset 2), .register .zmm0, .register .zmm0,
      .tuple .n4]
  let empty : Record := .array [blank 256]
  let bytes (f : Family) (records : List Record) : List UInt8 :=
    (Writer.writeAll { family := f } records).2.bytes
  { legacy := bytes .legacy [empty, empty, empty, oneByte]
    vex := bytes .vex [empty, empty, empty]
    xop := bytes .vex [empty, empty, empty]
    evex := bytes .evex [empty, .array [.repeated 256 gather], empty] }

/-- The leaf of the gather. -/
def gatherLeaf : Leaf where
  form := .evexVkVsib
  codes := [Code.EVEX_Vpgatherdd_xmm_k1_vm32x.offset 2]
  registers := [.zmm0, .zmm0]
  tuple := .n4

@[inherit_doc gatherBlobs]
def gatherTables : Tables :=
  let blank (n : Nat) : OpcodeMap := List.replicate n .invalid
  { forest := Forest.fresh.push (.evex .invalid) |>.push (.segment true .fs) |>.push .addressSize
      |>.push (.leaf gatherLeaf)
    legacy := { map0F38 := blank 256, map0F3A := blank 256, map0F := blank 256
                oneByte := blank 98 ++ [⟨3⟩, .invalid, ⟨4⟩, .invalid, .invalid, ⟨5⟩] ++ blank 152 }
    vex := [blank 256, blank 256, blank 256]
    xop := [blank 256, blank 256, blank 256]
    evex := [blank 256, List.replicate 256 ⟨6⟩, blank 256] }

theorem load_gatherBlobs : Tables.load gatherBlobs = .ok gatherTables := by decide +kernel

/-- A gather with the indices in `zmm1`, and refused ones: the destination for indices, no mask, and
the bit that would extend the vector of indices. -/
theorem evex_gather_legal_small :
    let m : Mode := { bitness := .bits64, options := {} }
    let bytes (p₂ sib : UInt8) : List UInt8 := [0x64, 0x62, 0xF2, 0x7D, p₂, 0x90, 4, sib]
    Tables.load gatherBlobs = .ok gatherTables ∧ m.strict ∧ m.long ∧
      gatherTables.accepts m (bytes 0x49 8) ∧
      (gatherTables.decode m 0 (bytes 0x49 8)).memory.index = Register.zmm0.offset 1 ∧
      ¬ gatherTables.accepts m (bytes 0x49 0) ∧ ¬ gatherTables.accepts m (bytes 0x48 8) ∧
      ¬ gatherTables.accepts m (bytes 0x41 8) := by
  intro m bytes
  have hm : m.strict := by decide
  have hlong : m.long := by decide
  have hbytes (p₂ sib : UInt8) : (bytes p₂ sib).take maxLength
      = [0x64] ++ 0x62 :: 0xF2 :: 0x7D :: p₂ :: 0x90 :: 4 :: [sib] := rfl
  have hpre : ∀ x ∈ [0x64],
      (gatherTables.forest.get (gatherTables.legacy.oneByte.node x)).isAddressPrefix := by
    rw [List.forall_mem_singleton]
    rfl
  have hcomes (p₂ sib : UInt8) : ∃ s, gatherTables.ComesTo m ((bytes p₂ sib).take maxLength)
      (.leaf gatherLeaf) s := by
    rw [hbytes]
    exact exists_comesTo_evex (n := 1) hlong hpre rfl rfl (by decide) rfl rfl
  have hlegal (p₂ sib : UInt8) (hsib : AddressShape.indexedSize 0 sib ≤ 1) :=
    evex_gather_legal load_gatherBlobs hm hlong (hbytes p₂ sib) hpre rfl rfl
      (hcomes p₂ sib).choose_spec rfl rfl fun _ _ => ⟨rfl, hsib⟩
  obtain ⟨hgather, hindex⟩ := hlegal 0x49 8 (by decide)
  have hsame := (hlegal 0x49 0 (by decide)).1
  have hmask := (hlegal 0x48 8 (by decide)).1
  have hhigh := (hlegal 0x41 8 (by decide)).1
  have haccepts : gatherTables.accepts m (bytes 0x49 8) := hgather.mpr (by decide)
  exact ⟨load_gatherBlobs, hm, hlong, haccepts, hindex haccepts 0,
    fun h => absurd (hsame.mp h) (by decide), fun h => absurd (hmask.mp h) (by decide),
    fun h => absurd (hhigh.mp h) (by decide)⟩

end OpcodeForest
