import OpcodeForest.Proofs.Decode.Gathers
import OpcodeForest.Proofs.Decode.VexArrival

/-!
# Registers that must differ

A VEX gather writes one vector, takes its indices from a second one and its mask from a third. A
product of tiles has three tiles. Both refuse an encoding that names one register twice, by numbers
that come from the payload, the ModRM byte and the index byte.

* `VexPayload.LegalGather`, `VexPayload.LegalTiles`: bytes that name three registers.
* `run_gather`, `run_tiles`: what the two leaves make of a state.
* `accepts_gather`, `accepts_tiles`: what they accept.
* `operands_of_fixed`: the operands of an instruction, from the steps of its plan.
* `distinct_registers_legal`: the encodings that are legal.
-/

namespace OpcodeForest

/-! ### Numbers of registers -/

namespace VexPayload

/-- The number of the register that a gather writes. -/
def destination (m : Mode) (modRM : UInt8) (payload : VexPayload) : Nat :=
  modRM.toNat / 8 % 8 + 8 * (payload.r m).toNat

/-- The number of the vector of indices. -/
def index (m : Mode) (sib : UInt8) (payload : VexPayload) : Nat :=
  sib.toNat / 8 % 8 + 8 * (payload.x m).toNat

/-- The number of the mask of a gather. -/
def mask (m : Mode) (payload : VexPayload) : Nat :=
  if m.long then payload.vvvv else payload.vvvv % 8

/-- The bytes of a gather are legal, at an address of the size: they name memory with an index byte
and three registers. -/
def LegalGather (m : Mode) (size : Size) (modRM sib : UInt8) (payload : VexPayload) : Prop :=
  modRM.toNat / 64 ≠ 3 ∧ size ≠ .w16 ∧ modRM.toNat % 8 = 4 ∧
    payload.destination m modRM ≠ payload.index m sib ∧
    payload.destination m modRM ≠ payload.mask m ∧ payload.index m sib ≠ payload.mask m

/-- The bytes of a product of tiles are legal: they name three of the eight tiles. -/
def LegalTiles (m : Mode) (modRM : UInt8) (payload : VexPayload) : Prop :=
  modRM.toNat / 64 = 3 ∧ payload.r m = false ∧ payload.b m = false ∧ payload.vvvv ≤ 7 ∧
    modRM.toNat / 8 % 8 ≠ modRM.toNat % 8 ∧ modRM.toNat / 8 % 8 ≠ payload.vvvv ∧
    modRM.toNat % 8 ≠ payload.vvvv

instance (m : Mode) (size : Size) (modRM sib : UInt8) (payload : VexPayload) :
    Decidable (payload.LegalGather m size modRM sib) :=
  inferInstanceAs (Decidable (_ ∧ _))

instance (m : Mode) (modRM : UInt8) (payload : VexPayload) :
    Decidable (payload.LegalTiles m modRM) :=
  inferInstanceAs (Decidable (_ ∧ _))

theorem index_lt (payload : VexPayload) (m : Mode) (sib : UInt8) : payload.index m sib < 16 := by
  have hx := (payload.x m).toNat_le
  rw [index]
  omega

end VexPayload

section

variable {t : Tables} {m : Mode} {s : State} {payload : VexPayload} {map : OpcodeMap} {n : Node}
  {l : Leaf} {rest : List UInt8}

/-! ### Gathers -/

/-- Of the destination, the vector of indices and the mask of a gather two are one register. -/
def State.gatherOverlaps (m : Mode) (base index : Register) (s : State) : Bool :=
  let dest := s.reg + 8 * s.r.toNat
  index.index.val == base.index + dest || dest == s.vvvv m
    || index.index.val == base.index + s.vvvv m

theorem Leaf.plan_of_gather (hl : l.form = .vexVXVsibHX) : l.plan = ⟨.only,
    [.reg (.file (l.register 1)), .memVsib (l.register 0) .n1, .vvvv (.file (l.register 1)),
      .distinctGather (l.register 0)]⟩ := by
  obtain ⟨form, codes, registers, number, locks, tuple, flags⟩ := l
  cases hl
  rfl

/-- **What a VEX gather makes of a state.** -/
theorem run_gather {sib : UInt8} (hl : l.form = .vexVXVsibHX) (h : s.Indexed m sib rest) :
    ∃ s', l.run m s = .ok s' ∧ s'.strayLock = s.strayLock ∧
      s'.draft.memory.index = AddressShape.indexOf m s (Register.gpr (s.addressSize m))
        (some (l.register 0)) sib ∧
      s'.invalid = (s.invalid || m.strict &&
        s.gatherOverlaps m (l.register 0) s'.draft.memory.index) := by
  have hfirst := (State.Marked.setCode s (l.code 0)).trans
    (.addRegister _ ((l.register 1).offset (s.reg + 8 * s.r.toNat)))
  obtain ⟨s₂, hrun, hspelled, hnotes, hinvalid, hindex⟩ :=
    exists_memVsib (l.register 0) .n1 h hfirst
  have hoverlaps : s₂.gatherOverlaps m (l.register 0) s₂.draft.memory.index
      = s.gatherOverlaps m (l.register 0) s₂.draft.memory.index := by
    show s₂.spelled.gatherOverlaps .. = s.spelled.gatherOverlaps ..
    rw [hspelled]
  have hlast := (State.Marked.addRegister s₂ ((l.register 1).offset (s₂.vvvv m))).trans
    (.forbid _ m (s₂.gatherOverlaps m (l.register 0) s₂.draft.memory.index))
  refine ⟨_, ?_, State.strayLock_of_notes (hlast.notes.trans hnotes),
    (congrArg _ hlast.memory).trans hindex, ?_⟩
  · rw [Leaf.run, Leaf.plan_of_gather hl]
    show (Step.memVsib _ _).run m ((s.setCode (l.code 0)).addRegister
      ((l.register 1).offset (s.reg + 8 * s.r.toNat))) >>= _ = _
    rw [hrun]
    rfl
  · rw [hlast.invalid, hinvalid, hlast.memory, hoverlaps, Bool.or_false, Bool.or_false,
      Bool.false_or]

theorem gatherOverlaps_eq_false_iff {base : Register} {k : Nat} (hbase : base.isFirstVector)
    (hk : k < 32) : s.gatherOverlaps m base (base.offset k) = false ↔
      s.reg + 8 * s.r.toNat ≠ k ∧ s.reg + 8 * s.r.toNat ≠ s.vvvv m ∧ k ≠ s.vvvv m := by
  obtain ⟨c, -, -, rfl, hcount⟩ := Register.class_of_isFirstVector hbase
  rw [State.gatherOverlaps, RegisterClass.index_offset (hcount ▸ hk)]
  simp only [Bool.or_eq_false_iff, beq_eq_false_iff_ne, and_assoc, ne_eq, Nat.add_left_cancel_iff,
    eq_comm (a := k)]

/-- **A VEX gather refuses registers that overlap**, and nothing else. -/
theorem accepts_gather {bytes : List UInt8} {sib : UInt8} {k : Nat} (ht : t.Terminates m)
    (hm : m.strict) (hcomes : t.ComesTo m (bytes.take maxLength) (.leaf l) s)
    (hl : l.form = .vexVXVsibHX) (hbase : (l.register 0).isFirstVector) (hvalid : s.invalid = false)
    (hlock : s.strayLock = false) (h : s.Indexed m sib rest) (hk : k < 32)
    (hindex : AddressShape.indexOf m s (Register.gpr (s.addressSize m)) (some (l.register 0)) sib
      = (l.register 0).offset k) :
    (t.accepts m bytes ↔
      s.reg + 8 * s.r.toNat ≠ k ∧ s.reg + 8 * s.r.toNat ≠ s.vvvv m ∧ k ≠ s.vvvv m) ∧
      (t.accepts m bytes → ∀ ip,
        (t.decode m ip bytes).memory.index = (l.register 0).offset k) := by
  obtain ⟨s', hrun, hlock', hindex', hinvalid⟩ := run_gather hl h
  rw [hindex] at hindex'
  rw [hindex'] at hinvalid
  obtain ⟨haccepts, hdecode⟩ := hcomes.decode_eq ht hrun
  refine ⟨?_, fun h ip => ?_⟩
  · rw [hcomes.accepts_iff_of_forbids ht hm hrun (hlock'.trans hlock) hinvalid,
      and_iff_right hvalid, gatherOverlaps_eq_false_iff hbase hk]
  · rw [hdecode, State.finish, if_neg (haccepts.mp h)]
    exact hindex'

/-! ### Tiles -/

theorem Leaf.plan_of_tiles (hl : l.form = .vexVTRTHT) : l.plan = ⟨.only,
    [.distinctTiles, .reg (.low .tmm0), .rmRegister (.low .tmm0), .narrowVvvv .tmm0]⟩ := by
  obtain ⟨form, codes, registers, number, locks, tuple, flags⟩ := l
  cases hl
  rfl

/-- What a product of tiles forbids: a tile above the eighth, and one that is named twice. -/
def State.tilesOverlap (s : State) : Bool :=
  s.r || s.b || s.reg == s.rm || s.reg == s.vvvvField || s.rm == s.vvvvField

/-- **What a product of tiles makes of a state.** -/
theorem run_tiles (hl : l.form = .vexVTRTHT) (hs : s.registerForm) :
    ∃ s', l.run m s = .ok s' ∧ s'.strayLock = s.strayLock ∧
      s'.invalid = (s.invalid || m.strict && (s.tilesOverlap || 7 < s.vvvvField)) := by
  let s₁ := (s.setCode (l.code 0)).forbid m s.tilesOverlap
  let s₂ := s₁.addRegister (Register.tmm0.offset s₁.reg)
  let s₃ := s₂.addRegister (Register.tmm0.offset s₂.rm)
  have hnamed : s.Marked (m.strict && s.tilesOverlap) s₃ := by
    have h := (((State.Marked.setCode s (l.code 0)).trans (.forbid _ m s.tilesOverlap)).trans
      (.addRegister s₁ (Register.tmm0.offset s₁.reg))).trans
      (.addRegister s₂ (Register.tmm0.offset s₂.rm))
    rwa [Bool.false_or, Bool.or_false, Bool.or_false] at h
  have hvvvv : s₃.vvvvField = s.vvvvField := by
    show s₃.spelled.vvvvField = s.spelled.vvvvField
    rw [hnamed.spelled]
  have hlast := (hnamed.trans (.forbid s₃ m (7 < s₃.vvvvField))).trans
    (.addRegister _ (Register.tmm0.offset (s₃.vvvvField % 8)))
  have hrm : (Step.rmRegister (.low .tmm0)).run m s₂ = .ok s₃ := if_pos hs
  refine ⟨_, ?_, State.strayLock_of_notes hlast.notes, ?_⟩
  · rw [Leaf.run, Leaf.plan_of_tiles hl]
    show (Step.rmRegister (.low .tmm0)).run m s₂ >>= runSteps m [.narrowVvvv .tmm0] = _
    rw [hrm]
    rfl
  · rw [hlast.invalid, hvvvv, Bool.or_false, Bool.and_or_distrib_left]

theorem State.tilesOverlap_eq_false_iff : s.tilesOverlap = false ↔ s.r = false ∧ s.b = false ∧
    s.reg ≠ s.rm ∧ s.reg ≠ s.vvvvField ∧ s.rm ≠ s.vvvvField := by
  simp only [tilesOverlap, Bool.or_eq_false_iff, beq_eq_false_iff_ne, and_assoc, ne_eq]

/-- **A product of tiles accepts three tiles**, and nothing else. -/
theorem accepts_tiles {bytes : List UInt8} (ht : t.Terminates m) (hm : m.strict)
    (hcomes : t.ComesTo m (bytes.take maxLength) (.leaf l) s) (hl : l.form = .vexVTRTHT)
    (hvalid : s.invalid = false) (hlock : s.strayLock = false) : t.accepts m bytes ↔
      s.mod = 3 ∧ s.r = false ∧ s.b = false ∧ s.vvvvField ≤ 7 ∧
        s.reg ≠ s.rm ∧ s.reg ≠ s.vvvvField ∧ s.rm ≠ s.vvvvField := by
  by_cases hmod : s.mod = 3
  · obtain ⟨s', hrun, hlock', hinvalid⟩ := run_tiles hl (beq_iff_eq.mpr hmod)
    rw [hcomes.accepts_iff_of_forbids ht hm hrun (hlock'.trans hlock) hinvalid,
      and_iff_right hvalid, Bool.or_eq_false_iff, State.tilesOverlap_eq_false_iff,
      decide_eq_false_iff_not, Nat.not_lt]
    constructor
    · rintro ⟨⟨hr, hb, hdistinct⟩, hvvvv⟩
      exact ⟨hmod, hr, hb, hvvvv, hdistinct⟩
    · rintro ⟨-, hr, hb, hvvvv, hdistinct⟩
      exact ⟨⟨hr, hb, hdistinct⟩, hvvvv⟩
  · refine iff_of_false (fun haccepts => hmod ?_) fun h => hmod h.1
    obtain ⟨-, -, hfills, s', hroute, -, -⟩ := Tables.endsAt_of_comesTo ht hcomes haccepts
    have hform : (!s.registerForm) = false := by
      refine (runsTo_route hfills hroute).2.rejects (.rmRegister (.low .tmm0)) ?_
      rw [Node.steps, Leaf.plan_of_tiles hl]
      simp
    exact beq_iff_eq.mp ((Bool.not_eq_false' ..).mp hform)

/-! ### Operands -/

/-- The step adds the same operands whatever byte stands before the opcode or after the operands. -/
def Step.Fixed (m : Mode) (s : State) (step : Step) : Prop :=
  ∀ lock tail, step.operands m s lock tail = step.operands m s false 0

theorem flatten_of_fixed {steps : List Step} {oss : List (List Operand)}
    (h : List.Forall₂ (Step.Adds m s) steps oss) (hfixed : ∀ step ∈ steps, step.Fixed m s) :
    oss.flatten = steps.flatMap (·.operands m s false 0) := by
  induction h with
  | nil => rfl
  | @cons step os steps oss hadds _ ih =>
      obtain ⟨lock, tail, -, -, rfl⟩ := hadds
      rw [List.flatten_cons, List.flatMap_cons, hfixed step List.mem_cons_self,
        ih fun step hstep => hfixed step (List.mem_cons_of_mem _ hstep)]

/-- **The operands of an instruction** whose steps do not depend on other bytes. -/
theorem operands_of_fixed {bytes : List UInt8} (h : t.EndsAt m bytes n s)
    (hfixed : ∀ step ∈ n.steps, step.Fixed m s) (ip : UInt64) :
    (t.decode m ip bytes).operands = n.steps.flatMap (·.operands m s false 0) := by
  obtain ⟨hcomes, -, hfills, s', hroute, haccepted, hdecode⟩ := h
  obtain ⟨oss, hoss, hadds⟩ := operands_route hcomes.underway hfills hroute
  rw [hdecode, State.finish, if_neg haccepted, ← flatten_of_fixed hadds hfixed]
  exact hoss

theorem operands_gather {bytes : List UInt8} (hl : l.form = .vexVXVsibHX)
    (h : t.EndsAt m bytes (.leaf l) s) (ip : UInt64) : (t.decode m ip bytes).operands
      = [.reg ((l.register 1).offset (s.reg + 8 * s.r.toNat)), .plain .memory,
          .reg ((l.register 1).offset (s.vvvv m))] := by
  have hplan : (Node.leaf l).steps = _ := congrArg Plan.steps (Leaf.plan_of_gather hl)
  refine (operands_of_fixed h ?_ ip).trans (by rw [hplan]; rfl)
  rw [hplan]
  simp only [List.forall_mem_cons]
  exact ⟨fun _ _ => rfl, fun _ _ => rfl, fun _ _ => rfl, fun _ _ => rfl,
    fun _ h => absurd h List.not_mem_nil⟩

theorem operands_tiles {bytes : List UInt8} (hl : l.form = .vexVTRTHT)
    (h : t.EndsAt m bytes (.leaf l) s) (ip : UInt64) : (t.decode m ip bytes).operands
      = [.reg (Register.tmm0.offset s.reg), .reg (Register.tmm0.offset s.rm),
          .reg (Register.tmm0.offset (s.vvvvField % 8))] := by
  have hplan : (Node.leaf l).steps = _ := congrArg Plan.steps (Leaf.plan_of_tiles hl)
  refine (operands_of_fixed h ?_ ip).trans (by rw [hplan]; rfl)
  rw [hplan]
  simp only [List.forall_mem_cons]
  exact ⟨fun _ _ => rfl, fun _ _ => rfl, fun _ _ => rfl, fun _ _ => rfl,
    fun _ h => absurd h List.not_mem_nil⟩

/-! ### Legal encodings -/

namespace State.FollowsVex

variable {pre : List UInt8} {modRM : UInt8}

theorem destination (h : s.FollowsVex t m pre payload modRM) :
    s.reg + 8 * s.r.toNat = payload.destination m modRM := by
  rw [h.reg_eq, h.r]
  rfl

theorem mask (h : s.FollowsVex t m pre payload modRM) : s.vvvv m = payload.mask m := by
  rw [State.vvvv, h.vvvvField]
  rfl

/-- With four bits `vvvv` does not extend the number of the vector of indices. -/
theorem indexOf (h : s.FollowsVex t m pre payload modRM) (gpr base : Register) (sib : UInt8) :
    AddressShape.indexOf m s gpr (some base) sib = base.offset (payload.index m sib) := by
  have hvvvv : payload.vvvv / 16 * 16 = 0 := by
    rw [Nat.div_eq_of_lt payload.vvvv_lt, Nat.zero_mul]
  rw [AddressShape.indexOf, h.x, h.vvvvField, hvvvv, ite_self]
  rfl

end State.FollowsVex

/-- A VEX gather has memory with an index byte, which 16-bit addresses do not have. -/
theorem memory_of_gather {bytes : List UInt8} (hl : l.form = .vexVXVsibHX)
    (h : t.EndsAt m bytes (.leaf l) s) : s.mod ≠ 3 ∧ s.addressSize m ≠ .w16 ∧ s.rm = 4 := by
  obtain ⟨-, -, hfills, s', hroute, haccepted, -⟩ := h
  obtain ⟨-, hruns⟩ := runsTo_route hfills hroute
  have hmem : .memVsib (l.register 0) .n1 ∈ (Node.leaf l).steps := by
    rw [Node.steps, Leaf.plan_of_gather hl]
    simp
  have hform : s.registerForm = false := hruns.rejects _ hmem
  have hindex : s.lacksIndex m = false := (hruns.unbroken haccepted).2 _ hmem
  obtain ⟨hsize, hrm⟩ := Bool.or_eq_false_iff.mp hindex
  exact ⟨ne_of_beq_false hform, ne_of_beq_false hsize, by simpa using hrm⟩

section

variable {bytes pre : List UInt8} {modRM sib : UInt8}

/-- **The legal encodings of a VEX gather**, in terms of its bytes. -/
theorem gather_legal (ht : t.Terminates m) (hm : m.strict)
    (hcomes : t.ComesTo m (bytes.take maxLength) (.leaf l) s)
    (hs : s.FollowsVex t m pre payload modRM) (hrest : s.pending = rest)
    (hl : l.form = .vexVXVsibHX) (hbase : (l.register 0).isFirstVector)
    (hpresent : modRM.toNat / 64 ≠ 3 → t.addressSizeAfter m pre ≠ .w16 → modRM.toNat % 8 = 4 →
      rest.head? = some sib ∧ AddressShape.indexedSize (modRM.toNat / 64) sib ≤ rest.length) :
    (t.accepts m bytes ↔ payload.LegalGather m (t.addressSizeAfter m pre) modRM sib) ∧
      (t.accepts m bytes → ∀ ip,
        (t.decode m ip bytes).operands
          = [.reg ((l.register 1).offset (payload.destination m modRM)), .plain .memory,
              .reg ((l.register 1).offset (payload.mask m))] ∧
          (t.decode m ip bytes).memory.index = (l.register 0).offset (payload.index m sib)) := by
  rw [VexPayload.LegalGather, ← hs.mod_eq, ← hs.rm_eq, ← hs.addressSize]
  rw [← hs.mod_eq, ← hs.rm_eq, ← hs.addressSize] at hpresent
  have hendsAt := Tables.endsAt_of_comesTo ht hcomes
  -- without an index byte the leaf refuses, whatever the bytes that follow
  by_cases hmemory : s.mod ≠ 3 ∧ s.addressSize m ≠ .w16 ∧ s.rm = 4
  · obtain ⟨hmod, hwide, hrm⟩ := hmemory
    obtain ⟨hhead, hsize⟩ := hpresent hmod hwide hrm
    obtain ⟨tail, rfl⟩ := List.head?_eq_some_iff.mp hhead
    have hindexed : s.Indexed m sib tail := ⟨hwide, hmod, hrm, hrest, hsize⟩
    have hsmall : payload.index m sib < 32 := (payload.index_lt m sib).trans (by decide)
    obtain ⟨hiff, hindex⟩ := accepts_gather ht hm hcomes hl hbase hs.invalid hs.strayLock hindexed
      hsmall (hs.indexOf ..)
    rw [hs.destination, hs.mask] at hiff
    refine ⟨hiff.trans ?_, fun haccepts ip => ⟨?_, hindex haccepts ip⟩⟩
    · rw [and_iff_right hmod, and_iff_right hwide, and_iff_right hrm]
    · rw [operands_gather hl (hendsAt haccepts), hs.destination, hs.mask]
  · have hrefused : ¬ t.accepts m bytes := fun haccepts =>
      hmemory (memory_of_gather hl (hendsAt haccepts))
    exact ⟨iff_of_false hrefused fun h => hmemory ⟨h.1, h.2.1, h.2.2.1⟩,
      fun haccepts => absurd haccepts hrefused⟩

/-- **The legal encodings of a product of tiles**, in terms of its bytes. -/
theorem tiles_legal (ht : t.Terminates m) (hm : m.strict)
    (hcomes : t.ComesTo m (bytes.take maxLength) (.leaf l) s)
    (hs : s.FollowsVex t m pre payload modRM) (hl : l.form = .vexVTRTHT) :
    (t.accepts m bytes ↔ payload.LegalTiles m modRM) ∧
      (t.accepts m bytes → ∀ ip, (t.decode m ip bytes).operands
        = [.reg (Register.tmm0.offset (modRM.toNat / 8 % 8)),
            .reg (Register.tmm0.offset (modRM.toNat % 8)),
            .reg (Register.tmm0.offset payload.vvvv)]) := by
  have hiff : t.accepts m bytes ↔ payload.LegalTiles m modRM := by
    rw [accepts_tiles ht hm hcomes hl hs.invalid hs.strayLock, hs.mod_eq, hs.r, hs.b, hs.vvvvField,
      hs.reg_eq, hs.rm_eq]
    rfl
  refine ⟨hiff, fun haccepts ip => ?_⟩
  have hvvvv : payload.vvvv % 8 = payload.vvvv :=
    Nat.mod_eq_of_lt (Nat.lt_succ_of_le (hiff.mp haccepts).2.2.2.1)
  rw [operands_tiles hl (Tables.endsAt_of_comesTo ht hcomes haccepts), hs.reg_eq, hs.rm_eq,
    hs.vvvvField, hvvvv]

/-- **The registers of a VEX gather and of a product of tiles must differ.** The leaf is reached in
strict mode, through segment and address-size bytes, a payload, an opcode and a ModRM byte. A gather
whose bytes are all there is valid exactly if its operand is memory with an index byte and no two of
its destination, its vector of indices and its mask have one number, and then these numbers are what
it names. A product of tiles is valid exactly if its operand is a register, no field is extended and
no two of its tiles have one number. -/
theorem distinct_registers_legal {blobs : Blobs} (ht : Tables.load blobs = .ok t) (hm : m.strict)
    {e op : UInt8}
    (hbytes : bytes.take maxLength = pre ++ e :: (payload.bytes ++ op :: modRM :: rest))
    (hpre : ∀ x ∈ pre, (t.forest.get (t.legacy.oneByte.node x)).isAddressPrefix)
    (hpayload : payload.Selects t m map (t.forest.get (t.legacy.oneByte.node e)))
    (hcomes : t.ComesTo m (bytes.take maxLength) (.leaf l) s) (hrest : s.pending = rest) :
    (l.form = .vexVXVsibHX → (l.register 0).isFirstVector → ∀ sib,
      (modRM.toNat / 64 ≠ 3 → t.addressSizeAfter m pre ≠ .w16 → modRM.toNat % 8 = 4 →
        rest.head? = some sib ∧ AddressShape.indexedSize (modRM.toNat / 64) sib ≤ rest.length) →
      (t.accepts m bytes ↔ payload.LegalGather m (t.addressSizeAfter m pre) modRM sib) ∧
        (t.accepts m bytes → ∀ ip,
          (t.decode m ip bytes).operands
            = [.reg ((l.register 1).offset (payload.destination m modRM)), .plain .memory,
                .reg ((l.register 1).offset (payload.mask m))] ∧
            (t.decode m ip bytes).memory.index = (l.register 0).offset (payload.index m sib))) ∧
    (l.form = .vexVTRTHT →
      (t.accepts m bytes ↔ payload.LegalTiles m modRM) ∧
        (t.accepts m bytes → ∀ ip, (t.decode m ip bytes).operands
          = [.reg (Register.tmm0.offset (modRM.toNat / 8 % 8)),
              .reg (Register.tmm0.offset (modRM.toNat % 8)),
              .reg (Register.tmm0.offset payload.vvvv)])) := by
  have hterminates := (Tables.load_wellFormed ht).terminates m
  have hfollows := comesTo_vex ht hpre hpayload (hbytes ▸ hcomes) hrest
  exact ⟨fun hl hbase _ => gather_legal hterminates hm hcomes hfollows hrest hl hbase,
    tiles_legal hterminates hm hcomes hfollows⟩

end

end

/-! ### Small tables with a gather and a product of tiles -/

/-- Tables with products of tiles and gathers after payloads of three-byte VEX. The bytes `64` and
`67` are prefixes. -/
def overlapBlobs : Blobs :=
  let blank (n : UInt32) : Entry := .repeated n .invalid
  let oneByte : Record := .array [blank 100, .node LegacyTag.strongSegment.byte [.register .fs],
    blank 2, .node LegacyTag.addressSize.byte [], blank 92,
    .node LegacyTag.vex3.byte [.child .invalid], blank 59]
  let tiles : Entry := .node VexTag.vtRtHt.byte [.code .VEX_Tdpbssd_tmm_tmm_tmm]
  let gather : Entry := .node VexTag.vxVsibHx.byte
    [.code (Code.VEX_Tdpbssd_tmm_tmm_tmm.offset 4), .register .xmm0, .register .ymm0]
  let empty : Record := .array [blank 256]
  let bytes (f : Family) (records : List Record) : List UInt8 :=
    (Writer.writeAll { family := f } records).2.bytes
  { legacy := bytes .legacy [empty, empty, empty, oneByte]
    vex := bytes .vex [empty, .array [.repeated 128 tiles, .repeated 128 gather], empty]
    xop := bytes .vex [empty, empty, empty]
    evex := bytes .evex [empty, empty, empty] }

/-- The leaf of the product of tiles. -/
def tilesLeaf : Leaf where
  form := .vexVTRTHT
  codes := [.VEX_Tdpbssd_tmm_tmm_tmm]

/-- The leaf of the gather, with indices in a narrower vector. -/
def vexGatherLeaf : Leaf where
  form := .vexVXVsibHX
  codes := [Code.VEX_Tdpbssd_tmm_tmm_tmm.offset 4]
  registers := [.xmm0, .ymm0]

@[inherit_doc overlapBlobs]
def overlapTables : Tables :=
  let blank (n : Nat) : OpcodeMap := List.replicate n .invalid
  { forest := Forest.fresh.push (.segment true .fs) |>.push .addressSize |>.push (.vex3 .invalid)
      |>.push (.leaf tilesLeaf) |>.push (.leaf vexGatherLeaf)
    legacy := { map0F38 := blank 256, map0F3A := blank 256, map0F := blank 256
                oneByte := blank 100 ++ [⟨3⟩, .invalid, .invalid, ⟨4⟩] ++ blank 92 ++ [⟨5⟩]
                  ++ blank 59 }
    vex := [blank 256, List.replicate 128 ⟨6⟩ ++ List.replicate 128 ⟨7⟩, blank 256]
    xop := [blank 256, blank 256, blank 256]
    evex := [blank 256, blank 256, blank 256] }

theorem load_overlapBlobs : Tables.load overlapBlobs = .ok overlapTables := by decide +kernel

/-- A gather with three registers in 64-bit mode, and refused ones: the destination for indices, for
the mask, and the indices for the mask. In 32-bit mode a gather with a 16-bit address is refused.
Of two products of tiles one names a tile twice. -/
theorem distinct_registers_legal_small :
    let m : Mode := { bitness := .bits64, options := {} }
    let m' : Mode := { bitness := .bits32, options := {} }
    let gather (p₂ sib : UInt8) : List UInt8 := [0x67, 0xC4, 0xE2, p₂, 0x90, 0x0C, sib]
    let tiles (modRM : UInt8) : List UInt8 := [0xC4, 0xE2, 0x60, 0x5E, modRM]
    Tables.load overlapBlobs = .ok overlapTables ∧ m.strict ∧ m'.strict ∧
      overlapTables.accepts m (gather 0x61 0x10) ∧
      (overlapTables.decode m 0 (gather 0x61 0x10)).operands
        = [.reg (Register.ymm0.offset 1), .plain .memory, .reg (Register.ymm0.offset 3)] ∧
      (overlapTables.decode m 0 (gather 0x61 0x10)).memory.index = Register.xmm0.offset 2 ∧
      ¬ overlapTables.accepts m (gather 0x61 0x08) ∧ ¬ overlapTables.accepts m (gather 0x71 0x10) ∧
      ¬ overlapTables.accepts m (gather 0x69 0x10) ∧
      ¬ overlapTables.accepts m' (gather 0x61 0x10) ∧
      overlapTables.accepts m' (tiles 0xCA) ∧ ¬ overlapTables.accepts m' (tiles 0xC9) := by
  intro m m' gather tiles
  have hm : m.strict := by decide
  have hm' : m'.strict := by decide
  have hpre : ∀ x ∈ [0x67],
      (overlapTables.forest.get (overlapTables.legacy.oneByte.node x)).isAddressPrefix := by
    rw [List.forall_mem_singleton]
    rfl
  have hselects (m : Mode) (p₂ : UInt8) : (VexPayload.three 0xE2 p₂).Selects overlapTables m
      (List.replicate 128 ⟨6⟩ ++ List.replicate 128 ⟨7⟩)
      (overlapTables.forest.get (overlapTables.legacy.oneByte.node 0xC4)) :=
    .vex3 (n := 1) (.inr rfl) rfl rfl
  have hbytes (p₂ sib : UInt8) : (gather p₂ sib).take maxLength
      = [0x67] ++ 0xC4 :: ((VexPayload.three 0xE2 p₂).bytes ++ 0x90 :: 0x0C :: [sib]) := rfl
  have hcomes (m : Mode) (p₂ sib : UInt8) : ∃ s, overlapTables.ComesTo m
      ((gather p₂ sib).take maxLength) (.leaf vexGatherLeaf) s ∧ s.pending = [sib] := by
    rw [hbytes]
    exact exists_comesTo_vex hpre (hselects m p₂) rfl rfl
  have hgather {m : Mode} (hm : m.strict) (p₂ sib : UInt8)
      (hsib : AddressShape.indexedSize 0 sib ≤ 1) :=
    (distinct_registers_legal load_overlapBlobs hm (hbytes p₂ sib) hpre (hselects m p₂)
      (hcomes m p₂ sib).choose_spec.1 (hcomes m p₂ sib).choose_spec.2).1 rfl rfl sib
        fun _ _ _ => ⟨rfl, hsib⟩
  have hnone : ∀ x ∈ [],
      (overlapTables.forest.get (overlapTables.legacy.oneByte.node x)).isAddressPrefix :=
    fun _ h => absurd h List.not_mem_nil
  have hbytes' (modRM : UInt8) : (tiles modRM).take maxLength
      = [] ++ 0xC4 :: ((VexPayload.three 0xE2 0x60).bytes ++ 0x5E :: modRM :: []) := rfl
  have hcomes' (modRM : UInt8) : ∃ s, overlapTables.ComesTo m' ((tiles modRM).take maxLength)
      (.leaf tilesLeaf) s ∧ s.pending = [] := by
    rw [hbytes']
    exact exists_comesTo_vex hnone (hselects m' 0x60) rfl rfl
  have htiles (modRM : UInt8) :=
    (distinct_registers_legal load_overlapBlobs hm' (hbytes' modRM) hnone (hselects m' 0x60)
      (hcomes' modRM).choose_spec.1 (hcomes' modRM).choose_spec.2).2 rfl
  obtain ⟨hthree, hnames⟩ := hgather hm 0x61 0x10 (by decide)
  have haccepts : overlapTables.accepts m (gather 0x61 0x10) := hthree.mpr (by decide)
  have hindex := (hgather hm 0x61 0x08 (by decide)).1
  have hmask := (hgather hm 0x71 0x10 (by decide)).1
  have hboth := (hgather hm 0x69 0x10 (by decide)).1
  have hshort := (hgather hm' 0x61 0x10 (by decide)).1
  exact ⟨load_overlapBlobs, hm, hm', haccepts, (hnames haccepts 0).1, (hnames haccepts 0).2,
    fun h => absurd (hindex.mp h) (by decide), fun h => absurd (hmask.mp h) (by decide),
    fun h => absurd (hboth.mp h) (by decide), fun h => absurd (hshort.mp h) (by decide),
    (htiles 0xCA).1.mpr (by decide), fun h => absurd ((htiles 0xC9).1.mp h) (by decide)⟩

end OpcodeForest
