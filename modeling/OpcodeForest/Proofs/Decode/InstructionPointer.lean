import OpcodeForest.Proofs.Decode.EffectiveAddress
import OpcodeForest.Proofs.Decode.Locality
import OpcodeForest.Proofs.Decode.Retouch

/-!
# Operands relative to the instruction pointer

A displacement that counts from the end of the instruction can be settled only when all bytes are
read. Until then the state keeps the displacement and a note; the record has the address itself.
`Finds` says of a run that it reads such a displacement: there are four bytes, and with other ones
in their place the run is the same and the operand points elsewhere.

* `finds_readMemory`, `finds_step`, `finds_leaf`, `finds_walk`: where the four bytes are found.
* `decode_ipRelative`: what they mean for the record.
* `memory_operand_address`: this, and the addresses of all memory operands.
-/

namespace OpcodeForest

open HasState

/-- The state with another displacement in its memory operand. -/
def State.aim (z : UInt64) (s : State) : State :=
  s.retouch (.aim fun target => { target with displacement := z })

/-- What is stored of the displacement `d` before the end of the instruction is known. -/
def ipOffset (size : Size) (d : List UInt8) : UInt64 := wrap size.bits (signed 32 (littleEndian d))

/-- A run reads the bytes `c` and then a displacement `d`, on the way to `b`. The bytes ahead of it
and the number of bytes already read are given, and the run is a function of the bytes ahead. -/
structure Aims (m : Mode) (pending : List UInt8) (used : Nat)
    (g : List UInt8 → Except Stop State) (b : State) (c d rest : List UInt8) (size : Size) :
    Prop where
  long : m.long
  pending : pending = c ++ (d ++ rest)
  length : d.length = 4
  used : used + c.length + 4 ≤ b.used
  ipRelative : b.ipRelative = some size
  base : b.draft.memory.base = if size = .w64 then .rip else .eip
  wide : size ≠ .w16
  follows : ∀ d' : List UInt8, d'.length = 4 →
    g (c ++ (d' ++ rest)) = .ok (b.aim (ipOffset size d'))

/-- A run finds a displacement that counts from the end of the instruction. -/
def Finds (m : Mode) (pending : List UInt8) (used : Nat) (g : List UInt8 → Except Stop State)
    (b : State) : Prop :=
  ∃ c d rest size, Aims m pending used g b c d rest size

/-- Bytes that are read are counted. -/
theorem Follows.used_le {β : Type} [HasState β] {s : State} {r : Except Stop β} {b : β}
    {g : List UInt8 → Bool → Except Stop β} (h : Follows s r g) (hr : r = .ok b) :
    s.used ≤ (state b).used := by
  subst hr
  obtain ⟨c, j, hc⟩ := h s.invalid id
  rw [hc.used]
  exact Nat.le_add_right _ _

namespace Finds

variable {m : Mode} {s : State} {b b' : State}

/-- Bytes that are read before. -/
theorem after {β : Type} [HasState β] {x : State → Except Stop β} {k : β → Except Stop State}
    {a : β} (hx : x s = .ok a) (hfollows : Follows s (x s) fun p i => x (s.alter p i))
    (h : Finds m (state a).pending (state a).used (fun p => k (alter p (state a).invalid a)) b) :
    Finds m s.pending s.used (fun p => x { s with pending := p } >>= k) b := by
  obtain ⟨c, d, rest, size, h⟩ := h
  have hself := hfollows s.invalid id
  rw [hx] at hself
  obtain ⟨c₁, j, hc₁⟩ := hself
  refine ⟨c₁ ++ c, d, rest, size, h.long, ?_, h.length, ?_, h.ipRelative, h.base, h.wide,
    fun d' hd' => ?_⟩
  · rw [hc₁.pending, h.pending, List.append_assoc]
  · have hused := h.used
    rw [hc₁.used] at hused
    rw [List.length_append, ← Nat.add_assoc]
    exact hused
  · rw [List.append_assoc]
    show x (s.alter _ s.invalid) >>= k = _
    rw [hc₁.follows_self hx]
    exact h.follows d' hd'

/-- What is done after it, and does not fill in the memory operand. -/
theorem andThen {g : List UInt8 → Except Stop State} {l : State → Except Stop State}
    (h : Finds m s.pending s.used g b) (htarget : b'.target = b.target) (hused : b.used ≤ b'.used)
    (hl : ∀ z, l (b.aim z) = .ok (b'.aim z)) :
    Finds m s.pending s.used (fun p => g p >>= l) b' := by
  obtain ⟨c, d, rest, size, h⟩ := h
  refine ⟨c, d, rest, size, h.long, h.pending, h.length, Nat.le_trans h.used hused, ?_, ?_, h.wide,
    fun d' hd' => ?_⟩
  · exact (congrArg Target.ipRelative htarget).trans h.ipRelative
  · exact (congrArg Target.base htarget).trans h.base
  · rw [h.follows d' hd']
    exact hl _

/-- What is done after it, and does not look at where the memory operand points to. -/
theorem andThen_retouch {g : List UInt8 → Except Stop State} {l : State → Except Stop State}
    (h : Finds m s.pending s.used g b) (hb : l b = .ok b') (hused : b.used ≤ b'.used)
    (hl : ∀ f, l (b.retouch (.aim f)) = (Touch.aim f).outcome (·.retouch (.aim f)) (l b)) :
    Finds m s.pending s.used (fun p => g p >>= l) b' :=
  h.andThen (target_of_retouch hl hb) hused fun z => by
    rw [State.aim, hl, hb]
    rfl

end Finds

section

variable {m : Mode} {s b : State}

/-! ### Memory operands -/

theorem addressSize_of_long (h : m.long) : s.addressSize m ≠ .w16 := by
  intro hsize
  rw [AddressShape.long_of_addressSize hsize] at h
  cases h

/-- The shape of an address that counts from the end of the instruction. -/
def AddressShape.direct (size : Size) : AddressShape :=
  { base := if size = .w64 then .rip else .eip, displacementSize := 4, ipRelative := true }

/-- In 64-bit mode a displacement without a base counts from the end of the instruction. -/
theorem readMemory_direct (hlong : m.long) (hmod : s.mod = 0) (hrm : s.rm = 5) (tuple : TupleType)
    (vectors : Option Register) : s.readMemory m tuple vectors = s.word 4 >>= fun b =>
      .ok (b.2.addMemory m (.direct (s.addressSize m)) 1 b.1) := by
  have hshape : s.addressShape m vectors = .ok (.direct (s.addressSize m), s) := by
    rw [State.addressShape_wide (addressSize_of_long hlong)]
    dsimp only
    rw [hrm, if_neg (by decide), AddressShape.plain, if_pos ⟨hrm, hmod⟩, hlong, if_pos rfl]
    rfl
  have hscale : s.displacementScale tuple 4 = 1 := by
    unfold State.displacementScale
    cases s.evex <;> rfl
  rw [readMemory_eq, hshape]
  show (s.word 4 >>= fun b => .ok (b.2.addMemory m _ (s.displacementScale tuple 4) b.1)) = _
  rw [hscale]

/-- Other bytes point elsewhere. -/
theorem aim_addMemory (s : State) (n : Nat) (d : List UInt8) :
    (s.addMemory m (.direct (s.addressSize m)) 1 n).aim (ipOffset (s.addressSize m) d)
      = s.addMemory m (.direct (s.addressSize m)) 1 (littleEndian d) := by
  have hone : signed 32 (littleEndian d) * (1 : Nat) = signed 32 (littleEndian d) := Int.mul_one _
  rw [ipOffset, ← hone]
  rfl

theorem isIp_readMemory {tuple : TupleType} {vectors : Option Register}
    (h : s.readMemory m tuple vectors = .ok b) :
    b.draft.memory.base.isIp = (m.long && s.mod == 0 && s.rm == 5) := by
  rw [readMemory_eq] at h
  obtain ⟨a, ha, h⟩ := bind_eq_ok_iff.mp h
  obtain ⟨n, -, h⟩ := bind_eq_ok_iff.mp h
  cases h
  exact State.isIp_base ha

/-- **The displacement of a memory operand.** -/
theorem finds_readMemory {tuple : TupleType} {vectors : Option Register}
    (h : s.readMemory m tuple vectors = .ok b) (hip : b.draft.memory.base.isIp) :
    Finds m s.pending s.used (fun p => { s with pending := p }.readMemory m tuple vectors) b := by
  rw [isIp_readMemory h, Bool.and_eq_true, Bool.and_eq_true, beq_iff_eq, beq_iff_eq] at hip
  obtain ⟨⟨hlong, hmod⟩, hrm⟩ := hip
  rw [readMemory_direct hlong hmod hrm] at h
  obtain ⟨⟨n, s₁⟩, hword, h⟩ := bind_eq_ok_iff.mp h
  unfold State.word at hword
  by_cases hle : 4 ≤ s.pending.length
  · rw [if_pos hle] at hword
    cases hword
    cases h
    refine ⟨[], s.pending.take 4, s.pending.drop 4, s.addressSize m, hlong,
      (List.take_append_drop 4 _).symm, List.length_take_of_le hle, Nat.le_refl _, rfl, rfl,
      addressSize_of_long hlong, fun d' hd' => ?_⟩
    have hread := readMemory_direct (s := { s with pending := d' ++ s.pending.drop 4 }) hlong hmod
      hrm tuple vectors
    rw [← hd', State.word_of_pending rfl, hd'] at hread
    exact hread.trans (congrArg Except.ok (aim_addMemory _ _ d').symm)
  · rw [if_neg hle] at hword
    cases hword

/-! ### Steps -/

theorem isIp_of_target {s s' : State} (h : s'.target = s.target) :
    s'.draft.memory.base.isIp = s.draft.memory.base.isIp :=
  congrArg (fun target => target.base.isIp) h

/-- A run that reads a memory operand from a state `s₀` that has the bytes of `s`, unless the form
is the register form. -/
theorem finds_memory (s₀ : State) (tuple : TupleType) (vectors : Option Register)
    {g : List UInt8 → Except Stop State} (hp : s₀.pending = s.pending) (hu : s₀.used = s.used)
    (hreg : s.registerForm = true → b.draft.memory.base.isIp = false)
    (hmem : s.registerForm = false → ∀ p, g p = { s₀ with pending := p }.readMemory m tuple vectors)
    (h : g s.pending = .ok b) (hip : b.draft.memory.base.isIp) : Finds m s.pending s.used g b := by
  cases hform : s.registerForm with
  | true => exact absurd ((hreg hform).symm.trans hip) Bool.false_ne_true
  | false =>
      obtain rfl : g = fun p => { s₀ with pending := p }.readMemory m tuple vectors :=
        funext (hmem hform)
      rw [← hp, ← hu]
      rw [← hp] at h
      exact finds_readMemory h hip

theorem finds_readRm {bank : Bank} (hs : s.draft.memory.base.isIp = false)
    (h : s.readRm m bank = .ok b) (hip : b.draft.memory.base.isIp) :
    Finds m s.pending s.used (fun p => { s with pending := p }.readRm m bank) b := by
  refine finds_memory s .n1 none rfl rfl (fun hform => ?_) (fun hform p => ?_) h hip
  · rw [State.readRm, if_pos hform] at h
    cases h
    exact hs
  · exact if_neg (Bool.eq_false_iff.mp hform)

theorem finds_readMem {tuple : TupleType} {vectors : Option Register}
    (h : s.readMem m tuple vectors = .ok b) (hip : b.draft.memory.base.isIp) :
    Finds m s.pending s.used (fun p => { s with pending := p }.readMem m tuple vectors) b := by
  refine finds_memory s tuple vectors rfl rfl (fun hform => ?_) (fun hform p => ?_) h hip
  · rw [State.readMem, if_pos hform] at h
    cases h
  · exact if_neg (Bool.eq_false_iff.mp hform)

/-- The register that the high half of a byte names, placed before operands that are read
already. -/
def State.placeIs4 (m : Mode) (base : Register) (before : List Operand) (s : State) :
    Except Stop State := do
  let (r, s) ← s.readIs4 m base
  let after := s.draft.operands.drop before.length
  return { s with draft := { s.draft with operands := before ++ ⟨.register, r⟩ :: after } }

/-- **The step that fills in the memory operand.** -/
theorem finds_step {step : Step} (hfills : step.fillsMemory) (hs : s.draft.memory.base.isIp = false)
    (h : step.run m s = .ok b) (hip : b.draft.memory.base.isIp) :
    Finds m s.pending s.used (fun p => step.run m { s with pending := p }) b := by
  cases step with
  | rm bank => exact finds_readRm hs h hip
  | rmBound =>
      refine finds_memory s .n1 none rfl rfl (fun hform => ?_) (fun hform p => ?_) h hip
      · rw [Step.run, State.readBoundRm, if_pos hform] at h
        cases h
        exact hs
      · exact if_neg (Bool.eq_false_iff.mp hform)
  | rmVector base tuple broadcast =>
      refine finds_memory ((s.forbid m (s.evexB && !broadcast)).withBroadcast broadcast) tuple none
        rfl rfl (fun hform => ?_) (fun hform p => ?_) h hip
      · rw [Step.run, State.readVectorRm, if_pos hform] at h
        cases h
        exact hs
      · exact if_neg (Bool.eq_false_iff.mp hform)
  | rmScalar =>
      refine finds_memory s (if Sizing.longW.size m s = .w64 then .n8 else .n4) none rfl rfl
        (fun hform => ?_) (fun hform p => ?_) h hip
      · rw [Step.run, State.readScalarRm, if_pos hform] at h
        cases h
        exact hs
      · exact if_neg (Bool.eq_false_iff.mp hform)
  | mem => exact finds_readMem h hip
  | memVector tuple => exact finds_readMem (s := s.forbid m s.evexB) h hip
  | memVsib base tuple => exact finds_readMem (s := s.mark (s.lacksIndex m)) h hip
  | memSib => exact finds_readMem (s := s.forbid m (s.lacksIndex m)) h hip
  | memBound =>
      obtain ⟨s₁, h₁, h₂⟩ := bind_eq_ok_iff.mp h
      cases h₂
      exact (finds_readMem (s := s.forbid m (s.addressSize m == .w16)) h₁ hip).andThen
        (l := fun s => .ok (s.forbid m s.ipRelative.isSome)) rfl (Nat.le_refl _) fun _ => rfl
  | is4BeforeRm base =>
      obtain ⟨s₁, h₁, h₂⟩ := bind_eq_ok_iff.mp h
      have hl : ∀ f, State.placeIs4 m base s.draft.operands (s₁.retouch (.aim f))
          = (Touch.aim f).outcome (·.retouch (.aim f))
              (State.placeIs4 m base s.draft.operands s₁) := fun f => by
        rw [State.placeIs4, readIs4_retouch]
        exact bind_outcome fun _ => rfl
      have hip₁ := (isIp_of_target (target_of_retouch hl h₂)).symm.trans hip
      have hfollows : Follows s₁ (s₁.placeIs4 m base s.draft.operands)
          fun p i => (s₁.alter p i).placeIs4 m base s.draft.operands :=
        (follows_readIs4 (.refl m) base s₁).bind fun _ => .plain rfl rfl rfl fun _ _ => rfl
      exact (finds_readRm hs h₁ hip₁).andThen_retouch h₂ (hfollows.used_le h₂) hl
  | offsetMemory =>
      obtain ⟨n, -, h⟩ := bind_eq_ok_iff.mp h
      cases h
      cases hip
  | tableMemory =>
      cases h
      have hbase := AddressShape.isIp_general (s.addressSize m) (n := 3) (by decide) false
      exact absurd (hbase.symm.trans hip) Bool.false_ne_true
  | _ => cases hfills

theorem not_fillsMemory_of_cons {step : Step} {rest : List Step} (hfills : step.fillsMemory)
    (hone : ((step :: rest).filter (·.fillsMemory)).length ≤ 1) :
    ∀ step ∈ rest, step.fillsMemory = false := by
  rw [List.filter_cons_of_pos hfills, List.length_cons] at hone
  have hnil : rest.filter (·.fillsMemory) = [] :=
    List.eq_nil_of_length_eq_zero (Nat.le_zero.mp (Nat.le_of_succ_le_succ hone))
  exact fun step hstep => by simpa using List.filter_eq_nil_iff.mp hnil step hstep

/-- **The steps of a plan**, of which at most one fills in the memory operand. -/
theorem finds_steps : ∀ {steps : List Step} {s : State},
    (steps.filter (·.fillsMemory)).length ≤ 1 → s.draft.memory.base.isIp = false →
    runSteps m steps s = .ok b → b.draft.memory.base.isIp →
    Finds m s.pending s.used (fun p => runSteps m steps { s with pending := p }) b
  | [], s, _, hs, h, hip => by
      cases h
      exact absurd (hs.symm.trans hip) Bool.false_ne_true
  | step :: rest, s, hone, hs, h, hip => by
      obtain ⟨s₁, h₁, h₂⟩ := bind_eq_ok_iff.mp h
      cases hfills : step.fillsMemory with
      | true =>
          -- the steps after it leave the memory operand
          have hrest := not_fillsMemory_of_cons hfills hone
          have hl : ∀ f, runSteps m rest (s₁.retouch (.aim f))
              = (Touch.aim f).outcome (·.retouch (.aim f)) (runSteps m rest s₁) := fun f =>
            runSteps_retouch fun step hstep hf =>
              absurd ((hrest step hstep).symm.trans hf) Bool.false_ne_true
          have hip₁ := (isIp_of_target (target_of_retouch hl h₂)).symm.trans hip
          exact (finds_step hfills hs h₁ hip₁).andThen_retouch h₂
            ((follows_steps (.refl m) rest s₁).used_le h₂) hl
      | false =>
          have hl : ∀ f, step.run m (s.retouch (.aim f))
              = (Touch.aim f).outcome (·.retouch (.aim f)) (step.run m s) := fun f =>
            Step.run_retouch fun hf => absurd (hfills.symm.trans hf) Bool.false_ne_true
          have hs₁ := (isIp_of_target (target_of_retouch hl h₁)).trans hs
          rw [List.filter_cons_of_neg (Bool.eq_false_iff.mp hfills)] at hone
          exact .after h₁ (follows_step (.refl m) step s) (finds_steps hone hs₁ h₂ hip)

theorem length_filter_plan_le (l : Leaf) : (l.plan.steps.filter (·.fillsMemory)).length ≤ 1 := by
  obtain ⟨form, codes, registers, number, locks, tuple, flags⟩ := l
  cases form with
  | evexVW =>
      simp only [Leaf.plan]
      split <;> exact Nat.le_refl _
  | _ => exact Nat.le_of_ble_eq_true rfl

theorem finds_leaf {l : Leaf} (hs : s.draft.memory.base.isIp = false) (h : l.run m s = .ok b)
    (hip : b.draft.memory.base.isIp) :
    Finds m s.pending s.used (fun p => l.run m { s with pending := p }) b := by
  have hrun : ∀ p, l.run m { s with pending := p } = runSteps m l.plan.steps
      { s.setCode (l.plan.code.pick m s l) with pending := p } := fun p => by
    have hpick : l.plan.code.pick m (s.alter p s.invalid) l = l.plan.code.pick m s l :=
      (Mode.Relaxes.refl m).pick l l.plan.code
    show runSteps m _ ((s.alter p s.invalid).setCode (l.plan.code.pick m (s.alter p s.invalid) l))
      = _
    rw [hpick]
    rfl
  simp only [hrun]
  exact finds_steps (s := s.setCode (l.plan.code.pick m s l)) (length_filter_plan_le l) hs h hip

theorem follows_readTrailing (codes : List (UInt8 × Code)) (s : State) :
    Follows s (Tables.readTrailing codes s) fun p i => Tables.readTrailing codes (s.alter p i) := by
  refine (follows_byte s).bind fun ⟨b, s⟩ => ?_
  dsimp only [alter]
  cases (codes.filter (·.1 == b)).getLast? with
  | none => exact .rejected s
  | some code => exact .ite (fun _ => .rejected s) fun _ => .plain rfl rfl rfl fun _ _ => rfl

theorem finds_trailing {codes : List (UInt8 × Code)} (hs : s.draft.memory.base.isIp = false)
    (h : Tables.runTrailing m codes s = .ok b) (hip : b.draft.memory.base.isIp) :
    Finds m s.pending s.used (fun p => Tables.runTrailing m codes { s with pending := p }) b := by
  rw [runTrailing_eq] at h
  obtain ⟨s₁, h₁, h₂⟩ := bind_eq_ok_iff.mp h
  have hl : ∀ f, Tables.readTrailing codes (s₁.retouch (.aim f))
      = (Touch.aim f).outcome (·.retouch (.aim f)) (Tables.readTrailing codes s₁) :=
    fun _ => readTrailing_retouch codes
  have hip₁ := (isIp_of_target (target_of_retouch hl h₂)).symm.trans hip
  exact (finds_steps (by decide) hs h₁ hip₁).andThen_retouch h₂
    ((follows_readTrailing codes s₁).used_le h₂) hl

/-! ### Walks -/

variable {t : Tables}

theorem target_enter {policy : ModRMPolicy} {node : Node} (h : Tables.enter policy node s = .ok b) :
    b.target = s.target := by
  exact target_of_retouch (x := Tables.enter policy node) (fun f => enter_retouch policy node) h

theorem target_byte {a : UInt8 × State} (h : s.byte = .ok a) : a.2.target = s.target := by
  unfold State.byte at h
  split at h
  · cases h
  · cases h
    rfl

theorem walk_child (fuel : Nat) (id : NodeId) (policy : ModRMPolicy) (s : State) :
    t.walk m (fuel + 1) (.child id policy) s = Tables.enter policy (t.forest.get id) s >>= fun s =>
      t.route m (t.forest.get id) s >>= fun b => t.walk m fuel b.2 b.1 := by
  rw [walk_eq_dispatch, dispatch_child]
  cases Tables.enter policy (t.forest.get id) s <;> rfl

theorem walk_lookup (fuel : Nat) (map : OpcodeMap) (policy : ModRMPolicy) (s : State) :
    t.walk m (fuel + 1) (.lookup map policy) s
      = s.byte >>= fun b => t.walk m fuel (.child (map.node b.1) policy) b.2 := by
  rw [walk_eq_dispatch, Tables.dispatch]
  cases s.byte <;> rfl

/-- A node that fills in operands ends the walk. -/
theorem finds_route {node : Node} {fuel : Nat} (hfills : node.fillsOperands)
    (hs : s.draft.memory.base.isIp = false)
    (h : (t.route m node s >>= fun b => t.walk m fuel b.2 b.1) = .ok b)
    (hip : b.draft.memory.base.isIp) : Finds m s.pending s.used (fun p =>
      t.route m node { s with pending := p } >>= fun b => t.walk m fuel b.2 b.1) b := by
  have hdone : ∀ x : Except Stop State,
      ((x >>= fun s => .ok (s, Next.done)) >>= fun b => t.walk m fuel b.2 b.1) = x := fun x => by
    cases x with
    | error e => rfl
    | ok s => exact walk_done t fuel s
  cases node with
  | leaf l =>
      have hrun : ∀ s, (t.route m (.leaf l) s >>= fun b => t.walk m fuel b.2 b.1) = l.run m s :=
        fun s => hdone _
      rw [hrun] at h
      simp only [hrun]
      exact finds_leaf hs h hip
  | trailing codes =>
      have hrun : ∀ s, (t.route m (.trailing codes) s >>= fun b => t.walk m fuel b.2 b.1)
          = Tables.runTrailing m codes s := fun s => hdone _
      rw [hrun] at h
      simp only [hrun]
      exact finds_trailing hs h hip
  | _ => cases hfills

/-- **A walk finds the displacement** in the bytes that it reads. -/
theorem finds_walk : ∀ (fuel : Nat) (next : Next) {s : State}, s.draft.memory.base.isIp = false →
    t.walk m fuel next s = .ok b → b.draft.memory.base.isIp →
    Finds m s.pending s.used (fun p => t.walk m fuel next { s with pending := p }) b
  | fuel, .done, s, hs, h, hip => by
      rw [walk_done] at h
      cases h
      exact absurd (hs.symm.trans hip) Bool.false_ne_true
  | 0, .child _ _, _, _, h, _ | 0, .lookup _ _, _, _, h, _ => nomatch h
  | fuel + 1, .lookup map policy, s, hs, h, hip => by
      simp only [walk_lookup] at h ⊢
      obtain ⟨a, ha, h⟩ := bind_eq_ok_iff.mp h
      have hsa := (isIp_of_target (target_byte ha)).trans hs
      exact .after ha (follows_byte s) (finds_walk fuel _ hsa h hip)
  | fuel + 1, .child id policy, s, hs, h, hip => by
      simp only [walk_child] at h ⊢
      obtain ⟨s₁, h₁, h⟩ := bind_eq_ok_iff.mp h
      have hs₁ := (isIp_of_target (target_enter h₁)).trans hs
      refine .after h₁ (follows_enter policy _ s) ?_
      cases hfills : (t.forest.get id).fillsOperands with
      | true => exact finds_route hfills hs₁ h hip
      | false =>
          obtain ⟨a, ha, h⟩ := bind_eq_ok_iff.mp h
          have hsa := (isIp_of_target (target_route hfills ha)).trans hs₁
          exact .after ha (follows_route (.refl m) t (Node.selectsAlike_refl m _) s₁)
            (finds_walk fuel a.2 hsa h hip)

end

/-! ### Records -/

namespace Instruction

/-- The address that is the displacement `d` away from the end of the instruction, as a word of 64
bits, or of 32 bits for the narrow instruction pointer. -/
def ipTarget (d : List UInt8) (i : Instruction) : UInt64 :=
  let w := if i.memory.base = .rip then 64 else 32
  UInt64.ofNat (BitVec.ofNat w i.nextIp.toNat + displacementWord w d).toNat

def withDisplacement (z : UInt64) (i : Instruction) : Instruction :=
  { i with memory := { i.memory with displacement := z } }

end Instruction

/-- What is stored of the displacement, and the end of the instruction added. -/
theorem wrap_ipOffset (size : Size) {d : List UInt8} (hd : d.length = 4) (nextIp : UInt64) :
    wrap size.bits ((ipOffset size d).toNat + nextIp.toNat) = UInt64.ofNat
      (BitVec.ofNat size.bits nextIp.toNat + displacementWord size.bits d).toNat := by
  have hsigned : signed 32 (littleEndian d) = signed (8 * d.length) (littleEndian d) := by rw [hd]
  rw [wrap_eq_ofInt, BitVec.ofInt_add, BitVec.ofInt_natCast, BitVec.ofInt_natCast, ipOffset,
    ofNat_toNat_wrap size.bits_le_64, hsigned, ofInt_signed, BitVec.add_comm]

/-- A state that gives a record. -/
def State.Accepted (m : Mode) (s : State) : Prop := ¬ (s.invalid || m.strict && s.strayLock)

section

variable {m : Mode} {ip : UInt64} {b : State}

/-- A record with a base is no invalid one. -/
theorem accepted_of_base (h : (b.finish m ip).memory.base.isIp) : b.Accepted m := by
  intro hbad
  rw [State.finish, if_pos hbad] at h
  cases h

theorem base_finish (h : b.Accepted m) :
    (b.finish m ip).memory.base = b.draft.memory.base := by
  rw [State.finish, if_neg h]

theorem nextIp_finish (h : b.Accepted m) :
    (b.finish m ip).nextIp = ip + UInt64.ofNat b.used := by
  rw [State.finish, if_neg h]
  rfl

/-- The record of a state that points elsewhere. -/
theorem finish_aim (h : b.Accepted m) {size : Size} (hip : b.ipRelative = some size) (z : UInt64) :
    (b.aim z).finish m ip = (b.finish m ip).withDisplacement
      (wrap size.bits (z.toNat + (b.finish m ip).nextIp.toNat)) := by
  have hz : ∀ nextIp, (b.aim z).displacement nextIp = wrap size.bits (z.toNat + nextIp.toNat) :=
    fun nextIp => by
      unfold State.displacement
      rw [show (b.aim z).ipRelative = some size from hip]
      rfl
  have haim : (b.aim z).Accepted m := h
  rw [nextIp_finish h, State.finish, if_neg haim, State.finish, if_neg h]
  dsimp only
  rw [hz]
  rfl

/-- The width of the instruction pointer is that of the address. -/
theorem ipTarget_finish (h : b.Accepted m) {size : Size}
    (hbase : b.draft.memory.base = if size = .w64 then .rip else .eip) (hwide : size ≠ .w16)
    {d : List UInt8} (hd : d.length = 4) : (b.finish m ip).ipTarget d
      = wrap size.bits ((ipOffset size d).toNat + (b.finish m ip).nextIp.toNat) := by
  have hwidth : (if (b.finish m ip).memory.base = .rip then 64 else 32) = size.bits := by
    rw [base_finish h, hbase]
    cases size with
    | w16 => exact absurd rfl hwide
    | w32 | w64 => rfl
  rw [wrap_ipOffset size hd, ← hwidth]
  rfl

end

/-- Other bytes in a window of the same length. -/
theorem take_append_drop_of_length {n : Nat} {bytes w : List UInt8}
    (h : w.length = (bytes.take n).length) : (w ++ bytes.drop n).take n = w := by
  rw [List.length_take] at h
  by_cases hle : bytes.length ≤ n
  · rw [List.drop_eq_nil_of_le hle, List.append_nil, List.take_of_length_le (by omega)]
  · rw [List.take_append_of_le_length (by omega), List.take_of_length_le (by omega)]

/-- **The record of an operand relative to the instruction pointer.** Four bytes of the instruction
decide where the operand points to, and nothing else. -/
theorem decode_ipRelative {t : Tables} {m : Mode} {ip : UInt64} {bytes : List UInt8}
    (h : (t.decode m ip bytes).memory.base.isIp) :
    m.long ∧ ∃ c d rest, bytes = c ++ (d ++ rest) ∧ d.length = 4 ∧
      c.length + 4 ≤ (t.decode m ip bytes).length ∧ ∀ d' : List UInt8, d'.length = 4 →
        t.decode m ip (c ++ (d' ++ rest)) = (t.decode m ip bytes).withDisplacement
          ((t.decode m ip bytes).ipTarget d') := by
  rw [Tables.decode_eq_record] at h ⊢
  rcases hr : t.read m (bytes.take maxLength) with (_ | _ | _) | b
  · rw [hr] at h; cases h
  · rw [hr] at h; cases h
  · rw [hr] at h; cases h
  rw [hr] at h
  have haccepted := accepted_of_base h
  have hbase : b.draft.memory.base.isIp := by
    have hsame : (b.finish m ip).memory.base = b.draft.memory.base := base_finish haccepted
    rw [← hsame]
    exact h
  obtain ⟨c, d, rest, size, hfound⟩ :=
    finds_walk _ _ (s := { pending := bytes.take maxLength }) rfl hr hbase
  have hwindow : bytes.take maxLength = c ++ (d ++ rest) := hfound.pending
  refine ⟨hfound.long, c, d, rest ++ bytes.drop maxLength, ?_, hfound.length, ?_, fun d' hd' => ?_⟩
  · rw [← List.append_assoc d, ← List.append_assoc c, ← hwindow, List.take_append_drop]
  · have hused := hfound.used
    rw [Nat.zero_add] at hused
    exact Nat.le_trans hused (Nat.le_of_eq (Tables.length_finish m ip b).symm)
  · have hlength : (c ++ (d' ++ rest)).length = (bytes.take maxLength).length := by
      simp only [hwindow, List.length_append, hd', hfound.length]
    have hread : t.read m (c ++ (d' ++ rest)) = .ok (b.aim (ipOffset size d')) := by
      rw [Tables.read, hlength]
      exact hfound.follows d' hd'
    rw [Tables.decode_eq_record, ← List.append_assoc d', ← List.append_assoc c,
      take_append_drop_of_length hlength, hread]
    show (b.aim _).finish m ip = (b.finish m ip).withDisplacement _
    rw [finish_aim haccepted hfound.ipRelative,
      ← ipTarget_finish haccepted hfound.base hfound.wide hd']
    rfl

/-- **Memory operands denote the address of the tables.** Whatever the registers hold, base, scaled
index and displacement of the operand that is read add up to the address that the tables of the
manual give for the same bytes; an instruction pointer is the base in 64-bit mode with `mod` 0 and
`rm` 5 only. Of such an operand the record has the address itself: it is as far from the end of the
instruction as four of its bytes say, and nothing else depends on those bytes. -/
theorem memory_operand_address :
    (∀ (m : Mode) (s : State) (tuple : TupleType) (vectors : Option Register) (sib : UInt8)
        (d rest : List UInt8),
      let a := s.addressing m vectors sib
      s.mod ≠ 3 → d.length = a.displacementBytes →
      s.pending = (if a.hasSib then [sib] else []) ++ (d ++ rest) →
      ∃ s', s.readMemory m tuple vectors = .ok s' ∧ s'.pending = rest ∧
        s'.draft.memory.base.isIp = (m.long && s.mod == 0 && s.rm == 5) ∧
        (m.long && s.mod == 0 && s.rm == 5 →
          s'.draft.memory.base = if s.addressSize m = .w64 then .rip else .eip) ∧
        ∀ ρ : Register → BitVec (s.addressSize m).bits, ρ .none = 0 →
          s'.draft.memory.address ρ = a.address ρ
            (displacementWord _ d * BitVec.ofNat _ (s.compression tuple d.length))) ∧
    ∀ (t : Tables) (m : Mode) (ip : UInt64) (bytes : List UInt8),
      let i := t.decode m ip bytes
      i.memory.base.isIp → m.long ∧ ∃ c d rest, bytes = c ++ (d ++ rest) ∧ d.length = 4 ∧
        c.length + 4 ≤ i.length ∧ i.memory.displacement = i.ipTarget d ∧
        ∀ d' : List UInt8, d'.length = 4 →
          t.decode m ip (c ++ (d' ++ rest)) = i.withDisplacement (i.ipTarget d') := by
  refine ⟨fun m s tuple vectors sib d rest hmod hd hp => s.readMemory_address tuple hmod hd hp,
    fun t m ip bytes hip => ?_⟩
  obtain ⟨hlong, c, d, rest, hbytes, hd, hlength, hother⟩ := decode_ipRelative hip
  refine ⟨hlong, c, d, rest, hbytes, hd, hlength, ?_, hother⟩
  have hself := hother d hd
  rw [← hbytes] at hself
  exact congrArg (fun i => i.memory.displacement) hself

/-- A compressed displacement with a scaled index, and an operand relative to the instruction
pointer with an immediate after it. -/
theorem memory_operand_address_small :
    let m : Mode := { bitness := .bits64, options := {} }
    let s : State := { pending := [139, 254, 7], modRM := 68, x := true, b := true, evex := true,
                       draft := { broadcast := true } }
    let add : Node := .leaf { form := .ebIb, codes := [.Add_rm8_imm8] }
    let t : Tables := { smallTables with forest := Forest.fresh.push add }
    let i := t.decode m 5 [16, 5, 254, 255, 255, 255, 9]
    (∃ s', s.readMemory m .n64b4 none = .ok s' ∧ s'.pending = [7] ∧
      ∀ ρ : Register → BitVec 64, ρ .none = 0 → s'.draft.memory.address ρ
        = ρ (Register.rax.offset 11) + ρ (Register.rax.offset 9) * 4 + (-8)) ∧
    i.memory.base = .rip ∧ i.nextIp = 12 ∧ i.memory.displacement = 10 ∧
      ∃ c d rest, [16, 5, 254, 255, 255, 255, 9] = c ++ (d ++ rest) ∧ d.length = 4 ∧
        (t.decode m 5 (c ++ ([1, 0, 0, 0] ++ rest))).memory.displacement = 13 := by
  intro m s add t i
  obtain ⟨hread, hip⟩ := memory_operand_address
  obtain ⟨s', hs', hp, -, -, haddress⟩ := hread m s .n64b4 none 139 [254] [7] (by decide)
    (by decide) (by decide)
  obtain ⟨-, c, d, rest, hbytes, hd, -, -, hother⟩ := hip t m 5 [16, 5, 254, 255, 255, 255, 9]
    (by decide)
  have hd₁ : displacementWord 64 [254] * BitVec.ofNat 64 (s.compression .n64b4 1) = -8 := by decide
  have hsum : ∀ (ρ : Register → BitVec 64) (d : BitVec 64), (s.addressing m none 139).address ρ d
      = ρ (Register.rax.offset 11) + ρ (Register.rax.offset 9) * 4 + d := fun ρ d => by
    have ha : s.addressing m none 139 = ⟨.w64, true, 1, 4, 139, true, true, 0, none⟩ := by
      decide
    rw [ha]
    rfl
  refine ⟨⟨s', hs', hp, fun ρ hnone => ?_⟩, by decide, by decide,
    by decide, c, d, rest, hbytes, hd, ?_⟩
  · rw [← hd₁, ← hsum]
    exact haddress ρ hnone
  · rw [hother [1, 0, 0, 0] rfl]
    decide

end OpcodeForest
