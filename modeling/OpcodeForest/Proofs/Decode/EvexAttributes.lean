import OpcodeForest.Proofs.Decode.LockPrefixes
import OpcodeForest.Proofs.Decode.PrefixForm

/-!
# Attributes of EVEX instructions

An EVEX payload has a bit `b`, a bit `z` and a mask field, and every instruction must make something
of them: in strict mode a bit that has no meaning makes the instruction invalid.

* `Step.forbidsB`, `Step.usesB`, `Step.forbidsStoreZ`: what a step makes of the bits.
* `accounts_of_evex`: every plan of an EVEX instruction makes something of them.
* `Notes.Plain`, `Notes.Heeds`: what is noted without the bit `b` and with it.
* `evex_attributes_heeded`: what follows for records.
-/

namespace OpcodeForest

/-! ### Steps -/

namespace Step

/-- No bit `b` passes the step in register form, or in memory form. -/
def forbidsB (form : Bool) : Step → Bool
  | noB | gatherMask | memVector _ => true
  | noRegisterB => form
  | noMemoryB | rmRegister _ => !form
  | rmVector _ _ broadcast => !form && !broadcast
  | _ => false

/-- The bit `b` has a meaning for the step. -/
def usesB (form : Bool) : Step → Bool
  | rmVector _ _ broadcast => !form && broadcast
  | rounding _ => form
  | _ => false

/-- The step may note a meaning of the bit `b`. -/
def notesB : Step → Bool
  | rmVector _ _ _ | rounding _ => true
  | _ => false

/-- No bit `z` passes the step in memory form. -/
def forbidsStoreZ : Step → Bool
  | noMask | noZeroing | gatherMask | storeZeroing _ => true
  | _ => false

/-- The step checks a rule. -/
def isRule : Step → Bool
  | noVvvv | noMask | noZeroing | noB | noRegisterB | noMemoryB | storeZeroing _ | gatherMask
  | distinctIndex _ | rounding _ => true
  | _ => false

/-- The step adds a register in both forms. -/
def isRegister : Step → Bool
  | reg _ | narrowReg _ | vvvv _ => true
  | _ => false

/-- The steps of EVEX plans. -/
def isVector : Step → Bool
  | rmVector _ _ _ | rmScalar | rmRegister _ | memVector _ | memVsib _ _ | imm8 => true
  | step => step.isRule || step.isRegister

/-- The steps make something of the bits: `b` is forbidden or has one meaning, and `z` is forbidden
where the first operand can be memory. -/
def accounts (steps : List Step) : Bool :=
  steps.all (·.isVector) &&
    ([true, false].all fun form =>
      steps.any (·.forbidsB form) || steps.countP (·.usesB form) == 1) &&
    ((steps.dropWhile (·.isRule)).head?.all (·.isRegister) || steps.any (·.forbidsStoreZ))

variable {m : Mode} {s : State}

/-- A set bit `b` that the step has no use for stops strict decoding. -/
theorem stops_of_forbidsB {step : Step} (h : step.forbidsB s.registerForm) (hb : s.evexB)
    (hm : m.strict) : step.rejects s ∨ step.breaks m s := by
  cases step with
  | noB | gatherMask | memVector => simp [breaks, hm, hb]
  | noRegisterB | noMemoryB | rmVector => simp_all [forbidsB, breaks]
  | rmRegister => exact .inl h
  | _ => cases h

/-- So does zeroing of a destination in memory. -/
theorem breaks_of_forbidsStoreZ {step : Step} (h : step.forbidsStoreZ) (hz : s.z) (hm : m.strict)
    (hform : s.registerForm = false) : step.breaks m s := by
  cases step with
  | noMask | noZeroing | gatherMask | storeZeroing => simp [breaks, hm, hz, hform]
  | _ => cases h

theorem kinds_of_isRule {step : Step} (h : step.isRule) : step.kinds m s = [] := by
  cases step <;> first | rfl | cases h

theorem kinds_of_isRegister {step : Step} (h : step.isRegister) : step.kinds m s = [.register] := by
  cases step <;> first | rfl | cases h

/-- In register form no operand is memory. -/
theorem memory_not_mem_kinds {step : Step} (hvector : step.isVector) (hform : s.registerForm)
    (hrejects : step.rejects s = false) : .memory ∉ step.kinds m s := by
  have hkind : formKind s = .register := if_pos hform
  cases step with
  | memVector | memVsib => rw [rejects, hform] at hrejects; cases hrejects
  | rmVector | rmScalar => simp [kinds, hkind]
  | reg | narrowReg | vvvv | rmRegister | imm8 => simp [kinds]
  | noVvvv | noMask | noZeroing | noB | noRegisterB | noMemoryB | storeZeroing | gatherMask
  | distinctIndex | rounding => exact List.not_mem_nil
  | _ => cases hvector

/-- A plan that starts with a register. -/
theorem head_kinds_ne_memory : ∀ {steps : List Step},
    (steps.dropWhile (·.isRule)).head?.all (·.isRegister) →
      (steps.flatMap (·.kinds m s)).head? ≠ some .memory
  | [], _ => by simp
  | step :: rest, h => by
      rw [List.flatMap_cons]
      by_cases hrule : step.isRule
      · rw [List.dropWhile_cons_of_pos hrule] at h
        rw [kinds_of_isRule hrule]
        exact head_kinds_ne_memory h
      · rw [List.dropWhile_cons_of_neg hrule] at h
        rw [kinds_of_isRegister h]
        simp

end Step

/-! ### What is noted -/

namespace Notes

/-- Nothing is noted of the bit `b`. -/
def Plain (n : Notes) : Prop :=
  n.broadcast = false ∧ n.suppressExceptions = false ∧ n.rounding = .none

/-- One meaning of the bit `b` is noted: in register form that exceptions are suppressed or rounding
is fixed, in memory form a broadcast. -/
inductive Heeds (n : Notes) : (form : Bool) → Prop where
  | broadcast (h : n.broadcast) (hs : n.suppressExceptions = false) (hr : n.rounding = .none) :
      Heeds n false
  | suppress (h : n.suppressExceptions) (hb : n.broadcast = false) (hr : n.rounding = .none) :
      Heeds n true
  | round (h : n.rounding ≠ .none) (hb : n.broadcast = false) (hs : n.suppressExceptions = false) :
      Heeds n true

end Notes

/-- Every length spells a rounding. -/
theorem Rounding.ofLength_ne_none (n : Nat) : Rounding.ofLength n ≠ .none := by
  unfold ofLength
  split <;> exact Rounding.noConfusion

namespace Step

variable {m : Mode} {s : State} {n : Notes}

/-- A step that has nothing to do with `b` notes nothing. -/
theorem note_eq_self {step : Step} (hvector : step.isVector) (h : step.notesB = false) :
    step.note m s n = n := by
  cases step with
  | rmVector | rounding => cases h
  | controlReg | exchange | lockable | rel8 | relZ => cases hvector
  | _ => rfl

/-- Nothing is noted where `b` is clear or not used. -/
theorem plain_note {step : Step} (hvector : step.isVector) (h : n.Plain)
    (hunused : s.evexB = false ∨ step.usesB s.registerForm = false) : (step.note m s n).Plain := by
  cases hnotes : step.notesB with
  | false => rwa [note_eq_self hvector hnotes]
  | true =>
      cases step with
      | rmVector base tuple broadcast =>
          simp only [note]
          split
          · exact h
          · refine ⟨?_, h.2⟩
            rcases hunused with hb | hunused
            · rw [hb, Bool.false_and]
            · simp_all [usesB]
      | rounding onlySuppress =>
          simp only [note]
          split
          · simp_all [usesB]
          · exact h
      | _ => cases hnotes

/-- The step that the bit has a meaning for notes it. -/
theorem heeds_note {step : Step} (h : n.Plain) (hb : s.evexB) (huses : step.usesB s.registerForm) :
    (step.note m s n).Heeds s.registerForm := by
  obtain ⟨hbroadcast, hsuppress, hround⟩ := h
  cases step with
  | rmVector base tuple broadcast =>
      obtain ⟨hform, hused⟩ := Bool.and_eq_true_iff.mp huses
      rw [Bool.not_eq_true'] at hform
      simp only [note, hform, hb, hused]
      exact .broadcast rfl hsuppress hround
  | rounding onlySuppress =>
      have hform : s.registerForm := huses
      simp only [note, hform, hb]
      cases onlySuppress with
      | true => exact .suppress rfl hbroadcast hround
      | false => exact .round (Rounding.ofLength_ne_none s.length) hbroadcast hsuppress
  | _ => cases huses

/-- Other steps leave the note as it is. -/
theorem heeds_note_of_unused {step : Step} (hvector : step.isVector) (h : n.Heeds s.registerForm)
    (hunused : step.usesB s.registerForm = false) (hpasses : step.forbidsB s.registerForm = false) :
    (step.note m s n).Heeds s.registerForm := by
  cases hnotes : step.notesB with
  | false => rwa [note_eq_self hvector hnotes]
  | true =>
      cases step with
      | rmVector base tuple broadcast =>
          -- in memory form a broadcast is used or forbidden
          have hform : s.registerForm := by
            cases hform : s.registerForm with
            | true => rfl
            | false => cases broadcast <;> simp_all [usesB, forbidsB]
          simp only [note, if_pos hform]
          exact h
      | rounding onlySuppress =>
          have hform : s.registerForm = false := hunused
          simp only [note, hform, Bool.false_and, Bool.false_eq_true, if_false]
          rwa [hform] at h
      | _ => cases hnotes

/-- The same for all steps, by induction on them. -/
theorem plain_notes : ∀ (steps : List Step) {n : Notes}, steps.all (·.isVector) → n.Plain →
    (s.evexB = false ∨ ∀ step ∈ steps, step.usesB s.registerForm = false) →
      (steps.foldl (fun n step => step.note m s n) n).Plain
  | [], _, _, h, _ => h
  | step :: rest, n, hvector, h, hunused => by
      rw [List.all_cons, Bool.and_eq_true] at hvector
      refine plain_notes rest hvector.2 (plain_note hvector.1 h ?_) ?_
      · exact hunused.imp_right fun h => h step List.mem_cons_self
      · exact hunused.imp_right fun h step hstep => h step (List.mem_cons_of_mem _ hstep)

/-- What is noted stays noted if the other steps do not use `b`. -/
theorem heeds_notes_of_unused : ∀ (steps : List Step) {n : Notes}, steps.all (·.isVector) →
    n.Heeds s.registerForm → (∀ step ∈ steps, step.usesB s.registerForm = false) →
      (∀ step ∈ steps, step.forbidsB s.registerForm = false) →
        (steps.foldl (fun n step => step.note m s n) n).Heeds s.registerForm
  | [], _, _, h, _, _ => h
  | step :: rest, n, hvector, h, hunused, hpasses => by
      rw [List.all_cons, Bool.and_eq_true] at hvector
      obtain ⟨hunused, hrest⟩ := List.forall_mem_cons.mp hunused
      obtain ⟨hpasses, hpass⟩ := List.forall_mem_cons.mp hpasses
      have hheeds := heeds_note_of_unused (m := m) hvector.1 h hunused hpasses
      exact heeds_notes_of_unused rest hvector.2 hheeds hrest hpass

/-- **The bit is noted once.** -/
theorem heeds_notes (hb : s.evexB) : ∀ (steps : List Step) {n : Notes}, steps.all (·.isVector) →
    n.Plain → (∀ step ∈ steps, step.forbidsB s.registerForm = false) →
      steps.countP (·.usesB s.registerForm) = 1 →
        (steps.foldl (fun n step => step.note m s n) n).Heeds s.registerForm
  | [], _, _, _, _, hcount => by cases hcount
  | step :: rest, n, hvector, h, hpasses, hcount => by
      rw [List.all_cons, Bool.and_eq_true] at hvector
      obtain ⟨-, hpass⟩ := List.forall_mem_cons.mp hpasses
      by_cases huses : step.usesB s.registerForm
      · rw [List.countP_cons_of_pos huses, Nat.succ_inj, List.countP_eq_zero] at hcount
        exact heeds_notes_of_unused rest hvector.2 (heeds_note h hb huses)
          (fun step hstep => Bool.eq_false_iff.mpr (hcount step hstep)) hpass
      · rw [List.countP_cons_of_neg huses] at hcount
        refine heeds_notes hb rest hvector.2 (plain_note hvector.1 h (.inr ?_)) hpass hcount
        exact Bool.eq_false_iff.mpr huses

end Step

/-! ### Plans -/

/-- The forms of EVEX instructions stand last. -/
def Form.isEvex (form : Form) : Bool := Form.evexVkHW.ctorIdx ≤ form.ctorIdx

theorem isEvex_of_mem {form : Form} (h : .leaf form ∈ Family.evex.kinds) : form.isEvex := by
  have hall : ∀ k ∈ Family.evex.kinds, k.form?.all (·.isEvex) := by decide +kernel
  exact hall _ h

/-- **Every EVEX instruction makes something of the bits.** -/
theorem accounts_of_evex (l : Leaf) (h : l.form.isEvex) : Step.accounts l.plan.steps := by
  obtain ⟨form, codes, registers, number, locks, tuple, flags⟩ := l
  cases form with
  | evexVkHWIbEr | evexVkWIbEr | evexWkV | evexVkM | evexVM | evexMV | evexWV | evexVkEv | evexVXEv
  | evexEvVX | evexVHEv | evexVHEvEr | evexVHEvIb | evexEdVIb | evexGvWEr | evexVkVsib | evexVsibkV
  | evexVsibk | evexVRk | evexKR => rfl
  | evexVkHW | evexVkHWIb | evexVkW | evexVkWIb | evexHkWIb | evexKkHW | evexKkHWIb | evexKkHWIbSae
  | evexKkWIb | evexKP1HW =>
      simp only [Leaf.plan]
      generalize Leaf.flag _ 0 = broadcast
      cases broadcast <;> rfl
  | evexVkHWEr | evexVkWEr =>
      simp only [Leaf.plan]
      generalize Leaf.flag _ 1 = broadcast
      cases broadcast <;> rfl
  | evexVW => simp only [Leaf.plan]; split <;> rfl
  | _ => cases h

/-- What the bits of an EVEX payload have come to: the operands are of the kinds `ks`. -/
structure Attributes (s : State) (ks : List OperandKind) (n : Notes) : Prop where
  plain : s.evexB = false → n.Plain
  heeds : s.evexB → n.Heeds s.registerForm
  memory : s.evexB → s.registerForm = false → .memory ∈ ks
  register : s.registerForm → .memory ∉ ks
  zeroing : s.z → ks.head? ≠ some .memory

/-- **What a plan makes of the bits**, in strict mode and where no rule is broken. -/
theorem attributes_of_accounts {m : Mode} {s : State} {steps : List Step} {n : Notes}
    (haccounts : Step.accounts steps) (hm : m.strict) (hn : n.Plain)
    (hrejects : ∀ step ∈ steps, step.rejects s = false)
    (hbreaks : ∀ step ∈ steps, step.breaks m s = false) :
    Attributes s (steps.flatMap (·.kinds m s)) (steps.foldl (fun n step => step.note m s n) n) := by
  simp only [Step.accounts, Bool.and_eq_true] at haccounts
  obtain ⟨⟨hvector, hbit⟩, hzero⟩ := haccounts
  have hpasses : s.evexB → ∀ step ∈ steps, step.forbidsB s.registerForm = false := by
    intro hb step hstep
    refine Bool.eq_false_iff.mpr fun hforbids => ?_
    rcases Step.stops_of_forbidsB hforbids hb hm with h | h
    · rw [hrejects step hstep] at h; cases h
    · rw [hbreaks step hstep] at h; cases h
  have hcount : s.evexB → steps.countP (·.usesB s.registerForm) = 1 := by
    intro hb
    have hform := List.all_eq_true.mp hbit s.registerForm (by cases s.registerForm <;> simp)
    rw [Bool.or_eq_true, beq_iff_eq] at hform
    refine hform.resolve_left fun hany => ?_
    obtain ⟨step, hstep, hforbids⟩ := List.any_eq_true.mp hany
    rw [hpasses hb step hstep] at hforbids
    cases hforbids
  have hregister : s.registerForm → .memory ∉ steps.flatMap (·.kinds m s) := by
    intro hform hmem
    obtain ⟨step, hstep, hkind⟩ := List.mem_flatMap.mp hmem
    exact Step.memory_not_mem_kinds (List.all_eq_true.mp hvector step hstep) hform
      (hrejects step hstep) hkind
  refine ⟨fun hb => Step.plain_notes steps hvector hn (.inl hb),
    fun hb => Step.heeds_notes hb steps hvector hn (hpasses hb) (hcount hb), fun hb hform => ?_,
    hregister, fun hz => ?_⟩
  · obtain ⟨step, hstep, huses⟩ :=
      List.countP_pos_iff.mp (Nat.lt_of_lt_of_eq Nat.one_pos (hcount hb).symm)
    rw [hform] at huses
    refine List.mem_flatMap.mpr ⟨step, hstep, ?_⟩
    cases step with
    | rmVector => simp [Step.kinds, Step.formKind, hform]
    | _ => cases huses
  · rcases Bool.or_eq_true_iff.mp hzero with hfirst | hany
    · exact Step.head_kinds_ne_memory hfirst
    · cases hform : s.registerForm with
      | true => exact fun hhead => hregister hform (List.mem_of_head? hhead)
      | false =>
          obtain ⟨step, hstep, hforbids⟩ := List.any_eq_true.mp hany
          have hbroken := Step.breaks_of_forbidsStoreZ hforbids hz hm hform
          rw [hbreaks step hstep] at hbroken
          cases hbroken

/-! ### After the payload -/

/-- What an EVEX payload with the last byte `p₂` leaves to the instruction. -/
structure State.AfterEvex (m : Mode) (p₂ : UInt8) (s : State) : Prop where
  evexB : s.evexB = bit p₂ 4
  z : s.z = bit p₂ 7
  opMask : s.draft.opMask =
    if p₂.toNat % 8 = 0 then .none else Register.k0.offset (p₂.toNat % 8)
  zeroing : s.draft.zeroing = bit p₂ 7
  /-- Zeroing without a mask is reserved. -/
  checked : m.strict → bit p₂ 7 → p₂.toNat % 8 = 0 → s.invalid
  filled : s.filled = State.filled { pending := [] }

section

variable {t : Tables} {m : Mode} {s s' : State} {window : List UInt8} {p₀ p₁ p₂ : UInt8}

theorem State.AfterEvex.plain (h : s.AfterEvex m p₂) : s.notes.Plain :=
  ⟨congrArg (·.draft.broadcast) h.filled, congrArg (·.draft.suppressExceptions) h.filled,
    congrArg (·.draft.rounding) h.filled⟩

theorem State.AfterEvex.kinds (h : s.AfterEvex m p₂) : s.kinds = [] :=
  congrArg State.kinds h.filled

theorem State.AfterEvex.read (h : s.AfterEvex m p₂) (p : List UInt8) (u : Nat) (x : UInt8) :
    State.AfterEvex m p₂ { s with pending := p, used := u, modRM := x } :=
  ⟨h.evexB, h.z, h.opMask, h.zeroing, h.checked, h.filled⟩

/-- To the map that a payload selects. -/
theorem lookup_of_payloadMap {maps : List OpcodeMap} {k : Nat} {policy : ModRMPolicy}
    {b : State × Next} (h : Tables.payloadMap maps k policy s = .ok b) :
    b.1 = s ∧ ∃ map ∈ maps, b.2 = .lookup map policy := by
  rw [Tables.payloadMap] at h
  cases hk : maps[k]? with
  | none => rw [hk] at h; cases h
  | some map =>
      rw [hk] at h
      cases h
      exact ⟨rfl, map, List.mem_of_getElem? hk, rfl⟩

/-- What reading the payload does. -/
theorem afterEvex_routeEvex {rest : List UInt8} {b : State × Next} (hs : Underway window s)
    (hpending : s.pending = p₁ :: p₂ :: rest) (h : t.routeEvex m s = .ok b) :
    b.1.AfterEvex m p₂ ∧ ∃ map ∈ t.evex, b.2 = .lookup map .always := by
  have hfilled := (inner_routeEvex h).filled_eq.trans hs.filled
  have hbegin : (s.beginPayload m).pending = p₁ :: p₂ :: rest := hpending
  rw [routeEvex_eq] at h
  obtain ⟨a₁, h₁, h⟩ := bind_eq_ok_iff.mp h
  rw [State.byte_of_pending hbegin] at h₁
  obtain rfl := Except.ok.inj h₁
  obtain ⟨a₂, h₂, h⟩ := bind_eq_ok_iff.mp h
  obtain rfl := Except.ok.inj h₂
  unfold Tables.afterEvex at h
  split at h
  · dsimp only at h
    split at h
    · cases h
    · obtain ⟨hstate, hmap⟩ := lookup_of_payloadMap h
      refine ⟨?_, hmap⟩
      rw [hstate] at hfilled ⊢
      refine ⟨rfl, rfl, rfl, rfl, fun hstrict hz hmask => ?_, hfilled⟩
      simp [State.applyEvex, State.checkEvex, State.forbid, State.mark, hstrict, hz, hmask]
  · cases h

/-! ### Walks -/

namespace Tables

/-- The walk of a window comes to an EVEX payload with the bytes `p₀`, `p₁` and `p₂`. -/
def OpensEvex (t : Tables) (m : Mode) (window : List UInt8) (p₀ p₁ p₂ : UInt8) : Prop :=
  ∃ n s id policy s₁ otherwise rest,
    t.moves m n ({ pending := window }, t.restart) = .ok (s, .child id policy) ∧
      t.forest.get id = .evex otherwise ∧ enter policy (.evex otherwise) s = .ok s₁ ∧
      (m.long || s₁.registerForm) ∧ s₁.modRM = p₀ ∧ s₁.pending = p₁ :: p₂ :: rest

end Tables

/-- **The last move after an EVEX payload** is through an instruction of its maps. -/
theorem evex_ends {blobs : Blobs} (ht : Tables.load blobs = .ok t)
    (hopens : t.OpensEvex m window p₀ p₁ p₂) (h : t.read m window = .ok s') :
    ∃ (l : Leaf) (s : State), .leaf l.form ∈ Family.evex.kinds ∧ s.AfterEvex m p₂ ∧
      RunsTo m l.plan.steps s s' := by
  obtain ⟨n, s, id, policy, s₁, otherwise, rest, hmoves, hid, henter, htaken, -, hpending⟩ := hopens
  have hunder : Underway window s := by
    have hstart : Underway window { pending := window } := ⟨rfl, [], rfl, rfl⟩
    exact Tables.moves_keep (J := fun _ => Underway window)
      (fun _ _ _ hs hb hnext => hs.dispatch hb hnext) hstart hmoves Next.noConfusion
  -- through the payload
  rw [((Tables.load_wellFormed ht).terminates m).read_moves hmoves (Nat.le_succ _),
    walk_eq_dispatch] at h
  obtain ⟨b, hb, h⟩ := bind_eq_ok_iff.mp h
  have hroute : t.routeEvex m s₁ = .ok b := by
    rw [dispatch_child, hid, henter] at hb
    exact (if_pos htaken).symm.trans hb
  obtain ⟨hpayload, map, hmap, hnext⟩ :=
    afterEvex_routeEvex (hunder.enter henter) hpending hroute
  -- and on to the instruction
  have hholds := Tables.holds_evex ht
  have hwithin : t.Within t.evex b.2 := by rw [hnext]; exact hmap
  have hmore : b.2 ≠ .done := by rw [hnext]; exact Next.noConfusion
  obtain ⟨id', policy', s₂, s₃, ⟨hmeets, hs₂⟩, hs₃, hfills, hlast⟩ :=
    walk_ends (J := fun next s => t.Within t.evex next ∧ s.AfterEvex m p₂)
      (fun _ _ _ hs hb hnext => by
        obtain ⟨hwithin, p, u, x, hstate⟩ := within_dispatch hholds hs.1 hb hnext
        rw [hstate]
        exact ⟨hwithin, hs.2.read p u x⟩)
      hmore ⟨hwithin, hpayload⟩ h
  obtain ⟨l, hl, hform⟩ := leaf_of_meets hholds hmeets hfills
  obtain ⟨p, u, x, hstate⟩ := enter_eq_ok hs₃
  obtain ⟨-, hruns⟩ := runsTo_route hfills hlast
  rw [hl] at hruns
  refine ⟨l, s₃, hform, ?_, hruns⟩
  rw [hstate]
  exact hs₂.read p u x

/-! ### Records -/

namespace Notes

/-- None of the three attributes is there. -/
theorem Plain.count_eq {n : Notes} (h : n.Plain) :
    [n.broadcast, n.suppressExceptions, n.rounding != .none].count true = 0 := by
  rw [h.1, h.2.1, h.2.2]
  decide

/-- Exactly one of them is there. -/
theorem Heeds.count_eq {n : Notes} {form : Bool} (h : n.Heeds form) :
    [n.broadcast, n.suppressExceptions, n.rounding != .none].count true = 1 := by
  cases h with
  | broadcast h hs hr => rw [h, hs, hr]; decide
  | suppress h hb hr => rw [h, hb, hr]; decide
  | round h hb hs => rw [hb, hs, bne_iff_ne.mpr h]; decide

end Notes

namespace Attributes

variable {ks : List OperandKind} {n : Notes}

/-- **There is one attribute for a set bit, and none for a clear one.** -/
theorem count_eq (h : Attributes s ks n) :
    [n.broadcast, n.suppressExceptions, n.rounding != .none].count true = s.evexB.toNat := by
  cases hb : s.evexB with
  | false => exact (h.plain hb).count_eq
  | true => exact (h.heeds hb).count_eq

/-- A broadcast needs memory. -/
theorem memory_of_broadcast (h : Attributes s ks n) (hbroadcast : n.broadcast) : .memory ∈ ks := by
  cases hb : s.evexB with
  | false => rw [(h.plain hb).1] at hbroadcast; cases hbroadcast
  | true =>
      refine h.memory hb ?_
      have hheeds := h.heeds hb
      generalize s.registerForm = form at hheeds
      cases hheeds with
      | broadcast => rfl
      | suppress _ hnone | round _ hnone => rw [hnone] at hbroadcast; cases hbroadcast

/-- Rounding excludes memory. -/
theorem registers_of_rounding (h : Attributes s ks n)
    (hround : n.suppressExceptions ∨ n.rounding ≠ .none) : .memory ∉ ks := by
  cases hb : s.evexB with
  | false =>
      obtain ⟨-, hsuppress, hnone⟩ := h.plain hb
      rcases hround with hround | hround
      · rw [hsuppress] at hround; cases hround
      · exact absurd hnone hround
  | true =>
      refine h.register ?_
      have hheeds := h.heeds hb
      generalize s.registerForm = form at hheeds
      cases hheeds with
      | suppress | round => rfl
      | broadcast _ hsuppress hnone =>
          rcases hround with hround | hround
          · rw [hsuppress] at hround; cases hround
          · exact absurd hnone hround

end Attributes

/-- A mask register is named where the mask field is not zero. -/
theorem State.AfterEvex.opMask_eq_none_iff (h : s.AfterEvex m p₂) :
    s.draft.opMask = .none ↔ p₂.toNat % 8 = 0 := by
  have hnamed : ∀ n < 8, n ≠ 0 → Register.k0.offset n ≠ .none := by decide
  rw [h.opMask]
  split
  · rename_i hmask
    exact iff_of_true rfl hmask
  · rename_i hmask
    exact iff_of_false (hnamed _ (Nat.mod_lt _ (by decide)) hmask) hmask

/-- An instruction that is accepted has broken no rule. -/
theorem RunsTo.unbroken {steps : List Step} (h : RunsTo m steps s s') (haccepted : s'.Accepted m) :
    s.invalid = false ∧ ∀ step ∈ steps, step.breaks m s = false := by
  have hvalid : ¬ (s.invalid || steps.any (·.breaks m s)) := by
    intro hbroken
    refine haccepted ?_
    rw [h.effect.marks hbroken, Bool.true_or]
  rw [Bool.or_eq_true, not_or] at hvalid
  refine ⟨Bool.eq_false_iff.mpr hvalid.1, fun step hstep => Bool.eq_false_iff.mpr fun hbroken => ?_⟩
  exact hvalid.2 (List.any_eq_true.mpr ⟨step, hstep, hbroken⟩)

end

/-- **No attribute bit of EVEX is ignored.** In strict mode an instruction with an EVEX payload has
one of broadcast, suppressed exceptions and a rounding mode if the bit `b` is set and none if it is
clear, the first on memory and the others on registers; the mask register is the one that the mask
field names, and the bit `z` is zeroing, which asks for a mask and stores nothing to memory. -/
theorem evex_attributes_heeded {blobs : Blobs} {t : Tables} (ht : Tables.load blobs = .ok t)
    {m : Mode} (hm : m.strict) {bytes : List UInt8} {p₀ p₁ p₂ : UInt8}
    (hopens : t.OpensEvex m (bytes.take maxLength) p₀ p₁ p₂) {ip : UInt64}
    (hvalid : ¬ (t.decode m ip bytes).isInvalid) :
    let i := t.decode m ip bytes
    [i.broadcast, i.suppressExceptions, i.rounding != .none].count true = (bit p₂ 4).toNat ∧
      (i.broadcast → .memory ∈ i.kinds) ∧
      (i.suppressExceptions ∨ i.rounding ≠ .none → .memory ∉ i.kinds) ∧
      (i.opMask = .none ↔ p₂.toNat % 8 = 0) ∧
      (p₂.toNat % 8 ≠ 0 → i.opMask = Register.k0.offset (p₂.toNat % 8)) ∧
      i.zeroing = bit p₂ 7 ∧
      (i.zeroing → i.opMask ≠ .none ∧ i.kinds.head? ≠ some .memory) := by
  intro i
  rcases decode_cases t m bytes with ⟨n, hbad⟩ | ⟨s', hread, haccepted, hfinish⟩
  · rw [hbad] at hvalid
    exact absurd rfl hvalid
  have hi : i = s'.finish m ip := hfinish ip
  rw [State.finish, if_neg haccepted] at hi
  obtain ⟨l, s, hl, hpayload, hruns⟩ := evex_ends ht hopens hread
  obtain ⟨hmarked, hbreaks⟩ := hruns.unbroken haccepted
  have hattributes := attributes_of_accounts (accounts_of_evex l (isEvex_of_mem hl)) hm
    hpayload.plain hruns.rejects hbreaks
  rw [← hruns.effect.notes, ← List.nil_append (l.plan.steps.flatMap _), ← hpayload.kinds,
    ← hruns.effect.kinds] at hattributes
  -- what the payload spells stays
  have hspelled := hruns.effect.spelled
  have hmask : s'.draft.opMask = s.draft.opMask := congrArg (·.draft.opMask) hspelled
  have hzeroing : s'.draft.zeroing = bit p₂ 7 :=
    (congrArg (·.draft.zeroing) hspelled).trans hpayload.zeroing
  clear_value i
  subst hi
  refine ⟨hattributes.count_eq.trans (congrArg _ hpayload.evexB), hattributes.memory_of_broadcast,
    hattributes.registers_of_rounding, ?_, fun hnonzero => ?_, hzeroing, fun hz => ⟨?_, ?_⟩⟩
  · rw [hmask]
    exact hpayload.opMask_eq_none_iff
  · rw [hmask, hpayload.opMask, if_neg hnonzero]
  · rw [hmask]
    intro hnone
    have hinvalid := hpayload.checked hm (hzeroing.symm.trans hz)
      (hpayload.opMask_eq_none_iff.mp hnone)
    rw [hmarked] at hinvalid
    cases hinvalid
  · exact hattributes.zeroing (hpayload.z.trans (hzeroing.symm.trans hz))

/-- A sum with a mask, zeroing and a rounding mode, and one with a broadcast operand; without a mask
the same bytes are no instruction. -/
theorem evex_attributes_heeded_small :
    let m : Mode := { bitness := .bits64, options := {} }
    let sum : Instruction := vectorTables.decode m 0 [0x62, 0xF1, 0x7C, 0xDB, 0x58, 0xC1]
    let spread : Instruction := vectorTables.decode m 0 [0x62, 0xF1, 0x7C, 0xDB, 0x58, 1]
    Tables.load vectorBlobs = .ok vectorTables ∧ m.strict ∧
      vectorTables.OpensEvex m [0x62, 0xF1, 0x7C, 0xDB, 0x58, 0xC1] 0xF1 0x7C 0xDB ∧
      ¬ sum.isInvalid ∧ sum.rounding = .up ∧ .memory ∉ sum.kinds ∧
      sum.opMask = Register.k0.offset 3 ∧ sum.zeroing ∧ spread.broadcast ∧ .memory ∈ spread.kinds ∧
      (vectorTables.decode m 0 [0x62, 0xF1, 0x7C, 0xD8, 0x58, 0xC1]).isInvalid := by
  intro m sum spread
  have hm : m.strict := by decide
  have hsum : ¬ sum.isInvalid := by decide
  have hround : sum.rounding = .up := by decide
  have hspread : spread.broadcast := by decide
  have hvalid : ¬ spread.isInvalid := by decide
  have hopens : ∀ x, vectorTables.OpensEvex m
      ([0x62, 0xF1, 0x7C, 0xDB, 0x58, x].take maxLength) 0xF1 0x7C 0xDB :=
    fun x => ⟨1, _, _, _, _, _, [0x58, x], rfl, rfl, rfl, rfl, rfl, rfl⟩
  obtain ⟨-, -, hregisters, -, hmask, -, -⟩ :=
    evex_attributes_heeded load_vectorBlobs hm (hopens 0xC1) hsum
  obtain ⟨-, hmemory, -⟩ := evex_attributes_heeded load_vectorBlobs hm (hopens 1) hvalid
  refine ⟨load_vectorBlobs, hm, hopens 0xC1, hsum, hround, hregisters (.inr ?_), hmask (by decide),
    by decide, hspread, hmemory hspread, by decide⟩
  rw [show (vectorTables.decode m 0 _).rounding = .up from hround]
  exact Rounding.noConfusion

end OpcodeForest
