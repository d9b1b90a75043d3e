import OpcodeForest.Proofs.Decode.InstructionPointer

/-!
# What steps do

A plan is run step by step, but most of what a step does can be told from the state before the plan:
no step changes what the prefix, payload and ModRM bytes have spelled, and that decides which kinds
of operand are added, what is noted, and which rules are broken.

* `State.spelled`: what stays.
* `Step.kinds`, `Step.note`, `Step.breaks`, `Step.rejects`: what a step does, read off the state
  before the plan.
* `effect_step`, `runsTo_steps`: a step, and a plan.
* `runsTo_route`: a node that fills in operands.
-/

namespace OpcodeForest

/-! ### States before and after -/

/-- What steps note besides the operands and their values. -/
structure Notes where
  /-- The width of a near branch. -/
  branch : Option Size := none
  allowLock : Bool := false
  prefixes : PrefixSet := {}
  broadcast : Bool := false
  suppressExceptions : Bool := false
  rounding : Rounding := .none
deriving DecidableEq, Repr

namespace State

/-- What the bytes before the operands have spelled. -/
def spelled (s : State) : State :=
  { s with
      pending := []
      used := 0
      ipRelative := none
      branch := none
      allowLock := false
      invalid := false
      draft :=
        { segment := s.draft.segment
          opMask := s.draft.opMask
          zeroing := s.draft.zeroing
          prefixes := { operandSize := s.draft.prefixes.operandSize
                        addressSize := s.draft.prefixes.addressSize } } }

def kinds (s : State) : List OperandKind := s.draft.operands.map (·.kind)

def notes (s : State) : Notes where
  branch := s.branch.map (·.1)
  allowLock := s.allowLock
  prefixes := s.draft.prefixes
  broadcast := s.draft.broadcast
  suppressExceptions := s.draft.suppressExceptions
  rounding := s.draft.rounding

/-- Bytes are read, and nothing else happens. -/
def Advances (s s' : State) : Prop := ∃ p u, s' = { s with pending := p, used := u }

end State

/-- From `s` to `s'` operands of the kinds `ks` are added, the notes change by `note`, and what is
spelled stays. A broken rule marks the state, and a mark stays. -/
structure Effect (ks : List OperandKind) (note : Notes → Notes) (broken : Bool) (s s' : State) :
    Prop where
  spelled : s'.spelled = s.spelled
  kinds : s'.kinds = s.kinds ++ ks
  notes : s'.notes = note s.notes
  marks : s.invalid || broken → s'.invalid

namespace Effect

variable {ks ks' : List OperandKind} {note note' : Notes → Notes} {broken broken' : Bool}
  {s s' s'' : State}

/-- An effect that breaks no rule. -/
theorem plain (hspelled : s'.spelled = s.spelled) (hkinds : s'.kinds = s.kinds ++ ks)
    (hnotes : s'.notes = note s.notes) (hmark : s'.invalid = s.invalid) :
    Effect ks note false s s' :=
  ⟨hspelled, hkinds, hnotes, fun h => by rwa [hmark, ← Bool.or_false s.invalid]⟩

/-- An effect that breaks a rule at most. -/
theorem marked (hspelled : s'.spelled = s.spelled) (hkinds : s'.kinds = s.kinds ++ ks)
    (hnotes : s'.notes = note s.notes) (hmark : s'.invalid = (s.invalid || broken)) :
    Effect ks note broken s s' :=
  ⟨hspelled, hkinds, hnotes, fun h => hmark.trans h⟩

theorem refl (s : State) : Effect [] id false s s :=
  plain rfl (List.append_nil _).symm rfl rfl

/-- **One after the other.** -/
theorem trans (h : Effect ks note broken s s') (h' : Effect ks' note' broken' s' s'') :
    Effect (ks ++ ks') (note' ∘ note) (broken || broken') s s'' where
  spelled := h'.spelled.trans h.spelled
  kinds := by rw [h'.kinds, h.kinds, List.append_assoc]
  notes := by rw [h'.notes, h.notes]; rfl
  marks := by
    intro hmark
    refine h'.marks ?_
    rw [← Bool.or_assoc, Bool.or_eq_true] at hmark
    rw [Bool.or_eq_true]
    exact hmark.imp_left h.marks

/-- A rule, and then what checks none. -/
theorem andThen (h : Effect ks note broken s s') (h' : Effect ks' note' false s' s'') :
    Effect (ks ++ ks') (note' ∘ note) broken s s'' := by
  have hboth := h.trans h'
  rwa [Bool.or_false] at hboth

/-- A forbidden form counts only where the mode checks. -/
theorem forbid (m : Mode) (s : State) (broken : Bool) :
    Effect [] id (m.strict && broken) s (s.forbid m broken) :=
  marked rfl (List.append_nil _).symm rfl rfl

/-- A broken rule is remembered until the end of the instruction. -/
theorem mark (s : State) (broken : Bool) : Effect [] id broken s (s.mark broken) :=
  marked rfl (List.append_nil _).symm rfl rfl

theorem addKind (s : State) (k : OperandKind) : Effect [k] id false s (s.addKind k) :=
  plain rfl List.map_append rfl rfl

theorem addRegister (s : State) (r : Register) : Effect [.register] id false s (s.addRegister r) :=
  plain rfl List.map_append rfl rfl

/-- A rule that may be broken in addition. -/
theorem weaken (h : Effect ks note broken s s') : Effect ks note false s s' where
  spelled := h.spelled
  kinds := h.kinds
  notes := h.notes
  marks := by
    intro hmark
    rw [Bool.or_false] at hmark
    exact h.marks (by rw [hmark, Bool.true_or])

/-- What is noted matters at the notes of the state only. -/
theorem congr_note (h : Effect ks note broken s s') (hnote : note' s.notes = note s.notes) :
    Effect ks note' broken s s' :=
  ⟨h.spelled, h.kinds, h.notes.trans hnote.symm, h.marks⟩

end Effect

section

variable {m : Mode} {s s' : State}

/-! ### Reading -/

/-- What is done after bytes are read. -/
theorem State.Advances.andThen {ks : List OperandKind} {note : Notes → Notes} {broken : Bool}
    {s₁ : State} (h : s.Advances s₁) (h' : Effect ks note broken s₁ s') :
    Effect ks note broken s s' := by
  obtain ⟨p, u, rfl⟩ := h
  exact ⟨h'.spelled, h'.kinds, h'.notes, h'.marks⟩

/-- Reading a byte changes the window and the count. -/
theorem advances_byte {a : UInt8 × State} (h : s.byte = .ok a) : s.Advances a.2 := by
  unfold State.byte at h
  split at h
  · cases h
  · cases h
    exact ⟨_, _, rfl⟩

theorem advances_word {n : Nat} {a : Nat × State} (h : s.word n = .ok a) : s.Advances a.2 := by
  unfold State.word at h
  split at h
  · cases h
    exact ⟨_, _, rfl⟩
  · cases h

/-- The shape of an address costs the index byte at most. -/
theorem advances_addressShape {vectors : Option Register} {a : AddressShape × State}
    (h : s.addressShape m vectors = .ok a) : s.Advances a.2 := by
  by_cases hsize : s.addressSize m = .w16
  · rw [State.addressShape, hsize] at h
    cases h
    exact ⟨_, _, rfl⟩
  · rw [State.addressShape_wide hsize] at h
    dsimp only at h
    split at h
    · obtain ⟨b, hb, h⟩ := bind_eq_ok_iff.mp h
      cases h
      exact advances_byte hb
    · cases h
      exact ⟨_, _, rfl⟩

/-- A memory operand, however its displacement is scaled. -/
theorem effect_readMemory {tuple : TupleType} {vectors : Option Register}
    (h : s.readMemory m tuple vectors = .ok s') : Effect [.memory] id false s s' := by
  rw [readMemory_eq] at h
  obtain ⟨a, ha, h⟩ := bind_eq_ok_iff.mp h
  obtain ⟨b, hb, h⟩ := bind_eq_ok_iff.mp h
  cases h
  refine (advances_addressShape ha).andThen ((advances_word hb).andThen ?_)
  exact .plain rfl List.map_append rfl rfl

theorem effect_readImmediate {k : OperandKind} {n : Nat} (h : s.readImmediate k n = .ok s') :
    Effect [k] id false s s' := by
  obtain ⟨a, ha, h⟩ := bind_eq_ok_iff.mp h
  cases h
  refine (advances_word ha).andThen ?_
  exact .plain rfl List.map_append rfl rfl

theorem advances_readIs4 {base : Register} {a : Register × State} (h : s.readIs4 m base = .ok a) :
    s.Advances a.2 := by
  obtain ⟨b, hb, h⟩ := bind_eq_ok_iff.mp h
  cases h
  exact advances_byte hb

end

/-! ### Steps -/

namespace Step

/-- The kind of an operand that is a register or memory. -/
def formKind (s : State) : OperandKind := if s.registerForm then .register else .memory

/-- The kinds of the operands that a step adds. -/
def kinds (m : Mode) (s : State) : Step → List OperandKind
  | reg _ | narrowReg _ | boundReg | segmentReg _ | controlReg _ | rmRegister _ | rmNumber _
  | vvvv _ | narrowVvvv _ | is4 _ | fixed _ | accumulator _ | opcodeReg _ _ => [.register]
  | rm _ | rmBound | rmVector _ _ _ | rmScalar => [formKind s]
  | mem | memVector _ | memVsib _ _ | memSib | memBound | offsetMemory | tableMemory => [.memory]
  | is4BeforeRm _ => [.register, formKind s]
  | imm8 | one => [.immediate8]
  | imm8Second => [.immediate8Second]
  | imm16 => [.immediate16]
  | imm32 => [.immediate32]
  | immZ sizing =>
      match sizing.size m s with
      | .w16 => [.immediate16]
      | .w32 => [.immediate32]
      | .w64 => [.immediate32to64]
  | imm8Signed sizing => [.extendedOf (sizing.size m s)]
  | immFull sizing => [.immediateOf (sizing.size m s)]
  | rel8 target | relZ _ target => [.nearBranchOf (target.size m s)]
  | far sizing => [.farBranchOf (sizing.size m s)]
  | stringSource => [.stringSourceOf (s.addressSize m)]
  | stringDestination => [.stringDestinationOf (s.addressSize m)]
  | exchange number =>
      if s.pauses m number then []
      else if s.opcodeNumber number = 0 then []
      else [.register, .register]
  | requireRegister | noVvvv | noMask | noZeroing | noB | noRegisterB | noMemoryB | storeZeroing _
  | gatherMask | distinctGather _ | distinctIndex _ | distinctTiles | lockable _ | rounding _ => []

/-- The prefixes after a repeat byte has become a lock elision hint. -/
def elide (rules : LockRules) (mandatory : Mandatory) (p : PrefixSet) : PrefixSet :=
  let hinted := p.lock || rules.hintAlone
  if hinted && mandatory == .pF2 && rules.xacquire then { p with repne := false, xacquire := true }
  else if hinted && mandatory == .pF3 && rules.xrelease then
    { p with rep := false, xrelease := true }
  else p

/-- The notes after a step. -/
def note (m : Mode) (s : State) : Step → Notes → Notes
  | controlReg base, n =>
      if base = .cr0 ∧ (!m.long && s.reg + 8 * s.r.toNat == 0 && n.prefixes.lock) then
        { n with prefixes := { n.prefixes with lock := false }, allowLock := true }
      else n
  | rmVector _ _ broadcast, n =>
      if s.registerForm then n else { n with broadcast := s.evexB && broadcast }
  | rel8 target, n | relZ _ target, n => { n with branch := some (target.size m s) }
  | exchange number, n =>
      if s.pauses m number then { n with prefixes := { n.prefixes with rep := false } } else n
  | lockable rules, n =>
      if s.registerForm then n
      else { n with prefixes := elide rules s.mandatory n.prefixes
                    allowLock := n.allowLock || rules.lock }
  | rounding onlySuppress, n =>
      if s.registerForm && s.evexB then
        if onlySuppress then { n with suppressExceptions := true }
        else { n with rounding := .ofLength s.length }
      else n
  | _, n => n

/-- A rule is broken that asks only for what is spelled. -/
def breaks (m : Mode) (s : State) : Step → Bool
  | segmentReg load => 5 < s.reg || load && s.reg == 1
  | memVsib _ _ => s.lacksIndex m
  | narrowReg _ => m.strict && (s.r || s.rHigh)
  | boundReg => m.strict && 3 < s.reg + 8 * s.r.toNat
  | rmBound => m.strict && (s.registerForm && 3 < s.rm + 8 * s.b.toNat)
  | rmVector _ _ broadcast => m.strict && (!s.registerForm && (s.evexB && !broadcast))
  | memVector _ => m.strict && s.evexB
  | memSib => m.strict && s.lacksIndex m
  | memBound => m.strict && s.addressSize m == .w16
  | narrowVvvv _ => m.strict && 7 < s.vvvvField
  | noVvvv => m.strict && s.vvvvField != 0
  | noMask => m.strict && (s.mask != 0 || s.z)
  | noZeroing => m.strict && s.z
  | noB => m.strict && s.evexB
  | noRegisterB => m.strict && (s.registerForm && s.evexB)
  | noMemoryB => m.strict && (!s.registerForm && s.evexB)
  | storeZeroing allowed => m.strict && (s.z && (!s.registerForm || !allowed))
  | gatherMask => m.strict && (s.mask == 0 || s.z || s.evexB)
  | distinctTiles => m.strict && (s.r || s.b || s.reg == s.rm || s.reg == s.vvvvField
      || s.rm == s.vvvvField)
  | _ => false

/-- The form of the ModRM byte has no meaning. -/
def rejects (s : State) : Step → Bool
  | rmRegister _ | requireRegister => !s.registerForm
  | mem | memVector _ | memVsib _ _ | memSib | memBound => s.registerForm
  | _ => false

end Step

section

variable {m : Mode} {s s' : State}

/-- One operand, whose kind is that of the form. -/
theorem effect_readRm {bank : Bank} (h : s.readRm m bank = .ok s') :
    Effect [Step.formKind s] id false s s' := by
  rw [State.readRm] at h
  rw [Step.formKind]
  by_cases hform : s.registerForm
  · rw [if_pos hform] at h ⊢
    cases h
    exact .addRegister _ _
  · rw [if_neg hform] at h ⊢
    exact effect_readMemory h

/-- It succeeds in the memory form only. -/
theorem effect_readMem {tuple : TupleType} {vectors : Option Register}
    (h : s.readMem m tuple vectors = .ok s') :
    s.registerForm = false ∧ Effect [.memory] id false s s' := by
  rw [State.readMem] at h
  by_cases hform : s.registerForm
  · rw [if_pos hform] at h
    cases h
  · rw [if_neg hform] at h
    exact ⟨Bool.eq_false_iff.mpr hform, effect_readMemory h⟩

/-- A register, where memory is not allowed. -/
theorem of_registerForm {r : Except Stop State}
    (h : (if s.registerForm then r else s.reject) = .ok s') : s.registerForm ∧ r = .ok s' := by
  by_cases hform : s.registerForm
  · rw [if_pos hform] at h
    exact ⟨hform, h⟩
  · rw [if_neg hform] at h
    cases h

theorem effect_readBoundRm (h : s.readBoundRm m = .ok s') :
    Effect [Step.formKind s] id (Step.breaks m s .rmBound) s s' := by
  rw [State.readBoundRm] at h
  rw [Step.formKind, Step.breaks]
  by_cases hform : s.registerForm
  · rw [if_pos hform] at h ⊢
    cases h
    rw [hform, Bool.true_and]
    exact (Effect.forbid m s _).andThen (.addRegister _ _)
  · rw [if_neg hform] at h ⊢
    rw [Bool.eq_false_iff.mpr hform, Bool.false_and, Bool.and_false]
    exact effect_readMemory h

/-- A broadcast is noted, and breaks a rule where the leaf does not allow it. -/
theorem effect_readVectorRm {base : Register} {tuple : TupleType} {broadcast : Bool}
    (h : s.readVectorRm m base tuple broadcast = .ok s') : Effect [Step.formKind s]
      (Step.note m s (.rmVector base tuple broadcast))
      (Step.breaks m s (.rmVector base tuple broadcast)) s s' := by
  rw [State.readVectorRm] at h
  rw [Step.formKind, Step.breaks]
  by_cases hform : s.registerForm
  · rw [if_pos hform] at h ⊢
    cases h
    rw [hform, Bool.not_true, Bool.false_and, Bool.and_false]
    exact (Effect.addRegister _ _).congr_note (if_pos hform)
  · rw [if_neg hform] at h ⊢
    have hbroadcast : Effect [] (fun n => { n with broadcast := s.evexB && broadcast }) false
        (s.forbid m (s.evexB && !broadcast))
        ((s.forbid m (s.evexB && !broadcast)).withBroadcast broadcast) :=
      .plain rfl (List.append_nil _).symm rfl rfl
    rw [Bool.eq_false_iff.mpr hform, Bool.not_false, Bool.true_and]
    exact (((Effect.forbid m s _).andThen hbroadcast).andThen (effect_readMemory h)).congr_note
      (if_neg hform)

theorem effect_readScalarRm (h : s.readScalarRm m = .ok s') :
    Effect [Step.formKind s] id false s s' := by
  rw [State.readScalarRm] at h
  rw [Step.formKind]
  by_cases hform : s.registerForm
  · rw [if_pos hform] at h ⊢
    cases h
    exact .addRegister _ _
  · rw [if_neg hform] at h ⊢
    exact effect_readMemory h

/-- A lock byte that stands for the high number is used up. -/
theorem effect_addControlRegister (base : Register) (s : State) : Effect [.register]
    (Step.note m s (.controlReg base)) false s (s.addControlRegister m base) := by
  have hplain : ∀ broken r, Effect [.register] id false s ((s.forbid m broken).addRegister r) :=
    fun broken r => ((Effect.forbid m s broken).trans (.addRegister _ r)).weaken
  unfold State.addControlRegister
  by_cases hbase : base = .cr0
  · by_cases hlock : !m.long && s.reg + 8 * s.r.toNat == 0 && s.draft.prefixes.lock
    · simp only [if_pos hbase, if_pos hlock]
      exact .plain rfl List.map_append (if_pos ⟨hbase, hlock⟩).symm rfl
    · simp only [if_pos hbase, if_neg hlock]
      exact (hplain _ _).congr_note (if_neg fun h => hlock h.2)
  · simp only [if_neg hbase]
    exact (hplain _ _).congr_note (if_neg fun h => hbase h.1)

/-- A pause has no operands. -/
theorem effect_exchange (number : UInt32) (s : State) : Effect (Step.kinds m s (.exchange number))
    (Step.note m s (.exchange number)) false s (s.exchange m number) := by
  simp only [State.exchange, Step.kinds]
  split
  · rename_i hpause
    exact .plain rfl (List.append_nil _).symm (if_pos hpause).symm rfl
  · rename_i hpause
    split
    · exact .plain rfl (List.append_nil _).symm (if_neg hpause).symm rfl
    · exact ((Effect.addRegister _ _).trans (.addRegister _ _)).congr_note (if_neg hpause)

/-- What elision does to the prefixes. -/
theorem State.elide_eq (rules : LockRules) (s : State) :
    s.elide rules = s.setPrefixes (Step.elide rules s.mandatory s.draft.prefixes) := by
  simp only [State.elide, Step.elide, apply_ite (State.setPrefixes · s)]
  rfl

/-- The lock rules change the notes only. -/
theorem effect_applyLock (rules : LockRules) (s : State) : Effect []
    (Step.note m s (.lockable rules)) false s (s.applyLock rules) := by
  by_cases hform : s.registerForm
  · rw [State.applyLock, if_pos hform]
    exact (Effect.refl s).congr_note (if_pos hform)
  · have hlock : s.applyLock rules = (s.elide rules).allowLocks rules := if_neg hform
    have hspelled : (s.elide rules).spelled = s.spelled := by
      unfold State.elide
      simp only []
      split
      · rfl
      · split <;> rfl
    rw [hlock]
    rw [s.elide_eq] at hspelled ⊢
    exact .plain hspelled (List.append_nil _).symm (if_neg hform).symm rfl

/-- So does rounding. -/
theorem effect_applyRounding (onlySuppress : Bool) (s : State) : Effect []
    (Step.note m s (.rounding onlySuppress)) false s (s.applyRounding onlySuppress) := by
  unfold State.applyRounding
  by_cases hb : s.registerForm && s.evexB
  · rw [if_pos hb]
    cases onlySuppress <;> exact .plain rfl (List.append_nil _).symm (if_pos hb).symm rfl
  · rw [if_neg hb]
    exact (Effect.refl s).congr_note (if_neg hb)

/-- Reads a branch displacement; the width of the target is noted. -/
theorem effect_readBranch {n : Nat} {size : Size} (h : s.readBranch n size = .ok s') :
    Effect [.nearBranchOf size] (fun n => { n with branch := some size }) false s s' := by
  obtain ⟨a, ha, h⟩ := bind_eq_ok_iff.mp h
  cases h
  refine (advances_word ha).andThen ?_
  exact .plain rfl List.map_append rfl rfl

theorem effect_readFar {size : Size} (h : s.readFar size = .ok s') :
    Effect [.farBranchOf size] id false s s' := by
  obtain ⟨a, ha, h⟩ := bind_eq_ok_iff.mp h
  obtain ⟨b, hb, h⟩ := bind_eq_ok_iff.mp h
  cases h
  refine (advances_word ha).andThen ((advances_word hb).andThen ?_)
  exact .plain rfl List.map_append rfl rfl

/-- The register is placed before the operand that is read first. -/
theorem effect_is4BeforeRm {base : Register} (h : (Step.is4BeforeRm base).run m s = .ok s') :
    Effect [.register, Step.formKind s] id false s s' := by
  obtain ⟨s₁, h₁, h⟩ := bind_eq_ok_iff.mp h
  obtain ⟨⟨r, s₂⟩, h₂, h⟩ := bind_eq_ok_iff.mp h
  cases h
  have hrm := effect_readRm h₁
  obtain ⟨hspelled, hkinds, hnotes, hmarks⟩ := (advances_readIs4 h₂).andThen (Effect.refl _)
  refine ⟨hspelled.trans hrm.spelled, ?_, hnotes.trans hrm.notes, fun hmark => hmarks ?_⟩
  · have hafter : (s₂.draft.operands.map (·.kind)).drop s.draft.operands.length
        = [Step.formKind s] := by
      rw [List.append_nil, hrm.kinds] at hkinds
      rw [show s₂.draft.operands.map (·.kind) = _ from hkinds]
      exact List.drop_left' (List.length_map _)
    show (s.draft.operands ++ ⟨.register, r⟩ :: s₂.draft.operands.drop _).map (·.kind) = _
    rw [List.map_append, List.map_cons, List.map_drop, hafter]
    rfl
  · rw [hrm.marks hmark, Bool.true_or]

/-- **What a step does.** -/
theorem effect_step {step : Step} (h : step.run m s = .ok s') : step.rejects s = false ∧
    Effect (step.kinds m s) (step.note m s) (step.breaks m s) s s' := by
  cases step with
  -- registers that the fields read so far name
  | reg | rmNumber | vvvv | fixed | accumulator | opcodeReg =>
      cases h
      exact ⟨rfl, .addRegister _ _⟩
  | narrowReg | boundReg | segmentReg | narrowVvvv =>
      cases h
      exact ⟨rfl, .marked rfl List.map_append rfl rfl⟩
  | controlReg base => cases h; exact ⟨rfl, effect_addControlRegister base s⟩
  | exchange number => cases h; exact ⟨rfl, effect_exchange number s⟩
  | rmRegister bank =>
      obtain ⟨hform, h⟩ := of_registerForm h
      cases h
      exact ⟨congrArg not hform, .addRegister _ _⟩
  | requireRegister =>
      obtain ⟨hform, h⟩ := of_registerForm h
      cases h
      exact ⟨congrArg not hform, .refl s⟩
  -- memory
  | rm bank => exact ⟨rfl, effect_readRm h⟩
  | rmBound => exact ⟨rfl, effect_readBoundRm h⟩
  | rmVector base tuple broadcast => exact ⟨rfl, effect_readVectorRm h⟩
  | rmScalar => exact ⟨rfl, effect_readScalarRm h⟩
  | mem => exact effect_readMem h
  | memVector tuple =>
      obtain ⟨hform, heffect⟩ := effect_readMem h
      exact ⟨hform, (Effect.forbid m s _).andThen heffect⟩
  | memVsib base tuple =>
      obtain ⟨hform, heffect⟩ := effect_readMem h
      exact ⟨hform, (Effect.mark s _).andThen heffect⟩
  | memSib =>
      obtain ⟨hform, heffect⟩ := effect_readMem h
      exact ⟨hform, (Effect.forbid m s _).andThen heffect⟩
  | memBound =>
      obtain ⟨s₁, h₁, h⟩ := bind_eq_ok_iff.mp h
      cases h
      obtain ⟨hform, heffect⟩ := effect_readMem h₁
      exact ⟨hform, ((Effect.forbid m s _).andThen heffect).andThen (Effect.forbid m s₁ _).weaken⟩
  | offsetMemory =>
      obtain ⟨a, ha, h⟩ := bind_eq_ok_iff.mp h
      cases h
      refine ⟨rfl, (advances_word ha).andThen ?_⟩
      exact .plain rfl List.map_append rfl rfl
  | tableMemory => cases h; exact ⟨rfl, .plain rfl List.map_append rfl rfl⟩
  -- immediates and branches
  | imm8 | imm16 | imm32 | imm8Signed | immFull => exact ⟨rfl, effect_readImmediate h⟩
  | immZ sizing =>
      simp only [Step.run] at h
      simp only [Step.kinds]
      cases hsize : sizing.size m s <;> rw [hsize] at h <;> exact ⟨rfl, effect_readImmediate h⟩
  | imm8Second =>
      obtain ⟨a, ha, h⟩ := bind_eq_ok_iff.mp h
      cases h
      refine ⟨rfl, (advances_byte ha).andThen ?_⟩
      exact .plain rfl List.map_append rfl rfl
  | one => cases h; exact ⟨rfl, .plain rfl List.map_append rfl rfl⟩
  | is4 base =>
      obtain ⟨a, ha, h⟩ := bind_eq_ok_iff.mp h
      cases h
      exact ⟨rfl, (advances_readIs4 ha).andThen (.addRegister _ _)⟩
  | is4BeforeRm base => exact ⟨rfl, effect_is4BeforeRm h⟩
  | rel8 target => exact ⟨rfl, effect_readBranch h⟩
  | relZ width target => exact ⟨rfl, effect_readBranch h⟩
  | far sizing => exact ⟨rfl, effect_readFar h⟩
  | stringSource | stringDestination => cases h; exact ⟨rfl, .addKind _ _⟩
  -- rules and effects
  | noVvvv | noMask | noZeroing | noB | noRegisterB | noMemoryB | storeZeroing | gatherMask
  | distinctTiles => cases h; exact ⟨rfl, .forbid m s _⟩
  | distinctGather | distinctIndex => cases h; exact ⟨rfl, (Effect.forbid m s _).weaken⟩
  | lockable rules => cases h; exact ⟨rfl, effect_applyLock rules s⟩
  | rounding onlySuppress => cases h; exact ⟨rfl, effect_applyRounding onlySuppress s⟩

end

/-! ### Plans -/

section

variable {m : Mode} {s s' : State}

/-- What a step does depends on what is spelled only. -/
theorem Step.kinds_of_spelled (h : s'.spelled = s.spelled) (step : Step) :
    step.kinds m s' = step.kinds m s := by
  show step.kinds m s'.spelled = step.kinds m s.spelled
  rw [h]

@[inherit_doc Step.kinds_of_spelled]
theorem Step.note_of_spelled (h : s'.spelled = s.spelled) (step : Step) :
    step.note m s' = step.note m s := by
  show step.note m s'.spelled = step.note m s.spelled
  rw [h]

@[inherit_doc Step.kinds_of_spelled]
theorem Step.breaks_of_spelled (h : s'.spelled = s.spelled) (step : Step) :
    step.breaks m s' = step.breaks m s := by
  show step.breaks m s'.spelled = step.breaks m s.spelled
  rw [h]

@[inherit_doc Step.kinds_of_spelled]
theorem Step.rejects_of_spelled (h : s'.spelled = s.spelled) (step : Step) :
    step.rejects s' = step.rejects s := by
  show step.rejects s'.spelled = step.rejects s.spelled
  rw [h]

/-- What steps do one after the other. -/
structure RunsTo (m : Mode) (steps : List Step) (s s' : State) : Prop where
  rejects : ∀ step ∈ steps, step.rejects s = false
  effect : Effect (steps.flatMap (·.kinds m s))
    (fun n => steps.foldl (fun n step => step.note m s n) n) (steps.any (·.breaks m s)) s s'

/-- **What a plan does.** -/
theorem runsTo_steps : ∀ {steps : List Step} {s : State}, runSteps m steps s = .ok s' →
    RunsTo m steps s s'
  | [], s, h => by
      cases h
      exact ⟨fun _ hstep => absurd hstep List.not_mem_nil, .refl _⟩
  | step :: rest, s, h => by
      obtain ⟨s₁, h₁, h⟩ := bind_eq_ok_iff.mp h
      obtain ⟨hstep, heffect⟩ := effect_step h₁
      obtain ⟨hrest, heffects⟩ := runsTo_steps h
      simp only [Step.kinds_of_spelled heffect.spelled, Step.note_of_spelled heffect.spelled,
        Step.breaks_of_spelled heffect.spelled, Step.rejects_of_spelled heffect.spelled]
        at hrest heffects
      exact ⟨List.forall_mem_cons.mpr ⟨hstep, hrest⟩, heffect.trans heffects⟩

/-! ### Nodes that fill in operands -/

/-- The steps of a node that fills in operands. -/
def Node.steps : Node → List Step
  | .leaf l => l.plan.steps
  | .trailing _ => [.reg (.low .mm0), .rm (.low .mm0)]
  | _ => []

/-- The code is no part of what steps do. -/
theorem RunsTo.of_setCode {steps : List Step} {c : Code} (h : RunsTo m steps (s.setCode c) s') :
    RunsTo m steps s s' :=
  ⟨h.rejects, h.effect.spelled, h.effect.kinds, h.effect.notes, h.effect.marks⟩

/-- The byte that spells the code adds nothing to the effect of the operands. -/
theorem RunsTo.readTrailing {steps : List Step} {codes : List (UInt8 × Code)} {s₁ : State}
    (h : RunsTo m steps s s₁) (h₁ : Tables.readTrailing codes s₁ = .ok s') :
    RunsTo m steps s s' := by
  obtain ⟨⟨b, s₂⟩, h₂, h₁⟩ := bind_eq_ok_iff.mp h₁
  have hcode : ∃ c, s₂.setCode c = s' := by
    dsimp only at h₁
    split at h₁
    · split at h₁
      · cases h₁
      · exact ⟨_, Except.ok.inj h₁⟩
    · cases h₁
  obtain ⟨c, rfl⟩ := hcode
  obtain ⟨p, u, rfl⟩ : s₁.Advances s₂ := advances_byte h₂
  exact ⟨h.rejects, h.effect.spelled, h.effect.kinds, h.effect.notes, h.effect.marks⟩

/-- **What a node does that fills in operands.** It ends the walk. -/
theorem runsTo_route {t : Tables} {n : Node} (hfills : n.fillsOperands) {b : State × Next}
    (h : t.route m n s = .ok b) : b.2 = .done ∧ RunsTo m n.steps s b.1 := by
  cases n with
  | leaf l =>
      obtain ⟨s', hrun, hb⟩ := bind_eq_ok_iff.mp h
      cases hb
      exact ⟨rfl, (runsTo_steps hrun).of_setCode⟩
  | trailing codes =>
      obtain ⟨s', hrun, hb⟩ := bind_eq_ok_iff.mp h
      cases hb
      rw [runTrailing_eq] at hrun
      obtain ⟨s₁, h₁, hrun⟩ := bind_eq_ok_iff.mp hrun
      exact ⟨rfl, (runsTo_steps h₁).readTrailing hrun⟩
  | _ => cases hfills

end

end OpcodeForest
