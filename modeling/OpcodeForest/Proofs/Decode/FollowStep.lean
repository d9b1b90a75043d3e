import OpcodeForest.Proofs.Decode.Follow

/-!
# Steps followed

Each step of a plan is followed by the same step in a mode that relaxes the checks, and so is
the plan of a leaf. The steps that only write to the draft do so alike; a broken rule leaves a mark
in the second run only if it leaves one in the first.

* `follows_readMemory`: a memory operand is read from the same bytes.
* `follows_step`, `follows_leaf`: one step, and the steps of a leaf.
-/

namespace OpcodeForest

open HasState

variable {m' m : Mode}

/-! ### Memory operands -/

/-- The address of a ModRM byte without an index byte is read off bits that both states share. -/
theorem Mode.Relaxes.plain (h : m'.Relaxes m) {s : State} {p : List UInt8} {i : Bool}
    (gpr : Register) :
    AddressShape.plain m' (s.alter p i) gpr = AddressShape.plain m s gpr := by
  simp only [AddressShape.plain, h.long, h.addressSize]
  rfl

/-- So is the address of an index byte. -/
theorem Mode.Relaxes.indexed (h : m'.Relaxes m) {s : State} {p : List UInt8} {i : Bool}
    (gpr : Register) (vectors : Option Register) (sib : UInt8) :
    AddressShape.indexed m' (s.alter p i) gpr vectors sib
      = AddressShape.indexed m s gpr vectors sib := by
  simp only [AddressShape.indexed, AddressShape.indexOf, h.long]
  rfl

/-- The shape of an address. The 16-bit addresses read no index byte. -/
theorem follows_addressShape (h : m'.Relaxes m) (vectors : Option Register) (s : State) :
    Follows s (s.addressShape m vectors) fun p i => (s.alter p i).addressShape m' vectors := by
  unfold State.addressShape
  simp only [h.addressSize]
  -- 16-bit addresses have no index byte
  cases s.addressSize m with
  | w16 => exact .plain rfl rfl rfl fun _ _ => rfl
  | w32 | w64 =>
      refine .ite (fun _ => ?_) fun _ => ?_
      · exact (follows_byte s).bind fun ⟨sib, s⟩ => .plain rfl rfl rfl fun p i =>
          congrArg (fun shape => Except.ok (shape, s.alter p i)) (h.indexed _ vectors sib)
      · exact .plain rfl rfl rfl fun p i =>
          congrArg (fun shape => Except.ok (shape, s.alter p i)) (h.plain _)

/-- The memory operand of a shape, whose displacement is the number `n` times `scale`. -/
def State.addMemory (m : Mode) (shape : AddressShape) (scale n : Nat) (s : State) : State :=
  let size := s.addressSize m
  let memory : MemoryOperand :=
    { base := shape.base
      index := shape.index
      scale := shape.scale
      displacement := wrap size.bits (signed (8 * shape.displacementSize) n * scale)
      displacementSize := shape.displacementSize }
  { s with ipRelative := if shape.ipRelative then some size else none
           draft := { s.draft with memory } }.addKind .memory

/-- A memory operand as a sequence: shape, displacement, operand. -/
theorem readMemory_eq (tuple : TupleType) (vectors : Option Register) (s : State) :
    s.readMemory m tuple vectors = s.addressShape m vectors >>= fun a =>
      a.2.word a.1.displacementSize >>= fun b => .ok (b.2.addMemory m a.1
        (a.2.displacementScale tuple a.1.displacementSize) b.1) := rfl

/-- **A memory operand is read from the same bytes.** -/
theorem follows_readMemory (h : m'.Relaxes m) (tuple : TupleType) (vectors : Option Register)
    (s : State) :
    Follows s (s.readMemory m tuple vectors) fun p i =>
      (s.alter p i).readMemory m' tuple vectors := by
  simp only [readMemory_eq]
  refine (follows_addressShape h vectors s).bind fun ⟨shape, s⟩ => ?_
  have hscale : ∀ p i, (s.alter p i).displacementScale tuple shape.displacementSize
      = s.displacementScale tuple shape.displacementSize := fun _ _ => rfl
  simp only [alter, hscale]
  refine (follows_word shape.displacementSize s).bind fun ⟨n, s⟩ =>
    .plain rfl rfl rfl fun p i => ?_
  simp only [alter, State.addMemory, h.addressSize]
  rfl

/-! ### Operands -/

/-- A register of a bank, by a number that both states spell. -/
theorem follows_register (h : m'.Relaxes m) (bank : Bank) (n : Nat) (s : State) :
    Follows s (.ok (s.addRegister (bank.register m s n))) fun p i =>
      .ok ((s.alter p i).addRegister (bank.register m' (s.alter p i) n)) :=
  .plain rfl rfl rfl fun p i =>
    congrArg (fun r => Except.ok ((s.alter p i).addRegister r)) (h.register bank n)

/-- The register of the `rm` field. -/
theorem follows_rmRegister (h : m'.Relaxes m) (bank : Bank) (s : State) :
    Follows s (.ok (s.addRegister (bank.register m s (bank.rmNumber s)))) fun p i =>
      .ok ((s.alter p i).addRegister
        (bank.register m' (s.alter p i) (bank.rmNumber (s.alter p i)))) := by
  cases bank <;> exact follows_register h _ _ s

/-- A register or memory operand. -/
theorem follows_readRm (h : m'.Relaxes m) (bank : Bank) (s : State) :
    Follows s (s.readRm m bank) fun p i => (s.alter p i).readRm m' bank :=
  .ite (fun _ => follows_rmRegister h bank s) fun _ => follows_readMemory h .n1 none s

theorem follows_readBoundRm (h : m'.Relaxes m) (s : State) :
    Follows s (s.readBoundRm m) fun p i => (s.alter p i).readBoundRm m' :=
  .ite (fun _ => .marked (h.check _) rfl rfl rfl fun _ _ => rfl)
    fun _ => follows_readMemory h .n1 none s

/-- A mark before a computation. -/
theorem follows_mark {β : Type} [HasState β] {bad bad' : Bool} (hbad : bad' → bad)
    {k l : State → Except Stop β} (hk : ∀ s, Follows s (k s) fun p i => l (s.alter p i))
    (s : State) : Follows s (k (s.mark bad)) fun p i => l ((s.alter p i).mark bad') := by
  have hmark : Follows s (.ok (s.mark bad)) fun p i => .ok ((s.alter p i).mark bad') :=
    .marked hbad rfl rfl rfl fun _ _ => rfl
  exact hmark.bind hk

/-- A memory operand is broadcast if the `b` bit asks for it and the instruction allows it. -/
def State.withBroadcast (allowed : Bool) (s : State) : State :=
  { s with draft := { s.draft with broadcast := s.evexB && allowed } }

/-- A vector operand. A broadcast that is not allowed counts only where the mode checks for it. -/
theorem follows_readVectorRm (h : m'.Relaxes m) (base : Register) (tuple : TupleType)
    (broadcast : Bool) (s : State) :
    Follows s (s.readVectorRm m base tuple broadcast) fun p i =>
      (s.alter p i).readVectorRm m' base tuple broadcast := by
  have hmemory : ∀ s : State, Follows s ((s.withBroadcast broadcast).readMemory m tuple none)
      fun p i => ((s.alter p i).withBroadcast broadcast).readMemory m' tuple none := fun s => by
    have hdraft : Follows s (.ok (s.withBroadcast broadcast))
        fun p i => .ok ((s.alter p i).withBroadcast broadcast) := .plain rfl rfl rfl fun _ _ => rfl
    exact hdraft.bind (follows_readMemory h tuple none)
  have hchecked := follows_mark (h.check (s.evexB && !broadcast))
    (l := fun s => (s.withBroadcast broadcast).readMemory m' tuple none) hmemory s
  exact .ite (fun _ => follows_rmRegister h (.vector base) s) fun _ => hchecked

theorem follows_readScalarRm (h : m'.Relaxes m) (s : State) :
    Follows s (s.readScalarRm m) fun p i => (s.alter p i).readScalarRm m' := by
  refine .ite (fun _ => follows_rmRegister h (.gpr .longW) s) fun _ => ?_
  simp only [h.size]
  exact follows_readMemory h _ none s

/-- An operand that has to be memory. The register form is rejected in both runs. -/
theorem follows_readMem (h : m'.Relaxes m) (tuple : TupleType) (vectors : Option Register)
    (s : State) :
    Follows s (s.readMem m tuple vectors) fun p i => (s.alter p i).readMem m' tuple vectors :=
  .ite (fun _ => .rejected s) fun _ => follows_readMemory h tuple vectors s

/-- An immediate is stored as it is spelled, whatever the mode. -/
theorem follows_readImmediate (k : OperandKind) (n : Nat) (s : State) :
    Follows s (s.readImmediate k n) fun p i => (s.alter p i).readImmediate k n :=
  (follows_word n s).bind fun _ => .plain rfl rfl rfl fun _ _ => rfl

/-- A register in the high bits of an immediate byte. -/
theorem follows_readIs4 (h : m'.Relaxes m) (base : Register) (s : State) :
    Follows s (s.readIs4 m base) fun p i => (s.alter p i).readIs4 m' base := by
  unfold State.readIs4
  simp only [h.long]
  exact (follows_byte s).bind fun _ => .plain rfl rfl rfl fun _ _ => rfl

theorem follows_readBranch (n : Nat) (size : Size) (s : State) :
    Follows s (s.readBranch n size) fun p i => (s.alter p i).readBranch n size :=
  (follows_word n s).bind fun _ => .plain rfl rfl rfl fun _ _ => rfl

theorem follows_readFar (size : Size) (s : State) :
    Follows s (s.readFar size) fun p i => (s.alter p i).readFar size :=
  (follows_word _ s).bind fun b => (follows_word 2 b.2).bind fun _ =>
    .plain rfl rfl rfl fun _ _ => rfl

/-- A memory operand without a ModRM byte, at an offset as wide as addresses are. -/
theorem follows_readOffset (h : m'.Relaxes m) (s : State) :
    Follows s (s.readOffset m) fun p i => (s.alter p i).readOffset m' := by
  unfold State.readOffset
  simp only [h.addressSize]
  exact (follows_word _ s).bind fun _ => .plain rfl rfl rfl fun _ _ => rfl

/-- A control or debug register. A number that does not exist counts only where the mode checks. -/
theorem follows_controlRegister (h : m'.Relaxes m) (base : Register) (s : State) :
    Follows s (.ok (s.addControlRegister m base)) fun p i =>
      .ok ((s.alter p i).addControlRegister m' base) := by
  unfold State.addControlRegister
  simp only [h.long, apply_ite Except.ok]
  refine .ite (fun _ => .ite (fun _ => ?_) fun _ => ?_) fun _ => ?_
  · exact .plain rfl rfl rfl fun _ _ => rfl
  all_goals exact .marked (h.check _) rfl rfl rfl fun _ _ => rfl

/-- An exchange with the accumulator, which may turn out to be a pause. -/
theorem follows_exchange (h : m'.Relaxes m) (number : UInt32) (s : State) :
    Follows s (.ok (s.exchange m number)) fun p i => .ok ((s.alter p i).exchange m' number) := by
  have hpauses (p : List UInt8) (i : Bool) :
      (s.alter p i).pauses m' number = s.pauses m number := by
    rw [State.pauses, State.pauses, h.noPause]
    rfl
  unfold State.exchange
  simp only [hpauses, h.operandSize, apply_ite Except.ok]
  refine .ite (fun _ => ?_) fun _ => .ite (fun _ => ?_) fun _ => ?_
  all_goals exact .plain rfl rfl rfl fun _ _ => rfl

/-- The repeat bytes as lock elision hints. -/
def State.elide (rules : LockRules) (s : State) : State :=
  let p := s.draft.prefixes
  let hinted := p.lock || rules.hintAlone
  if hinted && s.mandatory == .pF2 && rules.xacquire then
    s.setPrefixes { p with repne := false, xacquire := true }
  else if hinted && s.mandatory == .pF3 && rules.xrelease then
    s.setPrefixes { p with rep := false, xrelease := true }
  else s

/-- A lock byte is allowed if the rules say so. -/
def State.allowLocks (rules : LockRules) (s : State) : State :=
  { s with allowLock := s.allowLock || rules.lock }

theorem follows_elide (rules : LockRules) (s : State) :
    Follows s (.ok (s.elide rules)) fun p i => .ok ((s.alter p i).elide rules) := by
  unfold State.elide
  simp only [apply_ite Except.ok]
  refine .ite (fun _ => ?_) fun _ => .ite (fun _ => ?_) fun _ => ?_
  all_goals exact .plain rfl rfl rfl fun _ _ => rfl

/-- What the lock and repeat prefixes do to an instruction that stores to memory. -/
theorem follows_applyLock (rules : LockRules) (s : State) :
    Follows s (.ok (s.applyLock rules)) fun p i => .ok ((s.alter p i).applyLock rules) := by
  have hallow : ∀ s : State, Follows s (.ok (s.allowLocks rules))
      fun p i => .ok ((s.alter p i).allowLocks rules) := fun s => .plain rfl rfl rfl fun _ _ => rfl
  unfold State.applyLock
  simp only [apply_ite Except.ok]
  exact .ite (fun _ => .plain rfl rfl rfl fun _ _ => rfl)
    fun _ => (follows_elide rules s).bind (l := Except.ok ∘ State.allowLocks rules) hallow

/-- The rounding mode that the length bits of an EVEX payload spell. -/
theorem follows_applyRounding (onlySuppress : Bool) (s : State) :
    Follows s (.ok (s.applyRounding onlySuppress)) fun p i =>
      .ok ((s.alter p i).applyRounding onlySuppress) := by
  unfold State.applyRounding
  simp only [apply_ite Except.ok]
  refine .ite (fun _ => .ite (fun _ => ?_) fun _ => ?_) fun _ => ?_
  all_goals exact .plain rfl rfl rfl fun _ _ => rfl

/-! ### Steps -/

/-- An index byte is missing in both runs or in none. -/
theorem Mode.Relaxes.lacksIndex (h : m'.Relaxes m) {s : State} {p : List UInt8} {i : Bool} :
    (s.alter p i).lacksIndex m' = s.lacksIndex m := by
  rw [State.lacksIndex, State.lacksIndex, h.addressSize]
  rfl

/-- **A step is followed by the same step.** -/
theorem follows_step (h : m'.Relaxes m) (step : Step) (s : State) :
    Follows s (step.run m s) fun p i => step.run m' (s.alter p i) := by
  cases step with
  -- operands that the fields read so far name
  | reg bank => cases bank <;> exact follows_register h _ _ s
  | rmNumber bank => exact follows_rmRegister h bank s
  | rmRegister bank => exact .ite (fun _ => follows_rmRegister h bank s) fun _ => .rejected s
  | opcodeReg bank number => exact follows_register h bank _ s
  | controlReg base => exact follows_controlRegister h base s
  | exchange number => exact follows_exchange h number s
  | vvvv bank =>
      simp only [Step.run, h.vvvv]
      exact follows_register h bank _ s
  | accumulator sizing =>
      simp only [Step.run, h.size]
      exact .plain rfl rfl rfl fun _ _ => rfl
  | stringSource | stringDestination =>
      simp only [Step.run, h.addressSize]
      exact .plain rfl rfl rfl fun _ _ => rfl
  | tableMemory =>
      simp only [Step.run, State.addTableMemory, h.addressSize]
      exact .plain rfl rfl rfl fun _ _ => rfl
  | fixed | one => exact .plain rfl rfl rfl fun _ _ => rfl
  -- operands in memory
  | rm bank => exact follows_readRm h bank s
  | rmBound => exact follows_readBoundRm h s
  | rmVector base tuple broadcast => exact follows_readVectorRm h base tuple broadcast s
  | rmScalar => exact follows_readScalarRm h s
  | mem => exact follows_readMem h .n1 none s
  | memVector tuple => exact follows_mark (h.check _) (follows_readMem h tuple none) s
  | memVsib base tuple =>
      simp only [Step.run, h.lacksIndex]
      exact follows_mark id (follows_readMem h tuple (some base)) s
  | memSib =>
      simp only [Step.run, h.lacksIndex]
      exact follows_mark (h.check _) (follows_readMem h .n1 none) s
  | memBound =>
      simp only [Step.run, h.addressSize]
      exact (follows_mark (h.check _) (follows_readMem h .n1 none) s).bind
        fun _ => .marked (h.check _) rfl rfl rfl fun _ _ => rfl
  | offsetMemory => exact follows_readOffset h s
  -- immediates and branches
  | imm8 | imm16 | imm32 => exact follows_readImmediate _ _ s
  | imm8Second => exact (follows_byte s).bind fun _ => .plain rfl rfl rfl fun _ _ => rfl
  | immZ sizing =>
      simp only [Step.run, h.size]
      cases sizing.size m s <;> exact follows_readImmediate _ _ s
  | imm8Signed sizing | immFull sizing =>
      simp only [Step.run, h.size]
      exact follows_readImmediate _ _ s
  | is4 base =>
      exact (follows_readIs4 h base s).bind fun _ => .plain rfl rfl rfl fun _ _ => rfl
  | is4BeforeRm base =>
      have hbefore : ∀ p i, (s.alter p i).draft.operands = s.draft.operands := fun _ _ => rfl
      simp only [Step.run, hbefore]
      exact (follows_readRm h (.file base) s).bind fun s => (follows_readIs4 h base s).bind
        fun _ => .plain rfl rfl rfl fun _ _ => rfl
  | rel8 target =>
      simp only [Step.run, h.size]
      exact follows_readBranch _ _ s
  | relZ width target =>
      simp only [Step.run, h.size]
      exact follows_readBranch _ _ s
  | far sizing =>
      simp only [Step.run, h.size]
      exact follows_readFar _ s
  -- rules and effects
  | requireRegister =>
      exact .ite (fun _ => .plain rfl rfl rfl fun _ _ => rfl) fun _ => .rejected s
  | segmentReg load => exact .marked id rfl rfl rfl fun _ _ => rfl
  | distinctGather base =>
      simp only [Step.run, h.vvvv]
      exact .marked (h.check _) rfl rfl rfl fun _ _ => rfl
  | narrowReg | boundReg | narrowVvvv | noVvvv | noMask | noZeroing | noB | noRegisterB
  | noMemoryB | storeZeroing | gatherMask | distinctIndex | distinctTiles =>
      exact .marked (h.check _) rfl rfl rfl fun _ _ => rfl
  | lockable rules => exact follows_applyLock rules s
  | rounding onlySuppress => exact follows_applyRounding onlySuppress s

/-- The steps of a plan, by induction on their list. -/
theorem follows_steps (h : m'.Relaxes m) : ∀ (steps : List Step) (s : State),
    Follows s (runSteps m steps s) fun p i => runSteps m' steps (s.alter p i)
  | [], _ => .plain rfl rfl rfl fun _ _ => rfl
  | step :: rest, s => (follows_step h step s).bind (follows_steps h rest)

/-- **A leaf is followed by the same leaf.** -/
theorem follows_leaf (h : m'.Relaxes m) (l : Leaf) (s : State) :
    Follows s (l.run m s) fun p i => l.run m' (s.alter p i) := by
  unfold Leaf.run
  simp only [h.pick]
  have hcode : Follows s (.ok (s.setCode (l.plan.code.pick m s l))) fun p i =>
      .ok ((s.alter p i).setCode (l.plan.code.pick m s l)) := .plain rfl rfl rfl fun _ _ => rfl
  exact hcode.bind (follows_steps h l.plan.steps)

end OpcodeForest
