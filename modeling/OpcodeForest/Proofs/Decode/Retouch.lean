import OpcodeForest.Proofs.Decode.FollowWalk

/-!
# Runs retouched

No step looks at the rank of the segment byte or at the number of bytes read before, and none asks
where the memory operand points to. So a run from a state where these are changed is the same run,
with its result changed alike; and since they can be changed to anything, a run leaves them as they
are. Steps that fill in the memory operand are apart: around those the operand has to stay.

* `Touch`, `State.retouch`: the change.
* `Step.run_retouch`, `runSteps_retouch`: steps.
* `route_retouch`: one node. In 64-bit mode the rank of a segment byte has an effect, so there it
  has to stay.
* `walk_retouch`: a walk.
* `target_of_retouch`, `target_route`: what a run leaves as it is.
-/

namespace OpcodeForest

/-- Where a memory operand points to, its index apart. -/
structure Target where
  ipRelative : Option Size
  base : Register
  displacement : UInt64

def State.target (s : State) : Target :=
  ⟨s.ipRelative, s.draft.memory.base, s.draft.memory.displacement⟩

/-- A change that runs do not notice: a strong segment byte, another target, more bytes before. -/
structure Touch where
  strong : Bool := false
  target : Target → Target := id
  more : Nat := 0

namespace State

def retouch (c : Touch) (s : State) : State :=
  { s with
      used := s.used + c.more
      strongSegment := c.strong || s.strongSegment
      ipRelative := (c.target s.target).ipRelative
      draft := { s.draft with
        memory := { s.draft.memory with
          base := (c.target s.target).base, displacement := (c.target s.target).displacement } } }

end State

namespace Touch

/-- Another target. -/
def aim (f : Target → Target) : Touch := { target := f }

/-- A strong segment byte. -/
def strengthen : Touch := { strong := true }

/-- One more byte before. -/
def delay : Touch := { more := 1 }

/-- The outcome of a run after the change, whose result is changed by `g`. -/
def outcome {α : Type} (c : Touch) (g : α → α) : Except Stop α → Except Stop α
  | .ok a => .ok (g a)
  | .error (.rejected used) => .error (.rejected (used + c.more))
  | .error .starved => .error .starved
  | .error .circular => .error .circular

end Touch

namespace Step

/-- The step fills in the memory operand. -/
def fillsMemory : Step → Bool
  | rm _ | rmBound | rmVector _ _ _ | rmScalar | mem | memVector _ | memVsib _ _ | memSib | memBound
  | is4BeforeRm _ | offsetMemory | tableMemory => true
  | _ => false

end Step

/-- A computation after one whose result is changed. -/
theorem bind_outcome {α β : Type} {c : Touch} {x : Except Stop α} {g : α → α}
    {k : α → Except Stop β} {h : β → β} (hk : ∀ a, k (g a) = c.outcome h (k a)) :
    (c.outcome g x >>= k) = c.outcome h (x >>= k) := by
  cases x with
  | error e => cases e <;> rfl
  | ok a => exact hk a

section

variable {m : Mode} {c : Touch} {s : State}

/-- Widths are read off the mode and the prefixes. -/
theorem size_retouch (sizing : Sizing) : sizing.size m (s.retouch c) = sizing.size m s := by
  cases sizing <;> rfl

/-- A register of a bank is named by a number and the extensions. -/
theorem register_retouch (bank : Bank) (n : Nat) :
    bank.register m (s.retouch c) n = bank.register m s n := by
  cases bank with
  | gpr sizing =>
      simp only [Bank.register, Bank.first, size_retouch]
      rfl
  | _ => rfl

theorem regNumber_retouch (bank : Bank) :
    bank.regNumber (s.retouch c) = bank.regNumber s := by
  cases bank <;> rfl

theorem rmNumber_retouch (bank : Bank) : bank.rmNumber (s.retouch c) = bank.rmNumber s := by
  cases bank <;> rfl

/-- The code of a leaf is picked by widths. -/
theorem pick_retouch (l : Leaf) (rule : CodeRule) :
    rule.pick m (s.retouch c) l = rule.pick m s l := by
  cases rule <;> simp only [CodeRule.pick, size_retouch]

/-! ### Reading -/

/-- The window is the same, and so is the next byte; the count of bytes read runs ahead by the same
amount. -/
theorem byte_retouch :
    (s.retouch c).byte = c.outcome (fun b => (b.1, b.2.retouch c)) s.byte := by
  have hpending : (s.retouch c).pending = s.pending := rfl
  have hused : (s.retouch c).used + 1 = s.used + 1 + c.more := Nat.add_right_comm _ _ _
  unfold State.byte
  rw [hpending, hused]
  cases s.pending <;> rfl

/-- Bytes in a row, by induction on their number. -/
theorem word_retouch (n : Nat) :
    (s.retouch c).word n = c.outcome (fun b => (b.1, b.2.retouch c)) (s.word n) := by
  have hused : (s.retouch c).used + n = s.used + n + c.more := Nat.add_right_comm _ _ _
  unfold State.word
  rw [hused]
  show (if n ≤ s.pending.length then _ else _) = _
  split <;> rfl

theorem readModRM_retouch :
    (s.retouch c).readModRM = c.outcome (·.retouch c) s.readModRM := by
  simp only [State.readModRM, byte_retouch]
  exact bind_outcome fun _ => rfl

/-- The shape of an address depends on the ModRM and index bytes. -/
theorem addressShape_retouch (vectors : Option Register) :
    (s.retouch c).addressShape m vectors
      = c.outcome (fun a => (a.1, a.2.retouch c)) (s.addressShape m vectors) := by
  have hsize : (s.retouch c).addressSize m = s.addressSize m := rfl
  have hrm : (s.retouch c).rm = s.rm := rfl
  simp only [State.addressShape, hsize, hrm, byte_retouch]
  cases s.addressSize m with
  | w16 => rfl
  | w32 | w64 =>
      by_cases h : s.rm = 4
      · simp only [if_pos h]
        exact bind_outcome fun _ => rfl
      · simp only [if_neg h]
        rfl

/-- Reading a memory operand puts its displacement in place of the one there was. -/
theorem readMemory_retouch (hc : c.target = id) (tuple : TupleType) (vectors : Option Register) :
    (s.retouch c).readMemory m tuple vectors
      = c.outcome (·.retouch c) (s.readMemory m tuple vectors) := by
  obtain ⟨strong, target, more⟩ := c
  obtain rfl : target = id := hc
  simp only [readMemory_eq, addressShape_retouch]
  refine bind_outcome fun a => ?_
  dsimp only
  rw [word_retouch]
  exact bind_outcome fun _ => rfl

theorem readImmediate_retouch (k : OperandKind) (n : Nat) :
    (s.retouch c).readImmediate k n
      = c.outcome (·.retouch c) (s.readImmediate k n) := by
  simp only [State.readImmediate, word_retouch]
  exact bind_outcome fun _ => rfl

theorem readIs4_retouch (base : Register) :
    (s.retouch c).readIs4 m base
      = c.outcome (fun b => (b.1, b.2.retouch c)) (s.readIs4 m base) := by
  simp only [State.readIs4, byte_retouch]
  exact bind_outcome fun _ => rfl

theorem readBranch_retouch (n : Nat) (size : Size) :
    (s.retouch c).readBranch n size
      = c.outcome (·.retouch c) (s.readBranch n size) := by
  simp only [State.readBranch, word_retouch]
  exact bind_outcome fun _ => rfl

theorem readFar_retouch (size : Size) :
    (s.retouch c).readFar size = c.outcome (·.retouch c) (s.readFar size) := by
  simp only [State.readFar, word_retouch]
  refine bind_outcome fun a => ?_
  dsimp only
  rw [word_retouch]
  exact bind_outcome fun _ => rfl

/-- Here and in the next readers the memory operand is filled in, so it has to stay. -/
theorem readOffset_retouch (hc : c.target = id) :
    (s.retouch c).readOffset m = c.outcome (·.retouch c) (s.readOffset m) := by
  obtain ⟨strong, target, more⟩ := c
  obtain rfl : target = id := hc
  have hsize : (s.retouch ⟨strong, id, more⟩).addressSize m = s.addressSize m := rfl
  simp only [State.readOffset, hsize, word_retouch]
  exact bind_outcome fun _ => rfl

/-! ### Steps -/

theorem readRm_retouch (hc : c.target = id) (bank : Bank) :
    (s.retouch c).readRm m bank = c.outcome (·.retouch c) (s.readRm m bank) := by
  have hform : (s.retouch c).registerForm = s.registerForm := rfl
  simp only [State.readRm, hform, register_retouch, rmNumber_retouch, readMemory_retouch hc]
  split <;> rfl

theorem readMem_retouch (hc : c.target = id) (tuple : TupleType) (vectors : Option Register) :
    (s.retouch c).readMem m tuple vectors
      = c.outcome (·.retouch c) (s.readMem m tuple vectors) := by
  have hform : (s.retouch c).registerForm = s.registerForm := rfl
  simp only [State.readMem, hform, readMemory_retouch hc]
  split <;> rfl

/-- A control register may use up the lock prefix, which is no part of the change. -/
theorem addControlRegister_retouch (base : Register) :
    (s.retouch c).addControlRegister m base
      = (s.addControlRegister m base).retouch c := by
  have hreg : (s.retouch c).reg + 8 * (s.retouch c).r.toNat
    = s.reg + 8 * s.r.toNat := rfl
  have hlock : (s.retouch c).draft.prefixes = s.draft.prefixes := rfl
  simp only [State.addControlRegister, hreg, hlock]
  split
  · split <;> rfl
  · rfl

/-- An exchange may change the code and the operands. -/
theorem exchange_retouch (number : UInt32) :
    (s.retouch c).exchange m number = (s.exchange m number).retouch c := by
  have hnumber : (s.retouch c).opcodeNumber number = s.opcodeNumber number := rfl
  have hpauses : (s.retouch c).pauses m number = s.pauses m number := rfl
  have hsize : (s.retouch c).operandSize m = s.operandSize m := rfl
  simp only [State.exchange, hnumber, hpauses, hsize]
  split
  · rfl
  · split <;> rfl

theorem applyLock_retouch (rules : LockRules) :
    (s.retouch c).applyLock rules = (s.applyLock rules).retouch c := by
  have hform : (s.retouch c).registerForm = s.registerForm := rfl
  have hmandatory : (s.retouch c).mandatory = s.mandatory := rfl
  have hprefixes : (s.retouch c).draft.prefixes = s.draft.prefixes := rfl
  simp only [State.applyLock, hform, hmandatory, hprefixes]
  split
  · rfl
  · split
    · rfl
    · split <;> rfl

theorem applyRounding_retouch (onlySuppress : Bool) :
    (s.retouch c).applyRounding onlySuppress
      = (s.applyRounding onlySuppress).retouch c := by
  have hform : (s.retouch c).registerForm = s.registerForm := rfl
  have hb : (s.retouch c).evexB = s.evexB := rfl
  simp only [State.applyRounding, hform, hb]
  split
  · split <;> rfl
  · rfl

/-- **A step runs alike in a retouched state.** -/
theorem Step.run_retouch {step : Step} (hf : step.fillsMemory → c.target = id) :
    step.run m (s.retouch c) = c.outcome (·.retouch c) (step.run m s) := by
  have hform : (s.retouch c).registerForm = s.registerForm := rfl
  cases step with
  -- operands that the fields read so far name
  | reg bank => simp only [Step.run, register_retouch, regNumber_retouch]; rfl
  | rmNumber bank => simp only [Step.run, register_retouch, rmNumber_retouch]; rfl
  | rmRegister bank =>
      simp only [Step.run, hform, register_retouch, rmNumber_retouch]
      split <;> rfl
  | opcodeReg bank number | vvvv bank => simp only [Step.run, register_retouch]; rfl
  | accumulator sizing => simp only [Step.run, size_retouch]; rfl
  | controlReg base => exact congrArg Except.ok (addControlRegister_retouch base)
  | exchange number => exact congrArg Except.ok (exchange_retouch number)
  | lockable rules => exact congrArg Except.ok (applyLock_retouch rules)
  | rounding onlySuppress => exact congrArg Except.ok (applyRounding_retouch onlySuppress)
  | requireRegister =>
      simp only [Step.run, hform]
      split <;> rfl
  -- operands in memory
  | rm bank => exact readRm_retouch (hf rfl) bank
  | rmBound =>
      simp only [Step.run, State.readBoundRm, hform, readMemory_retouch (hf rfl)]
      split <;> rfl
  | rmVector base tuple broadcast =>
      simp only [Step.run, State.readVectorRm, hform, register_retouch, rmNumber_retouch]
      split
      · rfl
      · exact readMemory_retouch (s := (s.forbid m (s.evexB && !broadcast)).withBroadcast broadcast)
          (hf rfl) tuple none
  | rmScalar =>
      simp only [Step.run, State.readScalarRm, hform, size_retouch, register_retouch,
        rmNumber_retouch, readMemory_retouch (hf rfl)]
      split <;> rfl
  | mem => exact readMem_retouch (hf rfl) _ _
  | memVector tuple => exact readMem_retouch (s := s.forbid m s.evexB) (hf rfl) _ _
  | memVsib base tuple => exact readMem_retouch (s := s.mark (s.lacksIndex m)) (hf rfl) _ _
  | memSib => exact readMem_retouch (s := s.forbid m (s.lacksIndex m)) (hf rfl) _ _
  | memBound =>
      have hc : c.target = id := hf rfl
      show (((s.forbid m (s.addressSize m == .w16)).retouch c).readMem m .n1 none
        >>= fun s => _) = _
      rw [readMem_retouch hc]
      obtain ⟨strong, target, more⟩ := c
      obtain rfl : target = id := hc
      exact bind_outcome fun _ => rfl
  | offsetMemory => exact readOffset_retouch (hf rfl)
  | tableMemory =>
      have hc : c.target = id := hf rfl
      obtain ⟨strong, target, more⟩ := c
      obtain rfl : target = id := hc
      rfl
  -- immediates and branches
  | imm8 | imm16 | imm32 => exact readImmediate_retouch _ _
  | imm8Second =>
      simp only [Step.run, byte_retouch]
      exact bind_outcome fun _ => rfl
  | immZ sizing =>
      simp only [Step.run, size_retouch]
      cases sizing.size m s <;> exact readImmediate_retouch _ _
  | imm8Signed sizing | immFull sizing =>
      simp only [Step.run, size_retouch]
      exact readImmediate_retouch _ _
  | is4 base =>
      simp only [Step.run, readIs4_retouch]
      exact bind_outcome fun _ => rfl
  | is4BeforeRm base =>
      simp only [Step.run, readRm_retouch (hf rfl)]
      refine bind_outcome fun a => ?_
      rw [readIs4_retouch]
      exact bind_outcome fun _ => rfl
  | rel8 target =>
      simp only [Step.run, size_retouch]
      exact readBranch_retouch _ _
  | relZ width target =>
      simp only [Step.run, size_retouch]
      exact readBranch_retouch _ _
  | far sizing =>
      simp only [Step.run, size_retouch]
      exact readFar_retouch _
  | _ => rfl

/-- **The steps of a plan**, by induction on their list. -/
theorem runSteps_retouch : ∀ {steps : List Step} {s : State},
    (∀ step ∈ steps, step.fillsMemory → c.target = id) →
    runSteps m steps (s.retouch c) = c.outcome (·.retouch c) (runSteps m steps s)
  | [], _, _ => rfl
  | step :: rest, s, hf => by
      rw [runSteps, runSteps, Step.run_retouch (hf step List.mem_cons_self)]
      exact bind_outcome fun _ => runSteps_retouch fun step h => hf step (List.mem_cons_of_mem _ h)

end

/-! ### Walks -/

/-- The move with its state retouched. -/
def State.retouchMove (c : Touch) (b : State × Next) : State × Next :=
  (b.1.retouch c, b.2)

/-- The node fills in the operands of an instruction. -/
def Node.fillsOperands : Node → Bool
  | .leaf _ | .trailing _ => true
  | _ => false

section

variable {m : Mode} {t : Tables} {c : Touch} {s : State}

/-- A leaf sets its code first, and runs its plan then. -/
theorem leaf_retouch (hc : c.target = id) (l : Leaf) :
    l.run m (s.retouch c) = c.outcome (·.retouch c) (l.run m s) := by
  rw [Leaf.run, Leaf.run, pick_retouch]
  exact runSteps_retouch (s := s.setCode (l.plan.code.pick m s l)) fun _ _ _ => hc

/-- The maps of a payload are selected by its own bits. -/
theorem payloadMap_retouch (maps : List OpcodeMap) (n : Nat) (policy : ModRMPolicy) :
    Tables.payloadMap maps n policy (s.retouch c)
      = c.outcome (State.retouchMove c) (Tables.payloadMap maps n policy s) := by
  unfold Tables.payloadMap
  cases maps[n]? <;> rfl

/-- A payload clears what the prefixes before it said. -/
theorem routeVex3_retouch :
    t.routeVex3 m (s.retouch c) = c.outcome (State.retouchMove c) (t.routeVex3 m s) := by
  have hp₁ : (s.retouch c).modRM = s.modRM := rfl
  simp only [Tables.routeVex3, hp₁]
  show (((s.beginPayload m).retouch c).byte >>= fun b => _) = _
  rw [byte_retouch]
  refine bind_outcome fun b => ?_
  dsimp only
  cases s.modRM.toNat % 32 with
  | zero => rfl
  | succ n => exact payloadMap_retouch (s := b.2.applyVex3 m s.modRM b.1) t.vex n .ifNeeded

theorem routeXop_retouch :
    t.routeXop m (s.retouch c) = c.outcome (State.retouchMove c) (t.routeXop m s) := by
  have hp₁ : (s.retouch c).modRM = s.modRM := rfl
  simp only [Tables.routeXop, hp₁]
  show (((s.beginPayload m).retouch c).byte >>= fun b => _) = _
  rw [byte_retouch]
  exact bind_outcome fun b =>
    payloadMap_retouch (s := b.2.applyVex3 m s.modRM b.1) t.xop _ .ifNeeded

/-- What follows the last byte of an EVEX payload. -/
theorem afterEvex_retouch (p₀ p₁ p₂ : UInt8) : t.afterEvex m p₀ p₁ p₂ (s.retouch c)
    = c.outcome (State.retouchMove c) (t.afterEvex m p₀ p₁ p₂ s) := by
  unfold Tables.afterEvex
  split
  · cases p₀.toNat % 8 with
    | zero => rfl
    | succ n =>
        exact payloadMap_retouch (s := (s.checkEvex m p₀ p₂).applyEvex m p₀ p₁ p₂) t.evex n .always
  · rfl

theorem routeEvex_retouch :
    t.routeEvex m (s.retouch c) = c.outcome (State.retouchMove c) (t.routeEvex m s) := by
  have hp₀ : (s.retouch c).modRM = s.modRM := rfl
  simp only [routeEvex_eq, hp₀]
  show (((s.beginPayload m).retouch c).byte >>= fun b => _) = _
  rw [byte_retouch]
  refine bind_outcome fun a => ?_
  dsimp only
  rw [byte_retouch]
  exact bind_outcome fun b => afterEvex_retouch s.modRM a.1 b.1

/-- The byte that spells the code, after the operands. -/
def Tables.readTrailing (codes : List (UInt8 × Code)) (s : State) : Except Stop State := do
  let (b, s) ← s.byte
  match (codes.filter (·.1 == b)).getLast? with
  | some (_, code) => if code.isInvalid then s.reject else return s.setCode code
  | none => s.reject

/-- An instruction whose code comes last, as its operands and its code. -/
theorem runTrailing_eq (codes : List (UInt8 × Code)) : Tables.runTrailing m codes s
    = runSteps m [.reg (.low .mm0), .rm (.low .mm0)] s >>= Tables.readTrailing codes := rfl

theorem readTrailing_retouch (codes : List (UInt8 × Code)) :
    Tables.readTrailing codes (s.retouch c)
      = c.outcome (·.retouch c) (Tables.readTrailing codes s) := by
  rw [Tables.readTrailing, byte_retouch]
  refine bind_outcome fun b => ?_
  dsimp only
  cases (codes.filter (·.1 == b.1)).getLast? with
  | none => rfl
  | some code =>
      dsimp only
      split <;> rfl

/-- It has a memory operand, which has to stay. -/
theorem trailing_retouch (hc : c.target = id) (codes : List (UInt8 × Code)) :
    Tables.runTrailing m codes (s.retouch c)
      = c.outcome (·.retouch c) (Tables.runTrailing m codes s) := by
  rw [runTrailing_eq, runTrailing_eq, runSteps_retouch fun _ _ _ => hc]
  exact bind_outcome fun _ => readTrailing_retouch codes

theorem dropMandatory_retouch :
    (s.retouch c).dropMandatory = s.dropMandatory.retouch c := by
  have hmandatory : (s.retouch c).mandatory = s.mandatory := rfl
  unfold State.dropMandatory
  rw [hmandatory]
  cases s.mandatory <;> rfl

/-- Outside 64-bit mode every segment byte replaces the one before. -/
theorem applySegment_retouch (hlong : c.strong → m.long = false) (strong : Bool)
    (register : Register) : (s.retouch c).applySegment m strong register
      = (s.applySegment m strong register).retouch c := by
  obtain ⟨_ | _, target, more⟩ := c
  · rfl
  · unfold State.applySegment
    rw [hlong rfl]
    rfl

/-- **A node runs alike in a retouched state.** -/
theorem route_retouch (hlong : c.strong → m.long = false) {n : Node}
    (hf : n.fillsOperands → c.target = id) :
    t.route m n (s.retouch c) = c.outcome (State.retouchMove c) (t.route m n s) := by
  have hform : (s.retouch c).registerForm = s.registerForm := rfl
  have hmandatory : (s.retouch c).mandatory = s.mandatory := rfl
  have hmodRM : (s.retouch c).modRM = s.modRM := rfl
  cases n with
  | fineGroup coarse fine =>
      simp only [Tables.route, hform, hmodRM]
      split <;> rfl
  | mandatory modRM children => simp only [Tables.route, dropMandatory_retouch]; rfl
  | mandatoryByForm reg mem =>
      simp only [Tables.route, dropMandatory_retouch, hform, hmandatory]
      generalize (if s.registerForm then reg else mem).getD s.mandatory.rank (.invalid, false) = a
      obtain ⟨child, uses⟩ := a
      cases uses <;> rfl
  | mandatoryKept children clearF3 clearF2 readsModRM =>
      simp only [Tables.route, hmandatory]
      cases s.mandatory <;> cases clearF3 <;> cases clearF2 <;> rfl
  | vex2 otherwise =>
      simp only [Tables.route, hform, hmodRM]
      split
      · exact payloadMap_retouch (s := (s.beginPayload m).applyVex2 m s.modRM) t.vex 0 .ifNeeded
      · rfl
  | vex3 otherwise =>
      simp only [Tables.route, hform, routeVex3_retouch]
      split <;> rfl
  | xop otherwise =>
      simp only [Tables.route, hmodRM, routeXop_retouch]
      split <;> rfl
  | evex otherwise =>
      simp only [Tables.route, hform, routeEvex_retouch]
      split <;> rfl
  | segment strong register =>
      simp only [Tables.route, applySegment_retouch hlong]
      rfl
  | rex otherwise bits =>
      simp only [Tables.route]
      split <;> rfl
  | trailing codes =>
      rw [Tables.route, trailing_retouch (hf rfl)]
      exact bind_outcome fun _ => rfl
  | leaf l =>
      rw [Tables.route, leaf_retouch (hf rfl)]
      exact bind_outcome fun _ => rfl
  | _ => rfl

/-- The ModRM byte is read from the same window. -/
theorem enter_retouch (policy : ModRMPolicy) (n : Node) :
    Tables.enter policy n (s.retouch c) = c.outcome (·.retouch c) (Tables.enter policy n s) := by
  simp only [Tables.enter, readModRM_retouch]
  split <;> rfl

/-- **One move.** -/
theorem dispatch_retouch (hlong : c.strong → m.long = false) (hc : c.target = id) (next : Next) :
    t.dispatch m next (s.retouch c) = c.outcome (State.retouchMove c) (t.dispatch m next s) := by
  cases next with
  | done => rfl
  | child id policy =>
      simp only [Tables.dispatch, enter_retouch]
      exact bind_outcome fun _ => route_retouch hlong fun _ => hc
  | lookup map policy =>
      simp only [Tables.dispatch, byte_retouch]
      exact bind_outcome fun _ => rfl

/-- **A walk goes alike from a retouched state.** -/
theorem walk_retouch (hlong : c.strong → m.long = false) (hc : c.target = id) :
    ∀ (fuel : Nat) (next : Next) (s : State),
      t.walk m fuel next (s.retouch c) = c.outcome (·.retouch c) (t.walk m fuel next s)
  | 0, .done, _ => rfl
  | 0, .child _ _, _ | 0, .lookup _ _, _ => rfl
  | fuel + 1, next, s => by
      rw [walk_eq_dispatch, walk_eq_dispatch, dispatch_retouch hlong hc]
      exact bind_outcome fun b => walk_retouch hlong hc fuel b.2 b.1

/-! ### What stays -/

/-- A computation for which the target of the memory operand could be anything leaves it. -/
theorem target_of_retouch {x : State → Except Stop State} {s' : State}
    (hx : ∀ f, x (s.retouch (.aim f)) = (Touch.aim f).outcome (·.retouch (.aim f)) (x s))
    (h : x s = .ok s') : s'.target = s.target := by
  have hs : x s = (Touch.aim fun _ => s.target).outcome
      (·.retouch (.aim fun _ => s.target)) (x s) := hx fun _ => s.target
  rw [h] at hs
  have hs' : s' = s'.retouch (.aim fun _ => s.target) := Except.ok.inj hs
  exact (congrArg State.target hs').trans rfl

/-- A node that does not fill in operands leaves the memory operand. -/
theorem target_route {n : Node} (hn : n.fillsOperands = false) {b : State × Next}
    (h : t.route m n s = .ok b) : b.1.target = s.target := by
  have hrun : ∀ f, t.route m n (s.retouch (.aim f))
      = (Touch.aim f).outcome (State.retouchMove (.aim f)) (t.route m n s) := fun f =>
    route_retouch Bool.noConfusion fun hfills => absurd (hn.symm.trans hfills) Bool.false_ne_true
  have hstays := hrun fun _ => s.target
  rw [show s.retouch (.aim fun _ => s.target) = s from rfl, h] at hstays
  have hb : b = State.retouchMove (.aim fun _ => s.target) b := Except.ok.inj hstays
  exact congrArg (fun b => b.1.target) hb

end

end OpcodeForest
