import OpcodeForest.Proofs.Decode.Ending
import OpcodeForest.Proofs.Decode.PrefixForm

/-!
# What steps fill in

The operands that a step adds and the address that it fills in can be told from the state before
the plan as well. Only two things are not spelled before it: the register number in the byte after
the operands, and whether a lock byte is still unused. Fields that no operand of a step refers to
stay as they are.

* `Step.operands`, `operands_step`, `operands_steps`: the operands of a step, and of a plan.
* `Step.Addresses`, `memory_step`, `memory_steps`: the address of the memory operand.
* `Field`, `keeps_step`, `keeps_steps`: the other fields of the draft, and those that stay.
* `Tables.ComesTo`, `read_comesTo`: the node that a walk ends with.
-/

namespace OpcodeForest

/-! ### Operands -/

namespace Operand

/-- A register operand. -/
def reg (r : Register) : Operand := ⟨.register, r⟩

/-- An operand of a kind that names no register. -/
def plain (k : OperandKind) : Operand := ⟨k, .none⟩

/-- The register `r`, or memory if the ModRM byte names that. -/
def rm (s : State) (r : Register) : Operand := if s.registerForm then reg r else plain .memory

end Operand

namespace Step

/-- The number of a control or debug register. A lock byte on `CR0` names `CR8`. -/
def controlNumber (m : Mode) (s : State) (lock : Bool) (base : Register) : Nat :=
  if base = .cr0 ∧ (!m.long && s.reg + 8 * s.r.toNat == 0 && lock) then 8
  else s.reg + 8 * s.r.toNat

/-- The operands that a step adds. A lock byte is still unused if `lock`, and the byte after the
operands spells the number `tail`. -/
def operands (m : Mode) (s : State) (lock : Bool) (tail : Nat) : Step → List Operand
  | reg bank => [.reg (bank.register m s (bank.regNumber s))]
  | narrowReg base => [.reg (base.offset s.reg)]
  | boundReg => [.reg (Register.bnd0.offset ((s.reg + 8 * s.r.toNat) % 4))]
  | segmentReg _ => [.reg (Register.es.offset s.reg)]
  | controlReg base => [.reg (base.offset (controlNumber m s lock base))]
  | rm bank => [.rm s (bank.register m s (bank.rmNumber s))]
  | rmBound => [.rm s (Register.bnd0.offset ((s.rm + 8 * s.b.toNat) % 4))]
  | rmVector base _ _ =>
      [.rm s ((Bank.vector base).register m s ((Bank.vector base).rmNumber s))]
  | rmScalar => [.rm s ((Bank.gpr .longW).register m s ((Bank.gpr .longW).rmNumber s))]
  | rmRegister bank | rmNumber bank => [.reg (bank.register m s (bank.rmNumber s))]
  | vvvv bank => [.reg (bank.register m s (s.vvvv m))]
  | narrowVvvv base => [.reg (base.offset (s.vvvvField % 8))]
  | is4 base => [.reg (base.offset (if m.long then tail else tail % 8))]
  | is4BeforeRm base =>
      [.reg (base.offset (if m.long then tail else tail % 8)),
        .rm s ((Bank.file base).register m s ((Bank.file base).rmNumber s))]
  | fixed register => [.reg register]
  | accumulator sizing => [.reg (Register.gpr (sizing.size m s))]
  | opcodeReg bank number => [.reg (bank.register m s (s.opcodeNumber number).toNat)]
  | exchange number =>
      let gpr := Register.gpr (s.operandSize m)
      if s.pauses m number then []
      else if s.opcodeNumber number = 0 then []
      else [.reg (gpr.offset (s.opcodeNumber number).toNat), .reg gpr]
  | step => (step.kinds m s).map .plain

end Step

section

variable {m : Mode} {s s' : State}

/-- Taking bytes from the window adds no operand. -/
theorem State.Advances.operands_eq (h : s.Advances s') :
    s'.draft.operands = s.draft.operands := by
  obtain ⟨p, u, rfl⟩ := h
  rfl

/-- A memory operand has no value of its own; the address stands apart. -/
theorem operands_readMemory {tuple : TupleType} {vectors : Option Register}
    (h : s.readMemory m tuple vectors = .ok s') :
    s'.draft.operands = s.draft.operands ++ [.plain .memory] := by
  rw [readMemory_eq] at h
  obtain ⟨a, ha, h⟩ := bind_eq_ok_iff.mp h
  obtain ⟨b, hb, h⟩ := bind_eq_ok_iff.mp h
  cases h
  show b.2.draft.operands ++ _ = _
  rw [(advances_word hb).operands_eq, (advances_addressShape ha).operands_eq]
  rfl

theorem operands_readMem {tuple : TupleType} {vectors : Option Register}
    (h : s.readMem m tuple vectors = .ok s') :
    s'.draft.operands = s.draft.operands ++ [.plain .memory] := by
  rw [State.readMem] at h
  split at h
  · cases h
  · exact operands_readMemory h

/-- A register or memory, by the form of the ModRM byte. -/
theorem operands_of_form {r : Register} {sr : State} {mem : Except Stop State}
    (h : (if s.registerForm then .ok sr else mem) = .ok s')
    (hreg : sr.draft.operands = s.draft.operands ++ [.reg r])
    (hmem : mem = .ok s' → s'.draft.operands = s.draft.operands ++ [.plain .memory]) :
    s'.draft.operands = s.draft.operands ++ [.rm s r] := by
  rw [Operand.rm]
  by_cases hform : s.registerForm
  · rw [if_pos hform] at h ⊢
    cases h
    exact hreg
  · rw [if_neg hform] at h ⊢
    exact hmem h

/-- A register or memory operand, by the form of the ModRM byte. -/
theorem operands_readRm {bank : Bank} (h : s.readRm m bank = .ok s') : s'.draft.operands
    = s.draft.operands ++ [.rm s (bank.register m s (bank.rmNumber s))] :=
  operands_of_form h rfl operands_readMemory

/-- Nor has an immediate. -/
theorem operands_readImmediate {k : OperandKind} {n : Nat} (h : s.readImmediate k n = .ok s') :
    s'.draft.operands = s.draft.operands ++ [.plain k] := by
  obtain ⟨a, ha, h⟩ := bind_eq_ok_iff.mp h
  cases h
  show a.2.draft.operands ++ _ = _
  rw [(advances_word ha).operands_eq]
  rfl

theorem operands_readBranch {n : Nat} {size : Size} (h : s.readBranch n size = .ok s') :
    s'.draft.operands = s.draft.operands ++ [.plain (.nearBranchOf size)] := by
  obtain ⟨a, ha, h⟩ := bind_eq_ok_iff.mp h
  cases h
  show a.2.draft.operands ++ _ = _
  rw [(advances_word ha).operands_eq]
  rfl

theorem operands_readFar {size : Size} (h : s.readFar size = .ok s') :
    s'.draft.operands = s.draft.operands ++ [.plain (.farBranchOf size)] := by
  obtain ⟨a, ha, h⟩ := bind_eq_ok_iff.mp h
  obtain ⟨b, hb, h⟩ := bind_eq_ok_iff.mp h
  cases h
  show b.2.draft.operands ++ _ = _
  rw [(advances_word hb).operands_eq, (advances_word ha).operands_eq]
  rfl

/-- The number that the byte after the operands spells has four bits. -/
theorem readIs4_eq_ok {base : Register} {a : Register × State} (h : s.readIs4 m base = .ok a) :
    ∃ tail < 16, a.1 = base.offset (if m.long then tail else tail % 8) := by
  obtain ⟨b, -, h⟩ := bind_eq_ok_iff.mp h
  cases h
  have hbyte : b.1.toNat < 256 := b.1.toNat_lt
  exact ⟨b.1.toNat / 16, by omega, rfl⟩

/-- The number of a control register, which a lock byte may raise by eight. -/
theorem operands_addControlRegister (base : Register) (s : State) :
    (s.addControlRegister m base).draft.operands = s.draft.operands
      ++ [.reg (base.offset (Step.controlNumber m s s.draft.prefixes.lock base))] := by
  unfold State.addControlRegister Step.controlNumber
  by_cases hbase : base = .cr0
  · by_cases hlock : !m.long && s.reg + 8 * s.r.toNat == 0 && s.draft.prefixes.lock
    · simp only [if_pos hbase, if_pos hlock, if_pos (And.intro hbase hlock)]
      rfl
    · simp only [if_pos hbase, if_neg hlock, if_neg fun h => hlock (And.right h)]
      rfl
  · simp only [if_neg hbase, if_neg fun h => hbase (And.left h)]
    rfl

/-- An exchange has two operands, unless it turns out to be a pause. -/
theorem operands_exchange (number : UInt32) (s : State) (lock : Bool) (tail : Nat) :
    (s.exchange m number).draft.operands
      = s.draft.operands ++ (Step.exchange number).operands m s lock tail := by
  simp only [State.exchange, Step.operands]
  split
  · exact (List.append_nil _).symm
  · split
    · exact (List.append_nil _).symm
    · exact List.append_assoc _ _ _

theorem operands_applyLock (rules : LockRules) (s : State) :
    (s.applyLock rules).draft.operands = s.draft.operands := by
  by_cases hform : s.registerForm
  · rw [State.applyLock, if_pos hform]
  · have hlock : s.applyLock rules = (s.elide rules).allowLocks rules := if_neg hform
    rw [hlock, s.elide_eq]
    rfl

theorem operands_applyRounding (onlySuppress : Bool) (s : State) :
    (s.applyRounding onlySuppress).draft.operands = s.draft.operands := by
  unfold State.applyRounding
  split
  · cases onlySuppress <;> rfl
  · rfl

/-- The register number comes after the memory operand in the bytes, and before it in the record. -/
theorem operands_is4BeforeRm {base : Register} (h : (Step.is4BeforeRm base).run m s = .ok s')
    (lock : Bool) : ∃ tail < 16, s'.draft.operands
      = s.draft.operands ++ (Step.is4BeforeRm base).operands m s lock tail := by
  obtain ⟨s₁, h₁, h⟩ := bind_eq_ok_iff.mp h
  obtain ⟨⟨r, s₂⟩, h₂, h⟩ := bind_eq_ok_iff.mp h
  cases h
  obtain ⟨tail, htail, hr⟩ := readIs4_eq_ok h₂
  refine ⟨tail, htail, ?_⟩
  have hafter : s₂.draft.operands.drop s.draft.operands.length
      = [.rm s ((Bank.file base).register m s ((Bank.file base).rmNumber s))] := by
    rw [(advances_readIs4 h₂).operands_eq, operands_readRm h₁, List.drop_left]
  show s.draft.operands ++ ⟨.register, r⟩ :: s₂.draft.operands.drop _ = _
  rw [hafter, show r = _ from hr]
  rfl

/-- **The operands that a step adds.** -/
theorem operands_step {step : Step} (h : step.run m s = .ok s') : ∃ tail < 16,
    s'.draft.operands
      = s.draft.operands ++ step.operands m s s.draft.prefixes.lock tail := by
  -- most steps read no number after the operands, so any number will do
  have hany : ∀ {os}, s'.draft.operands = s.draft.operands ++ os →
      (∀ tail, os = step.operands m s s.draft.prefixes.lock tail) → ∃ tail < 16,
        s'.draft.operands = s.draft.operands ++ step.operands m s s.draft.prefixes.lock tail :=
    fun hos htail => ⟨0, by decide, hos.trans (congrArg _ (htail 0))⟩
  cases step with
  -- registers
  | reg | narrowReg | boundReg | segmentReg | rmNumber | vvvv | narrowVvvv | fixed | accumulator
  | opcodeReg => cases h; exact hany rfl fun _ => rfl
  | controlReg base => cases h; exact hany (operands_addControlRegister base s) fun _ => rfl
  | exchange number =>
      cases h
      exact ⟨0, by decide, operands_exchange number s _ 0⟩
  | rmRegister bank =>
      obtain ⟨-, h⟩ := of_registerForm h
      cases h
      exact hany rfl fun _ => rfl
  | is4 base =>
      obtain ⟨a, ha, h⟩ := bind_eq_ok_iff.mp h
      cases h
      obtain ⟨tail, htail, hr⟩ := readIs4_eq_ok ha
      refine ⟨tail, htail, ?_⟩
      show a.2.draft.operands ++ [⟨.register, a.1⟩] = _
      rw [(advances_readIs4 ha).operands_eq, hr]
      rfl
  | is4BeforeRm base => exact operands_is4BeforeRm h _
  -- registers or memory
  | rm bank => exact hany (operands_readRm h) fun _ => rfl
  | rmBound => exact hany (operands_of_form h rfl operands_readMemory) fun _ => rfl
  | rmVector base tuple broadcast =>
      refine hany (operands_of_form h rfl fun h => ?_) fun _ => rfl
      exact operands_readMemory
        (s := (s.forbid m (s.evexB && !broadcast)).withBroadcast broadcast) h
  | rmScalar => exact hany (operands_of_form h rfl operands_readMemory) fun _ => rfl
  | mem => exact hany (operands_readMem h) fun _ => rfl
  | memVector tuple => exact hany (operands_readMem (s := s.forbid m _) h) fun _ => rfl
  | memVsib base tuple => exact hany (operands_readMem (s := s.mark _) h) fun _ => rfl
  | memSib => exact hany (operands_readMem (s := s.forbid m _) h) fun _ => rfl
  | memBound =>
      obtain ⟨s₁, h₁, h⟩ := bind_eq_ok_iff.mp h
      cases h
      have hmem : s₁.draft.operands = s.draft.operands ++ [.plain .memory] :=
        operands_readMem (s := s.forbid m _) h₁
      exact hany hmem fun _ => rfl
  | offsetMemory =>
      obtain ⟨a, ha, h⟩ := bind_eq_ok_iff.mp h
      cases h
      exact hany (congrArg (· ++ _) (advances_word ha).operands_eq) fun _ => rfl
  | tableMemory => cases h; exact hany rfl fun _ => rfl
  -- immediates and branches
  | imm8 | imm16 | imm32 | imm8Signed | immFull =>
      exact hany (operands_readImmediate h) fun _ => rfl
  | immZ sizing =>
      simp only [Step.run] at h
      simp only [Step.operands, Step.kinds] at hany ⊢
      cases hsize : sizing.size m s <;> rw [hsize] at h hany <;>
        exact hany (operands_readImmediate h) fun _ => rfl
  | imm8Second =>
      obtain ⟨a, ha, h⟩ := bind_eq_ok_iff.mp h
      cases h
      exact hany (congrArg (· ++ _) (advances_byte ha).operands_eq) fun _ => rfl
  | one => cases h; exact hany rfl fun _ => rfl
  | rel8 target => exact hany (operands_readBranch h) fun _ => rfl
  | relZ width target => exact hany (operands_readBranch h) fun _ => rfl
  | far sizing => exact hany (operands_readFar h) fun _ => rfl
  | stringSource | stringDestination => cases h; exact hany rfl fun _ => rfl
  -- rules and effects
  | requireRegister =>
      obtain ⟨-, h⟩ := of_registerForm h
      cases h
      exact hany (List.append_nil _).symm fun _ => rfl
  | noVvvv | noMask | noZeroing | noB | noRegisterB | noMemoryB | storeZeroing | gatherMask
  | distinctGather | distinctIndex | distinctTiles =>
      cases h
      exact hany (List.append_nil _).symm fun _ => rfl
  | lockable rules =>
      cases h
      exact hany ((operands_applyLock rules s).trans (List.append_nil _).symm) fun _ => rfl
  | rounding onlySuppress =>
      cases h
      exact hany ((operands_applyRounding onlySuppress s).trans (List.append_nil _).symm)
        fun _ => rfl

/-- The operands depend on what is spelled only. -/
theorem Step.operands_of_spelled (h : s'.spelled = s.spelled) (lock : Bool) (tail : Nat)
    (step : Step) : step.operands m s' lock tail = step.operands m s lock tail := by
  show step.operands m s'.spelled lock tail = step.operands m s.spelled lock tail
  rw [h]

/-- Steps use a lock byte up, but never add one. -/
theorem Step.lock_note (step : Step) (n : Notes) (h : (step.note m s n).prefixes.lock) :
    n.prefixes.lock := by
  cases step with
  | controlReg base =>
      simp only [Step.note] at h
      split at h
      · cases h
      · exact h
  | lockable rules =>
      simp only [Step.note, Step.elide] at h
      split at h
      · exact h
      · split at h
        · exact h
        · split at h <;> exact h
  | exchange number =>
      simp only [Step.note] at h
      split at h <;> exact h
  | rmVector base tuple broadcast =>
      simp only [Step.note] at h
      split at h <;> exact h
  | rounding onlySuppress =>
      simp only [Step.note] at h
      split at h
      · split at h <;> exact h
      · exact h
  | _ => exact h

/-- The operands `os` of a step that runs after a state `s`. -/
def Step.Adds (m : Mode) (s : State) (step : Step) (os : List Operand) : Prop :=
  ∃ (lock : Bool) (tail : Nat), (lock → s.draft.prefixes.lock) ∧ tail < 16 ∧
    os = step.operands m s lock tail

/-- **The operands that a plan adds.** -/
theorem operands_steps : ∀ {steps : List Step} {s : State}, runSteps m steps s = .ok s' →
    ∃ oss, s'.draft.operands = s.draft.operands ++ oss.flatten ∧
      List.Forall₂ (Step.Adds m s) steps oss
  | [], s, h => by
      cases h
      exact ⟨[], (List.append_nil _).symm, .nil⟩
  | step :: rest, s, h => by
      obtain ⟨s₁, h₁, h⟩ := bind_eq_ok_iff.mp h
      obtain ⟨-, heffect⟩ := effect_step h₁
      obtain ⟨tail, htail, hos⟩ := operands_step h₁
      obtain ⟨oss, hoss, hadds⟩ := operands_steps h
      refine ⟨_ :: oss, ?_, .cons ⟨_, tail, id, htail, rfl⟩ (hadds.imp ?_)⟩
      · rw [hoss, hos, List.append_assoc]
        rfl
      · rintro step' os ⟨lock, tail', hlock, htail', rfl⟩
        refine ⟨lock, tail', fun h => ?_, htail', Step.operands_of_spelled heffect.spelled _ _ _⟩
        have hnotes : s₁.draft.prefixes = (step.note m s s.notes).prefixes :=
          congrArg Notes.prefixes heffect.notes
        exact step.lock_note s.notes (hnotes ▸ hlock h)

end

/-! ### Addresses -/

namespace AddressShape

/-- The memory operand of a shape, with the displacement `d`. -/
def operand (a : AddressShape) (d : UInt64) : MemoryOperand :=
  { base := a.base, index := a.index, scale := a.scale, displacement := d
    displacementSize := a.displacementSize }

/-- The shape that the ModRM byte and the index byte `sib` spell. -/
def spelled (m : Mode) (s : State) (vectors : Option Register) (sib : UInt8) : AddressShape :=
  let gpr := Register.gpr (s.addressSize m)
  if s.addressSize m = .w16 then of16 s.mod s.rm
  else if s.rm = 4 then indexed m s gpr vectors sib
  else plain m s gpr

end AddressShape

namespace Step

/-- The file that the index of the memory operand is taken from, if that is a vector. -/
def vectors? : Step → Option Register
  | memVsib base _ => some base
  | _ => none

/-- The memory operand that a step fills in, given the index byte `sib` and the displacement. -/
def address (m : Mode) (s : State) (sib : UInt8) (d : UInt64) : Step → MemoryOperand
  | offsetMemory =>
      { scale := 1, displacement := d, displacementSize := (s.addressSize m).bits / 8 }
  | tableMemory =>
      { base := (Register.gpr (s.addressSize m)).offset 3, index := .al, scale := 1 }
  | step => (AddressShape.spelled m s step.vectors? sib).operand d

/-- A memory operand is added only by a step that fills in an address. -/
theorem fillsMemory_of_mem {m : Mode} {s : State} {step : Step}
    (h : .memory ∈ step.kinds m s) : step.fillsMemory := by
  cases step with
  | immZ sizing =>
      simp only [kinds] at h
      cases hsize : sizing.size m s <;> rw [hsize] at h <;> simp at h
  | imm8Signed sizing | immFull sizing | far sizing | rel8 sizing | relZ _ sizing =>
      simp only [kinds, List.mem_singleton] at h
      cases hsize : sizing.size m s <;> rw [hsize] at h <;> cases h
  | stringSource | stringDestination =>
      simp only [kinds, List.mem_singleton] at h
      cases hsize : s.addressSize m <;> rw [hsize] at h <;> cases h
  | exchange number =>
      simp only [kinds] at h
      split at h
      · cases h
      · split at h <;> simp at h
  | rm | rmBound | rmVector | rmScalar | mem | memVector | memVsib | memSib | memBound
  | is4BeforeRm | offsetMemory | tableMemory => rfl
  | _ => simp [kinds] at h

end Step

section

variable {m : Mode} {s s' : State}

/-- The address of a step is read off what the bytes before the plan have spelled. -/
theorem Step.address_of_spelled (h : s'.spelled = s.spelled) (sib : UInt8) (d : UInt64)
    (step : Step) : step.address m s' sib d = step.address m s sib d := by
  show step.address m s'.spelled sib d = step.address m s.spelled sib d
  rw [h]

/-- Whatever index byte there is, the shape is the spelled one. -/
theorem addressShape_eq_ok {vectors : Option Register} {a : AddressShape × State}
    (h : s.addressShape m vectors = .ok a) : ∃ sib, a.1 = .spelled m s vectors sib := by
  simp only [AddressShape.spelled]
  by_cases hsize : s.addressSize m = .w16
  · rw [State.addressShape, hsize] at h
    cases h
    exact ⟨0, (if_pos hsize).symm⟩
  · rw [State.addressShape_wide hsize] at h
    simp only [if_neg hsize]
    dsimp only at h
    split at h
    next hrm =>
      obtain ⟨b, hb, h⟩ := bind_eq_ok_iff.mp h
      obtain ⟨p, u, hadvances⟩ := advances_byte hb
      cases h
      refine ⟨b.1, ?_⟩
      rw [if_pos hrm, hadvances]
      rfl
    next hrm =>
      cases h
      exact ⟨0, (if_neg hrm).symm⟩

/-- A memory operand is filled in with the spelled address. -/
theorem memory_readMemory {tuple : TupleType} {vectors : Option Register}
    (h : s.readMemory m tuple vectors = .ok s') :
    ∃ sib d, s'.draft.memory = (AddressShape.spelled m s vectors sib).operand d := by
  rw [readMemory_eq] at h
  obtain ⟨a, ha, h⟩ := bind_eq_ok_iff.mp h
  obtain ⟨b, hb, h⟩ := bind_eq_ok_iff.mp h
  cases h
  obtain ⟨sib, hshape⟩ := addressShape_eq_ok ha
  exact ⟨sib, _, congrArg (AddressShape.operand · _) hshape⟩

theorem memory_readMem {tuple : TupleType} {vectors : Option Register}
    (h : s.readMem m tuple vectors = .ok s') :
    ∃ sib d, s'.draft.memory = (AddressShape.spelled m s vectors sib).operand d := by
  rw [State.readMem] at h
  split at h
  · cases h
  · exact memory_readMemory h

/-- What is done in memory form. -/
theorem of_memoryForm {sr : State} {mem : Except Stop State}
    (h : (if s.registerForm then .ok sr else mem) = .ok s')
    (hform : .memory ∈ [Step.formKind s]) : mem = .ok s' := by
  rw [List.mem_singleton, Step.formKind] at hform
  split at hform
  · cases hform
  · rwa [if_neg ‹_›] at h

/-- **The address that a step fills in.** -/
theorem memory_step {step : Step} (hmem : .memory ∈ step.kinds m s) (h : step.run m s = .ok s') :
    ∃ sib d, s'.draft.memory = step.address m s sib d := by
  have hfills := Step.fillsMemory_of_mem hmem
  cases step with
  | rm bank => exact memory_readMemory (of_memoryForm h hmem)
  | rmBound => exact memory_readMemory (of_memoryForm h hmem)
  | rmVector base tuple broadcast =>
      exact memory_readMemory
        (s := (s.forbid m (s.evexB && !broadcast)).withBroadcast broadcast) (of_memoryForm h hmem)
  | rmScalar => exact memory_readMemory (of_memoryForm h hmem)
  | mem => exact memory_readMem h
  | memVector tuple => exact memory_readMem (s := s.forbid m _) h
  | memVsib base tuple => exact memory_readMem (s := s.mark _) h
  | memSib => exact memory_readMem (s := s.forbid m _) h
  | memBound =>
      obtain ⟨s₁, h₁, h⟩ := bind_eq_ok_iff.mp h
      cases h
      have hread : ∃ sib d, s₁.draft.memory = (AddressShape.spelled m s none sib).operand d :=
        memory_readMem (s := s.forbid m _) h₁
      exact hread
  | is4BeforeRm base =>
      obtain ⟨s₁, h₁, h⟩ := bind_eq_ok_iff.mp h
      obtain ⟨⟨r, s₂⟩, h₂, h⟩ := bind_eq_ok_iff.mp h
      cases h
      obtain ⟨p, u, rfl⟩ : s₁.Advances s₂ := advances_readIs4 h₂
      have hform : .memory ∈ [Step.formKind s] :=
        (List.mem_cons.mp hmem).resolve_left OperandKind.noConfusion
      have hread : ∃ sib d, s₁.draft.memory = (AddressShape.spelled m s none sib).operand d :=
        memory_readMemory (of_memoryForm h₁ hform)
      exact hread
  | offsetMemory =>
      obtain ⟨a, ha, h⟩ := bind_eq_ok_iff.mp h
      cases h
      exact ⟨0, _, rfl⟩
  | tableMemory => cases h; exact ⟨0, 0, rfl⟩
  | _ => cases hfills

end

/-! ### Fields -/

/-- The fields that steps fill in besides the list of operands. All but the code hold values that
operands refer to. -/
inductive Field where
  | code | memory | immediate | second | nearBranch | farBranch
deriving DecidableEq

namespace OperandKind

/-- The field that an operand of this kind refers to. -/
def field? : OperandKind → Option Field
  | register | memorySegSI | memorySegESI | memorySegRSI | memorySegDI | memorySegEDI
  | memorySegRDI | memoryESDI | memoryESEDI | memoryESRDI => none
  | nearBranch16 | nearBranch32 | nearBranch64 => some .nearBranch
  | farBranch16 | farBranch32 => some .farBranch
  | immediate8 | immediate16 | immediate32 | immediate64 | immediate8to16 | immediate8to32
  | immediate8to64 | immediate32to64 => some .immediate
  | immediate8Second => some .second
  | memory => some .memory

end OperandKind

namespace Field

/-- What a state holds of a field. -/
def part (s : State) : Field → State
  | code => { pending := [], draft := { code := s.draft.code } }
  | memory =>
      { pending := [], ipRelative := s.ipRelative
        draft := { memory := s.draft.memory, broadcast := s.draft.broadcast } }
  | immediate => { pending := [], draft := { immediate := s.draft.immediate } }
  | second => { pending := [], draft := { immediate2 := s.draft.immediate2 } }
  | nearBranch => { pending := [], branch := s.branch }
  | farBranch =>
      { pending := []
        draft := { farBranch := s.draft.farBranch, farSelector := s.draft.farSelector } }

end Field

/-- The fields that a step fills in: those that its operands refer to. An exchange may change the
code. -/
def Step.fields (m : Mode) (s : State) : Step → List Field
  | exchange _ => [.code]
  | step => (step.kinds m s).filterMap (·.field?)

/-- From `s` to `s'` only the fields `fs` change. -/
def Keeps (fs : List Field) (s s' : State) : Prop := ∀ f : Field, f ∉ fs → f.part s' = f.part s

namespace Keeps

variable {fs fs' : List Field} {s s' s'' : State}

theorem refl (s : State) : Keeps fs s s := fun _ _ => rfl

/-- What two parts of a run keep, the run keeps. -/
theorem trans (h : Keeps fs s s') (h' : Keeps fs' s' s'') : Keeps (fs ++ fs') s s'' := by
  intro f hf
  rw [List.mem_append, not_or] at hf
  exact (h' f hf.2).trans (h f hf.1)

end Keeps

section

variable {m : Mode} {s s' : State}

/-- Taking bytes from the window changes no field. -/
theorem State.Advances.keeps (h : s.Advances s') : Keeps [] s s' := by
  obtain ⟨p, u, rfl⟩ := h
  intro f _
  cases f <;> rfl

theorem keeps_readMemory {tuple : TupleType} {vectors : Option Register}
    (h : s.readMemory m tuple vectors = .ok s') : Keeps [.memory] s s' := by
  rw [readMemory_eq] at h
  obtain ⟨a, ha, h⟩ := bind_eq_ok_iff.mp h
  obtain ⟨b, hb, h⟩ := bind_eq_ok_iff.mp h
  cases h
  refine (advances_addressShape ha).keeps.trans ((advances_word hb).keeps.trans fun f hf => ?_)
  cases f with
  | memory => exact absurd List.mem_cons_self hf
  | _ => rfl

theorem keeps_readMem {tuple : TupleType} {vectors : Option Register}
    (h : s.readMem m tuple vectors = .ok s') : Keeps [.memory] s s' := by
  rw [State.readMem] at h
  split at h
  · cases h
  · exact keeps_readMemory h

/-- The register form leaves the address alone. -/
theorem keeps_of_form {sr : State} {mem : Except Stop State}
    (h : (if s.registerForm then .ok sr else mem) = .ok s') (hreg : Keeps [] s sr)
    (hmem : mem = .ok s' → Keeps [.memory] s s') :
    Keeps ([Step.formKind s].filterMap (·.field?)) s s' := by
  rw [Step.formKind]
  by_cases hform : s.registerForm
  · rw [if_pos hform] at h ⊢
    cases h
    exact hreg
  · rw [if_neg hform] at h ⊢
    exact hmem h

/-- An immediate fills in its own field. -/
theorem keeps_readImmediate {k : OperandKind} (hk : k.field? = some .immediate) {n : Nat}
    (h : s.readImmediate k n = .ok s') : Keeps ([k].filterMap (·.field?)) s s' := by
  obtain ⟨a, ha, h⟩ := bind_eq_ok_iff.mp h
  cases h
  rw [List.filterMap_cons_some hk]
  refine (advances_word ha).keeps.trans fun f hf => ?_
  cases f with
  | immediate => exact absurd List.mem_cons_self hf
  | _ => rfl

theorem keeps_readBranch {n : Nat} {size : Size} (h : s.readBranch n size = .ok s') :
    Keeps ([OperandKind.nearBranchOf size].filterMap (·.field?)) s s' := by
  have hfield : (OperandKind.nearBranchOf size).field? = some .nearBranch := by cases size <;> rfl
  obtain ⟨a, ha, h⟩ := bind_eq_ok_iff.mp h
  cases h
  rw [List.filterMap_cons_some hfield]
  refine (advances_word ha).keeps.trans fun f hf => ?_
  cases f with
  | nearBranch => exact absurd List.mem_cons_self hf
  | _ => rfl

theorem keeps_readFar {size : Size} (h : s.readFar size = .ok s') :
    Keeps ([OperandKind.farBranchOf size].filterMap (·.field?)) s s' := by
  have hfield : (OperandKind.farBranchOf size).field? = some .farBranch := by cases size <;> rfl
  obtain ⟨a, ha, h⟩ := bind_eq_ok_iff.mp h
  obtain ⟨b, hb, h⟩ := bind_eq_ok_iff.mp h
  cases h
  rw [List.filterMap_cons_some hfield]
  refine (advances_word ha).keeps.trans ((advances_word hb).keeps.trans fun f hf => ?_)
  cases f with
  | farBranch => exact absurd List.mem_cons_self hf
  | _ => rfl

theorem keeps_addControlRegister (base : Register) (s : State) :
    Keeps [] s (s.addControlRegister m base) := by
  intro f _
  simp only [State.addControlRegister]
  split
  · split <;> cases f <;> rfl
  · cases f <;> rfl

/-- An exchange may set the code of a pause. -/
theorem keeps_exchange (number : UInt32) (s : State) : Keeps [.code] s (s.exchange m number) := by
  intro f hf
  simp only [State.exchange]
  cases f with
  | code => exact absurd List.mem_cons_self hf
  | _ =>
      split
      · rfl
      · split <;> rfl

theorem keeps_applyLock (rules : LockRules) (s : State) : Keeps [] s (s.applyLock rules) := by
  intro f _
  by_cases hform : s.registerForm
  · rw [State.applyLock, if_pos hform]
  · have hlock : s.applyLock rules = (s.elide rules).allowLocks rules := if_neg hform
    rw [hlock, s.elide_eq]
    cases f <;> rfl

theorem keeps_applyRounding (onlySuppress : Bool) (s : State) :
    Keeps [] s (s.applyRounding onlySuppress) := by
  intro f _
  unfold State.applyRounding
  split
  · cases onlySuppress <;> cases f <;> rfl
  · rfl

/-- **A step changes the values of its operands only.** -/
theorem keeps_step {step : Step} (h : step.run m s = .ok s') : Keeps (step.fields m s) s s' := by
  have hreg : ∀ r, Keeps [] s (s.addRegister r) := fun r f _ => by cases f <;> rfl
  cases step with
  -- registers
  | reg | narrowReg | boundReg | segmentReg | rmNumber | vvvv | narrowVvvv | fixed | accumulator
  | opcodeReg => cases h; exact fun f _ => by cases f <;> rfl
  | controlReg base => cases h; exact keeps_addControlRegister base s
  | exchange number => cases h; exact keeps_exchange number s
  | rmRegister bank =>
      obtain ⟨-, h⟩ := of_registerForm h
      cases h
      exact hreg _
  | is4 base =>
      obtain ⟨a, ha, h⟩ := bind_eq_ok_iff.mp h
      cases h
      exact (advances_readIs4 ha).keeps.trans fun f _ => by cases f <;> rfl
  | is4BeforeRm base =>
      obtain ⟨s₁, h₁, h⟩ := bind_eq_ok_iff.mp h
      obtain ⟨⟨r, s₂⟩, h₂, h⟩ := bind_eq_ok_iff.mp h
      cases h
      have hrm : Keeps ([Step.formKind s].filterMap (·.field?)) s s₁ :=
        keeps_of_form h₁ (hreg _) keeps_readMemory
      intro f hf
      refine Eq.trans ?_ (hrm f hf)
      obtain ⟨p, u, rfl⟩ : s₁.Advances s₂ := advances_readIs4 h₂
      cases f <;> rfl
  -- registers or memory
  | rm bank => exact keeps_of_form h (hreg _) keeps_readMemory
  | rmBound => exact keeps_of_form h (fun f _ => by cases f <;> rfl) keeps_readMemory
  | rmVector base tuple broadcast =>
      refine keeps_of_form h (hreg _) fun h => ?_
      have hread := keeps_readMemory
        (s := (s.forbid m (s.evexB && !broadcast)).withBroadcast broadcast) h
      intro f hf
      refine (hread f hf).trans ?_
      cases f with
      | memory => exact absurd List.mem_cons_self hf
      | _ => rfl
  | rmScalar => exact keeps_of_form h (hreg _) keeps_readMemory
  | mem => exact keeps_readMem h
  | memVector tuple =>
      have hread := keeps_readMem (s := s.forbid m _) h
      exact fun f hf => (hread f hf).trans (by cases f <;> rfl)
  | memVsib base tuple =>
      have hread := keeps_readMem (s := s.mark _) h
      exact fun f hf => (hread f hf).trans (by cases f <;> rfl)
  | memSib =>
      have hread := keeps_readMem (s := s.forbid m _) h
      exact fun f hf => (hread f hf).trans (by cases f <;> rfl)
  | memBound =>
      obtain ⟨s₁, h₁, h⟩ := bind_eq_ok_iff.mp h
      cases h
      have hread := keeps_readMem (s := s.forbid m _) h₁
      exact fun f hf => (Eq.trans (by cases f <;> rfl) (hread f hf)).trans (by cases f <;> rfl)
  | offsetMemory =>
      obtain ⟨a, ha, h⟩ := bind_eq_ok_iff.mp h
      cases h
      refine (advances_word ha).keeps.trans fun f hf => ?_
      cases f with
      | memory => exact absurd List.mem_cons_self hf
      | _ => rfl
  | tableMemory =>
      cases h
      intro f hf
      cases f with
      | memory => exact absurd List.mem_cons_self hf
      | _ => rfl
  -- immediates and branches
  | imm8 | imm16 | imm32 => exact keeps_readImmediate rfl h
  | imm8Signed sizing =>
      exact keeps_readImmediate (by cases sizing.size m s <;> rfl) h
  | immFull sizing =>
      exact keeps_readImmediate (by cases sizing.size m s <;> rfl) h
  | immZ sizing =>
      simp only [Step.run] at h
      simp only [Step.fields, Step.kinds]
      cases hsize : sizing.size m s <;> rw [hsize] at h <;> exact keeps_readImmediate rfl h
  | imm8Second =>
      obtain ⟨a, ha, h⟩ := bind_eq_ok_iff.mp h
      cases h
      refine (advances_byte ha).keeps.trans fun f hf => ?_
      cases f with
      | second => exact absurd List.mem_cons_self hf
      | _ => rfl
  | one =>
      cases h
      intro f hf
      cases f with
      | immediate => exact absurd List.mem_cons_self hf
      | _ => rfl
  | rel8 target => exact keeps_readBranch h
  | relZ width target => exact keeps_readBranch h
  | far sizing => exact keeps_readFar h
  | stringSource | stringDestination =>
      cases h
      exact fun f _ => by cases f <;> rfl
  -- rules and effects
  | requireRegister =>
      obtain ⟨-, h⟩ := of_registerForm h
      cases h
      exact .refl s
  | noVvvv | noMask | noZeroing | noB | noRegisterB | noMemoryB | storeZeroing | gatherMask
  | distinctGather | distinctIndex | distinctTiles => cases h; exact fun f _ => by cases f <;> rfl
  | lockable rules => cases h; exact keeps_applyLock rules s
  | rounding onlySuppress => cases h; exact keeps_applyRounding onlySuppress s

/-- Which fields a step may change is spelled before the plan. -/
theorem Step.fields_of_spelled (h : s'.spelled = s.spelled) (step : Step) :
    step.fields m s' = step.fields m s := by
  show step.fields m s'.spelled = step.fields m s.spelled
  rw [h]

/-- **A plan changes the values of its operands only.** -/
theorem keeps_steps : ∀ {steps : List Step} {s : State}, runSteps m steps s = .ok s' →
    Keeps (steps.flatMap (·.fields m s)) s s'
  | [], s, h => by
      cases h
      exact .refl _
  | step :: rest, s, h => by
      obtain ⟨s₁, h₁, h⟩ := bind_eq_ok_iff.mp h
      have hrest := keeps_steps h
      simp only [Step.fields_of_spelled (effect_step h₁).2.spelled] at hrest
      exact (keeps_step h₁).trans hrest

/-- A field other than the code is filled in for an operand that refers to it. -/
theorem Step.kind_of_mem_fields {step : Step} {f : Field} (h : f ∈ step.fields m s)
    (hf : f ≠ .code) : ∃ k ∈ step.kinds m s, k.field? = some f := by
  cases step with
  | exchange number => exact absurd (List.mem_singleton.mp h) hf
  | _ => exact List.mem_filterMap.mp h

/-- The address belongs to memory operands only. -/
theorem OperandKind.eq_memory {k : OperandKind} (h : k.field? = some .memory) : k = .memory := by
  cases k with
  | memory => rfl
  | _ => cases h

/-- **The address that a plan fills in.** -/
theorem memory_steps : ∀ {steps : List Step} {s : State}, runSteps m steps s = .ok s' →
    (∃ step ∈ steps, .memory ∈ step.kinds m s) →
    ∃ step ∈ steps, .memory ∈ step.kinds m s ∧ ∃ sib d, s'.draft.memory = step.address m s sib d
  | [], s, _, hmem => by
      obtain ⟨step, hstep, -⟩ := hmem
      cases hstep
  | step :: rest, s, h, hmem => by
      obtain ⟨s₁, h₁, h⟩ := bind_eq_ok_iff.mp h
      have hspelled := (effect_step h₁).2.spelled
      by_cases hrest : ∃ step ∈ rest, .memory ∈ step.kinds m s
      · have hrest₁ : ∃ step ∈ rest, .memory ∈ step.kinds m s₁ := by
          simp only [Step.kinds_of_spelled hspelled]
          exact hrest
        obtain ⟨step', hstep', hkinds, sib, d, hd⟩ := memory_steps h hrest₁
        rw [Step.kinds_of_spelled hspelled] at hkinds
        rw [Step.address_of_spelled hspelled] at hd
        exact ⟨step', List.mem_cons_of_mem _ hstep', hkinds, sib, d, hd⟩
      · -- the steps that follow leave the address alone
        have hstep : .memory ∈ step.kinds m s := by
          obtain ⟨step', hstep', hkinds⟩ := hmem
          rcases List.mem_cons.mp hstep' with rfl | hstep'
          · exact hkinds
          · exact absurd ⟨step', hstep', hkinds⟩ hrest
        obtain ⟨sib, d, hd⟩ := memory_step hstep h₁
        have hkeep : Field.memory.part s' = Field.memory.part s₁ := by
          refine keeps_steps h .memory fun hfield => hrest ?_
          obtain ⟨step', hstep', hfield⟩ := List.mem_flatMap.mp hfield
          obtain ⟨k, hk, hmemory⟩ := step'.kind_of_mem_fields hfield Field.noConfusion
          rw [Step.kinds_of_spelled hspelled] at hk
          exact ⟨step', hstep', OperandKind.eq_memory hmemory ▸ hk⟩
        have hmemory : s'.draft.memory = s₁.draft.memory := by
          show (Field.memory.part s').draft.memory = _
          rw [hkeep]
          rfl
        exact ⟨step, List.mem_cons_self, hstep, sib, d, hmemory.trans hd⟩

/-! ### Nodes that fill in operands -/

/-- **What a node does that fills in operands:** it picks a code, runs its steps, and may read a
byte that tells the code. -/
theorem runSteps_route {t : Tables} {n : Node} (hfills : n.fillsOperands) {b : State × Next}
    (h : t.route m n s = .ok b) : ∃ c s₁, runSteps m n.steps (s.setCode c) = .ok s₁ ∧
      ∃ c' p u, b.1 = { s₁.setCode c' with pending := p, used := u } := by
  cases n with
  | leaf l =>
      obtain ⟨s', hrun, hb⟩ := bind_eq_ok_iff.mp h
      cases hb
      exact ⟨_, s', hrun, s'.draft.code, s'.pending, s'.used, rfl⟩
  | trailing codes =>
      obtain ⟨s', hrun, hb⟩ := bind_eq_ok_iff.mp h
      cases hb
      rw [runTrailing_eq] at hrun
      obtain ⟨s₁, h₁, hrun⟩ := bind_eq_ok_iff.mp hrun
      obtain ⟨⟨x, s₂⟩, h₂, hrun⟩ := bind_eq_ok_iff.mp hrun
      obtain ⟨p, u, rfl⟩ : s₁.Advances s₂ := advances_byte h₂
      refine ⟨s.draft.code, s₁, h₁, ?_⟩
      dsimp only at hrun
      split at hrun
      · split at hrun
        · cases hrun
        · cases hrun
          exact ⟨_, p, u, rfl⟩
      · cases hrun
  | _ => cases hfills

/-! ### The last node -/

variable {t : Tables} {window : List UInt8} {n : Node}

/-- The walk of a window comes to the node `n`, in the state `s`. -/
def Tables.ComesTo (t : Tables) (m : Mode) (window : List UInt8) (n : Node) (s : State) : Prop :=
  ∃ k s₁ id policy, t.moves m k ({ pending := window }, t.restart) = .ok (s₁, .child id policy) ∧
    n = t.forest.get id ∧ Tables.enter policy n s₁ = .ok s

/-- What every move keeps holds where a walk comes to a node. -/
theorem Tables.ComesTo.keep {J : Next → State → Prop}
    (hJ : ∀ next s b, J next s → t.dispatch m next s = .ok b → b.2 ≠ .done → J b.2 b.1)
    (hstart : J t.restart { pending := window }) (h : t.ComesTo m window n s) :
    ∃ s₁ id policy, J (.child id policy) s₁ ∧ n = t.forest.get id ∧
      Tables.enter policy n s₁ = .ok s := by
  obtain ⟨k, s₁, id, policy, hmoves, hn, henter⟩ := h
  exact ⟨s₁, id, policy, Tables.moves_keep hJ hstart hmoves Next.noConfusion, hn, henter⟩

/-- A walk has taken from the window what it has counted. -/
theorem Tables.ComesTo.underway (h : t.ComesTo m window n s) : Underway window s := by
  have hstart : Underway window { pending := window } := ⟨rfl, [], rfl, rfl⟩
  obtain ⟨s₁, id, policy, hs₁, -, henter⟩ := h.keep (J := fun _ => Underway window)
    (fun _ _ _ hs hb hnext => hs.dispatch hb hnext) hstart
  exact hs₁.enter henter

/-- A node that fills in operands is no stand-in for a missing one. -/
theorem Forest.get_mem {f : Forest} {id : NodeId} (h : (f.get id).fillsOperands) :
    f.get id ∈ f.nodes := by
  rw [Forest.get, Forest.get?] at h ⊢
  cases hn : f.nodes[id.index]? with
  | none => rw [hn] at h; cases h
  | some n => exact Array.mem_of_getElem? hn

/-- **The last node.** What is read is what a node of the forest makes of the state that the walk
comes to it in. -/
theorem read_comesTo (h : t.read m window = .ok s') : ∃ n s, t.ComesTo m window n s ∧
    n ∈ t.forest.nodes ∧ n.fillsOperands ∧ t.route m n s = .ok (s', .done) := by
  let J (next : Next) (s : State) : Prop :=
    ∃ k, t.moves m k ({ pending := window }, t.restart) = .ok (s, next)
  have hJ : ∀ next s b, J next s → t.dispatch m next s = .ok b → b.2 ≠ .done → J b.2 b.1 := by
    rintro next s b ⟨k, hk⟩ hb -
    refine ⟨k + 1, ?_⟩
    rw [Tables.moves_add, hk]
    show (t.dispatch m next s >>= t.moves m 0) = _
    rw [hb]
    rfl
  obtain ⟨id, policy, s₁, s₂, ⟨k, hk⟩, henter, hfills, hroute⟩ :=
    walk_ends hJ Next.noConfusion ⟨0, rfl⟩ h
  exact ⟨_, s₂, ⟨k, s₁, id, policy, hk, rfl, henter⟩, Forest.get_mem hfills, hfills, hroute⟩

end

end OpcodeForest
