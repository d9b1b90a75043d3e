import Mathlib.Algebra.GroupWithZero.Nat
import OpcodeForest.Instruction.Json
import OpcodeForest.Proofs.Decode.Operands
import OpcodeForest.Proofs.Decode.Payload
import OpcodeForest.Proofs.Decode.Relocation

/-!
# Well-formed records

A record is that of an invalid instruction, or its fields fit its operands: a value that no operand
refers to is zero, and there is an address if and only if there is a memory operand.

* `Instruction.Tidy`: records that are well formed.
* `length_kinds_node_le`, `count_memory_node_le`: how many operands a node adds.
* `tidy_route`: a node that fills in operands leaves a state whose record is tidy.
* `decode_tidy`: every record is tidy, or that of an invalid instruction.
-/

namespace OpcodeForest

/-! ### How many operands there are -/

namespace Step

/-- A bound on the number of operands that a step adds. -/
def arity : Step → Nat
  | exchange _ | is4BeforeRm _ => 2
  | requireRegister | noVvvv | noMask | noZeroing | noB | noRegisterB | noMemoryB | storeZeroing _
  | gatherMask | distinctGather _ | distinctIndex _ | distinctTiles | lockable _ | rounding _ => 0
  | _ => 1

variable {m : Mode} {s : State}

/-- The bound holds of every step: two steps add two operands, the others one at most. -/
theorem length_kinds_le (step : Step) : (step.kinds m s).length ≤ step.arity := by
  cases step with
  | exchange number =>
      simp only [kinds]
      split
      · exact Nat.zero_le _
      · split
        · exact Nat.zero_le _
        · exact Nat.le_refl _
  | immZ sizing =>
      simp only [kinds]
      split <;> exact Nat.le_refl _
  | _ => exact Nat.le_refl _

/-- A step adds one memory operand at most, and none unless it fills in the address. -/
theorem count_memory_kinds_le (step : Step) :
    (step.kinds m s).count .memory ≤ if step.fillsMemory then 1 else 0 := by
  by_cases hmem : .memory ∈ step.kinds m s
  · rw [if_pos (fillsMemory_of_mem hmem)]
    cases step with
    | exchange number =>
        simp only [kinds] at hmem
        split at hmem
        · cases hmem
        · split at hmem <;> simp at hmem
    | is4BeforeRm base =>
        show ([OperandKind.register, formKind s]).count .memory ≤ 1
        rw [List.count_cons_of_ne OperandKind.noConfusion]
        exact List.count_le_length
    | immZ sizing =>
        simp only [kinds]
        split <;> exact List.count_le_length
    | requireRegister | noVvvv | noMask | noZeroing | noB | noRegisterB | noMemoryB
    | storeZeroing | gatherMask | distinctGather | distinctIndex | distinctTiles | lockable
    | rounding => cases hmem
    | _ => exact List.count_le_length
  · rw [List.count_eq_zero_of_not_mem hmem]
    exact Nat.zero_le _

end Step

section

variable {m : Mode} {s : State}

/-- The operands of a plan are those of its steps. -/
theorem length_kinds_steps_le (steps : List Step) :
    (steps.flatMap (·.kinds m s)).length ≤ (steps.map (·.arity)).sum := by
  induction steps with
  | nil => exact Nat.le_refl _
  | cons step rest ih =>
      rw [List.flatMap_cons, List.length_append, List.map_cons, List.sum_cons]
      exact Nat.add_le_add step.length_kinds_le ih

/-- Only steps that fill memory add a memory operand. -/
theorem count_memory_steps_le (steps : List Step) :
    (steps.flatMap (·.kinds m s)).count .memory ≤ (steps.filter (·.fillsMemory)).length := by
  induction steps with
  | nil => exact Nat.le_refl _
  | cons step rest ih =>
      rw [List.flatMap_cons, List.count_append, List.filter_cons]
      have hstep := step.count_memory_kinds_le (m := m) (s := s)
      cases hfills : step.fillsMemory with
      | false =>
          rw [hfills] at hstep
          simp only [Bool.false_eq_true, if_false] at hstep ⊢
          omega
      | true =>
          rw [hfills] at hstep
          simp only [if_true, List.length_cons] at hstep ⊢
          omega

/-- No form has more than four operands. -/
theorem arity_plan_le (l : Leaf) : (l.plan.steps.map (·.arity)).sum ≤ 4 := by
  obtain ⟨form, codes, registers, number, locks, tuple, flags⟩ := l
  cases form with
  | evexVW =>
      simp only [Leaf.plan]
      split <;> exact Nat.le_of_ble_eq_true rfl
  | _ => exact Nat.le_of_ble_eq_true rfl

/-- So no node adds more than the record has room for. -/
theorem length_kinds_node_le (n : Node) : (n.steps.flatMap (·.kinds m s)).length ≤ 4 := by
  refine Nat.le_trans (length_kinds_steps_le n.steps) ?_
  cases n with
  | leaf l => exact arity_plan_le l
  | _ => exact Nat.le_of_ble_eq_true rfl

/-- A record has one address, and no node asks for two. -/
theorem count_memory_node_le (n : Node) : (n.steps.flatMap (·.kinds m s)).count .memory ≤ 1 := by
  refine Nat.le_trans (count_memory_steps_le n.steps) ?_
  cases n with
  | leaf l => exact length_filter_plan_le l
  | _ => exact Nat.le_of_ble_eq_true rfl

end

/-! ### Addresses and registers -/

namespace MemoryOperand

/-- The index has a factor of an index byte, and the displacement a size of a displacement. -/
def Shaped (mem : MemoryOperand) : Prop :=
  mem.scale ∈ [1, 2, 4, 8] ∧ mem.displacementSize ∈ [0, 1, 2, 4, 8]

end MemoryOperand

section

variable {m : Mode} {s : State}

theorem AddressShape.wideSize_mem (mod : Nat) (noBase : Bool) :
    wideSize mod noBase ∈ [0, 1, 2, 4, 8] := by
  unfold wideSize
  split
  · decide
  · split <;> decide

/-- Without an index byte the factor is one. -/
theorem MemoryOperand.Shaped.of_one {mem : MemoryOperand} (hscale : mem.scale = 1)
    (hsize : mem.displacementSize ∈ [0, 1, 2, 4, 8]) : mem.Shaped :=
  ⟨hscale ▸ List.mem_cons_self, hsize⟩

/-- Sixteen-bit addresses scale by one. -/
theorem AddressShape.shaped_of16 (mod rm : Nat) (d : UInt64) :
    ((of16 mod rm).operand d).Shaped := by
  unfold of16
  split
  · exact .of_one rfl (List.mem_of_elem_eq_true rfl)
  · refine .of_one rfl ?_
    show (if mod = 0 then 0 else if mod = 1 then 1 else 2) ∈ _
    split
    · decide
    · split <;> decide

/-- So do addresses without an index byte. -/
theorem AddressShape.shaped_plain (gpr : Register) (d : UInt64) :
    ((plain m s gpr).operand d).Shaped := by
  unfold plain
  split
  · exact .of_one rfl (List.mem_of_elem_eq_true rfl)
  · exact .of_one rfl (wideSize_mem _ _)

/-- An index byte spells the scale in two bits. -/
theorem AddressShape.shaped_indexed (gpr : Register) (vectors : Option Register) (sib : UInt8)
    (d : UInt64) : ((indexed m s gpr vectors sib).operand d).Shaped := by
  refine ⟨?_, wideSize_mem _ _⟩
  show 1 <<< (sib.toNat / 64) ∈ _
  rw [show 1 <<< (sib.toNat / 64) = (s.addressing m none sib).scale from scale_eq sib,
    Addressing.scale]
  split <;> decide

/-- The address that a step fills in is well formed. -/
theorem Step.shaped_address (step : Step) (sib : UInt8) (d : UInt64) :
    (step.address m s sib d).Shaped := by
  cases step with
  | offsetMemory =>
      refine .of_one rfl ?_
      show (s.addressSize m).bits / 8 ∈ _
      cases s.addressSize m <;> decide
  | tableMemory => exact .of_one rfl (List.mem_of_elem_eq_true rfl)
  | _ =>
      simp only [address, AddressShape.spelled]
      split
      · exact AddressShape.shaped_of16 _ _ d
      · split
        · exact AddressShape.shaped_indexed _ _ sib d
        · exact AddressShape.shaped_plain _ d

/-- Only register operands name a register. -/
def Operand.Tidy (o : Operand) : Prop := o.kind ≠ .register → o.register = .none

theorem Operand.tidy_reg (r : Register) : (Operand.reg r).Tidy := fun h => absurd rfl h

theorem Operand.tidy_rm (s : State) (r : Register) : (Operand.rm s r).Tidy := by
  unfold Operand.rm
  split
  · exact tidy_reg r
  · exact fun _ => rfl

/-- **The operands of every step are tidy**: only those that are registers name one. -/
theorem Step.tidy_operands {lock : Bool} {tail : Nat} (step : Step) :
    ∀ o ∈ step.operands m s lock tail, o.Tidy := by
  intro o ho
  cases step with
  | reg | narrowReg | boundReg | segmentReg | controlReg | rmRegister | rmNumber | vvvv
  | narrowVvvv | is4 | fixed | accumulator | opcodeReg =>
      obtain rfl := List.mem_singleton.mp ho
      exact Operand.tidy_reg _
  | rm | rmBound | rmVector | rmScalar =>
      obtain rfl := List.mem_singleton.mp ho
      exact Operand.tidy_rm s _
  | is4BeforeRm base =>
      rcases List.mem_cons.mp ho with rfl | ho
      · exact Operand.tidy_reg _
      · obtain rfl := List.mem_singleton.mp ho
        exact Operand.tidy_rm s _
  | exchange number =>
      simp only [operands] at ho
      split at ho
      · cases ho
      · split at ho
        · cases ho
        · rcases List.mem_cons.mp ho with rfl | ho
          · exact Operand.tidy_reg _
          · obtain rfl := List.mem_singleton.mp ho
            exact Operand.tidy_reg _
  | _ =>
      obtain ⟨k, -, rfl⟩ := List.mem_map.mp ho
      exact fun _ => rfl

end

/-- So are the operands of a plan. -/
theorem tidy_of_adds {m : Mode} {s : State} {steps : List Step} {oss : List (List Operand)}
    (h : List.Forall₂ (Step.Adds m s) steps oss) : ∀ o ∈ oss.flatten, o.Tidy := by
  induction h with
  | nil => exact fun o ho => absurd ho List.not_mem_nil
  | @cons step _ _ _ hadds _ ih =>
      intro o ho
      obtain ⟨lock, tail, -, -, rfl⟩ := hadds
      rcases List.mem_append.mp ho with ho | ho
      · exact step.tidy_operands o ho
      · exact ih o ho

/-! ### Codes -/

namespace CodeRule

/-- The number of codes to pick from. -/
def count : CodeRule → Nat
  | only => 1
  | bySize _ => 3
  | wide _ | word _ => 2

end CodeRule

namespace Leaf

/-- The codes that a leaf carries. -/
def carried (l : Leaf) : List Code := (List.range l.plan.code.count).map l.code

end Leaf

/-- The codes that a node carries if it is a leaf. -/
def Node.carried : Node → List Code
  | leaf l => l.carried
  | _ => []

section

variable {m : Mode} {s s' : State}

/-- The code that a leaf picks is one of those it carries. -/
theorem pick_mem_carried (m : Mode) (s : State) (l : Leaf) :
    l.plan.code.pick m s l ∈ l.carried := by
  have hmem : ∀ {n}, n < l.plan.code.count → l.code n ∈ l.carried := fun hn =>
    List.mem_map_of_mem (List.mem_range.mpr hn)
  cases hrule : l.plan.code with
  | only => exact hmem (hrule ▸ by decide)
  | bySize sizing =>
      refine hmem (hrule ▸ ?_)
      show (sizing.size m s).rank < 3
      cases sizing.size m s <;> decide
  | wide sizing =>
      refine hmem (hrule ▸ ?_)
      show (if sizing.size m s = .w64 then 1 else 0) < 2
      split <;> decide
  | word sizing =>
      refine hmem (hrule ▸ ?_)
      show (if sizing.size m s = .w16 then 0 else 1) < 2
      split <;> decide

/-- An exchange may turn into a pause, which is a valid instruction too. -/
theorem valid_exchange (number : UInt32) (hs : s.draft.code.isInvalid = false) :
    (s.exchange m number).draft.code.isInvalid = false := by
  simp only [State.exchange]
  split
  · rfl
  · split
    · show (Code.Nopw.offset (s.operandSize m).rank).isInvalid = false
      cases s.operandSize m <;> rfl
    · exact hs

/-- A step puts no invalid code in place of a valid one. -/
theorem valid_step {step : Step} (hs : s.draft.code.isInvalid = false)
    (h : step.run m s = .ok s') : s'.draft.code.isInvalid = false := by
  by_cases hcode : .code ∈ step.fields m s
  · cases step with
    | exchange number => cases h; exact valid_exchange number hs
    | _ =>
        obtain ⟨k, -, hk⟩ := List.mem_filterMap.mp hcode
        cases k <;> cases hk
  · have hkeep : Field.code.part s' = Field.code.part s := keeps_step h .code hcode
    show (Field.code.part s').draft.code.isInvalid = false
    rw [hkeep]
    exact hs

/-- Steps keep a valid code valid. -/
theorem valid_steps : ∀ {steps : List Step} {s : State}, s.draft.code.isInvalid = false →
    runSteps m steps s = .ok s' → s'.draft.code.isInvalid = false
  | [], _, hs, h => by cases h; exact hs
  | step :: rest, s, hs, h => by
      obtain ⟨s₁, h₁, h⟩ := bind_eq_ok_iff.mp h
      exact valid_steps (valid_step hs h₁) h

/-- No leaf carries the code of no instruction. -/
def Tables.CodesValid (t : Tables) : Prop :=
  ∀ n ∈ t.forest.nodes, ∀ c ∈ n.carried, c.isInvalid = false

/-- A node that fills in operands leaves a valid code, if the tables have no others. -/
theorem valid_route {t : Tables} {n : Node} (ht : t.CodesValid) (hn : n ∈ t.forest.nodes)
    (hfills : n.fillsOperands) {b : State × Next} (h : t.route m n s = .ok b) :
    b.1.draft.code.isInvalid = false := by
  cases n with
  | leaf l =>
      obtain ⟨s', hrun, hb⟩ := bind_eq_ok_iff.mp h
      cases hb
      exact valid_steps (s := s.setCode _) (ht _ hn _ (pick_mem_carried m s l)) hrun
  | trailing codes =>
      obtain ⟨s', hrun, hb⟩ := bind_eq_ok_iff.mp h
      cases hb
      rw [runTrailing_eq] at hrun
      obtain ⟨s₁, -, hrun⟩ := bind_eq_ok_iff.mp hrun
      obtain ⟨⟨x, s₂⟩, -, hrun⟩ := bind_eq_ok_iff.mp hrun
      dsimp only at hrun
      split at hrun
      · split at hrun
        next hcode => cases hrun
        next hcode => cases hrun; exact Bool.eq_false_iff.mpr hcode
      · cases hrun
  | _ => cases hfills

/-! ### States that are filled in -/

/-- The fields of a state fit its operands. -/
structure State.Tidy (s : State) : Prop where
  count : s.kinds.length ≤ 4
  one : s.kinds.count .memory ≤ 1
  registers : ∀ o ∈ s.draft.operands, o.Tidy
  shaped : .memory ∈ s.kinds → s.draft.memory.Shaped
  unused : ∀ f : Field, f ≠ .code → (∀ k ∈ s.kinds, k.field? ≠ some f) →
    f.part s = f.part { pending := [] }

/-- **A node that fills in operands** does so tidily. -/
theorem tidy_route {t : Tables} {n : Node} {window : List UInt8} (hfills : n.fillsOperands)
    (hs : Underway window s) {b : State × Next} (h : t.route m n s = .ok b) : b.1.Tidy := by
  have hkinds := hs.kinds_route hfills h
  obtain ⟨c, s₁, hrun, c', p, u, hb⟩ := runSteps_route hfills h
  have hoperands : b.1.draft.operands = s₁.draft.operands := by rw [hb]; rfl
  have hmemory : b.1.draft.memory = s₁.draft.memory := by rw [hb]; rfl
  have hnone : s.draft.operands = [] := List.map_eq_nil_iff.mp hs.kinds
  refine ⟨?_, ?_, ?_, ?_, ?_⟩
  · rw [hkinds]
    exact length_kinds_node_le n
  · rw [hkinds]
    exact count_memory_node_le n
  · obtain ⟨oss, hoss, hadds⟩ := operands_steps hrun
    have hstart : (s.setCode c).draft.operands = [] := hnone
    rw [hoperands, hoss, hstart, List.nil_append]
    exact tidy_of_adds hadds
  · intro hmem
    rw [hkinds] at hmem
    obtain ⟨step, -, -, sib, d, hd⟩ := memory_steps hrun (List.mem_flatMap.mp hmem)
    rw [hmemory, hd]
    exact step.shaped_address sib d
  · intro f hf hunused
    have hkeep := keeps_steps hrun f fun hmem => by
      obtain ⟨step, hstep, hmem⟩ := List.mem_flatMap.mp hmem
      obtain ⟨k, hk, hfield⟩ := step.kind_of_mem_fields hmem hf
      exact hunused k (hkinds ▸ List.mem_flatMap.mpr ⟨step, hstep, hk⟩) hfield
    have hstart : f.part s.filled = f.part { pending := [] } := by
      rw [hs.filled]
      cases f <;> rfl
    calc f.part b.1 = f.part s₁ := by
          rw [hb]
          cases f with
          | code => exact absurd rfl hf
          | _ => rfl
      _ = f.part (s.setCode c) := hkeep
      _ = f.part s.filled := by
          cases f with
          | code => exact absurd rfl hf
          | _ => rfl
      _ = f.part { pending := [] } := hstart

/-- **What a walk ends with is tidy.** -/
theorem tidy_read {t : Tables} {window : List UInt8} (h : t.read m window = .ok s') :
    s'.Tidy := by
  obtain ⟨n, s₁, hs₁, hfills, hroute⟩ := read_ends h
  exact tidy_route hfills hs₁ hroute

end

/-! ### Records -/

/-- The fields of a record fit its operands. A value that no operand refers to is zero, and the
address is there with a memory operand only. -/
structure Instruction.Tidy (i : Instruction) : Prop where
  count : i.operands.length ≤ 4
  places : ∀ o ∈ i.places.drop i.operands.length, o = {}
  registers : ∀ o ∈ i.operands, o.kind ≠ .register → o.register = .none
  oneMemory : i.kinds.count .memory ≤ 1
  memory : i.memory = {} ↔ .memory ∉ i.kinds
  shaped : .memory ∈ i.kinds →
    i.memory.scale ∈ [1, 2, 4, 8] ∧ i.memory.displacementSize ∈ [0, 1, 2, 4, 8]
  immediate : (∀ k ∈ i.kinds, k.field? ≠ some .immediate) → i.immediate = 0
  second : (∀ k ∈ i.kinds, k.field? ≠ some .second) → i.immediate2 = 0
  nearBranch : (∀ k ∈ i.kinds, k.field? ≠ some .nearBranch) → i.nearBranch = 0
  farBranch : (∀ k ∈ i.kinds, k.field? ≠ some .farBranch) → i.farBranch = 0 ∧ i.farSelector = 0
  broadcast : i.broadcast → .memory ∈ i.kinds

section

variable {m : Mode} {s : State}

theorem memory_finish (h : s.Accepted m) (ip : UInt64) : (s.finish m ip).memory
    = { s.draft.memory with displacement := s.displacement (ip + UInt64.ofNat s.used) } := by
  rw [State.finish, if_neg h]

/-- Without a memory operand there is no address. -/
theorem State.Tidy.memory_of_unused (h : s.Tidy) (hmem : .memory ∉ s.kinds) :
    s.draft.memory = {} ∧ s.ipRelative = none ∧ s.draft.broadcast = false := by
  have hpart := h.unused .memory Field.noConfusion fun k hk hfield =>
    hmem (OperandKind.eq_memory hfield ▸ hk)
  exact ⟨congrArg (·.draft.memory) hpart, congrArg State.ipRelative hpart,
    congrArg (·.draft.broadcast) hpart⟩

/-- And with one there is, since no address has the scale zero. -/
theorem State.Tidy.memory_eq_iff (h : s.Tidy) (haccepted : s.Accepted m) (ip : UInt64) :
    (s.finish m ip).memory = {} ↔ .memory ∉ s.kinds := by
  rw [memory_finish haccepted]
  constructor
  · intro hdefault hmem
    -- an address that is filled in has a factor
    have hscale : s.draft.memory.scale = 0 := congrArg MemoryOperand.scale hdefault
    have hshaped := (h.shaped hmem).1
    rw [hscale] at hshaped
    exact absurd hshaped (by decide)
  · intro hmem
    obtain ⟨hmemory, hip, -⟩ := h.memory_of_unused hmem
    rw [displacement_of_absolute hip, hmemory]

/-- **The record of a tidy state is tidy.** -/
theorem State.Tidy.finish (h : s.Tidy) (haccepted : s.Accepted m) (ip : UInt64) :
    (s.finish m ip).Tidy := by
  have hkinds := kinds_finish haccepted ip
  have hrecord : s.finish m ip = { s.draft with
      length := s.used, ip, nearBranch := s.branchTarget (ip + UInt64.ofNat s.used)
      memory := (s.finish m ip).memory } := by
    rw [State.finish, if_neg haccepted]
  have hoperands : (s.finish m ip).operands = s.draft.operands := by rw [hrecord]
  constructor
  case count =>
    rw [hoperands, ← List.length_map]
    exact h.count
  case places =>
    intro o ho
    rw [Instruction.places, List.drop_left] at ho
    exact List.eq_of_mem_replicate ho
  case registers =>
    rw [hoperands]
    exact h.registers
  case oneMemory => rw [hkinds]; exact h.one
  case memory => rw [hkinds]; exact h.memory_eq_iff haccepted ip
  case shaped =>
    rw [hkinds, memory_finish haccepted]
    exact h.shaped
  case immediate =>
    rw [hkinds, hrecord]
    intro hunused
    exact congrArg (·.draft.immediate) (h.unused .immediate Field.noConfusion hunused)
  case second =>
    rw [hkinds, hrecord]
    exact fun hunused => congrArg (·.draft.immediate2) (h.unused .second Field.noConfusion hunused)
  case nearBranch =>
    rw [hkinds, hrecord]
    intro hunused
    have hbranch : s.branch = none :=
      congrArg State.branch (h.unused .nearBranch Field.noConfusion hunused)
    show s.branchTarget _ = 0
    rw [State.branchTarget, hbranch]
  case farBranch =>
    rw [hkinds, hrecord]
    intro hunused
    have hpart := h.unused .farBranch Field.noConfusion hunused
    exact ⟨congrArg (·.draft.farBranch) hpart, congrArg (·.draft.farSelector) hpart⟩
  case broadcast =>
    rw [hkinds, hrecord]
    intro hbroadcast
    by_contra hmem
    have hnone : s.draft.broadcast = false := (h.memory_of_unused hmem).2.2
    exact Bool.false_ne_true (hnone.symm.trans hbroadcast)

end

section

variable {t : Tables} {m : Mode} {bytes : List UInt8}

/-- Bytes that are not accepted give the record of an invalid instruction. -/
theorem decode_of_not_accepts (h : t.accepts m bytes = false) (ip : UInt64) :
    t.decode m ip bytes = .bad (t.decode m ip bytes).length ip := by
  rcases decode_cases t m bytes with ⟨n, hbad⟩ | ⟨s, hread, haccepted, -⟩
  · rw [hbad]
    rfl
  · have haccepts : t.accepts m bytes :=
      Tables.accepts_iff.mpr ⟨s, hread, Bool.eq_false_iff.mpr haccepted⟩
    exact absurd (h.symm.trans haccepts) Bool.false_ne_true

/-- Accepted bytes give the record of the state where the walk ends. -/
theorem decode_of_accepts (h : t.accepts m bytes) : ∃ s,
    t.read m (bytes.take maxLength) = .ok s ∧ s.Accepted m ∧
      ∀ ip, t.decode m ip bytes = s.finish m ip := by
  obtain ⟨s, hread, haccepted⟩ := Tables.accepts_iff.mp h
  refine ⟨s, hread, Bool.eq_false_iff.mp haccepted, fun ip => ?_⟩
  rw [Tables.decode_eq_record, hread]
  rfl

/-- Accepted bytes are a valid instruction. -/
theorem isInvalid_decode (ht : t.CodesValid) (h : t.accepts m bytes) (ip : UInt64) :
    (t.decode m ip bytes).isInvalid = false := by
  obtain ⟨s, hread, haccepted, hdecode⟩ := decode_of_accepts h
  obtain ⟨n, s₁, -, hn, hfills, hroute⟩ := read_comesTo hread
  rw [hdecode, State.finish, if_neg haccepted]
  exact valid_route ht hn hfills hroute

end

/-- **Records are well formed.** Bytes that are marked invalid, or that end too early, have the
record of an invalid instruction: nothing but its length and address is filled in. Every other
record is tidy. If no leaf carries the code of no instruction, the code tells the two apart. -/
theorem decode_tidy (t : Tables) (m : Mode) (ip : UInt64) (bytes : List UInt8) :
    (t.accepts m bytes = false →
      t.decode m ip bytes = .bad (t.decode m ip bytes).length ip) ∧
    (t.accepts m bytes → (t.decode m ip bytes).Tidy) ∧
    (t.CodesValid → ((t.decode m ip bytes).isInvalid ↔ t.accepts m bytes = false)) := by
  refine ⟨fun h => decode_of_not_accepts h ip, fun h => ?_,
    fun ht => ⟨fun hinvalid => ?_, fun h => ?_⟩⟩
  · obtain ⟨s, hread, haccepted, hdecode⟩ := decode_of_accepts h
    rw [hdecode]
    exact (tidy_read hread).finish haccepted ip
  · by_contra haccepts
    have hvalid := isInvalid_decode ht (eq_true_of_ne_false haccepts) ip
    exact Bool.false_ne_true (hvalid.symm.trans hinvalid)
  · rw [decode_of_not_accepts h ip]
    rfl

/-- A sum with a broadcast memory operand, and the same bytes cut short. -/
theorem decode_tidy_small :
    let m : Mode := { bitness := .bits64, options := {} }
    let bytes : List UInt8 := [0x62, 0xF1, 0x7C, 0x58, 0x58, 0x40, 0x02]
    let i := vectorTables.decode m 0 bytes
    vectorTables.CodesValid ∧ vectorTables.accepts m bytes ∧ i.broadcast ∧
      i.kinds = [.register, .register, .memory] ∧ i.Tidy ∧ i.isInvalid = false ∧
      vectorTables.accepts m (bytes.take 6) = false ∧
      vectorTables.decode m 0 (bytes.take 6) = .bad 6 0 := by
  intro m bytes i
  have hcodes : vectorTables.CodesValid := by
    have hall : ∀ n ∈ vectorTables.forest.nodes, ∀ c ∈ n.carried, c.isInvalid = false := by decide
    exact hall
  have haccepts : vectorTables.accepts m bytes := by decide
  have hcut : vectorTables.accepts m (bytes.take 6) = false := by decide
  obtain ⟨-, htidy, hinvalid⟩ := decode_tidy vectorTables m 0 bytes
  refine ⟨hcodes, haccepts, by decide, by decide, htidy haccepts, Bool.eq_false_iff.mpr fun h => ?_,
    hcut, ?_⟩
  · exact Bool.false_ne_true (((hinvalid hcodes).mp h).symm.trans haccepts)
  · have hbad := (decode_tidy vectorTables m 0 (bytes.take 6)).1 hcut
    rwa [show (vectorTables.decode m 0 (bytes.take 6)).length = 6 by decide] at hbad

end OpcodeForest
