import OpcodeForest.Proofs.Decode.Extensions

/-!
# The registers of an instruction

The last node of a walk names a class for each register operand. If the nodes of the tables store
first registers of classes, and vectors where numbers have five bits, then the numbers where the
walk ends fit the steps of that node, and every register of the instruction is in its class.

* `Tables.StoresFirsts`, `Tables.StoresVectors`: what the nodes of tables store.
* `names_route`: the registers that the last node fills in.
* `Instruction.Fits`, `fits_decode`: the registers of an instruction that is decoded.
-/

namespace OpcodeForest

/-! ### What tables store -/

namespace Node

def storesFirsts : Node → Bool
  | .leaf l => l.storesFirsts
  | _ => true

def storesVectors : Node → Bool
  | .leaf l => l.storesVectors
  | _ => true

/-- **The steps of a node that stores what it may.** -/
theorem sound_steps {n : Node} (hfirsts : n.storesFirsts) (hvectors : n.storesVectors) :
    n.steps.all (·.sound n.isEvex) := by
  cases n with
  | leaf l => exact sound_plan hfirsts hvectors
  | _ => rfl

end Node

namespace Tables

/-- Numbers are added to first registers of classes, fixed registers are those of every mode, and
numbers in opcodes have three bits. -/
def StoresFirsts (t : Tables) : Prop := ∀ n ∈ t.forest.nodes, n.storesFirsts

/-- Numbers of five bits are added to the first registers of classes of vectors. -/
def StoresVectors (t : Tables) : Prop := ∀ n ∈ t.forest.nodes, n.storesVectors

end Tables

/-! ### The last node -/

section

variable {t : Tables} {m : Mode} {s s' : State} {n : Node} {window : List UInt8}

/-- What a step adds. -/
theorem Step.Adds.names {step : Step} {evex : Bool} {aliased : Prop} {os : List Operand}
    (h : step.Adds m s os) (hstep : step.sound evex) (hs : s.Bounded m evex)
    (hbreaks : step.breaks m s = false)
    (haliased : step = .controlReg .cr0 → s.draft.prefixes.lock → aliased) :
    List.Forall₂ (Operand.Names (m.long = false) aliased) os (step.classes m s) := by
  obtain ⟨lock, tail, hlock, htail, rfl⟩ := h
  refine (Step.names_operands hstep hs hbreaks lock htail).imp fun o c? ho => ?_
  cases c? with
  | none => exact ho
  | some c =>
      obtain ⟨hkind, hspells | ⟨⟨hcontrol, htrue⟩, hcr8⟩⟩ := ho
      · exact ⟨hkind, .inl hspells⟩
      · exact ⟨hkind, .inr ⟨haliased hcontrol (hlock htrue), hcr8⟩⟩

/-- What a plan adds. -/
theorem names_of_adds {evex : Bool} {aliased : Prop} {steps : List Step} {oss : List (List Operand)}
    (h : List.Forall₂ (Step.Adds m s) steps oss) (hsteps : steps.all (·.sound evex))
    (hs : s.Bounded m evex) (hbreaks : ∀ step ∈ steps, step.breaks m s = false)
    (haliased : .controlReg .cr0 ∈ steps → s.draft.prefixes.lock → aliased) :
    List.Forall₂ (Operand.Names (m.long = false) aliased) oss.flatten
      (steps.flatMap (·.classes m s)) := by
  induction h with
  | nil => exact .nil
  | @cons step os rest oss hadds _ ih =>
      rw [List.all_cons, Bool.and_eq_true] at hsteps
      rw [List.flatten_cons, List.flatMap_cons]
      refine List.rel_append (hadds.names hsteps.1 hs (hbreaks _ List.mem_cons_self) ?_)
        (ih hsteps.2 (fun step' hmem => hbreaks step' (List.mem_cons_of_mem _ hmem)) fun hmem => ?_)
      · rintro rfl
        exact haliased List.mem_cons_self
      · exact haliased (List.mem_cons_of_mem _ hmem)

/-- The operands that the last node adds, step by step. -/
theorem operands_route (hunder : Underway window s) (hfills : n.fillsOperands)
    (h : t.route m n s = .ok (s', .done)) :
    ∃ oss, s'.draft.operands = oss.flatten ∧ List.Forall₂ (Step.Adds m s) n.steps oss := by
  obtain ⟨c, s₁, hrun, c', p, u, hs'⟩ := runSteps_route hfills h
  obtain ⟨oss, hoss, hadds⟩ := operands_steps hrun
  have hnone : s.draft.operands = [] := congrArg (·.draft.operands) hunder.filled
  refine ⟨oss, ?_, hadds.imp fun step os hos => ?_⟩
  · calc s'.draft.operands = s₁.draft.operands := congrArg (·.draft.operands) hs'
      _ = s.draft.operands ++ oss.flatten := hoss
      _ = oss.flatten := by rw [hnone, List.nil_append]
  · obtain ⟨lock, tail, hlock, htail, rfl⟩ := hos
    exact ⟨lock, tail, hlock, htail, Step.operands_of_spelled rfl _ _ _⟩

/-- **The operands that the last node adds.** -/
theorem names_route (hsteps : n.steps.all (·.sound n.isEvex)) (hs : s.Bounded m n.isEvex)
    (hunder : Underway window s) (hfills : n.fillsOperands)
    (h : t.route m n s = .ok (s', .done)) (haccepted : s'.Accepted m) :
    List.Forall₂ (Operand.Names (m.long = false)
      (.controlReg .cr0 ∈ n.steps ∧ s.draft.prefixes.lock)) s'.draft.operands
      (n.steps.flatMap (·.classes m s)) := by
  have hbreaks := ((runsTo_route hfills h).2.unbroken haccepted).2
  obtain ⟨oss, hoperands, hadds⟩ := operands_route hunder hfills h
  rw [hoperands]
  exact names_of_adds hadds hsteps hs hbreaks And.intro

/-- **The address that the last node fills in.** -/
theorem names_memory_route (hsteps : n.steps.all (·.sound n.isEvex)) (hs : s.Bounded m n.isEvex)
    (hunder : Underway window s) (hfills : n.fillsOperands)
    (h : t.route m n s = .ok (s', .done)) :
    s'.draft.memory = {} ∨ ∃ step ∈ n.steps, s'.draft.memory.Names m (s.addressSize m) step := by
  have hkinds : s'.kinds = n.steps.flatMap (·.kinds m s) := hunder.kinds_route hfills h
  by_cases hmem : .memory ∈ s'.kinds
  · right
    rw [hkinds, List.mem_flatMap] at hmem
    obtain ⟨c, s₁, hrun, c', p, u, hs'⟩ := runSteps_route hfills h
    obtain ⟨step, hstep, -, sib, d, hd⟩ := memory_steps hrun hmem
    have hmemory : s'.draft.memory = step.address m s sib d := by
      calc s'.draft.memory = s₁.draft.memory := congrArg (·.draft.memory) hs'
        _ = step.address m s sib d := hd.trans (Step.address_of_spelled rfl _ _ _)
    rw [hmemory]
    exact ⟨step, hstep, Step.names_address (List.all_eq_true.mp hsteps step hstep) hs sib d⟩
  · exact .inl ((tidy_route hfills hunder h).memory_of_unused hmem).1

end

/-! ### Instructions -/

/-- The walk of an instruction ends at the node `n`, in the state `s`. -/
def Tables.EndsAt (t : Tables) (m : Mode) (bytes : List UInt8) (n : Node) (s : State) : Prop :=
  t.ComesTo m (bytes.take maxLength) n s ∧ n ∈ t.forest.nodes ∧ n.fillsOperands ∧
    ∃ s', t.route m n s = .ok (s', .done) ∧ s'.Accepted m ∧
      ∀ ip, t.decode m ip bytes = s'.finish m ip

/-- The operand is a register of the class, or no register where no class is named. -/
def Operand.InClass (o : Operand) : Option RegisterClass → Prop
  | some c => o.kind = .register ∧ c.holds o.register
  | none => o.kind ≠ .register

/-- The general-purpose registers of the address size. -/
def Instruction.addressClass (m : Mode) (i : Instruction) : RegisterClass :=
  .gpr (m.bitness.addressSize i.prefixes.addressSize)

/-- The registers of an instruction whose walk ends at the node `n`, in the state `s`. -/
structure Instruction.Fits (m : Mode) (n : Node) (s : State) (i : Instruction) : Prop where
  /-- The operands are in the classes that the node names. -/
  operands : List.Forall₂ Operand.InClass i.operands (n.steps.flatMap (·.classes m s))
  present : ∀ o ∈ i.operands, o.kind = .register → o.register ≠ .none
  base : i.memory.base = .none ∨ (i.addressClass m).holds i.memory.base ∨
    m.long ∧ i.memory.base ∈ [.rip, .eip]
  /-- Apart from general-purpose registers, the index is that of a table or a vector. -/
  index : i.memory.index = .none ∨ (i.addressClass m).holds i.memory.index ∨
    .tableMemory ∈ n.steps ∧ i.memory.index = .al ∨
    ∃ base tuple, .memVsib base tuple ∈ n.steps ∧ ∃ c ∈ [RegisterClass.xmm, .ymm, .zmm],
      base.class? = some c ∧ c.holds i.memory.index
  /-- Outside 64-bit mode the only extended register is `CR8`, by a lock byte on `CR0`. -/
  plain : m.long = false →
    (∀ o ∈ i.operands, o.register.isExtended → o.register = Register.cr0.offset 8 ∧
      .controlReg .cr0 ∈ n.steps ∧ s.draft.prefixes.lock) ∧
    i.memory.base.isExtended = false ∧ i.memory.index.isExtended = false

section

variable {t : Tables} {m : Mode} {s : State} {n : Node} {bytes : List UInt8}

/-- Every instruction that is accepted ends somewhere. -/
theorem Tables.endsAt_of_accepts (h : t.accepts m bytes) : ∃ n s, t.EndsAt m bytes n s := by
  obtain ⟨s', hread, haccepted, hdecode⟩ := decode_of_accepts h
  obtain ⟨n, s, hcomes, hn, hfills, hroute⟩ := read_comesTo hread
  exact ⟨n, s, hcomes, hn, hfills, s', hroute, haccepted, hdecode⟩

namespace Operand.Names

variable {low aliased : Prop} {o : Operand} {c? : Option RegisterClass}

theorem inClass (h : o.Names low aliased c?) : o.InClass c? := by
  cases c? with
  | none => exact h.1
  | some c =>
      obtain ⟨hkind, hspells | ⟨-, rfl, hcr8⟩⟩ := h
      · exact ⟨hkind, hspells.holds⟩
      · exact ⟨hkind, hcr8 ▸ RegisterClass.holds_offset (c := .control) (k := 8) (by decide)⟩

theorem plain (h : o.Names low aliased c?) (hlow : low) (hextended : o.register.isExtended) :
    o.register = Register.cr0.offset 8 ∧ aliased := by
  cases c? with
  | none => rw [h.2] at hextended; cases hextended
  | some c =>
      obtain ⟨-, hspells | ⟨haliased, -, hcr8⟩⟩ := h
      · rw [hspells.not_isExtended hlow] at hextended
        cases hextended
      · exact ⟨hcr8, haliased⟩

end Operand.Names

/-- Operands and classes go together, one by one. -/
theorem exists_partner {α β : Type} {R : α → β → Prop} {as : List α} {bs : List β}
    (h : List.Forall₂ R as bs) {a : α} (ha : a ∈ as) : ∃ b ∈ bs, R a b := by
  induction h with
  | nil => cases ha
  | cons hfirst _ ih =>
      rcases List.mem_cons.mp ha with rfl | ha
      · exact ⟨_, List.mem_cons_self, hfirst⟩
      · obtain ⟨b, hmem, hb⟩ := ih ha
        exact ⟨b, List.mem_cons_of_mem _ hmem, hb⟩

/-- The absent register is in no class. -/
theorem Operand.InClass.ne_none {o : Operand} {c? : Option RegisterClass} (h : o.InClass c?)
    (hkind : o.kind = .register) : o.register ≠ .none := by
  cases c? with
  | none => exact absurd hkind h
  | some c =>
      intro hnone
      have hholds := h.2
      rw [hnone] at hholds
      revert hholds
      cases c <;> decide

/-- Outside 64-bit mode an address has registers of every mode. -/
theorem MemoryOperand.Names.plain {size : Size} {step : Step} {a : MemoryOperand}
    (h : a.Names m size step) (hm : m.long = false) :
    a.base.isExtended = false ∧ a.index.isExtended = false := by
  constructor
  · rcases h.base with hnone | hspells | ⟨hlong, -⟩
    · rw [hnone]
      rfl
    · exact hspells.not_isExtended hm
    · rw [hm] at hlong
      cases hlong
  · rcases h.index with hnone | hspells | ⟨-, hal⟩ | ⟨base, tuple, -, c, -, -, hspells⟩
    · rw [hnone]
      rfl
    · exact hspells.not_isExtended hm
    · rw [hal]
      rfl
    · exact hspells.not_isExtended hm

/-- **The registers of an instruction** are in the classes that its last node names. -/
theorem fits_decode {blobs : Blobs} (ht : Tables.load blobs = .ok t) (hfirsts : t.StoresFirsts)
    (hvectors : t.StoresVectors) (h : t.EndsAt m bytes n s) (ip : UInt64) :
    (t.decode m ip bytes).Fits m n s := by
  obtain ⟨hcomes, hn, hfills, s', hroute, haccepted, hdecode⟩ := h
  have hsteps := Node.sound_steps (hfirsts n hn) (hvectors n hn)
  have hs := bounded_of_comesTo ht hcomes hfills
  have hnames := names_route hsteps hs hcomes.underway hfills hroute haccepted
  have hmemory := names_memory_route hsteps hs hcomes.underway hfills hroute
  have hsize : s'.draft.prefixes.addressSize = s.draft.prefixes.addressSize :=
    congrArg (·.draft.prefixes.addressSize) (runsTo_route hfills hroute).2.effect.spelled
  rw [hdecode, State.finish, if_neg haccepted]
  have hclasses : List.Forall₂ Operand.InClass s'.draft.operands
      (n.steps.flatMap (·.classes m s)) := hnames.imp fun _ _ ho => ho.inClass
  constructor
  case operands => exact hclasses
  case present =>
    intro o ho
    obtain ⟨c?, -, hc⟩ := exists_partner hclasses ho
    exact hc.ne_none
  case base =>
    rcases hmemory with hnone | ⟨step, hstep, hnames⟩
    · exact .inl (congrArg MemoryOperand.base hnone)
    · rw [Instruction.addressClass, hsize]
      exact hnames.base.imp_right (.imp_left RegisterClass.Spells.holds)
  case index =>
    rcases hmemory with hnone | ⟨step, hstep, hnames⟩
    · exact .inl (congrArg MemoryOperand.index hnone)
    · rw [Instruction.addressClass, hsize]
      rcases hnames.index with hnone | hspells | ⟨rfl, hal⟩ |
        ⟨base, tuple, rfl, c, hc, hbase, hspells⟩
      · exact .inl hnone
      · exact .inr (.inl hspells.holds)
      · exact .inr (.inr (.inl ⟨hstep, hal⟩))
      · exact .inr (.inr (.inr ⟨base, tuple, hstep, c, hc, hbase, hspells.holds⟩))
  case plain =>
    refine fun hm => ⟨fun o ho hextended => ?_, ?_⟩
    · obtain ⟨c?, -, hc⟩ := exists_partner hnames ho
      exact hc.plain hm hextended
    · rcases hmemory with hnone | ⟨step, -, hnames⟩
      · rw [hnone]
        exact ⟨rfl, rfl⟩
      · exact hnames.plain hm

end

end OpcodeForest
