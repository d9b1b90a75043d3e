import OpcodeForest.Proofs.Decode.LockPrefixes
import OpcodeForest.Proofs.Decode.Registers

/-!
# Wide registers

A register of 64 bits is named by a width that the bytes choose, or by a register that a leaf
stores. Outside 64-bit mode no width is 64 bits: there is no REX byte, and the payloads' `W` bit,
which is there in every mode, is not asked for. So a wide register is one that a leaf stores.

* `Register.isWide`: the general-purpose registers of 64 bits, and `RIP`.
* `Step.class_source`: where the class of an operand comes from.
* `Sizing.size_ne_wide`, `heedsMode_of_payload`: the widths outside 64-bit mode.
* `Node.codes`, `code_route`: the codes of the instructions that end at a node.
* `wide_decode`: the wide registers of an instruction.
-/

namespace OpcodeForest

/-! ### Wide registers -/

/-- A general-purpose register of 64 bits, or `RIP`. -/
def Register.isWide (r : Register) : Bool := RegisterClass.qword.holds r || r == .rip

namespace RegisterClass

variable {c : RegisterClass} {r : Register}

/-- The classes with wide registers. -/
def isWide (c : RegisterClass) : Bool := c == .qword || c == .pointer

theorem isWide_of_holds (h : c.holds r) (hr : r.isWide) : c.isWide := by
  have hclass := Register.class?_of_holds h
  rcases Bool.or_eq_true_iff.mp hr with hqword | hrip
  · rw [Register.class?_of_holds hqword] at hclass
    cases hclass
    rfl
  · obtain rfl := eq_of_beq hrip
    cases hclass
    rfl

end RegisterClass

/-! ### Where classes come from -/

namespace Bank

def sizings : Bank → List Sizing
  | gpr sizing => [sizing]
  | _ => []

def base? : Bank → Option Register
  | file base | vector base | low base => some base
  | gpr _ | byte => none

end Bank

namespace Step

/-- The widths of the registers that the step names. -/
def sizings : Step → List Sizing
  | reg bank | rm bank | rmRegister bank | rmNumber bank | vvvv bank | opcodeReg bank _ =>
      bank.sizings
  | rmScalar => [.longW]
  | accumulator sizing => [sizing]
  | exchange _ => [.operand]
  | _ => []

/-- The register that the step names, or counts from. -/
def base? : Step → Option Register
  | reg bank | rm bank | rmRegister bank | rmNumber bank | vvvv bank | opcodeReg bank _ =>
      bank.base?
  | narrowReg base | narrowVvvv base | controlReg base | is4 base | is4BeforeRm base
  | rmVector base _ _ | fixed base => some base
  | _ => none

variable {m : Mode} {s : State} {c : RegisterClass}

theorem mem_formClass {c? : Option RegisterClass} (h : some c ∈ [s.formClass c?]) :
    c? = some c := by
  rw [List.mem_singleton, State.formClass] at h
  split at h
  · exact h.symm
  · cases h

/-- A class that a step may name. -/
inductive Source (m : Mode) (s : State) (step : Step) (c : RegisterClass) : Prop where
  | size (sizing : Sizing) (hsizing : sizing ∈ step.sizings) (h : c = .gpr (sizing.size m s))
  | base (r : Register) (hr : step.base? = some r) (h : r.class? = some c)
  | known (h : c ∈ [RegisterClass.byte, .bound, .segment])

/-- **A class comes from a width, or from a register that is stored.** -/
theorem class_source {step : Step} (h : some c ∈ step.classes m s) : step.Source m s c := by
  have hbank {bank : Bank} (hclass : bank.class? m s = some c)
      (hsizings : step.sizings = bank.sizings) (hbase : step.base? = bank.base?) : step.Source m s c := by
    cases bank with
    | gpr sizing =>
        exact .size sizing (hsizings ▸ List.mem_singleton_self _) (Option.some.inj hclass).symm
    | byte => cases hclass; exact .known (by decide)
    | file base | vector base | low base => exact .base base hbase hclass
  have hmapped {ks : List OperandKind} : some c ∉ ks.map fun _ => (none : Option RegisterClass) :=
    fun hmem => by
      obtain ⟨k, -, hk⟩ := List.mem_map.mp hmem
      cases hk
  cases step with
  | reg bank | rmRegister bank | rmNumber bank | vvvv bank | opcodeReg bank _ =>
      exact hbank (List.mem_singleton.mp h).symm rfl rfl
  | rm bank => exact hbank (mem_formClass h) rfl rfl
  | narrowReg base | narrowVvvv base | controlReg base | is4 base | fixed base =>
      exact .base base rfl (List.mem_singleton.mp h).symm
  | rmVector base => exact .base base rfl (mem_formClass h)
  | is4BeforeRm base =>
      rcases List.mem_cons.mp h with h | h
      · exact .base base rfl h.symm
      · exact .base base rfl (mem_formClass h)
  | boundReg | segmentReg => cases List.mem_singleton.mp h; exact .known (by decide)
  | rmBound => cases mem_formClass h; exact .known (by decide)
  | rmScalar => exact .size .longW List.mem_cons_self (Option.some.inj (mem_formClass h)).symm
  | accumulator sizing =>
      exact .size sizing List.mem_cons_self (Option.some.inj (List.mem_singleton.mp h))
  | exchange number =>
      obtain ⟨k, -, hk⟩ := List.mem_map.mp h
      exact .size .operand List.mem_cons_self (Option.some.inj hk).symm
  | _ => exact absurd h hmapped

end Step

/-! ### Widths outside 64-bit mode -/

section

variable {m : Mode} {s s' : State}

/-- The width asks for the mode before it asks for `W`. -/
def Sizing.heedsMode (sizing : Sizing) : Bool := [address, longW, mode].contains sizing

theorem addressSize_ne_wide (hm : m.long = false) (toggled : Bool) :
    m.bitness.addressSize toggled ≠ .w64 := by
  rw [Mode.long] at hm
  cases hbits : m.bitness with
  | bits64 => rw [hbits] at hm; cases hm
  | bits16 | bits32 => cases toggled <;> decide

/-- **No width is 64 bits outside 64-bit mode**, unless `W` is set and the mode is not asked for. -/
theorem Sizing.size_ne_wide {sizing : Sizing} (hm : m.long = false)
    (h : s.w = false ∨ sizing.heedsMode) : sizing.size m s ≠ .w64 := by
  have hoperand (hw : s.w = false) : s.operandSize m ≠ .w64 := by
    rw [State.operandSize, hw]
    cases m.bitness <;> cases s.has66 <;> decide
  cases sizing with
  | address => exact addressSize_ne_wide hm _
  | longW | mode => simp [size, hm]
  | w =>
      have hw : s.w = false := h.resolve_right (by decide)
      simp [size, hw]
  | operand =>
      exact hoperand (h.resolve_right (by decide))
  | operandCapped =>
      simp only [size]
      split <;> decide
  | operandFloored =>
      have hw : s.w = false := h.resolve_right (by decide)
      simp [size, hoperand hw]
  | operandOrLong | stack | branch =>
      have hw : s.w = false := h.resolve_right (by decide)
      simp [size, hm, hoperand hw]

/-- The forms of instructions with payloads stand after the others. -/
def Form.hasPayload (form : Form) : Bool := Form.vexSimple.ctorIdx ≤ form.ctorIdx

theorem hasPayload_of_mem {f : Family} (hf : f ≠ .legacy) {form : Form}
    (h : .leaf form ∈ f.kinds) : form.hasPayload := by
  have hall : ∀ k ∈ Family.vex.kinds ++ Family.evex.kinds, k.form?.all (·.hasPayload) := by
    decide +kernel
  suffices hmem : .leaf form ∈ Family.vex.kinds ++ Family.evex.kinds from hall _ hmem
  rw [List.mem_append]
  cases f with
  | legacy => exact absurd rfl hf
  | vex => exact .inl h
  | evex => exact .inr h

/-- **An instruction with a payload asks for the mode.** -/
theorem heedsMode_of_payload (l : Leaf) (h : l.form.hasPayload) :
    l.plan.steps.all fun step => step.sizings.all (·.heedsMode) := by
  obtain ⟨form, codes, registers, number, locks, tuple, flags⟩ := l
  cases form with
  | evexVW => simp only [Leaf.plan]; split <;> rfl
  | _ => first | rfl | cases h

/-- The widths of the last node, outside 64-bit mode. -/
theorem size_ne_wide_of_comesTo {t : Tables} {blobs : Blobs} (ht : Tables.load blobs = .ok t)
    {window : List UInt8} {n : Node} (h : t.ComesTo m window n s) (hfills : n.fillsOperands)
    (hm : m.long = false) {step : Step} (hstep : step ∈ n.steps) {sizing : Sizing}
    (hsizing : sizing ∈ step.sizings) : sizing.size m s ≠ .w64 := by
  refine Sizing.size_ne_wide hm ?_
  rcases width_of_comesTo ht h hfills hm with hw | ⟨l, rfl, f, hf, hform⟩
  · exact .inl hw
  · have hheeds := heedsMode_of_payload l (hasPayload_of_mem hf hform)
    have hall := List.all_eq_true.mp hheeds step hstep
    exact .inr (List.all_eq_true.mp hall sizing hsizing)

/-! ### Codes -/

/-- The codes that a step may put in place of the leaf's. -/
def Step.renames : Step → List Code
  | exchange _ => .Pause :: Code.Nopw.run 3
  | _ => []

/-- The codes of the instructions that end at a node. -/
def Node.codes : Node → List Code
  | .leaf l => l.carried ++ l.plan.steps.flatMap (·.renames)
  | .trailing codes => codes.map (·.2)
  | _ => []

theorem code_step {step : Step} (h : step.run m s = .ok s') :
    s'.draft.code = s.draft.code ∨ s'.draft.code ∈ step.renames := by
  by_cases hcode : .code ∈ step.fields m s
  · cases step with
    | exchange number =>
        cases h
        simp only [State.exchange]
        split
        · exact .inr List.mem_cons_self
        · split
          · refine .inr ?_
            show Code.Nopw.offset (s.operandSize m).rank ∈ Code.Pause :: Code.Nopw.run 3
            cases s.operandSize m <;> decide
          · exact .inl rfl
    | _ =>
        obtain ⟨k, -, hk⟩ := List.mem_filterMap.mp hcode
        cases k <;> cases hk
  · have hkeep : Field.code.part s' = Field.code.part s := keeps_step h .code hcode
    exact .inl (congrArg (·.draft.code) hkeep)

theorem code_steps : ∀ {steps : List Step} {s : State}, runSteps m steps s = .ok s' →
    s'.draft.code = s.draft.code ∨ s'.draft.code ∈ steps.flatMap (·.renames)
  | [], _, h => by cases h; exact .inl rfl
  | step :: rest, s, h => by
      obtain ⟨s₁, h₁, h⟩ := bind_eq_ok_iff.mp h
      rw [List.flatMap_cons, List.mem_append]
      rcases code_steps h with hrest | hrest
      · rw [hrest]
        exact (code_step h₁).imp_right .inl
      · exact .inr (.inr hrest)

/-- **The code of an instruction is one of the last node's.** -/
theorem code_route {t : Tables} {n : Node} (hfills : n.fillsOperands) {b : State × Next}
    (h : t.route m n s = .ok b) : b.1.draft.code ∈ n.codes := by
  cases n with
  | leaf l =>
      obtain ⟨s', hrun, hb⟩ := bind_eq_ok_iff.mp h
      cases hb
      rcases code_steps (s := s.setCode _) hrun with hcode | hcode
      · refine List.mem_append_left _ ?_
        rw [hcode]
        exact pick_mem_carried m s l
      · exact List.mem_append_right _ hcode
  | trailing codes =>
      obtain ⟨s', hrun, hb⟩ := bind_eq_ok_iff.mp h
      cases hb
      rw [runTrailing_eq] at hrun
      obtain ⟨s₁, -, hrun⟩ := bind_eq_ok_iff.mp hrun
      obtain ⟨⟨x, s₂⟩, -, hrun⟩ := bind_eq_ok_iff.mp hrun
      dsimp only at hrun
      split at hrun
      next code hlast =>
        split at hrun
        · cases hrun
        · cases hrun
          have hmem := List.mem_of_getLast? hlast
          exact List.mem_map_of_mem (List.mem_of_mem_filter hmem)
      next => cases hrun
  | _ => cases hfills

end

/-! ### Instructions -/

namespace Step

/-- The step counts from a wide register. -/
def storesWide (step : Step) : Bool := step.base?.any fun r => r.class?.any (·.isWide)

/-- The step names a register of 64 bits, whatever the bytes say. -/
def namesWide : Step → Bool
  | reg (.file base) | rmRegister (.file base) => base == .rax
  | _ => false

theorem mem_classes_of_namesWide {m : Mode} {s : State} {step : Step} (h : step.namesWide) :
    some .qword ∈ step.classes m s := by
  cases step with
  | reg bank | rmRegister bank =>
      cases bank with
      | file base =>
          obtain rfl : base = .rax := eq_of_beq h
          exact List.mem_cons_self
      | _ => cases h
  | _ => cases h

end Step

/-- The instructions that end at the node are among `codes` if it names a wide register, and none of
them is if it does not. -/
def Node.widensBy (codes : List Code) (n : Node) : Bool :=
  if n.steps.any (·.storesWide) then n.codes.all codes.contains && n.steps.any (·.namesWide)
  else n.codes.all (!codes.contains ·)

section

variable {t : Tables} {m : Mode} {s : State} {n : Node} {i : Instruction}

/-- A register of an address of fewer than 64 bits. -/
theorem Instruction.addressClass_not_isWide (hm : m.long = false) :
    (i.addressClass m).isWide = false := by
  have hsize := addressSize_ne_wide hm i.prefixes.addressSize
  rw [Instruction.addressClass]
  cases hwidth : m.bitness.addressSize i.prefixes.addressSize with
  | w64 => exact absurd hwidth hsize
  | w16 | w32 => rfl

theorem RegisterClass.not_isWide_of_holds {c : RegisterClass} {r : Register} (h : c.holds r)
    (hc : c.isWide = false) : r.isWide = false := by
  rw [Bool.eq_false_iff]
  intro hr
  rw [isWide_of_holds h hr] at hc
  cases hc

/-- **Addresses outside 64-bit mode** have no wide register. -/
theorem Instruction.Fits.memory_not_isWide (h : i.Fits m n s) (hm : m.long = false) :
    i.memory.base.isWide = false ∧ i.memory.index.isWide = false := by
  have haddress := i.addressClass_not_isWide hm
  constructor
  · rcases h.base with hnone | hholds | ⟨hlong, -⟩
    · rw [hnone]
      rfl
    · exact RegisterClass.not_isWide_of_holds hholds haddress
    · rw [hm] at hlong
      cases hlong
  · rcases h.index with hnone | hholds | ⟨-, hal⟩ | ⟨base, tuple, -, c, hc, -, hholds⟩
    · rw [hnone]
      rfl
    · exact RegisterClass.not_isWide_of_holds hholds haddress
    · rw [hal]
      rfl
    · have hnarrow : ∀ c ∈ [RegisterClass.xmm, .ymm, .zmm], c.isWide = false := by decide
      exact RegisterClass.not_isWide_of_holds hholds (hnarrow c hc)

/-- Outside 64-bit mode a wide class is that of a register which the last node stores. -/
theorem storesWide_of_class {blobs : Blobs} (ht : Tables.load blobs = .ok t) {window : List UInt8}
    (h : t.ComesTo m window n s) (hfills : n.fillsOperands) (hm : m.long = false)
    {c : RegisterClass} (hc : c.isWide) (hmem : some c ∈ n.steps.flatMap (·.classes m s)) :
    n.steps.any (·.storesWide) := by
  obtain ⟨step, hstep, hclass⟩ := List.mem_flatMap.mp hmem
  refine List.any_eq_true.mpr ⟨step, hstep, ?_⟩
  cases Step.class_source hclass with
  | size sizing hsizing hsize =>
      have hne := size_ne_wide_of_comesTo ht h hfills hm hstep hsizing
      rw [hsize] at hc
      cases hwidth : sizing.size m s with
      | w64 => exact absurd hwidth hne
      | w16 | w32 => rw [hwidth] at hc; cases hc
  | base r hr hclass =>
      rw [Step.storesWide, hr, Option.any_some, hclass]
      exact hc
  | known hknown =>
      have hnarrow : ∀ c ∈ [RegisterClass.byte, .bound, .segment], c.isWide = false := by decide
      rw [hnarrow c hknown] at hc
      cases hc

/-- **Wide registers outside 64-bit mode.** They are in no address, and an instruction has one as an
operand exactly if its last node names one, that is if it is one of `codes`. -/
theorem wide_decode {blobs : Blobs} (ht : Tables.load blobs = .ok t) (hfirsts : t.StoresFirsts)
    (hvectors : t.StoresVectors) {codes : List Code}
    (hcodes : ∀ n ∈ t.forest.nodes, n.widensBy codes) (hm : m.long = false) {bytes : List UInt8}
    (h : t.accepts m bytes) (ip : UInt64) :
    ((∃ o ∈ (t.decode m ip bytes).operands, o.kind = .register ∧ o.register.isWide) ↔
        (t.decode m ip bytes).code ∈ codes) ∧
      (t.decode m ip bytes).memory.base.isWide = false ∧
      (t.decode m ip bytes).memory.index.isWide = false := by
  obtain ⟨n, s, hends⟩ := Tables.endsAt_of_accepts h
  have hfits := fits_decode ht hfirsts hvectors hends ip
  obtain ⟨hcomes, hn, hfills, s', hroute, haccepted, hdecode⟩ := hends
  refine ⟨?_, hfits.memory_not_isWide hm⟩
  have hcode : (t.decode m ip bytes).code ∈ n.codes := by
    rw [hdecode, State.finish, if_neg haccepted]
    exact code_route hfills hroute
  have hwidens := hcodes n hn
  rw [Node.widensBy] at hwidens
  split at hwidens
  next hstores =>
    obtain ⟨hall, hnames⟩ := Bool.and_eq_true_iff.mp hwidens
    refine iff_of_true ?_ (List.contains_iff_mem.mp (List.all_eq_true.mp hall _ hcode))
    obtain ⟨step, hstep, hstepNames⟩ := List.any_eq_true.mp hnames
    have hmem : some .qword ∈ n.steps.flatMap (·.classes m s) :=
      List.mem_flatMap.mpr ⟨step, hstep, Step.mem_classes_of_namesWide hstepNames⟩
    obtain ⟨o, ho, hkind, hholds⟩ := exists_partner hfits.operands.flip hmem
    exact ⟨o, ho, hkind, Bool.or_eq_true_iff.mpr (.inl hholds)⟩
  next hstores =>
    have hall := List.all_eq_true.mp hwidens _ hcode
    refine iff_of_false ?_ fun hmem => ?_
    · rintro ⟨o, ho, hkind, hwide⟩
      obtain ⟨c?, hmem, hclass⟩ := exists_partner hfits.operands ho
      cases c? with
      | none => exact hclass hkind
      | some c =>
          exact hstores (storesWide_of_class ht hcomes hfills hm
            (RegisterClass.isWide_of_holds hclass.2 hwide) hmem)
    · rw [List.contains_iff_mem.mpr hmem] at hall
      cases hall

end

end OpcodeForest
