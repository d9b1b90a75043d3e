import OpcodeForest.Proofs.Decode.EvexAttributes
import OpcodeForest.Proofs.Decode.Records

/-!
# Register classes

An operand is the first register of a class plus a number that the encoding spells. The classes
stand side by side in one numbering, so the sum stays in the class only as long as the number is
smaller than the class. Numbers have three bits, with one extension bit four and with two five, and
leaves store the first registers that the numbers are added to.

* `RegisterClass`, `Register.class?`, `Register.isExtended`: the classes, and the registers that
  only 64-bit mode can spell.
* `Form.roles`, `Leaf.storesFirsts`, `Leaf.storesVectors`: what a leaf may store.
* `Step.sound`, `sound_plan`: the steps of such a leaf.
* `Step.classes`, `Step.names_operands`: the classes that a step names, and the operands that it
  adds.
* `Step.names_address`: base and index of a memory operand.
-/

namespace OpcodeForest

/-! ### Classes -/

/-- A class of registers, which is a run of the numbering. -/
inductive RegisterClass where
  | byte | word | dword | qword | pointer | segment | xmm | ymm | zmm | mask | bound | control
  | debug | stack | mmx | test | tile
deriving DecidableEq, Repr

namespace RegisterClass

/-- In the order of the numbering. -/
def all : List RegisterClass :=
  [byte, word, dword, qword, pointer, segment, xmm, ymm, zmm, mask, bound, control, debug, stack,
    mmx, test, tile]

def first : RegisterClass → Register
  | byte => .al
  | word => .ax
  | dword => .eax
  | qword => .rax
  | pointer => .eip
  | segment => .es
  | xmm => .xmm0
  | ymm => .ymm0
  | zmm => .zmm0
  | mask => .k0
  | bound => .bnd0
  | control => .cr0
  | debug => .dr0
  | stack => .st0
  | mmx => .mm0
  | test => .ofIndex 233
  | tile => .tmm0

def count : RegisterClass → Nat
  | byte => 20
  | word | dword | qword | control | debug => 16
  | pointer => 2
  | segment => 6
  | xmm | ymm | zmm => 32
  | mask | stack | mmx | test | tile => 8
  | bound => 4

def holds (c : RegisterClass) (r : Register) : Bool := r.isAmong c.first c.count

/-- The general-purpose registers of a width. -/
def gpr : Size → RegisterClass
  | .w16 => word
  | .w32 => dword
  | .w64 => qword

theorem mem_all (c : RegisterClass) : c ∈ all := by cases c <;> decide

theorem first_gpr (size : Size) : (gpr size).first = Register.gpr size := by cases size <;> rfl

theorem count_gpr (size : Size) : (gpr size).count = 16 := by cases size <;> rfl

end RegisterClass

namespace Register

/-- The class of a register; the absent register has none. -/
def class? (r : Register) : Option RegisterClass := RegisterClass.all.find? (·.holds r)

/-- The eighth register of its class or a later one. -/
def isExtended (r : Register) : Bool :=
  r.class?.any fun c => c.first.index.val + 8 ≤ r.index.val

/-- Classes have no register in common. -/
theorem class?_of_holds {c : RegisterClass} {r : Register} (h : c.holds r) : r.class? = some c := by
  have hall : ∀ i : Fin 249, ∀ c ∈ RegisterClass.all, c.holds ⟨i⟩ →
      (⟨i⟩ : Register).class? = some c := by decide +kernel
  exact hall r.index c c.mem_all h

end Register

namespace RegisterClass

variable {c : RegisterClass} {k : Nat}

/-- A small number stays in the class. -/
theorem index_offset (h : k < c.count) : (c.first.offset k).index.val = c.first.index.val + k := by
  have hend : c.first.index.val + c.count ≤ 249 := by cases c <;> decide
  have hlt : c.first.index.val + k < 249 := by omega
  rw [Register.offset_of_lt hlt]

/-- **A number smaller than the class stays in it.** -/
theorem holds_offset (h : k < c.count) : c.holds (c.first.offset k) := by
  rw [holds, Register.isAmong, Bool.and_eq_true, decide_eq_true_eq, decide_eq_true_eq,
    Fin.le_def, index_offset h]
  omega

/-- The first eight registers of a class need no extension bit. -/
theorem isExtended_offset (h : k < c.count) : (c.first.offset k).isExtended = decide (8 ≤ k) := by
  rw [Register.isExtended, Register.class?_of_holds (holds_offset h), Option.any_some,
    index_offset h]
  exact decide_eq_decide.mpr (by omega)

/-- A register of the class; one that three bits can spell, if `low`. -/
def Spells (c : RegisterClass) (low : Prop) (r : Register) : Prop :=
  ∃ k < c.count, r = c.first.offset k ∧ (low → k < 8)

/-- What is spelled from a class belongs to it. -/
theorem Spells.holds {low : Prop} {r : Register} (h : c.Spells low r) : c.holds r := by
  obtain ⟨k, hk, rfl, -⟩ := h
  exact holds_offset hk

theorem Spells.not_isExtended {low : Prop} {r : Register} (h : c.Spells low r) (hlow : low) :
    r.isExtended = false := by
  obtain ⟨k, hk, rfl, hshort⟩ := h
  rw [isExtended_offset hk]
  exact decide_eq_false (Nat.not_le.mpr (hshort hlow))

end RegisterClass

/-! ### What leaves store -/

/-- What a form does with a register that its leaf stores. -/
inductive Role where
  /-- A number of four bits is added. -/
  | base
  /-- A number of five bits is added, or it is the file of a vector of indices. -/
  | vector
  /-- It is the operand. -/
  | fixed
deriving DecidableEq, Repr

/-- The roles of the registers that a leaf of the form stores, in order. -/
def Form.roles : Form → List Role
  | .regIb | .ibReg | .pushSimpleReg | .ybReg | .regXb | .regYb | .regOb | .obReg => [.fixed]
  | .regReg => [.fixed, .fixed]
  | .vexVHW | .vexVHWIb => [.base, .base, .base]
  | .vexVW | .vexWV | .vexVWIb => [.base, .base]
  | .rdCr | .crRd | .vexVM | .vexMV | .vexVHM | .vexMHV | .vexVWH | .vexVHWIs4 | .vexVHIs4W
  | .vexHRIb | .vexVHEv | .vexVHEvIb | .vexEvVIb | .vexGvW | .vexGvRx | .vexVkR
  | .vexGVk => [.base]
  | .vexVXVsibHX => [.vector, .base]
  | .evexVkHW | .evexVkHWIb => [.vector, .vector, .vector]
  | .evexVkW | .evexVkWEr | .evexVkWIb | .evexVkWIbEr | .evexWkV | .evexHkWIb | .evexVW | .evexWV
  | .evexVkVsib | .evexVsibkV => [.vector, .vector]
  | .evexVkHWEr | .evexVkHWIbEr | .evexKkHW | .evexKkHWIb | .evexKkHWIbSae | .evexKkWIb
  | .evexKP1HW | .evexVkM | .evexVM | .evexMV | .evexVkEv | .evexVXEv | .evexEvVX | .evexVHEv
  | .evexVHEvEr | .evexVHEvIb | .evexEdVIb | .evexGvWEr | .evexVsibk | .evexVRk
  | .evexKR => [.vector]
  | _ => []

namespace Register

/-- The first registers of classes, as leaves may store them. -/
def firsts : List Register := [.eax, .rax, .xmm0, .ymm0, .zmm0, .cr0, .dr0]

def isFirst (r : Register) : Bool := firsts.contains r

/-- The first register of a class of vectors. -/
def isFirstVector (r : Register) : Bool := [xmm0, ymm0, zmm0].contains r

/-- A register that can be an operand in every mode. -/
def isPlain (r : Register) : Bool := r.class?.isSome && !r.isExtended

end Register

/-- Whatever a number is added to is the first register of a class. -/
def Role.allows (r : Register) : Role → Bool
  | base | vector => r.isFirst
  | fixed => r.isPlain

namespace Leaf

/-- The registers that the leaf stores, with their roles. -/
def stored (l : Leaf) : List (Role × Register) :=
  l.form.roles.zipIdx.map fun a => (a.1, l.register a.2)

/-- The leaf stores first registers of classes to add numbers to, operands that every mode has, and
numbers of three bits. -/
def storesFirsts (l : Leaf) : Bool := l.stored.all (fun a => a.1.allows a.2) && l.number ≤ 7

/-- Numbers of five bits are added to vectors only. -/
def storesVectors (l : Leaf) : Bool := l.stored.all fun a => a.1 != .vector || a.2.isFirstVector

end Leaf

/-! ### Sound steps -/

namespace Bank

/-- One more than the numbers that can be spelled. -/
def capacity : Bank → Nat
  | gpr _ | byte | file _ => 16
  | vector _ => 32
  | low _ => 8

/-- The first register is that of a class which is large enough. -/
def sound : Bank → Bool
  | gpr _ | byte => true
  | file base => base == .ax || base.isFirst
  | vector base => base.isFirstVector
  | low base => [.k0, .st0, .mm0, .tmm0].contains base

end Bank

/-- The bank has a register for each number that `vvvv` can spell, which with EVEX has five bits. -/
def Bank.reachesVvvv (evex : Bool) : Bank → Bool
  | gpr _ | file _ => !evex
  | vector _ => true
  | byte | low _ => false

/-- The banks of the step are sound, and its numbers small enough for them. -/
def Step.sound (evex : Bool) : Step → Bool
  | reg bank | rm bank | rmRegister bank | rmNumber bank => bank.sound
  | narrowReg base | narrowVvvv base => (Bank.low base).sound
  | controlReg base | is4 base | is4BeforeRm base => base.isFirst
  | rmVector base _ _ | memVsib base _ => base.isFirstVector
  | vvvv bank => bank.sound && bank.reachesVvvv evex
  | fixed register => register.isPlain
  | opcodeReg bank number => bank.sound && 16 ≤ bank.capacity && number ≤ 7
  | exchange number => number ≤ 7
  | _ => true

/-- What a stored register is good for. -/
def Role.suits (r : Register) : Role → Bool
  | base => r.isFirst
  | vector => r.isFirstVector
  | fixed => r.isPlain

/-- Each register of a leaf suits the role that the form gives it. -/
theorem Leaf.suits_register {l : Leaf} (hfirsts : l.storesFirsts) (hvectors : l.storesVectors)
    {i : Nat} {role : Role} (h : l.form.roles[i]? = some role) : role.suits (l.register i) := by
  have hmem : (role, l.register i) ∈ l.stored :=
    List.mem_map.mpr ⟨(role, i), List.mem_zipIdx_iff_getElem?.mpr h, rfl⟩
  have hallows := List.all_eq_true.mp (Bool.and_eq_true_iff.mp hfirsts).1 _ hmem
  have hvector := List.all_eq_true.mp hvectors _ hmem
  cases role with
  | base | fixed => exact hallows
  | vector => exact hvector

/-- **The steps of a leaf that stores what it may.** -/
theorem sound_plan {l : Leaf} (hfirsts : l.storesFirsts) (hvectors : l.storesVectors) :
    l.plan.steps.all (·.sound l.form.isEvex) := by
  have hnumber : decide (l.number ≤ 7) = true := (Bool.and_eq_true_iff.mp hfirsts).2
  have hsuits {i : Nat} {role : Role} := @Leaf.suits_register l hfirsts hvectors i role
  clear hfirsts hvectors
  obtain ⟨form, codes, registers, number, locks, tuple, flags⟩ := l
  cases form with
  -- numbers and registers of the opcode
  | regIb3 | regIz2 | pushPopReg | xchgRegRax | simpleReg =>
      simp only [Leaf.plan, List.all_cons, Step.sound, hnumber]
      rfl
  | regIb | ibReg | pushSimpleReg | ybReg | regXb | regYb | regOb | obReg =>
      have h₀ : Register.isPlain _ = true := @hsuits 0 .fixed rfl
      simp only [Leaf.plan, List.all_cons, Step.sound, h₀]
      rfl
  | regReg =>
      have h₀ : Register.isPlain _ = true := @hsuits 0 .fixed rfl
      have h₁ : Register.isPlain _ = true := @hsuits 1 .fixed rfl
      simp only [Leaf.plan, List.all_cons, Step.sound, h₀, h₁]
      rfl
  -- numbers of four bits
  | vexVHW | vexVHWIb =>
      have h₀ : Register.isFirst _ = true := @hsuits 0 .base rfl
      have h₁ : Register.isFirst _ = true := @hsuits 1 .base rfl
      have h₂ : Register.isFirst _ = true := @hsuits 2 .base rfl
      simp only [Leaf.plan, List.all_cons, Step.sound, Bank.sound, h₀, h₁, h₂, Bool.or_true]
      rfl
  | vexVW | vexWV | vexVWIb =>
      have h₀ : Register.isFirst _ = true := @hsuits 0 .base rfl
      have h₁ : Register.isFirst _ = true := @hsuits 1 .base rfl
      simp only [Leaf.plan, List.all_cons, Step.sound, Bank.sound, h₀, h₁, Bool.or_true]
      rfl
  | rdCr | crRd | vexVM | vexMV | vexVHM | vexMHV | vexVWH | vexVHWIs4 | vexVHIs4W | vexHRIb
  | vexVHEv | vexVHEvIb | vexEvVIb | vexGvW | vexGvRx | vexVkR | vexGVk =>
      have h₀ : Register.isFirst _ = true := @hsuits 0 .base rfl
      simp only [Leaf.plan, List.all_cons, Step.sound, Bank.sound, h₀, Bool.or_true]
      rfl
  | vexVXVsibHX =>
      have h₀ : Register.isFirstVector _ = true := @hsuits 0 .vector rfl
      have h₁ : Register.isFirst _ = true := @hsuits 1 .base rfl
      simp only [Leaf.plan, List.all_cons, Step.sound, Bank.sound, h₀, h₁, Bool.or_true]
      rfl
  -- numbers of five bits
  | evexVkHW | evexVkHWIb =>
      have h₀ : Register.isFirstVector _ = true := @hsuits 0 .vector rfl
      have h₁ : Register.isFirstVector _ = true := @hsuits 1 .vector rfl
      have h₂ : Register.isFirstVector _ = true := @hsuits 2 .vector rfl
      simp only [Leaf.plan, List.all_cons, Step.sound, Bank.sound, h₀, h₁, h₂]
      rfl
  | evexVkW | evexVkWEr | evexVkWIb | evexVkWIbEr | evexWkV | evexHkWIb | evexWV | evexVkVsib
  | evexVsibkV =>
      have h₀ : Register.isFirstVector _ = true := @hsuits 0 .vector rfl
      have h₁ : Register.isFirstVector _ = true := @hsuits 1 .vector rfl
      simp only [Leaf.plan, List.all_cons, Step.sound, Bank.sound, h₀, h₁]
      rfl
  | evexVW =>
      have h₀ : Register.isFirstVector _ = true := @hsuits 0 .vector rfl
      have h₁ : Register.isFirstVector _ = true := @hsuits 1 .vector rfl
      simp only [Leaf.plan]
      split <;> simp only [List.all_cons, Step.sound, Bank.sound, h₀, h₁] <;> rfl
  | evexVkHWEr | evexVkHWIbEr | evexKkHW | evexKkHWIb | evexKkHWIbSae | evexKkWIb | evexKP1HW
  | evexVkM | evexVM | evexMV | evexVkEv | evexVXEv | evexEvVX | evexVHEv | evexVHEvEr | evexVHEvIb
  | evexEdVIb | evexGvWEr | evexVsibk | evexVRk | evexKR =>
      have h₀ : Register.isFirstVector _ = true := @hsuits 0 .vector rfl
      simp only [Leaf.plan, List.all_cons, Step.sound, Bank.sound, h₀]
      rfl
  -- nothing is stored
  | _ => rfl

/-! ### Numbers -/

namespace State

/-- No bit extends a register number. -/
structure Unextended (s : State) : Prop where
  hasRex : s.hasRex = false
  r : s.r = false
  x : s.x = false
  b : s.b = false
  rHigh : s.rHigh = false

/-- The bits of `vvvv` are those of the payload, and outside 64-bit mode nothing extends a register
number. -/
structure Bounded (m : Mode) (evex : Bool) (s : State) : Prop where
  vvvv : s.vvvvField < if evex then 32 else 16
  short : m.long = false → s.Unextended

theorem reg_lt (s : State) : s.reg < 8 := Nat.mod_lt _ (by decide)

theorem rm_lt (s : State) : s.rm < 8 := Nat.mod_lt _ (by decide)

end State

namespace Bank

variable {s : State}

/-- A number has the bits that its bank asks for. -/
theorem regNumber_lt (bank : Bank) : bank.regNumber s < bank.capacity := by
  have hreg := s.reg_lt
  have hr := s.r.toNat_le
  have hrHigh := s.rHigh.toNat_le
  cases bank <;> simp only [regNumber, capacity] <;> omega

theorem rmNumber_lt (bank : Bank) : bank.rmNumber s < bank.capacity := by
  have hrm := s.rm_lt
  have hb := s.b.toNat_le
  have hx := s.x.toNat_le
  cases bank <;> simp only [rmNumber, capacity] <;> omega

/-- Without extension bits it has three of them. -/
theorem regNumber_lt_eight (h : s.Unextended) (bank : Bank) : bank.regNumber s < 8 := by
  have hreg := s.reg_lt
  cases bank <;> simp only [regNumber, h.r, h.rHigh, Bool.toNat_false] <;> omega

theorem rmNumber_lt_eight (h : s.Unextended) (bank : Bank) : bank.rmNumber s < 8 := by
  have hrm := s.rm_lt
  cases bank <;> simp only [rmNumber, h.b, h.x, Bool.toNat_false] <;> omega

end Bank

/-! ### First registers -/

namespace Register

variable {r : Register} {low : Prop}

theorem offset_zero (r : Register) : r.offset 0 = r := offset_of_lt r.index.isLt

/-- A first register of sixteen. -/
theorem class_of_isFirst (h : r.isFirst) : ∃ c, r.class? = some c ∧ r = c.first ∧ 16 ≤ c.count := by
  have hmem : r ∈ firsts := List.contains_iff_mem.mp h
  simp only [firsts, List.mem_cons, List.not_mem_nil, or_false] at hmem
  rcases hmem with rfl | rfl | rfl | rfl | rfl | rfl | rfl
  · exact ⟨.dword, rfl, rfl, by decide⟩
  · exact ⟨.qword, rfl, rfl, by decide⟩
  · exact ⟨.xmm, rfl, rfl, by decide⟩
  · exact ⟨.ymm, rfl, rfl, by decide⟩
  · exact ⟨.zmm, rfl, rfl, by decide⟩
  · exact ⟨.control, rfl, rfl, by decide⟩
  · exact ⟨.debug, rfl, rfl, by decide⟩

/-- The three classes of vectors. -/
theorem class_of_isFirstVector (h : r.isFirstVector) :
    ∃ c ∈ [RegisterClass.xmm, .ymm, .zmm], r.class? = some c ∧ r = c.first ∧ c.count = 32 := by
  have hmem : r ∈ [xmm0, ymm0, zmm0] := List.contains_iff_mem.mp h
  simp only [List.mem_cons, List.not_mem_nil, or_false] at hmem
  rcases hmem with rfl | rfl | rfl
  · exact ⟨.xmm, by decide, rfl, rfl, rfl⟩
  · exact ⟨.ymm, by decide, rfl, rfl, rfl⟩
  · exact ⟨.zmm, by decide, rfl, rfl, rfl⟩

/-- An operand that every mode has. -/
theorem spells_of_isPlain (h : r.isPlain) : ∃ c, r.class? = some c ∧ c.Spells low r := by
  obtain ⟨hsome, hplain⟩ := Bool.and_eq_true_iff.mp h
  obtain ⟨c, hc⟩ := Option.isSome_iff_exists.mp hsome
  have hfind : RegisterClass.all.find? (·.holds r) = some c := hc
  have hholds : c.holds r := by simpa using List.find?_some hfind
  rw [isExtended, hc, Option.any_some, Bool.not_eq_true', decide_eq_false_iff_not] at hplain
  rw [RegisterClass.holds, isAmong, Bool.and_eq_true, decide_eq_true_eq, decide_eq_true_eq,
    Fin.le_def] at hholds
  have hk : r.index.val - c.first.index.val < c.count := by omega
  refine ⟨c, hc, _, hk, ?_, fun _ => by omega⟩
  have hindex := RegisterClass.index_offset hk
  have hsum : (c.first.offset (r.index.val - c.first.index.val)).index = r.index :=
    Fin.ext (by omega)
  exact congrArg Register.mk hsum.symm

end Register

/-! ### The classes that steps name -/

/-- The class of a bank's registers. -/
def Bank.class? (m : Mode) (s : State) : Bank → Option RegisterClass
  | gpr sizing => some (.gpr (sizing.size m s))
  | byte => some .byte
  | file base | vector base | low base => base.class?

/-- The class of a register, if the ModRM byte names one. -/
def State.formClass (s : State) (c : Option RegisterClass) : Option RegisterClass :=
  if s.registerForm then c else none

/-- The classes that a step names, operand by operand; operands that are no registers have none. -/
def Step.classes (m : Mode) (s : State) : Step → List (Option RegisterClass)
  | reg bank | rmRegister bank | rmNumber bank | vvvv bank | opcodeReg bank _ => [bank.class? m s]
  | narrowReg base | narrowVvvv base | controlReg base | is4 base => [base.class?]
  | boundReg => [some .bound]
  | segmentReg _ => [some .segment]
  | rm bank => [s.formClass (bank.class? m s)]
  | rmBound => [s.formClass (some .bound)]
  | rmVector base _ _ => [s.formClass base.class?]
  | rmScalar => [s.formClass (some (.gpr (Sizing.longW.size m s)))]
  | is4BeforeRm base => [base.class?, s.formClass base.class?]
  | fixed register => [register.class?]
  | accumulator sizing => [some (.gpr (sizing.size m s))]
  | exchange number => ((exchange number).kinds m s).map fun _ => some (.gpr (s.operandSize m))
  | step => (step.kinds m s).map fun _ => none

/-- The operand is a register of the class, or no register where no class is named. The mode can
spell it if `low`, unless it is `CR8` and `aliased`. -/
def Operand.Names (low aliased : Prop) (o : Operand) : Option RegisterClass → Prop
  | some c => o.kind = .register ∧
      (c.Spells low o.register ∨ aliased ∧ c = .control ∧ o.register = Register.cr0.offset 8)
  | none => o.kind ≠ .register ∧ o.register = .none

section

variable {m : Mode} {s : State} {low aliased : Prop} {n : Nat}

/-- **A register of a bank** is in the bank's class. -/
theorem Bank.spells_register {bank : Bank} (hbank : bank.sound) (hn : n < bank.capacity)
    (hlow : low → n < 8 ∧ s.hasRex = false) :
    ∃ c, bank.class? m s = some c ∧ c.Spells low (bank.register m s n) := by
  cases bank with
  | gpr sizing =>
      refine ⟨_, rfl, n, ?_, ?_, fun h => (hlow h).1⟩
      · rw [RegisterClass.count_gpr]
        exact hn
      · rw [RegisterClass.first_gpr]
        rfl
  | byte =>
      have hn : n < 16 := hn
      refine ⟨_, rfl, if s.hasRex && 4 ≤ n then n + 4 else n, ?_, rfl, fun h => ?_⟩
      · show _ < 20
        split <;> omega
      · rw [(hlow h).2]
        exact (hlow h).1
  | file base =>
      rcases Bool.or_eq_true_iff.mp hbank with hax | hfirst
      · obtain rfl := eq_of_beq hax
        exact ⟨.word, rfl, n, hn, rfl, fun h => (hlow h).1⟩
      · obtain ⟨c, hc, rfl, hcount⟩ := Register.class_of_isFirst hfirst
        exact ⟨c, hc, n, Nat.lt_of_lt_of_le hn hcount, rfl, fun h => (hlow h).1⟩
  | vector base =>
      obtain ⟨c, -, hc, rfl, hcount⟩ := Register.class_of_isFirstVector hbank
      exact ⟨c, hc, n, hcount ▸ hn, rfl, fun h => (hlow h).1⟩
  | low base =>
      have hmem : base ∈ [Register.k0, .st0, .mm0, .tmm0] := List.contains_iff_mem.mp hbank
      simp only [List.mem_cons, List.not_mem_nil, or_false] at hmem
      rcases hmem with rfl | rfl | rfl | rfl
      · exact ⟨.mask, rfl, n, hn, rfl, fun _ => hn⟩
      · exact ⟨.stack, rfl, n, hn, rfl, fun _ => hn⟩
      · exact ⟨.mmx, rfl, n, hn, rfl, fun _ => hn⟩
      · exact ⟨.tile, rfl, n, hn, rfl, fun _ => hn⟩

/-- A number of four bits. -/
theorem Register.spells_offset {base : Register} (hbase : base.isFirst) (hn : n < 16)
    (hlow : low → n < 8) : ∃ c, base.class? = some c ∧ c.Spells low (base.offset n) := by
  obtain ⟨c, hc, rfl, hcount⟩ := class_of_isFirst hbase
  exact ⟨c, hc, n, Nat.lt_of_lt_of_le hn hcount, rfl, hlow⟩

/-- General registers of each size. -/
theorem Register.spells_gpr (size : Size) (hn : n < 16) (hlow : low → n < 8) :
    (RegisterClass.gpr size).Spells low ((Register.gpr size).offset n) := by
  refine ⟨n, ?_, ?_, hlow⟩
  · rw [RegisterClass.count_gpr]
    exact hn
  · rw [RegisterClass.first_gpr]

namespace Operand.Names

variable {c? : Option RegisterClass} {r : Register}

protected theorem reg (h : ∃ c, c? = some c ∧ c.Spells low r) :
    (Operand.reg r).Names low aliased c? := by
  obtain ⟨c, rfl, hr⟩ := h
  exact ⟨rfl, .inl hr⟩

protected theorem rm (h : ∃ c, c? = some c ∧ c.Spells low r) :
    (Operand.rm s r).Names low aliased (s.formClass c?) := by
  rw [Operand.rm, State.formClass]
  split
  · exact .reg h
  · exact ⟨OperandKind.noConfusion, rfl⟩

/-- Operands that are no registers. -/
theorem plains {ks : List OperandKind} (h : .register ∉ ks) :
    List.Forall₂ (Names low aliased) (ks.map plain) (ks.map fun _ => none) := by
  rw [List.forall₂_map_left_iff, List.forall₂_map_right_iff, List.forall₂_same]
  exact fun k hk => ⟨fun hregister => h (hregister ▸ hk), rfl⟩

end Operand.Names

/-- A number of three bits is extended without overflow. -/
theorem State.toNat_opcodeNumber_le {number : UInt32} (hnumber : number ≤ 7) (s : State) :
    number.toNat ≤ 7 ∧ (s.opcodeNumber number).toNat = number.toNat + 8 * s.b.toNat := by
  have hle : number.toNat ≤ 7 := UInt32.le_iff_toNat_le.mp hnumber
  have hb := s.b.toNat_le
  refine ⟨hle, toNat_opcodeNumber (Nat.lt_of_le_of_lt (show _ ≤ 15 by omega) (by decide))⟩

/-- An exchange with the accumulator. -/
theorem Step.names_exchange {number : UInt32} (hnumber : number ≤ 7)
    (hlow : low → s.b = false) (lock : Bool) (tail : Nat) :
    List.Forall₂ (Operand.Names low aliased)
      ((exchange number).operands m s lock tail) ((exchange number).classes m s) := by
  obtain ⟨hle, hsum⟩ := s.toNat_opcodeNumber_le hnumber
  have hb := s.b.toNat_le
  simp only [operands, classes, kinds]
  split
  · exact .nil
  · split
    · exact .nil
    · refine .cons (.reg ⟨_, rfl, Register.spells_gpr _ (by omega) fun h => ?_⟩) (.cons ?_ .nil)
      · rw [hsum, hlow h, Bool.toNat_false]
        omega
      · rw [← Register.offset_zero (Register.gpr (s.operandSize m))]
        exact .reg ⟨_, rfl, Register.spells_gpr _ (by decide) fun _ => by decide⟩

/-- A control register has its number, or is `CR8` by a lock byte on `CR0`. -/
theorem Step.names_control {base : Register} (hbase : base.isFirst) (hlow : low → s.r = false)
    (lock : Bool) : (Operand.reg (base.offset (controlNumber m s lock base))).Names low
      (controlReg base = .controlReg .cr0 ∧ lock) base.class? := by
  have hreg := s.reg_lt
  have hr := s.r.toNat_le
  rw [controlNumber]
  split
  · rename_i hlock
    obtain ⟨rfl, hlock⟩ := hlock
    exact ⟨rfl, .inr ⟨⟨rfl, (Bool.and_eq_true_iff.mp hlock).2⟩, rfl, rfl⟩⟩
  · refine .reg (Register.spells_offset hbase (by omega) fun h => ?_)
    rw [hlow h, Bool.toNat_false]
    omega

/-- The register that `vvvv` names. -/
theorem Bank.spells_vvvv {bank : Bank} {evex : Bool} (hbank : bank.sound)
    (hvvvv : bank.reachesVvvv evex) (hs : s.Bounded m evex) : ∃ c, bank.class? m s = some c ∧
      c.Spells (m.long = false) (bank.register m s (s.vvvv m)) := by
  have hle : s.vvvv m ≤ s.vvvvField := by
    rw [State.vvvv]
    split
    · exact Nat.le_refl _
    · exact Nat.mod_le _ _
  have hfield := hs.vvvv
  refine spells_register hbank ?_ fun hm => ⟨?_, (hs.short hm).hasRex⟩
  · cases bank with
    | gpr | file =>
        cases evex with
        | true => cases hvvvv
        | false => exact Nat.lt_of_le_of_lt hle hfield
    | vector =>
        refine Nat.lt_of_le_of_lt hle (Nat.lt_of_lt_of_le hfield ?_)
        show (if evex then 32 else 16) ≤ 32
        cases evex <;> decide
    | byte | low => cases hvvvv
  · rw [State.vvvv, hm]
    exact Nat.mod_lt _ (by decide)

/-- The register that the opcode spells. -/
theorem Bank.spells_opcode {bank : Bank} {evex : Bool} {number : UInt32}
    (h : (Step.opcodeReg bank number).sound evex) (hs : s.Bounded m evex) :
    ∃ c, bank.class? m s = some c ∧
      c.Spells (m.long = false) (bank.register m s (s.opcodeNumber number).toNat) := by
  simp only [Step.sound, Bool.and_eq_true, decide_eq_true_eq] at h
  obtain ⟨⟨hbank, hcapacity⟩, hnumber⟩ := h
  obtain ⟨hle, hsum⟩ := s.toNat_opcodeNumber_le hnumber
  have hb := s.b.toNat_le
  refine spells_register hbank (by omega) fun hm => ⟨?_, (hs.short hm).hasRex⟩
  rw [hsum, (hs.short hm).b, Bool.toNat_false]
  omega

/-- **The operands that a step adds** are in the classes that it names. -/
theorem Step.names_operands {step : Step} {evex : Bool} (hstep : step.sound evex)
    (hs : s.Bounded m evex) (hbreaks : step.breaks m s = false) (lock : Bool) {tail : Nat}
    (htail : tail < 16) :
    List.Forall₂ (Operand.Names (m.long = false) (step = .controlReg .cr0 ∧ lock))
      (step.operands m s lock tail) (step.classes m s) := by
  have hregs (bank : Bank) (hbank : bank.sound) : ∃ c, bank.class? m s = some c ∧
      c.Spells (m.long = false) (bank.register m s (bank.regNumber s)) :=
    Bank.spells_register hbank bank.regNumber_lt fun hm =>
      ⟨bank.regNumber_lt_eight (hs.short hm), (hs.short hm).hasRex⟩
  have hrms (bank : Bank) (hbank : bank.sound) : ∃ c, bank.class? m s = some c ∧
      c.Spells (m.long = false) (bank.register m s (bank.rmNumber s)) :=
    Bank.spells_register hbank bank.rmNumber_lt fun hm =>
      ⟨bank.rmNumber_lt_eight (hs.short hm), (hs.short hm).hasRex⟩
  have htails (base : Register) (hbase : base.isFirst) : ∃ c, base.class? = some c ∧
      c.Spells (m.long = false) (base.offset (if m.long then tail else tail % 8)) := by
    refine Register.spells_offset hbase ?_ fun hm => ?_
    · split <;> omega
    · rw [hm]
      exact Nat.mod_lt _ (by decide)
  cases step with
  -- registers
  | reg bank => exact .cons (.reg (hregs bank hstep)) .nil
  | narrowReg base => exact .cons (.reg (hregs (.low base) hstep)) .nil
  | boundReg =>
      have hlt := Nat.mod_lt (s.reg + 8 * s.r.toNat) (show 0 < 4 by decide)
      exact .cons (.reg ⟨.bound, rfl, _, hlt, rfl, fun _ => by omega⟩) .nil
  | segmentReg load =>
      have hreg := (Bool.or_eq_false_iff.mp hbreaks).1
      rw [decide_eq_false_iff_not] at hreg
      have hlt : s.reg < 6 := by omega
      exact .cons (.reg ⟨.segment, rfl, _, hlt, rfl, fun _ => s.reg_lt⟩) .nil
  | controlReg base => exact .cons (names_control hstep (fun hm => (hs.short hm).r) lock) .nil
  | rmRegister bank | rmNumber bank => exact .cons (.reg (hrms bank hstep)) .nil
  | vvvv bank =>
      obtain ⟨hbank, hvvvv⟩ := Bool.and_eq_true_iff.mp hstep
      exact .cons (.reg (Bank.spells_vvvv hbank hvvvv hs)) .nil
  | narrowVvvv base =>
      have hlt := Nat.mod_lt s.vvvvField (show 0 < 8 by decide)
      have hlow : ∃ c, (Bank.low base).class? m s = some c ∧
          c.Spells (m.long = false) ((Bank.low base).register m s (s.vvvvField % 8)) :=
        Bank.spells_register hstep hlt fun hm => ⟨hlt, (hs.short hm).hasRex⟩
      exact .cons (.reg hlow) .nil
  | is4 base => exact .cons (.reg (htails base hstep)) .nil
  | fixed register => exact .cons (.reg (Register.spells_of_isPlain hstep)) .nil
  | accumulator sizing =>
      have hgpr : ∃ c, some (RegisterClass.gpr (sizing.size m s)) = some c ∧
          c.Spells (m.long = false) ((Register.gpr (sizing.size m s)).offset 0) :=
        ⟨_, rfl, Register.spells_gpr _ (by decide) fun _ => by decide⟩
      rw [Register.offset_zero] at hgpr
      exact .cons (.reg hgpr) .nil
  | opcodeReg bank number => exact .cons (.reg (Bank.spells_opcode hstep hs)) .nil
  | exchange number =>
      exact names_exchange (of_decide_eq_true hstep) (fun hm => (hs.short hm).b) lock tail
  -- registers or memory
  | rm bank => exact .cons (.rm (hrms bank hstep)) .nil
  | rmBound =>
      have hlt := Nat.mod_lt (s.rm + 8 * s.b.toNat) (show 0 < 4 by decide)
      exact .cons (.rm ⟨.bound, rfl, _, hlt, rfl, fun _ => by omega⟩) .nil
  | rmVector base tuple broadcast => exact .cons (.rm (hrms (.vector base) hstep)) .nil
  | rmScalar => exact .cons (.rm (hrms (.gpr .longW) rfl)) .nil
  | is4BeforeRm base =>
      have hfile : (Bank.file base).sound := Bool.or_eq_true_iff.mpr (.inr hstep)
      exact .cons (.reg (htails base hstep)) (.cons (.rm (hrms (.file base) hfile)) .nil)
  -- other operands
  | immZ sizing =>
      refine Operand.Names.plains ?_
      simp only [kinds]
      cases sizing.size m s <;> decide
  | imm8Signed sizing | immFull sizing | far sizing | rel8 sizing | relZ _ sizing =>
      refine Operand.Names.plains ?_
      simp only [kinds]
      cases sizing.size m s <;> decide
  | stringSource | stringDestination =>
      refine Operand.Names.plains ?_
      simp only [kinds]
      cases s.addressSize m <;> decide
  | _ => exact Operand.Names.plains (of_decide_eq_true rfl)

/-! ### Addresses -/

/-- The registers of an address of a width: general-purpose ones that the mode can spell, apart from
the instruction pointer, the index of a table and a vector of indices. -/
structure MemoryOperand.Names (m : Mode) (size : Size) (step : Step) (a : MemoryOperand) :
    Prop where
  base : a.base = .none ∨ (RegisterClass.gpr size).Spells (m.long = false) a.base ∨
    m.long ∧ a.base ∈ [.rip, .eip]
  index : a.index = .none ∨ (RegisterClass.gpr size).Spells (m.long = false) a.index ∨
    step = .tableMemory ∧ a.index = .al ∨
    ∃ base tuple, step = .memVsib base tuple ∧ ∃ c ∈ [RegisterClass.xmm, .ymm, .zmm],
      base.class? = some c ∧ c.Spells (m.long = false) a.index

/-- The registers of 16-bit addresses. -/
theorem spells_pair16 {rm : Nat} (h : rm < 8) :
    RegisterClass.word.Spells low (AddressShape.pair16 rm).1 ∧
      ((AddressShape.pair16 rm).2 = .none ∨
        RegisterClass.word.Spells low (AddressShape.pair16 rm).2) := by
  have hplain : ∀ rm < 8, ((AddressShape.pair16 rm).1.isPlain ∧
      (AddressShape.pair16 rm).1.class? = some .word) ∧ ((AddressShape.pair16 rm).2 = .none ∨
      (AddressShape.pair16 rm).2.isPlain ∧ (AddressShape.pair16 rm).2.class? = some .word) := by
    decide
  have hspells {r : Register} (h : r.isPlain ∧ r.class? = some .word) :
      RegisterClass.word.Spells low r := by
    obtain ⟨c, hc, hr⟩ := Register.spells_of_isPlain h.1
    obtain rfl := Option.some.inj (h.2.symm.trans hc)
    exact hr
  obtain ⟨hbase, hindex⟩ := hplain rm h
  exact ⟨hspells hbase, hindex.imp_right hspells⟩

/-- An index register, or none where the byte spells the stack pointer. -/
theorem spells_indexOf {evex : Bool} (hs : s.Bounded m evex) (size : Size) (sib : UInt8) :
    AddressShape.indexOf m s (Register.gpr size) none sib = .none ∨
      (RegisterClass.gpr size).Spells (m.long = false)
        (AddressShape.indexOf m s (Register.gpr size) none sib) := by
  have hx := s.x.toNat_le
  simp only [AddressShape.indexOf]
  split
  · exact .inl rfl
  · refine .inr (Register.spells_gpr size (by omega) fun hm => ?_)
    rw [(hs.short hm).x, Bool.toNat_false]
    omega

/-- A vector of indices always is there. -/
theorem spells_vectorIndex {evex : Bool} (hs : s.Bounded m evex) {base : Register}
    (hbase : base.isFirstVector) (gpr : Register) (sib : UInt8) :
    ∃ c ∈ [RegisterClass.xmm, .ymm, .zmm], base.class? = some c ∧
      c.Spells (m.long = false) (AddressShape.indexOf m s gpr (some base) sib) := by
  obtain ⟨c, hmem, hc, rfl, hcount⟩ := Register.class_of_isFirstVector hbase
  have hx := s.x.toNat_le
  have hfield : s.vvvvField < 32 := Nat.lt_of_lt_of_le hs.vvvv (by cases evex <;> decide)
  refine ⟨c, hmem, hc, _, ?_, rfl, fun hm => ?_⟩
  · rw [hcount]
    split <;> omega
  · rw [hm, (hs.short hm).x, Bool.toNat_false, if_neg Bool.false_ne_true]
    omega

theorem names_spelled {step : Step} {evex : Bool} (hstep : step.sound evex)
    (hs : s.Bounded m evex) (sib : UInt8) (d : UInt64) :
    ((AddressShape.spelled m s step.vectors? sib).operand d).Names m (s.addressSize m) step := by
  have hb := s.b.toNat_le
  -- a base of three bits and an extension bit
  have hbase {n : Nat} (hn : n < 8) : (RegisterClass.gpr (s.addressSize m)).Spells (m.long = false)
      ((Register.gpr (s.addressSize m)).offset (n + 8 * s.b.toNat)) := by
    refine Register.spells_gpr _ (by omega) fun hm => ?_
    rw [(hs.short hm).b, Bool.toNat_false]
    exact hn
  rw [AddressShape.spelled]
  split
  next hsize =>
    rw [hsize, AddressShape.of16]
    split
    · exact ⟨.inl rfl, .inl rfl⟩
    · exact ⟨.inr (.inl (spells_pair16 s.rm_lt).1), (spells_pair16 s.rm_lt).2.imp_right .inl⟩
  next hsize =>
    split
    · constructor
      case base =>
        simp only [AddressShape.indexed, AddressShape.operand]
        split
        · exact .inl rfl
        · exact .inr (.inl (hbase (Nat.mod_lt _ (by decide))))
      case index =>
        cases hvectors : step.vectors? with
        | none => exact (spells_indexOf hs _ sib).imp_right .inl
        | some base =>
            cases step with
            | memVsib base' tuple =>
                cases hvectors
                exact .inr (.inr (.inr ⟨base, tuple, rfl,
                  spells_vectorIndex hs hstep (Register.gpr (s.addressSize m)) sib⟩))
            | _ => cases hvectors
    · rw [AddressShape.plain]
      split
      · refine ⟨?_, .inl rfl⟩
        cases hm : m.long with
        | false => exact .inl rfl
        | true =>
            refine .inr (.inr ⟨rfl, ?_⟩)
            simp only [AddressShape.operand, if_true]
            split
            · exact List.mem_cons_self
            · exact List.mem_cons_of_mem _ List.mem_cons_self
      · exact ⟨.inr (.inl (hbase s.rm_lt)), .inl rfl⟩

/-- **The address that a step fills in** has registers of the address size. -/
theorem Step.names_address {step : Step} {evex : Bool} (hstep : step.sound evex)
    (hs : s.Bounded m evex) (sib : UInt8) (d : UInt64) :
    (step.address m s sib d).Names m (s.addressSize m) step := by
  cases step with
  | offsetMemory => exact ⟨.inl rfl, .inl rfl⟩
  | tableMemory =>
      exact ⟨.inr (.inl (Register.spells_gpr _ (by decide) fun _ => by decide)),
        .inr (.inr (.inl ⟨rfl, rfl⟩))⟩
  | _ => exact names_spelled hstep hs sib d

end

end OpcodeForest
