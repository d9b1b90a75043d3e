import OpcodeForest.Proofs.Decode.Ending

/-!
# Relocation

A walk never sees the address of its instruction. Only near branches and operands relative to the
instruction pointer depend on it, so the bytes of an instruction mean the same at every address,
with these targets moved along.

* `settled_read`: an operand is noted as relative exactly if its base is an instruction pointer.
* `branches_read`: the displacement of a near branch comes last.
* `decode_relocates`: the records of one instruction at two addresses, and where a near branch goes.
-/

namespace OpcodeForest

/-! ### Operands relative to the instruction pointer -/

/-- The width of an instruction pointer. -/
def Register.ipWidth? (r : Register) : Option Size :=
  if r = .rip then some .w64 else if r = .eip then some .w32 else none

/-- Only instruction pointers have a width here. -/
theorem Register.ipWidth?_of_not_isIp {r : Register} (h : r.isIp = false) : r.ipWidth? = none := by
  obtain ⟨hrip, heip⟩ := Bool.or_eq_false_iff.mp h
  rw [ipWidth?, if_neg (beq_eq_false_iff_ne.mp hrip), if_neg (beq_eq_false_iff_ne.mp heip)]

namespace Target

/-- What is noted fits the base. -/
def Settled (target : Target) : Prop := target.ipRelative = target.base.ipWidth?

/-- Nothing points to the instruction. -/
def Absolute (target : Target) : Prop := target.ipRelative = none ∧ target.base.isIp = false

/-- A target that is not relative to the instruction pointer is settled. -/
theorem Absolute.settled {target : Target} (h : target.Absolute) : target.Settled :=
  h.1.trans (Register.ipWidth?_of_not_isIp h.2).symm

end Target

section

variable {m : Mode} {s s' : State}

/-- Only one form in 64-bit mode counts from the instruction pointer. -/
theorem ipRelative_addressShape {vectors : Option Register} {a : AddressShape × State}
    (h : s.addressShape m vectors = .ok a) (hip : (m.long && s.mod == 0 && s.rm == 5) = false) :
    a.1.ipRelative = false := by
  by_cases hsize : s.addressSize m = .w16
  · rw [State.addressShape, hsize] at h
    cases h
    unfold AddressShape.of16
    split <;> rfl
  · rw [State.addressShape_wide hsize] at h
    dsimp only at h
    split at h
    · obtain ⟨b, -, h⟩ := bind_eq_ok_iff.mp h
      cases h
      rfl
    · cases h
      unfold AddressShape.plain
      split
      · rename_i hdirect
        rw [hdirect.1, hdirect.2] at hip
        simpa using hip
      · rfl

/-- A memory operand that is read is settled. -/
theorem settled_readMemory {tuple : TupleType} {vectors : Option Register}
    (h : s.readMemory m tuple vectors = .ok s') : s'.target.Settled := by
  cases hip : m.long && s.mod == 0 && s.rm == 5 with
  | true =>
      have hdirect := hip
      rw [Bool.and_eq_true, Bool.and_eq_true, beq_iff_eq, beq_iff_eq] at hdirect
      obtain ⟨⟨hlong, hmod⟩, hrm⟩ := hdirect
      rw [readMemory_direct hlong hmod hrm] at h
      obtain ⟨⟨n, s₁⟩, hword, h⟩ := bind_eq_ok_iff.mp h
      obtain ⟨p, u, rfl⟩ : s.Advances s₁ := advances_word hword
      cases h
      have hwide := addressSize_of_long (s := s) hlong
      show some (s.addressSize m) = (if s.addressSize m = .w64 then Register.rip else .eip).ipWidth?
      cases hsize : s.addressSize m with
      | w16 => exact absurd hsize hwide
      | w32 | w64 => rfl
  | false =>
      have hbase := (isIp_readMemory h).trans hip
      rw [readMemory_eq] at h
      obtain ⟨a, ha, h⟩ := bind_eq_ok_iff.mp h
      obtain ⟨b, -, h⟩ := bind_eq_ok_iff.mp h
      cases h
      refine Target.Absolute.settled ⟨?_, hbase⟩
      show (if a.1.ipRelative then _ else none) = none
      rw [ipRelative_addressShape ha hip]
      rfl

theorem settled_readRm {bank : Bank} (hs : s.target.Absolute) (h : s.readRm m bank = .ok s') :
    s'.target.Settled := by
  unfold State.readRm at h
  split at h
  · cases h
    exact hs.settled
  · exact settled_readMemory h

theorem settled_readMem {tuple : TupleType} {vectors : Option Register}
    (h : s.readMem m tuple vectors = .ok s') : s'.target.Settled := by
  unfold State.readMem at h
  split at h
  · cases h
  · exact settled_readMemory h

/-- The step that fills in the memory operand settles it. -/
theorem settled_step {step : Step} (hfills : step.fillsMemory) (hs : s.target.Absolute)
    (h : step.run m s = .ok s') : s'.target.Settled := by
  cases step with
  | rm bank => exact settled_readRm hs h
  | rmBound =>
      simp only [Step.run, State.readBoundRm] at h
      split at h
      · cases h; exact hs.settled
      · exact settled_readMemory h
  | rmVector base tuple broadcast =>
      simp only [Step.run, State.readVectorRm] at h
      split at h
      · cases h; exact hs.settled
      · exact settled_readMemory h
  | rmScalar =>
      simp only [Step.run, State.readScalarRm] at h
      split at h
      · cases h; exact hs.settled
      · exact settled_readMemory h
  | mem | memVector | memVsib | memSib => exact settled_readMem h
  | memBound =>
      obtain ⟨s₁, h₁, h⟩ := bind_eq_ok_iff.mp h
      have hs₁ := settled_readMem h₁
      cases h
      exact hs₁
  | is4BeforeRm base =>
      obtain ⟨s₁, h₁, h⟩ := bind_eq_ok_iff.mp h
      obtain ⟨⟨r, s₂⟩, h₂, h⟩ := bind_eq_ok_iff.mp h
      obtain ⟨p, u, rfl⟩ : s₁.Advances s₂ := advances_readIs4 h₂
      have hs₁ := settled_readRm hs h₁
      cases h
      exact hs₁
  | offsetMemory =>
      obtain ⟨⟨n, s₁⟩, hword, h⟩ := bind_eq_ok_iff.mp h
      obtain ⟨p, u, rfl⟩ : s.Advances s₁ := advances_word hword
      cases h
      exact Target.Absolute.settled ⟨hs.1, rfl⟩
  | tableMemory =>
      cases h
      exact Target.Absolute.settled
        ⟨hs.1, AddressShape.isIp_general (s.addressSize m) (n := 3) (by decide) false⟩
  | _ => cases hfills

/-- What no step fills in stays. -/
theorem target_steps {steps : List Step} (hsteps : ∀ step ∈ steps, step.fillsMemory = false)
    (h : runSteps m steps s = .ok s') : s'.target = s.target :=
  target_of_retouch (fun _ => runSteps_retouch fun step hstep hf =>
    absurd ((hsteps step hstep).symm.trans hf) Bool.false_ne_true) h

/-- **Steps of which at most one fills in the memory operand settle it.** -/
theorem settled_steps : ∀ {steps : List Step} {s : State},
    (steps.filter (·.fillsMemory)).length ≤ 1 → s.target.Absolute → runSteps m steps s = .ok s' →
    s'.target.Settled
  | [], s, _, hs, h => by
      cases h
      exact hs.settled
  | step :: rest, s, hone, hs, h => by
      obtain ⟨s₁, h₁, h⟩ := bind_eq_ok_iff.mp h
      cases hfills : step.fillsMemory with
      | true =>
          rw [target_steps (not_fillsMemory_of_cons hfills hone) h]
          exact settled_step hfills hs h₁
      | false =>
          have htarget : s₁.target = s.target :=
            target_of_retouch (fun _ => Step.run_retouch fun hf =>
              absurd (hfills.symm.trans hf) Bool.false_ne_true) h₁
          rw [List.filter_cons_of_neg (Bool.eq_false_iff.mp hfills)] at hone
          exact settled_steps hone (htarget ▸ hs) h

/-- A node that fills in operands settles the target. -/
theorem settled_route {t : Tables} {n : Node} (hfills : n.fillsOperands) (hs : s.target.Absolute)
    {b : State × Next} (h : t.route m n s = .ok b) : b.1.target.Settled := by
  cases n with
  | leaf l =>
      obtain ⟨s', hrun, hb⟩ := bind_eq_ok_iff.mp h
      have hs' := settled_steps (s := s.setCode (l.plan.code.pick m s l))
        (length_filter_plan_le l) hs hrun
      cases hb
      exact hs'
  | trailing codes =>
      obtain ⟨s', hrun, hb⟩ := bind_eq_ok_iff.mp h
      cases hb
      rw [runTrailing_eq] at hrun
      obtain ⟨s₁, h₁, hrun⟩ := bind_eq_ok_iff.mp hrun
      have hs₁ : s₁.target.Settled := settled_steps (by decide) hs h₁
      have htarget : s'.target = s₁.target :=
        target_of_retouch (fun _ => readTrailing_retouch codes) hrun
      show s'.target.Settled
      rw [htarget]
      exact hs₁
  | _ => cases hfills

end

/-! ### Near branches -/

/-- The width of a near branch. -/
def OperandKind.branchWidth? : OperandKind → Option Size
  | nearBranch16 => some .w16
  | nearBranch32 => some .w32
  | nearBranch64 => some .w64
  | _ => none

/-- Near branches of three sizes. -/
theorem OperandKind.branchWidth?_eq_some_iff {k : OperandKind} {size : Size} :
    k.branchWidth? = some size ↔ k = .nearBranchOf size := by
  constructor
  · intro h
    cases k <;> cases h <;> rfl
  · rintro rfl
    cases size <;> rfl

namespace Step

/-- The step reads a near branch. -/
def isBranch : Step → Bool
  | rel8 _ | relZ _ _ => true
  | _ => false

/-- A near branch is all there is to a plan. -/
theorem length_eq_one_of_isBranch (l : Leaf) (h : l.plan.steps.any (·.isBranch)) :
    l.plan.steps.length = 1 := by
  obtain ⟨form, codes, registers, number, locks, tuple, flags⟩ := l
  cases form with
  | jb | jz | jb2 | xbegin => rfl
  | evexVW =>
      simp only [Leaf.plan] at h
      split at h <;> cases h
  | _ => cases h

variable {m : Mode} {s : State}

/-- Other steps add no branch. -/
theorem filterMap_branchWidth?_kinds {step : Step} (h : step.isBranch = false) :
    (step.kinds m s).filterMap (·.branchWidth?) = [] := by
  cases step with
  | rel8 | relZ => cases h
  | immZ sizing => simp only [kinds]; cases sizing.size m s <;> rfl
  | imm8Signed sizing => simp only [kinds]; cases sizing.size m s <;> rfl
  | immFull sizing => simp only [kinds]; cases sizing.size m s <;> rfl
  | far sizing => simp only [kinds]; cases sizing.size m s <;> rfl
  | stringSource | stringDestination => simp only [kinds]; cases s.addressSize m <;> rfl
  | rm | rmBound | rmVector | rmScalar | is4BeforeRm =>
      simp only [kinds, formKind]
      cases s.registerForm <;> rfl
  | exchange number =>
      simp only [kinds]
      split
      · rfl
      · split <;> rfl
  | _ => rfl

/-- And note none. -/
theorem branch_note {step : Step} (h : step.isBranch = false) (n : Notes) :
    (step.note m s n).branch = n.branch := by
  cases step with
  | rel8 | relZ => cases h
  | controlReg | rmVector | exchange | lockable =>
      simp only [note]
      split <;> rfl
  | rounding =>
      simp only [note]
      split
      · split <;> rfl
      · rfl
  | _ => rfl

end Step

section

variable {m : Mode} {s s' : State}

/-- From `s` to `s'` a near branch of width `size` is read, with the displacement `d`. -/
structure ReadsBranch (size : Size) (d : List UInt8) (s s' : State) : Prop where
  kinds : s'.kinds.filterMap (·.branchWidth?) = [size]
  length : d.length ∈ [1, 2, 4]
  pending : s.pending = d ++ s'.pending
  used : s'.used = s.used + d.length
  branch : s'.branch = some (size, signed (8 * d.length) (littleEndian d))

/-- There is no near branch. -/
def State.Straight (s : State) : Prop :=
  s.kinds.filterMap (·.branchWidth?) = [] ∧ s.branch = none

theorem readsBranch_readBranch (hs : s.kinds = []) {size : Size} {n : Nat} (hn : n ∈ [1, 2, 4])
    (h : s.readBranch n size = .ok s') : ∃ d, ReadsBranch size d s s' := by
  have hkinds := (effect_readBranch h).kinds
  obtain ⟨⟨v, s₁⟩, hword, h⟩ := bind_eq_ok_iff.mp h
  cases h
  unfold State.word at hword
  by_cases hle : n ≤ s.pending.length
  · rw [if_pos hle] at hword
    have hd : (s.pending.take n).length = n := List.length_take_of_le hle
    cases hword
    refine ⟨s.pending.take n, ?_, hd.symm ▸ hn, (List.take_append_drop n _).symm, ?_, ?_⟩
    · rw [hkinds, hs]
      cases size <;> rfl
    · rw [hd]
      rfl
    · rw [hd]
      rfl
  · rw [if_neg hle] at hword
    cases hword

theorem readsBranch_step {step : Step} (hstep : step.isBranch) (hs : s.kinds = [])
    (h : step.run m s = .ok s') : ∃ size d, ReadsBranch size d s s' := by
  cases step with
  | rel8 target => exact ⟨_, readsBranch_readBranch hs (by decide) h⟩
  | relZ width target =>
      refine ⟨_, readsBranch_readBranch hs ?_ h⟩
      split <;> decide
  | _ => cases hstep

theorem straight_steps {steps : List Step} (hsteps : ∀ step ∈ steps, step.isBranch = false)
    (hs : s.Straight) (h : RunsTo m steps s s') : s'.Straight := by
  have hkinds : (steps.flatMap (·.kinds m s)).filterMap (·.branchWidth?) = [] := by
    rw [List.filterMap_flatMap, List.flatMap_eq_nil_iff]
    exact fun step hstep => Step.filterMap_branchWidth?_kinds (hsteps step hstep)
  have hnotes : ∀ n : Notes, (steps.foldl (fun n step => step.note m s n) n).branch = n.branch := by
    clear h hkinds
    induction steps with
    | nil => exact fun _ => rfl
    | cons step rest ih =>
        intro n
        rw [List.foldl_cons, ih fun step hstep => hsteps step (List.mem_cons_of_mem _ hstep)]
        exact Step.branch_note (hsteps step List.mem_cons_self) n
  refine ⟨?_, ?_⟩
  · rw [h.effect.kinds, List.filterMap_append, hs.1, hkinds]
    rfl
  · have hbranch : s'.notes.branch = s.notes.branch := by rw [h.effect.notes, hnotes]
    have hnone : s'.branch.map (·.1) = none := by
      show s'.notes.branch = none
      rw [hbranch]
      show s.branch.map (·.1) = none
      rw [hs.2]
      rfl
    exact Option.map_eq_none_iff.mp hnone

/-- **A near branch is the only operand of its kind, and its displacement comes last.** -/
theorem branches_route {t : Tables} {n : Node} (hfills : n.fillsOperands) (hs : s.kinds = [])
    (hbranch : s.branch = none) {b : State × Next} (h : t.route m n s = .ok b) :
    b.1.Straight ∨ ∃ size d, ReadsBranch size d s b.1 := by
  have hstraight : s.Straight := ⟨by rw [hs]; rfl, hbranch⟩
  obtain ⟨-, hruns⟩ := runsTo_route hfills h
  by_cases hany : n.steps.any (·.isBranch)
  · right
    cases n with
    | leaf l =>
        obtain ⟨step, hstep⟩ := List.length_eq_one_iff.mp (Step.length_eq_one_of_isBranch l hany)
        obtain ⟨s', hrun, hb⟩ := bind_eq_ok_iff.mp h
        cases hb
        rw [Leaf.run, hstep] at hrun
        obtain ⟨s₁, h₁, hrun⟩ := bind_eq_ok_iff.mp hrun
        cases hrun
        simp only [Node.steps, hstep, List.any_cons, List.any_nil, Bool.or_false] at hany
        obtain ⟨size, d, hread⟩ :=
          readsBranch_step (s := s.setCode (l.plan.code.pick m s l)) hany hs h₁
        exact ⟨size, d, hread.kinds, hread.length, hread.pending, hread.used, hread.branch⟩
    | trailing => cases hany
    | _ => cases hfills
  · left
    refine straight_steps (fun step hstep => ?_) hstraight hruns
    rw [List.any_eq_true, not_exists] at hany
    exact Bool.eq_false_iff.mpr fun hbranch => hany step ⟨hstep, hbranch⟩

/-! ### Walks -/

variable {t : Tables} {window : List UInt8}

theorem Underway.absolute (h : Underway window s) : s.target.Absolute := by
  show s.filled.target.Absolute
  rw [h.filled]
  exact ⟨rfl, rfl⟩

theorem settled_read (h : t.read m window = .ok s') : s'.target.Settled := by
  obtain ⟨n, s₁, hs₁, hfills, hroute⟩ := read_ends h
  exact settled_route hfills hs₁.absolute hroute

/-- A near branch that was read: the bytes that are used end with its displacement. -/
theorem branches_read (h : t.read m window = .ok s') : s'.Straight ∨ ∃ size c d,
    s'.kinds.filterMap (·.branchWidth?) = [size] ∧ window.take s'.used = c ++ d ∧
      d.length ∈ [1, 2, 4] ∧ s'.branch = some (size, signed (8 * d.length) (littleEndian d)) := by
  obtain ⟨n, s₁, hs₁, hfills, hroute⟩ := read_ends h
  rcases branches_route hfills hs₁.kinds hs₁.branch hroute with hstraight | ⟨size, d, hread⟩
  · exact .inl hstraight
  · obtain ⟨c, hc, hused⟩ := hs₁.consumed
    refine .inr ⟨size, c, d, hread.kinds, ?_, hread.length, hread.branch⟩
    rw [hread.used, hused, hc, hread.pending, ← List.append_assoc, ← List.length_append]
    exact List.take_left

end

/-! ### Addresses -/

section

variable {w : Nat}

/-- An address that was cut to a word can be added to. -/
theorem wrap_toNat_wrap_add (hw : w ≤ 64) (y z : Int) :
    wrap w ((wrap w y).toNat + z) = wrap w (y + z) := by
  rw [wrap_eq_ofInt, BitVec.ofInt_add, BitVec.ofInt_natCast, ofNat_toNat_wrap hw,
    ← BitVec.ofInt_add, ← wrap_eq_ofInt]

/-- The end of an instruction wraps around at 64 bits, which no narrower word sees. -/
theorem wrap_nextIp_add (hw : w ≤ 64) (ip : UInt64) (n : Nat) (z : Int) :
    wrap w ((ip + UInt64.ofNat n).toNat + z) = wrap w (ip.toNat + n + z) := by
  have hip : BitVec.ofNat w (ip + UInt64.ofNat n).toNat = BitVec.ofNat w (ip.toNat + n) := by
    have hdvd : 2 ^ w ∣ 2 ^ 64 := Nat.pow_dvd_pow 2 hw
    apply BitVec.eq_of_toNat_eq
    rw [BitVec.toNat_ofNat, BitVec.toNat_ofNat, UInt64.toNat_add, UInt64.toNat_ofNat',
      Nat.add_mod_mod, Nat.mod_mod_of_dvd _ hdvd]
  rw [wrap_eq_ofInt, BitVec.ofInt_add, BitVec.ofInt_natCast, hip, ← BitVec.ofInt_natCast,
    ← BitVec.ofInt_add, ← wrap_eq_ofInt, Int.natCast_add]

/-- What counts from the end of an instruction moves along with it. -/
theorem wrap_nextIp_moved (hw : w ≤ 64) (ip₁ ip₂ : UInt64) (n : Nat) (z : Int) :
    wrap w ((ip₂ + UInt64.ofNat n).toNat + z)
      = wrap w ((wrap w ((ip₁ + UInt64.ofNat n).toNat + z)).toNat
          + ((ip₂.toNat : Int) - ip₁.toNat)) := by
  rw [wrap_nextIp_add hw, wrap_nextIp_add hw, wrap_toNat_wrap_add hw]
  congr 1
  omega

end

/-! ### Records -/

namespace Instruction

def kinds (i : Instruction) : List OperandKind := i.operands.map (·.kind)

/-- The record at another address, with other targets. -/
def moveTo (ip nearBranch displacement : UInt64) (i : Instruction) : Instruction :=
  { i with ip, nearBranch, memory := { i.memory with displacement } }

/-- The records `i` and `j` of one instruction at the addresses `ip₁` and `ip₂`: the targets that
count from the instruction are moved along, and everything else is the same. -/
structure Relocated (ip₁ ip₂ : UInt64) (i j : Instruction) : Prop where
  same : j = i.moveTo ip₂ j.nearBranch j.memory.displacement
  branch : ∀ size, .nearBranchOf size ∈ i.kinds →
    j.nearBranch = wrap size.bits (i.nearBranch.toNat + ((ip₂.toNat : Int) - ip₁.toNat))
  noBranch : (∀ size, .nearBranchOf size ∉ i.kinds) → j.nearBranch = i.nearBranch
  relative : ∀ size, i.memory.base.ipWidth? = some size → j.memory.displacement
    = wrap size.bits (i.memory.displacement.toNat + ((ip₂.toNat : Int) - ip₁.toNat))
  absolute : i.memory.base.ipWidth? = none → j.memory.displacement = i.memory.displacement

/-- The near branch of a record goes as far from its end as the bytes `d` say, which are the last
ones of the instruction. -/
structure BranchesBy (ip : UInt64) (bytes d : List UInt8) (size : Size) (i : Instruction) :
    Prop where
  last : d <:+ bytes.take i.length
  target : i.nearBranch
    = wrap size.bits (ip.toNat + i.length + signed (8 * d.length) (littleEndian d))

end Instruction

section

variable {m : Mode} {s : State}

theorem nearBranchOf_mem_iff {ks : List OperandKind} {size : Size} :
    .nearBranchOf size ∈ ks ↔ size ∈ ks.filterMap (·.branchWidth?) := by
  rw [List.mem_filterMap]
  constructor
  · exact fun h => ⟨_, h, OperandKind.branchWidth?_eq_some_iff.mpr rfl⟩
  · rintro ⟨k, hk, hwidth⟩
    exact OperandKind.branchWidth?_eq_some_iff.mp hwidth ▸ hk

theorem Instruction.relocated_bad (n : Nat) (ip₁ ip₂ : UInt64) :
    Relocated ip₁ ip₂ (.bad n ip₁) (.bad n ip₂) where
  same := rfl
  branch _ h := absurd h List.not_mem_nil
  noBranch _ := rfl
  relative _ h := by cases h
  absolute _ := rfl

theorem kinds_finish (h : s.Accepted m) (ip : UInt64) : (s.finish m ip).kinds = s.kinds := by
  rw [State.finish, if_neg h]
  rfl

theorem nearBranch_finish (h : s.Accepted m) (ip : UInt64) :
    (s.finish m ip).nearBranch = s.branchTarget (ip + UInt64.ofNat s.used) := by
  rw [State.finish, if_neg h]

theorem displacement_finish (h : s.Accepted m) (ip : UInt64) :
    (s.finish m ip).memory.displacement = s.displacement (ip + UInt64.ofNat s.used) := by
  rw [State.finish, if_neg h]

theorem branchTarget_of_branch {size : Size} {z : Int} (h : s.branch = some (size, z))
    (nextIp : UInt64) : s.branchTarget nextIp = wrap size.bits (nextIp.toNat + z) := by
  rw [State.branchTarget, h]

theorem branchTarget_of_straight (h : s.Straight) (nextIp : UInt64) :
    s.branchTarget nextIp = 0 := by
  rw [State.branchTarget, h.2]

theorem displacement_of_relative {size : Size} (h : s.ipRelative = some size) (nextIp : UInt64) :
    s.displacement nextIp = wrap size.bits (nextIp.toNat + s.draft.memory.displacement.toNat) := by
  rw [State.displacement, h, Int.add_comm]

theorem displacement_of_absolute (h : s.ipRelative = none) (nextIp : UInt64) :
    s.displacement nextIp = s.draft.memory.displacement := by
  rw [State.displacement, h]

/-- **The records of a state at two addresses.** -/
theorem Instruction.relocated_finish (haccepted : s.Accepted m) (hs : s.target.Settled)
    (hbranch : s.Straight ∨ ∃ size z, s.kinds.filterMap (·.branchWidth?) = [size] ∧
      s.branch = some (size, z)) (ip₁ ip₂ : UInt64) :
    Relocated ip₁ ip₂ (s.finish m ip₁) (s.finish m ip₂) where
  same := by
    rw [State.finish, if_neg haccepted, State.finish, if_neg haccepted]
    rfl
  branch size hsize := by
    rw [kinds_finish haccepted, nearBranchOf_mem_iff] at hsize
    rcases hbranch with hstraight | ⟨size', z, hkinds, hnoted⟩
    · rw [hstraight.1] at hsize
      cases hsize
    · rw [hkinds] at hsize
      obtain rfl := List.mem_singleton.mp hsize
      rw [nearBranch_finish haccepted, nearBranch_finish haccepted, branchTarget_of_branch hnoted,
        branchTarget_of_branch hnoted]
      exact wrap_nextIp_moved size.bits_le_64 ip₁ ip₂ s.used z
  noBranch hnone := by
    rcases hbranch with hstraight | ⟨size, z, hkinds, -⟩
    · rw [nearBranch_finish haccepted, nearBranch_finish haccepted,
        branchTarget_of_straight hstraight, branchTarget_of_straight hstraight]
    · refine absurd ?_ (hnone size)
      rw [kinds_finish haccepted, nearBranchOf_mem_iff, hkinds]
      exact List.mem_singleton_self size
  relative size hsize := by
    rw [base_finish haccepted] at hsize
    have hnoted : s.ipRelative = some size := Eq.trans hs hsize
    rw [displacement_finish haccepted, displacement_finish haccepted,
      displacement_of_relative hnoted, displacement_of_relative hnoted]
    exact wrap_nextIp_moved size.bits_le_64 ip₁ ip₂ s.used _
  absolute hnone := by
    rw [base_finish haccepted] at hnone
    have hnoted : s.ipRelative = none := Eq.trans hs hnone
    rw [displacement_finish haccepted, displacement_finish haccepted,
      displacement_of_absolute hnoted, displacement_of_absolute hnoted]

/-- Where the near branch of a record goes. -/
theorem Instruction.branchesBy_finish (haccepted : s.Accepted m) {bytes c d : List UInt8}
    (hbytes : bytes.take s.used = c ++ d) {size : Size}
    (hbranch : s.branch = some (size, signed (8 * d.length) (littleEndian d))) (ip : UInt64) :
    (s.finish m ip).BranchesBy ip bytes d size where
  last := by
    rw [Tables.length_finish, hbytes]
    exact List.suffix_append c d
  target := by
    rw [nearBranch_finish haccepted, branchTarget_of_branch hbranch, Tables.length_finish]
    exact wrap_nextIp_add size.bits_le_64 ip s.used _

end

/-- **An instruction means the same at every address.** Its records at two addresses agree in all
but the targets that count from the instruction, and these are moved along. A near branch goes as
far from the end of the instruction as its last one, two or four bytes say. -/
theorem decode_relocates (t : Tables) (m : Mode) (bytes : List UInt8) :
    (∀ ip₁ ip₂ : UInt64,
      Instruction.Relocated ip₁ ip₂ (t.decode m ip₁ bytes) (t.decode m ip₂ bytes)) ∧
    ∃ d : List UInt8, d.length ∈ [1, 2, 4] ∧ ∀ (ip : UInt64) (size : Size),
      .nearBranchOf size ∈ (t.decode m ip bytes).kinds →
        (t.decode m ip bytes).BranchesBy ip bytes d size := by
  rcases decode_cases t m bytes with ⟨n, hbad⟩ | ⟨s, hread, haccepted, hfinish⟩
  · refine ⟨fun ip₁ ip₂ => ?_, [0], by decide, fun ip size hsize => ?_⟩
    · rw [hbad, hbad]
      exact Instruction.relocated_bad n ip₁ ip₂
    · rw [hbad] at hsize
      cases hsize
  · simp only [hfinish]
    have hsettled := settled_read hread
    rcases branches_read hread with hstraight | ⟨size, c, d, hkinds, htake, hd, hbranch⟩
    · refine ⟨Instruction.relocated_finish haccepted hsettled (.inl hstraight), [0], by decide,
        fun ip size hsize => ?_⟩
      rw [kinds_finish haccepted, nearBranchOf_mem_iff, hstraight.1] at hsize
      cases hsize
    · have hmoved := Instruction.relocated_finish haccepted hsettled
        (.inr ⟨size, _, hkinds, hbranch⟩)
      refine ⟨hmoved, d, hd, fun ip size' hsize => ?_⟩
      rw [kinds_finish haccepted, nearBranchOf_mem_iff, hkinds] at hsize
      obtain rfl := List.mem_singleton.mp hsize
      have hused : s.used ≤ maxLength := by
        rw [← Tables.length_finish m ip s, ← hfinish]
        exact Nat.le_trans (t.length_decode_le_window m ip bytes) (List.length_take_le _ _)
      rw [List.take_take, Nat.min_eq_left hused] at htake
      exact Instruction.branchesBy_finish haccepted htake hbranch ip

/-- A short branch near the end of the address space and at another address, and an operand relative
to the instruction pointer. -/
theorem decode_relocates_small :
    let m : Mode := { bitness := .bits64, options := {} }
    let jump : Node := .leaf { form := .jb, codes := List.map Code.Jo_rel8_16.offset [0, 1, 2] }
    let add : Node := .leaf { form := .ebIb, codes := [.Add_rm8_imm8] }
    let t : Tables := { smallTables with forest := Forest.fresh.push jump |>.push add }
    let high : UInt64 := 18446744073709551613
    let branch (ip : UInt64) : Instruction := t.decode m ip [16, 254]
    let operand (ip : UInt64) : Instruction := t.decode m ip [240, 5, 254, 255, 255, 255, 9]
    .nearBranchOf .w64 ∈ (branch high).kinds ∧ (branch high).nearBranch = high ∧
      (branch 7).nearBranch = wrap 64 ((branch high).nearBranch.toNat + ((7 : Int) - high.toNat)) ∧
      (branch 7).nearBranch = 7 ∧
      (∃ d : List UInt8, d.length ∈ [1, 2, 4] ∧ d <:+ [16, 254] ∧
        (branch high).nearBranch
          = wrap 64 (high.toNat + 2 + signed (8 * d.length) (littleEndian d))) ∧
      (operand high).memory.base.ipWidth? = some .w64 ∧ (operand high).memory.displacement = 2 ∧
      (operand 7).memory.displacement
        = wrap 64 ((operand high).memory.displacement.toNat + ((7 : Int) - high.toNat)) := by
  intro m jump add t high branch operand
  have hbranch : .nearBranchOf .w64 ∈ (branch high).kinds := by decide
  have hbase : (operand high).memory.base.ipWidth? = some .w64 := by decide
  obtain ⟨hmoved, d, hd, htarget⟩ := decode_relocates t m [16, 254]
  obtain ⟨hlast, htarget⟩ := htarget high .w64 hbranch
  have hlength : (t.decode m high [16, 254]).length = 2 := by decide
  rw [hlength] at hlast htarget
  exact ⟨hbranch, by decide, (hmoved high 7).branch .w64 hbranch, by decide,
    ⟨d, hd, hlast, htarget⟩, hbase, by decide, ((decode_relocates t m _).1 high 7).relative .w64 hbase⟩

end OpcodeForest
