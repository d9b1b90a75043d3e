import OpcodeForest.Proofs.Decode.Payload
import OpcodeForest.Proofs.Decode.Relocation

/-!
# Lock and repeat prefixes

The bytes `F0`, `F2` and `F3` may come in any order and number, and opcodes, operands and payloads
use them up in different ways. What a record shows of them is consistent all the same.

* `PrefixSet.Repeats`: the repeat prefixes that show are those of one mandatory prefix.
* `Step.repeats_note`, `Step.hinted_note`: what a step keeps.
* `Shows`, `shows_dispatch`: what a move keeps.
* `decode_prefixes_consistent`: what follows for records.
-/

namespace OpcodeForest

/-! ### What the prefixes say together -/

/-- The repeat prefixes that show are those of the mandatory prefix `r`, and an elision hint stands
in the place of one. -/
structure PrefixSet.Repeats (r : Mandatory) (p : PrefixSet) : Prop where
  rep : p.rep → r = .pF3
  repne : p.repne → r = .pF2
  xacquire : p.xacquire → r = .pF2 ∧ p.repne = false
  xrelease : p.xrelease → r = .pF3 ∧ p.rep = false

namespace PrefixSet.Repeats

variable {r : Mandatory} {p p' : PrefixSet}

/-- At most one of them shows. -/
theorem count_le_one (h : p.Repeats r) :
    [p.rep, p.repne, p.xacquire, p.xrelease].count true ≤ 1 := by
  by_cases hr : r = .pF3
  · have hne : r ≠ .pF2 := by rw [hr]; exact Mandatory.noConfusion
    have hrepne : p.repne = false := Bool.eq_false_iff.mpr fun hp => hne (h.repne hp)
    have hxacquire : p.xacquire = false := Bool.eq_false_iff.mpr fun hp => hne (h.xacquire hp).1
    rw [hrepne, hxacquire]
    cases hxrelease : p.xrelease with
    | false => cases p.rep <;> decide
    | true => rw [(h.xrelease hxrelease).2]; decide
  · have hrep : p.rep = false := Bool.eq_false_iff.mpr fun hp => hr (h.rep hp)
    have hxrelease : p.xrelease = false := Bool.eq_false_iff.mpr fun hp => hr (h.xrelease hp).1
    rw [hrep, hxrelease]
    cases hxacquire : p.xacquire with
    | false => cases p.repne <;> decide
    | true => rw [(h.xacquire hxacquire).2]; decide

protected theorem none (r : Mandatory) : PrefixSet.Repeats r {} :=
  ⟨Bool.noConfusion, Bool.noConfusion, Bool.noConfusion, Bool.noConfusion⟩

theorem dropRep (h : p.Repeats r) : PrefixSet.Repeats r { p with rep := false } :=
  ⟨Bool.noConfusion, h.repne, h.xacquire, fun hp => ⟨(h.xrelease hp).1, rfl⟩⟩

theorem elide (h : p.Repeats r) (rules : LockRules) : (Step.elide rules r p).Repeats r := by
  unfold Step.elide
  dsimp only
  split
  · rename_i hhint
    have hr : r = .pF2 := by
      simp only [Bool.and_eq_true, beq_iff_eq] at hhint
      exact hhint.1.2
    exact ⟨h.rep, Bool.noConfusion, fun _ => ⟨hr, rfl⟩, h.xrelease⟩
  · split
    · rename_i hhint
      have hr : r = .pF3 := by
        simp only [Bool.and_eq_true, beq_iff_eq] at hhint
        exact hhint.1.2
      exact ⟨Bool.noConfusion, h.repne, h.xacquire, fun _ => ⟨hr, rfl⟩⟩
    · exact h

end PrefixSet.Repeats

/-- The prefixes act on a memory operand: an elision hint, or a lock that is allowed. -/
def Notes.Hinted (n : Notes) : Prop :=
  n.prefixes.xacquire ∨ n.prefixes.xrelease ∨ n.prefixes.lock ∧ n.allowLock

/-! ### Steps -/

namespace Step

def isLockable : Step → Bool
  | lockable _ => true
  | _ => false

/-- The step may change the prefixes or allow a lock. -/
def touchesPrefixes : Step → Bool
  | controlReg _ | exchange _ | lockable _ => true
  | _ => false

variable {m : Mode} {s : State} {n : Notes}

theorem prefixes_note {step : Step} (h : step.touchesPrefixes = false) (n : Notes) :
    (step.note m s n).prefixes = n.prefixes ∧ (step.note m s n).allowLock = n.allowLock := by
  cases step with
  | controlReg | exchange | lockable => cases h
  | rmVector => simp only [note]; split <;> exact ⟨rfl, rfl⟩
  | rounding =>
      simp only [note]
      split
      · split <;> exact ⟨rfl, rfl⟩
      · exact ⟨rfl, rfl⟩
  | _ => exact ⟨rfl, rfl⟩

theorem repeats_note (step : Step) (h : n.prefixes.Repeats s.mandatory) :
    (step.note m s n).prefixes.Repeats s.mandatory := by
  cases step with
  | controlReg base =>
      simp only [note]
      split
      · exact ⟨h.rep, h.repne, h.xacquire, h.xrelease⟩
      · exact h
  | exchange number =>
      simp only [note]
      split
      · exact h.dropRep
      · exact h
  | lockable rules =>
      simp only [note]
      split
      · exact h
      · exact h.elide rules
  | _ => rw [(prefixes_note rfl n).1]; exact h

/-- Prefixes act on memory where a step says so. -/
theorem hinted_note {step : Step} (h : (step.note m s n).Hinted) :
    n.Hinted ∨ s.registerForm = false ∧ step.isLockable := by
  cases htouches : step.touchesPrefixes with
  | false =>
      obtain ⟨hprefixes, hallow⟩ := prefixes_note (m := m) (s := s) htouches n
      rw [Notes.Hinted, hprefixes, hallow] at h
      exact .inl h
  | true =>
      cases step with
      | controlReg base =>
          simp only [note] at h
          split at h
          · -- the lock byte names a register and does not show any more
            rcases h with h | h | ⟨h, -⟩
            · exact .inl (.inl h)
            · exact .inl (.inr (.inl h))
            · cases h
          · exact .inl h
      | exchange number =>
          simp only [note] at h
          split at h <;> exact .inl h
      | lockable rules =>
          simp only [note] at h
          split at h
          · exact .inl h
          · rename_i hform
            exact .inr ⟨Bool.eq_false_iff.mpr hform, rfl⟩
      | _ => cases htouches

theorem prefixes_notes : ∀ {steps : List Step} (_ : ∀ step ∈ steps, step.touchesPrefixes = false)
    (n : Notes), (steps.foldl (fun n step => step.note m s n) n).prefixes = n.prefixes ∧
      (steps.foldl (fun n step => step.note m s n) n).allowLock = n.allowLock
  | [], _, _ => ⟨rfl, rfl⟩
  | step :: rest, h, n => by
      obtain ⟨hstep, hrest⟩ := List.forall_mem_cons.mp h
      obtain ⟨hprefixes, hallow⟩ := prefixes_note (m := m) (s := s) hstep n
      obtain ⟨ihprefixes, ihallow⟩ := prefixes_notes hrest (step.note m s n)
      exact ⟨ihprefixes.trans hprefixes, ihallow.trans hallow⟩

theorem repeats_notes : ∀ (steps : List Step) {n : Notes}, n.prefixes.Repeats s.mandatory →
    (steps.foldl (fun n step => step.note m s n) n).prefixes.Repeats s.mandatory
  | [], _, h => h
  | step :: rest, _, h => repeats_notes rest (step.repeats_note h)

theorem hinted_notes : ∀ (steps : List Step) {n : Notes},
    (steps.foldl (fun n step => step.note m s n) n).Hinted →
      n.Hinted ∨ s.registerForm = false ∧ steps.any (·.isLockable)
  | [], _, h => .inl h
  | step :: rest, n, h => by
      rw [List.any_cons, Bool.or_eq_true]
      rcases hinted_notes rest h with h | ⟨hform, h⟩
      · exact (hinted_note h).imp_right fun h => ⟨h.1, .inl h.2⟩
      · exact .inr ⟨hform, .inr h⟩

end Step

/-! ### Plans -/

/-- Where a lock acts, the first operand is a register or memory. -/
theorem Leaf.head_of_lockable (l : Leaf) (h : l.plan.steps.any (·.isLockable)) :
    ∃ rest, l.plan.steps = .mem :: rest ∨ ∃ bank, l.plan.steps = .rm bank :: rest := by
  obtain ⟨form, codes, registers, number, locks, tuple, flags⟩ := l
  cases form with
  | mRexW => exact ⟨_, .inl rfl⟩
  | eb | ev | ebGb | evGv | ebIb | evIz | evIb | evIb2 => exact ⟨_, .inr ⟨_, rfl⟩⟩
  | evexVW =>
      simp only [Leaf.plan] at h
      split at h <;> cases h
  | _ => cases h

variable {m : Mode} {s s' : State}

/-- Where a lock acts on memory, that is the first operand. -/
theorem head_kinds_of_lockable {n : Node} (hform : s.registerForm = false)
    (h : n.steps.any (·.isLockable)) :
    (n.steps.flatMap (·.kinds m s)).head? = some .memory := by
  cases n with
  | leaf l =>
      obtain ⟨rest, hsteps | ⟨bank, hsteps⟩⟩ := l.head_of_lockable h
      · rw [Node.steps, hsteps]
        rfl
      · have hkind : Step.formKind s = .memory := by rw [Step.formKind, hform]; rfl
        rw [Node.steps, hsteps, List.flatMap_cons, Step.kinds, hkind]
        rfl
  | _ => cases h

/-- No instruction of a payload changes the prefixes. -/
theorem touchesPrefixes_of_payload {f : Family} (hf : f ≠ .legacy) {l : Leaf}
    (hl : .leaf l.form ∈ f.kinds) : ∀ step ∈ l.plan.steps, step.touchesPrefixes = false := by
  have habsent : ∀ form ∈ [Form.eb, .ev, .mRexW, .ebGb, .evGv, .ebIb, .evIz, .evIb, .evIb2, .rdCr,
      .crRd, .xchgRegRax], .leaf form ∉ f.kinds := by
    cases f with
    | legacy => exact absurd rfl hf
    | vex | evex => decide +kernel
  suffices h : l.plan.steps.any (·.touchesPrefixes) = false by
    intro step hstep
    rw [List.any_eq_false] at h
    exact Bool.eq_false_iff.mpr (h step hstep)
  obtain ⟨form, codes, registers, number, locks, tuple, flags⟩ := l
  cases form with
  | eb | ev | mRexW | ebGb | evGv | ebIb | evIz | evIb | evIb2 | rdCr | crRd | xchgRegRax =>
      exact absurd hl (habsent _ (by simp))
  | evexVW => simp only [Leaf.plan]; split <;> rfl
  | _ => rfl

/-! ### Walks -/

variable {t : Tables} {next : Next} {b : State × Next}

/-- The walk is after a payload. -/
def Tables.InPayload (t : Tables) (next : Next) : Prop :=
  ∃ f maps, f ≠ .legacy ∧ t.Holds f maps ∧ t.Within maps next

theorem Tables.inPayload_lookup {blobs : Blobs} (ht : Tables.load blobs = .ok t) {map : OpcodeMap}
    (hmap : map ∈ t.vex ++ t.xop ++ t.evex) (policy : ModRMPolicy) :
    t.InPayload (.lookup map policy) := by
  rcases List.mem_append.mp hmap with hmap | hmap
  · exact ⟨.vex, t.vex ++ t.xop, Family.noConfusion, holds_vex ht, hmap⟩
  · exact ⟨.evex, t.evex, Family.noConfusion, holds_evex ht, hmap⟩

/-- What the prefixes show before the operands are filled in: they are those of the mandatory
prefix, or of the one that a payload has replaced. -/
structure Shows (t : Tables) (next : Next) (s : State) : Prop where
  xacquire : s.draft.prefixes.xacquire = false
  xrelease : s.draft.prefixes.xrelease = false
  repeats : s.draft.prefixes.Repeats s.mandatory ∨
    t.InPayload next ∧ ∃ r, s.draft.prefixes.Repeats r

theorem Shows.enter (h : Shows t next s) {policy : ModRMPolicy} {n : Node}
    (hs' : Tables.enter policy n s = .ok s') : Shows t next s' := by
  obtain ⟨p, u, x, rfl⟩ := enter_eq_ok hs'
  exact ⟨h.xacquire, h.xrelease, h.repeats⟩

/-- A node before the last one, outside a payload. -/
theorem shows_inner {blobs : Blobs} (ht : Tables.load blobs = .ok t) (h : Inner t m s b)
    (hxacquire : s.draft.prefixes.xacquire = false) (hxrelease : s.draft.prefixes.xrelease = false)
    (hs : s.draft.prefixes.Repeats s.mandatory) : Shows t b.2 b.1 := by
  have hadd : ∀ {s' : State} {next : Next},
      s'.draft.prefixes.xacquire = s.draft.prefixes.xacquire →
      s'.draft.prefixes.xrelease = s.draft.prefixes.xrelease →
      (s'.draft.prefixes.rep → s'.mandatory = .pF3) →
      (s'.draft.prefixes.repne → s'.mandatory = .pF2) → Shows t next s' := by
    intro s' next hacquire hrelease hrep hrepne
    rw [hxacquire] at hacquire
    rw [hxrelease] at hrelease
    refine ⟨hacquire, hrelease, .inl ⟨hrep, hrepne, fun hp => ?_, fun hp => ?_⟩⟩
    · rw [hacquire] at hp; cases hp
    · rw [hrelease] at hp; cases hp
  cases h with
  | choice => exact ⟨hxacquire, hxrelease, .inl hs⟩
  | used =>
      show Shows t _ s.dropMandatory
      unfold State.dropMandatory
      cases hm : s.mandatory with
      | none => exact hadd rfl rfl hs.rep hs.repne
      | p66 => exact hadd rfl rfl hs.rep hs.repne
      | pF3 => exact hadd rfl rfl Bool.noConfusion hs.repne
      | pF2 => exact hadd rfl rfl hs.rep Bool.noConfusion
  | segment | addressSize | lock | rex => exact hadd rfl rfl hs.rep hs.repne
  | operandSize =>
      -- the byte takes part in the opcode where no repeat byte does
      refine hadd rfl rfl (fun hp => ?_) fun hp => ?_
      · have hm : s.mandatory = .pF3 := hs.rep hp
        show (if s.mandatory = .none then Mandatory.p66 else s.mandatory) = .pF3
        rw [hm]
        rfl
      · have hm : s.mandatory = .pF2 := hs.repne hp
        show (if s.mandatory = .none then Mandatory.p66 else s.mandatory) = .pF2
        rw [hm]
        rfl
  | repne => exact hadd rfl rfl Bool.noConfusion fun _ => rfl
  | rep => exact hadd rfl rfl (fun _ => rfl) Bool.noConfusion
  | @payload s' map policy hmap _ hprefixes =>
      refine ⟨?_, ?_, .inr ⟨Tables.inPayload_lookup ht hmap policy, s.mandatory, ?_⟩⟩
      · exact hprefixes ▸ hxacquire
      · exact hprefixes ▸ hxrelease
      · exact hprefixes ▸ hs

/-- **What a move keeps.** -/
theorem shows_dispatch {blobs : Blobs} (ht : Tables.load blobs = .ok t) (hs : Shows t next s)
    (h : t.dispatch m next s = .ok b) (hb : b.2 ≠ .done) : Shows t b.2 b.1 := by
  rcases hs.repeats with hrepeats | ⟨⟨f, maps, hf, hholds, hwithin⟩, r, hrepeats⟩
  · cases next with
    | done => cases h; exact hs
    | lookup map policy =>
        obtain ⟨a, ha, h⟩ := bind_eq_ok_iff.mp h
        obtain ⟨p, u, hadvances⟩ := advances_byte ha
        cases h
        show Shows t _ a.2
        rw [hadvances]
        exact ⟨hs.xacquire, hs.xrelease, .inl hrepeats⟩
    | child id policy =>
        rw [dispatch_child] at h
        obtain ⟨s₁, h₁, h⟩ := bind_eq_ok_iff.mp h
        have hfills : (t.forest.get id).fillsOperands = false := by
          by_contra hfills
          exact hb (runsTo_route (eq_true_of_ne_false hfills) h).1
        obtain ⟨p, u, x, rfl⟩ := enter_eq_ok h₁
        exact shows_inner ht (inner_route hfills h) hs.xacquire hs.xrelease hrepeats
  · obtain ⟨hnext, p, u, x, hstate⟩ := within_dispatch hholds hwithin h hb
    rw [hstate]
    exact ⟨hs.xacquire, hs.xrelease, .inr ⟨⟨f, maps, hf, hholds, hnext⟩, r, hrepeats⟩⟩

/-- What an instruction that is read shows of its prefixes. -/
structure Consistent (s : State) : Prop where
  repeats : ∃ r, s.draft.prefixes.Repeats r
  hinted : s.notes.Hinted → s.kinds.head? = some .memory

/-- **What the last node keeps.** -/
theorem consistent_route {window : List UInt8} {id : NodeId} {policy : ModRMPolicy}
    (hfills : (t.forest.get id).fillsOperands)
    (h : t.route m (t.forest.get id) s = .ok (s', .done)) (hs : Shows t (.child id policy) s)
    (hunder : Underway window s) : Consistent s' := by
  obtain ⟨-, hruns⟩ := runsTo_route hfills h
  have hnotes := hruns.effect.notes
  have hkinds : s'.kinds = (t.forest.get id).steps.flatMap (·.kinds m s) :=
    hunder.kinds_route hfills h
  have hplain : ¬ s.notes.Hinted := by
    have hallow : s.allowLock = false := congrArg State.allowLock hunder.filled
    rintro (hp | hp | ⟨-, hp⟩)
    · exact Bool.false_ne_true (hs.xacquire.symm.trans hp)
    · exact Bool.false_ne_true (hs.xrelease.symm.trans hp)
    · exact Bool.false_ne_true (hallow.symm.trans hp)
  refine ⟨?_, fun hhinted => ?_⟩
  · show ∃ r, s'.notes.prefixes.Repeats r
    rw [hnotes]
    rcases hs.repeats with hrepeats | ⟨⟨f, maps, hf, hholds, hmeets⟩, r, hrepeats⟩
    · exact ⟨s.mandatory, Step.repeats_notes _ hrepeats⟩
    · obtain ⟨l, hl, hform⟩ := leaf_of_meets hholds hmeets hfills
      refine ⟨r, ?_⟩
      rw [hl, Node.steps, (Step.prefixes_notes (touchesPrefixes_of_payload hf hform) _).1]
      exact hrepeats
  · rw [hnotes] at hhinted
    obtain ⟨hform, hlockable⟩ := (Step.hinted_notes _ hhinted).resolve_left hplain
    rw [hkinds]
    exact head_kinds_of_lockable hform hlockable

theorem consistent_read {blobs : Blobs} (ht : Tables.load blobs = .ok t) {window : List UInt8}
    (h : t.read m window = .ok s') : Consistent s' := by
  have hunder : Underway window { pending := window } := ⟨rfl, [], rfl, rfl⟩
  have hshows : Shows t t.restart { pending := window } := ⟨rfl, rfl, .inl (.none _)⟩
  obtain ⟨id, policy, s₁, s₂, ⟨hunder, hshows⟩, hs₂, hfills, hroute⟩ :=
    walk_ends (J := fun next s => Underway window s ∧ Shows t next s)
      (fun _ _ _ hs hb hnext => ⟨hs.1.dispatch hb hnext, shows_dispatch ht hs.2 hb hnext⟩)
      Next.noConfusion ⟨hunder, hshows⟩ h
  exact consistent_route hfills hroute (hshows.enter hs₂) (hunder.enter hs₂)

/-! ### Records -/

/-- **Lock and repeat prefixes are consistent.** At most one of the repeat prefixes and elision
hints shows; a hint, and in strict mode a lock, shows only where the first operand is memory. -/
theorem decode_prefixes_consistent {blobs : Blobs} {t : Tables} (ht : Tables.load blobs = .ok t)
    (m : Mode) (ip : UInt64) (bytes : List UInt8) :
    let i := t.decode m ip bytes
    [i.prefixes.rep, i.prefixes.repne, i.prefixes.xacquire, i.prefixes.xrelease].count true ≤ 1 ∧
      (i.prefixes.xacquire ∨ i.prefixes.xrelease → i.kinds.head? = some .memory) ∧
      (m.strict → i.prefixes.lock → i.kinds.head? = some .memory) := by
  intro i
  rcases decode_cases t m bytes with ⟨n, hbad⟩ | ⟨s, hread, haccepted, hfinish⟩
  · have hi : i.prefixes = {} := by rw [show i = .bad n ip from hbad ip]; rfl
    rw [hi]
    exact ⟨by decide, fun h => by cases h <;> contradiction, fun _ h => by cases h⟩
  · obtain ⟨⟨r, hrepeats⟩, hhinted⟩ := consistent_read ht hread
    have hi : i = s.finish m ip := hfinish ip
    have hprefixes : i.prefixes = s.draft.prefixes := by rw [hi, State.finish, if_neg haccepted]
    have hkinds : i.kinds = s.kinds := by rw [hi, kinds_finish haccepted]
    rw [hprefixes, hkinds]
    refine ⟨hrepeats.count_le_one, fun h => hhinted ?_, fun hstrict hlock => hhinted ?_⟩
    · exact h.imp_right .inl
    · refine .inr (.inr ⟨hlock, ?_⟩)
      by_contra hallow
      refine haccepted ?_
      rw [Bool.or_eq_true, Bool.and_eq_true, State.strayLock, Bool.and_eq_true]
      exact .inr ⟨hstrict, hlock, by simpa [State.notes] using hallow⟩

/-- A locked sum in memory with an elision hint, which takes the place of the repeat prefix; a
register cannot be locked. -/
theorem decode_prefixes_consistent_small :
    let m : Mode := { bitness := .bits64, options := {} }
    let i := vectorTables.decode m 0 [0xF0, 0xF2, 0x80, 0, 9]
    Tables.load vectorBlobs = .ok vectorTables ∧ m.strict ∧ i.prefixes.lock ∧ i.prefixes.xacquire ∧
      [i.prefixes.rep, i.prefixes.repne, i.prefixes.xacquire, i.prefixes.xrelease].count true ≤ 1 ∧
      i.kinds.head? = some .memory ∧ (vectorTables.decode m 0 [0xF0, 0x80, 0xC0, 9]).isInvalid := by
  intro m i
  have hstrict : m.strict := by decide
  have hlock : i.prefixes.lock := by decide
  obtain ⟨hcount, -, hmemory⟩ :=
    decode_prefixes_consistent load_vectorBlobs m 0 [0xF0, 0xF2, 0x80, 0, 9]
  exact ⟨load_vectorBlobs, hstrict, hlock, by decide, hcount, hmemory hstrict hlock, by decide⟩

end OpcodeForest
