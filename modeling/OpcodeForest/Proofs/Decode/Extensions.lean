import OpcodeForest.Proofs.Decode.RegisterClasses

/-!
# Extension bits

Register numbers are extended by a REX byte or by a payload, and in 64-bit mode only. A payload also
spells `vvvv`, of five bits with EVEX, and from there on the walk meets only nodes of the payload's
family. So where a walk ends, the numbers have no more bits than the last node allows for.

* `State.Plain`, `Tables.Spelling`: what holds before a payload, and on the whole way.
* `spelling_route`, `spelling_dispatch`: what a node and a move keep.
* `bounded_of_comesTo`: the register numbers where the walk comes to its last node.
* `width_of_comesTo`: the `W` bit there.
-/

namespace OpcodeForest

/-! ### Before a payload -/

namespace State

variable {m : Mode} {evex : Bool} {s s' : State}

/-- The bits that number registers, and the width. -/
def numbering (s : State) : State :=
  { pending := []
    hasRex := s.hasRex
    w := s.w
    r := s.r
    x := s.x
    b := s.b
    rHigh := s.rHigh
    vvvvField := s.vvvvField }

/-- The bits that number registers decide. -/
theorem Unextended.congr (h : s.Unextended) (hs : s'.numbering = s.numbering) : s'.Unextended where
  hasRex := (congrArg State.hasRex hs).trans h.hasRex
  r := (congrArg State.r hs).trans h.r
  x := (congrArg State.x hs).trans h.x
  b := (congrArg State.b hs).trans h.b
  rHigh := (congrArg State.rHigh hs).trans h.rHigh

theorem Bounded.congr (h : s.Bounded m evex) (hs : s'.numbering = s.numbering) :
    s'.Bounded m evex where
  vvvv := (congrArg State.vvvvField hs).trans_lt h.vvvv
  short := fun hm => (h.short hm).congr hs

/-- Four bits are no more than five. -/
theorem Bounded.weaken (h : s.Bounded m false) (evex : Bool) : s.Bounded m evex := by
  refine ⟨h.vvvv.trans_le ?_, h.short⟩
  cases evex <;> decide

/-- No payload has been read: `vvvv` has no more than four bits, and outside 64-bit mode neither
register numbers nor the width are extended. -/
structure Plain (m : Mode) (s : State) : Prop where
  bounded : s.Bounded m false
  w : m.long = false → s.w = false

namespace Plain

theorem congr (h : s.Plain m) (hs : s'.numbering = s.numbering) : s'.Plain m :=
  ⟨h.bounded.congr hs, fun hm => (congrArg State.w hs).trans (h.w hm)⟩

/-- A prefix byte undoes a REX byte. -/
theorem forgetRex (h : s.Plain m) : s.forgetRex.Plain m :=
  ⟨⟨h.bounded.vvvv, fun hm => ⟨rfl, rfl, rfl, rfl, (h.bounded.short hm).rHigh⟩⟩, fun _ => rfl⟩

/-- Forgetting the mandatory prefix keeps the numbering. -/
theorem dropMandatory (h : s.Plain m) : s.dropMandatory.Plain m := by
  unfold State.dropMandatory
  split <;> exact h.congr rfl

/-- There is no REX byte outside 64-bit mode. -/
theorem applyRex (h : s.Plain m) (hm : m.long) (bits : Nat) : (s.applyRex bits).Plain m := by
  have hlong : m.long ≠ false := by rw [hm]; decide
  exact ⟨⟨h.bounded.vvvv, fun hshort => absurd hshort hlong⟩, fun hshort => absurd hshort hlong⟩

end Plain

/-! ### Payloads -/

theorem payloadVvvv_lt (p : UInt8) : payloadVvvv p < 16 := by
  rw [payloadVvvv]
  omega

namespace Plain

/-- A payload sets the extension bits, which are fixed outside of 64-bit mode. -/
theorem applyVex2 (h : s.Plain m) (p : UInt8) : (s.applyVex2 m p).Bounded m false := by
  refine ⟨payloadVvvv_lt p, fun hm => ?_⟩
  obtain ⟨hrex, hr, hx, hb, hhigh⟩ := h.bounded.short hm
  rw [State.applyVex2, hm]
  exact ⟨hrex, hr, hx, hb, hhigh⟩

theorem applyVex3 (h : s.Plain m) (p₁ p₂ : UInt8) :
    (s.applyVex3 m p₁ p₂).Bounded m false := by
  refine ⟨payloadVvvv_lt p₂, fun hm => ?_⟩
  obtain ⟨hrex, hr, hx, hb, hhigh⟩ := h.bounded.short hm
  rw [State.applyVex3, hm]
  exact ⟨hrex, hr, hx, hb, hhigh⟩

theorem applyEvex (h : s.Plain m) (p₀ p₁ p₂ : UInt8) :
    (s.applyEvex m p₀ p₁ p₂).Bounded m true := by
  refine ⟨?_, fun hm => ?_⟩
  · have hvvvv := payloadVvvv_lt p₁
    have hhigh := (!bit p₂ 3).toNat_le
    show payloadVvvv p₁ + 16 * (!bit p₂ 3).toNat < 32
    omega
  · obtain ⟨hrex, hr, hx, hb, -⟩ := h.bounded.short hm
    rw [State.applyEvex, hm]
    exact ⟨hrex, hr, hx, hb, rfl⟩

end Plain

end State

/-! ### The invariant -/

namespace Tables

/-- The maps of EVEX, or those of VEX and XOP. -/
def payloadMaps (t : Tables) (evex : Bool) : List OpcodeMap :=
  if evex then t.evex else t.vex ++ t.xop

/-- What holds on the way: no payload has been read, or the walk is in the maps of one. -/
inductive Spelling (t : Tables) (m : Mode) (next : Next) (s : State) : Prop where
  | before (h : s.Plain m)
  | after (evex : Bool) (hnext : t.Within (t.payloadMaps evex) next) (h : s.Bounded m evex)

end Tables

section

variable {t : Tables} {m : Mode} {next : Next} {s s' : State} {b : State × Next}

/-- The maps of payloads hold nodes of their own family. -/
theorem Tables.holds_payloadMaps {blobs : Blobs} (ht : Tables.load blobs = .ok t) (evex : Bool) :
    t.Holds (if evex then .evex else .vex) (t.payloadMaps evex) := by
  cases evex with
  | false => exact Tables.holds_vex ht
  | true => exact Tables.holds_evex ht

/-- To a map of the payload. -/
theorem Tables.Spelling.ofPayloadMap {maps : List OpcodeMap} {k : Nat} {policy : ModRMPolicy}
    (evex : Bool) (hmaps : maps ⊆ t.payloadMaps evex) (hs : s.Bounded m evex)
    (h : Tables.payloadMap maps k policy s = .ok b) : t.Spelling m b.2 b.1 := by
  obtain ⟨hstate, map, hmap, hnext⟩ := lookup_of_payloadMap h
  rw [hstate, hnext]
  exact .after evex (hmaps hmap) hs

/-- After a payload the walk is in maps that go with its bits. -/
theorem spelling_routeVex3 (hs : s.Plain m) (h : t.routeVex3 m s = .ok b) :
    t.Spelling m b.2 b.1 := by
  obtain ⟨⟨p₂, s₁⟩, h₁, h⟩ := bind_eq_ok_iff.mp h
  obtain ⟨p, u, rfl⟩ : (s.beginPayload m).Advances s₁ := advances_byte h₁
  dsimp only at h
  split at h
  · cases h
  · refine .ofPayloadMap false (List.subset_append_left _ _) (State.Plain.applyVex3 ?_ _ _) h
    exact hs.congr rfl

theorem spelling_routeXop (hs : s.Plain m) (h : t.routeXop m s = .ok b) :
    t.Spelling m b.2 b.1 := by
  obtain ⟨⟨p₂, s₁⟩, h₁, h⟩ := bind_eq_ok_iff.mp h
  obtain ⟨p, u, rfl⟩ : (s.beginPayload m).Advances s₁ := advances_byte h₁
  refine .ofPayloadMap false (List.subset_append_right _ _) (State.Plain.applyVex3 ?_ _ _) h
  exact hs.congr rfl

theorem spelling_routeEvex (hs : s.Plain m) (h : t.routeEvex m s = .ok b) :
    t.Spelling m b.2 b.1 := by
  obtain ⟨⟨p₁, s₁⟩, h₁, h⟩ := bind_eq_ok_iff.mp h
  obtain ⟨⟨p₂, s₂⟩, h₂, h⟩ := bind_eq_ok_iff.mp h
  obtain ⟨p, u, rfl⟩ : (s.beginPayload m).Advances s₁ := advances_byte h₁
  obtain ⟨p, u, rfl⟩ := advances_byte h₂
  dsimp only at h
  split at h
  · split at h
    · cases h
    · refine .ofPayloadMap true (List.Subset.refl _) (State.Plain.applyEvex ?_ _ _ _) h
      exact hs.congr rfl
  · cases h

/-- **What a node before a payload keeps.** -/
theorem spelling_route {n : Node} (hn : n.fillsOperands = false) (hs : s.Plain m)
    (h : t.route m n s = .ok b) : t.Spelling m b.2 b.1 := by
  cases n with
  | invalid | null => cases h
  | leaf | trailing => cases hn
  | byMode | byForm | byOption | group | splitGroup | payloadPrefix | byW | byLength
  | byLengthRounded | escape => cases h; exact .before hs
  | fineGroup =>
      simp only [Tables.route] at h
      split at h <;> cases h <;> exact .before hs
  | mandatory => cases h; exact .before hs.dropMandatory
  | mandatoryByForm reg mem =>
      simp only [Tables.route] at h
      generalize (if s.registerForm then reg else mem).getD s.mandatory.rank (.invalid, false) = a
        at h
      obtain ⟨child, uses⟩ := a
      cases uses <;> cases h
      · exact .before hs
      · exact .before hs.dropMandatory
  | mandatoryKept children clearF3 clearF2 readsModRM =>
      simp only [Tables.route] at h
      cases h
      refine .before (hs.congr ?_)
      dsimp only
      split
      · split <;> rfl
      · split <;> rfl
      · rfl
      · rfl
  | vex2 =>
      simp only [Tables.route] at h
      split at h
      · refine .ofPayloadMap false (List.subset_append_left _ _) (State.Plain.applyVex2 ?_ _) h
        exact hs.congr rfl
      · cases h; exact .before hs
  | vex3 =>
      simp only [Tables.route] at h
      split at h
      · exact spelling_routeVex3 hs h
      · cases h; exact .before hs
  | xop =>
      simp only [Tables.route] at h
      split at h
      · cases h; exact .before hs
      · exact spelling_routeXop hs h
  | evex =>
      simp only [Tables.route] at h
      split at h
      · exact spelling_routeEvex hs h
      · cases h; exact .before hs
  | segment | operandSize | addressSize | lock | repne | rep =>
      cases h
      exact .before (State.Plain.forgetRex (hs.congr rfl))
  | rex _ bits =>
      simp only [Tables.route] at h
      split at h
      case isTrue hm => cases h; exact .before (hs.applyRex hm bits)
      case isFalse => cases h; exact .before hs

/-- **What a move keeps.** -/
theorem spelling_dispatch {blobs : Blobs} (ht : Tables.load blobs = .ok t)
    (hs : t.Spelling m next s) (h : t.dispatch m next s = .ok b) (hb : b.2 ≠ .done) :
    t.Spelling m b.2 b.1 := by
  cases hs with
  | before hs =>
      cases next with
      | done => cases h; exact .before hs
      | lookup map policy =>
          obtain ⟨a, ha, h⟩ := bind_eq_ok_iff.mp h
          obtain ⟨p, u, hadvances⟩ := advances_byte ha
          cases h
          refine .before (hs.congr ?_)
          show a.2.numbering = s.numbering
          rw [hadvances]
          rfl
      | child id policy =>
          rw [dispatch_child] at h
          obtain ⟨s₁, h₁, h⟩ := bind_eq_ok_iff.mp h
          have hfills : (t.forest.get id).fillsOperands = false := by
            by_contra hfills
            exact hb (runsTo_route (eq_true_of_ne_false hfills) h).1
          obtain ⟨p, u, x, rfl⟩ := enter_eq_ok h₁
          refine spelling_route hfills ?_ h
          exact hs.congr rfl
  | after evex hnext hs =>
      obtain ⟨hnext', p, u, x, hstate⟩ :=
        within_dispatch (Tables.holds_payloadMaps ht evex) hnext h hb
      rw [hstate]
      exact .after evex hnext' (hs.congr rfl)

/-! ### The last node -/

/-- The node ends instructions of EVEX. -/
def Node.isEvex : Node → Bool
  | .leaf l => l.form.isEvex
  | _ => false

/-- The node ends instructions with a payload. -/
def Node.endsPayload (n : Node) : Prop :=
  ∃ l : Leaf, n = .leaf l ∧ ∃ f : Family, f ≠ .legacy ∧ .leaf l.form ∈ f.kinds

/-- Where a walk comes to its last node, the way holds. -/
theorem spelling_of_comesTo {blobs : Blobs} (ht : Tables.load blobs = .ok t)
    {window : List UInt8} {n : Node} (h : t.ComesTo m window n s) :
    ∃ id policy, n = t.forest.get id ∧ t.Spelling m (.child id policy) s := by
  have hstart : t.Spelling m t.restart { pending := window } :=
    .before ⟨⟨Nat.zero_lt_succ _, fun _ => ⟨rfl, rfl, rfl, rfl, rfl⟩⟩, fun _ => rfl⟩
  obtain ⟨s₁, id, policy, hs₁, hn, henter⟩ := h.keep (J := t.Spelling m)
    (fun _ _ _ hs hb hnext => spelling_dispatch ht hs hb hnext) hstart
  refine ⟨id, policy, hn, ?_⟩
  obtain ⟨p, u, x, rfl⟩ := enter_eq_ok henter
  cases hs₁ with
  | before hs₁ => exact .before (hs₁.congr rfl)
  | after evex hnext hs₁ => exact .after evex hnext (hs₁.congr rfl)

/-- **The register numbers where the walk ends.** -/
theorem bounded_of_comesTo {blobs : Blobs} (ht : Tables.load blobs = .ok t)
    {window : List UInt8} {n : Node} (h : t.ComesTo m window n s) (hfills : n.fillsOperands) :
    s.Bounded m n.isEvex := by
  obtain ⟨id, policy, rfl, hs⟩ := spelling_of_comesTo ht h
  cases hs with
  | before hs => exact hs.bounded.weaken _
  | after evex hnext hs =>
      cases evex with
      | false => exact hs.weaken _
      | true =>
          obtain ⟨l, hl, hform⟩ := leaf_of_meets (Tables.holds_evex ht) hnext hfills
          rw [hl, show (Node.leaf l).isEvex = true from isEvex_of_mem hform]
          exact hs

/-- **The width where the walk ends.** Outside 64-bit mode only a payload widens. -/
theorem width_of_comesTo {blobs : Blobs} (ht : Tables.load blobs = .ok t)
    {window : List UInt8} {n : Node} (h : t.ComesTo m window n s) (hfills : n.fillsOperands)
    (hm : m.long = false) : s.w = false ∨ n.endsPayload := by
  obtain ⟨id, policy, rfl, hs⟩ := spelling_of_comesTo ht h
  cases hs with
  | before hs => exact .inl (hs.w hm)
  | after evex hnext hs =>
      obtain ⟨l, hl, hform⟩ := leaf_of_meets (Tables.holds_payloadMaps ht evex) hnext hfills
      refine .inr ⟨l, hl, _, ?_, hform⟩
      cases evex <;> decide

end

end OpcodeForest
