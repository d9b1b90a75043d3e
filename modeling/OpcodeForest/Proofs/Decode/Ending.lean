import OpcodeForest.Proofs.Decode.Effects

/-!
# How a walk ends

A walk passes nodes that choose, use up a prefix, note a prefix byte or open a payload, and ends
with one that fills in the operands. `Inner` says what the nodes before the last can do; what they
keep holds when the last one is reached.

* `inner_route`: what a node does that fills in no operands.
* `walk_ends`: the last move of a walk, and an invariant of the moves before it.
* `Underway`, `read_ends`: until then nothing is filled in, and bytes are read in order.
* `decode_cases`: records are invalid, or those of such a walk.
-/

namespace OpcodeForest

open HasState

namespace State

/-- What is filled in by the steps of an instruction only. -/
def filled (s : State) : State :=
  { pending := []
    ipRelative := s.ipRelative
    branch := s.branch
    allowLock := s.allowLock
    draft := { s.draft with segment := .none, prefixes := {}, opMask := .none, zeroing := false } }

end State

/-- What a node can do to the state that fills in no operands, and where it sends the walk. -/
inductive Inner (t : Tables) (m : Mode) (s : State) : State × Next → Prop where
  | choice {next : Next} (h : next ≠ .done) : Inner t m s (s, next)
  /-- The mandatory prefix is used up. -/
  | used {next : Next} (h : next ≠ .done) : Inner t m s (s.dropMandatory, next)
  | segment (strong : Bool) (register : Register) :
      Inner t m s (s.applySegment m strong register, t.restart)
  | operandSize : Inner t m s (s.applyOperandSize, t.restart)
  | addressSize : Inner t m s (s.applyAddressSize, t.restart)
  | lock : Inner t m s (s.applyLockByte, t.restart)
  | repne : Inner t m s (s.applyRepne, t.restart)
  | rep : Inner t m s (s.applyRep, t.restart)
  | rex (bits : Nat) : Inner t m s (s.applyRex bits, t.restart)
  | payload {s' : State} {map : OpcodeMap} {policy : ModRMPolicy}
      (hmap : map ∈ t.vex ++ t.xop ++ t.evex) (hfilled : s'.filled = s.filled)
      (hprefixes : s'.draft.prefixes = s.draft.prefixes) : Inner t m s (s', .lookup map policy)

section

variable {t : Tables} {m : Mode} {s s' : State} {b : State × Next}

namespace Inner

/-- An inner move does not end the walk. -/
theorem ne_done (h : Inner t m s b) : b.2 ≠ .done := by
  cases h with
  | choice h | used h => exact h
  | _ => exact Next.noConfusion

/-- It fills nothing in. -/
theorem filled_eq (h : Inner t m s b) : b.1.filled = s.filled := by
  cases h with
  | used =>
      show s.dropMandatory.filled = s.filled
      unfold State.dropMandatory
      split <;> rfl
  | payload _ hfilled => exact hfilled
  | _ => rfl

/-- To the map that a payload selects. -/
theorem ofPayloadMap {maps : List OpcodeMap} (hmaps : maps ⊆ t.vex ++ t.xop ++ t.evex)
    {k : Nat} {policy : ModRMPolicy} (h : Tables.payloadMap maps k policy s' = .ok b)
    (hfilled : s'.filled = s.filled) (hprefixes : s'.draft.prefixes = s.draft.prefixes) :
    Inner t m s b := by
  rw [Tables.payloadMap] at h
  cases hk : maps[k]? with
  | none => rw [hk] at h; cases h
  | some map =>
      rw [hk] at h
      cases h
      exact .payload (hmaps (List.mem_of_getElem? hk)) hfilled hprefixes

end Inner

theorem inner_routeVex3 (h : t.routeVex3 m s = .ok b) : Inner t m s b := by
  obtain ⟨⟨p₂, s₁⟩, h₁, h⟩ := bind_eq_ok_iff.mp h
  obtain ⟨p, u, rfl⟩ : (s.beginPayload m).Advances s₁ := advances_byte h₁
  dsimp only at h
  split at h
  · cases h
  · exact .ofPayloadMap Tables.vex_subset h rfl rfl

theorem inner_routeXop (h : t.routeXop m s = .ok b) : Inner t m s b := by
  obtain ⟨⟨p₂, s₁⟩, h₁, h⟩ := bind_eq_ok_iff.mp h
  obtain ⟨p, u, rfl⟩ : (s.beginPayload m).Advances s₁ := advances_byte h₁
  exact .ofPayloadMap Tables.xop_subset h rfl rfl

theorem inner_routeEvex (h : t.routeEvex m s = .ok b) : Inner t m s b := by
  obtain ⟨⟨p₁, s₁⟩, h₁, h⟩ := bind_eq_ok_iff.mp h
  obtain ⟨⟨p₂, s₂⟩, h₂, h⟩ := bind_eq_ok_iff.mp h
  obtain ⟨p, u, rfl⟩ : (s.beginPayload m).Advances s₁ := advances_byte h₁
  obtain ⟨p, u, rfl⟩ := advances_byte h₂
  dsimp only at h
  split at h
  · split at h
    · cases h
    · exact .ofPayloadMap Tables.evex_subset h rfl rfl
  · cases h

/-- **What a node does that fills in no operands.** -/
theorem inner_route {n : Node} (hn : n.fillsOperands = false) (h : t.route m n s = .ok b) :
    Inner t m s b := by
  have hchild : ∀ {id : NodeId} {policy : ModRMPolicy}, Next.child id policy ≠ .done :=
    Next.noConfusion
  cases n with
  | invalid | null => cases h
  | leaf | trailing => cases hn
  | byMode | byForm | byOption | group | splitGroup | payloadPrefix | byW | byLength
  | byLengthRounded => cases h; exact .choice hchild
  | escape => cases h; exact .choice Next.noConfusion
  | fineGroup coarse fine =>
      simp only [Tables.route] at h
      split at h <;> cases h <;> exact .choice hchild
  | mandatory => cases h; exact .used hchild
  | mandatoryByForm reg mem =>
      simp only [Tables.route] at h
      generalize (if s.registerForm then reg else mem).getD s.mandatory.rank (.invalid, false) = a
        at h
      obtain ⟨child, uses⟩ := a
      cases uses <;> cases h
      · exact .choice hchild
      · exact .used hchild
  | mandatoryKept children clearF3 clearF2 readsModRM =>
      simp only [Tables.route] at h
      cases hm : s.mandatory with
      | none | p66 => rw [hm] at h; cases h; exact .choice hchild
      | pF3 =>
          have hdrop : s.dropMandatory = s.dropRep := by rw [State.dropMandatory, hm]
          rw [hm, ← hdrop] at h
          cases clearF3 <;> cases h
          · exact .choice hchild
          · exact .used hchild
      | pF2 =>
          have hdrop : s.dropMandatory = s.dropRepne := by rw [State.dropMandatory, hm]
          rw [hm, ← hdrop] at h
          cases clearF2 <;> cases h
          · exact .choice hchild
          · exact .used hchild
  | vex2 otherwise =>
      simp only [Tables.route] at h
      split at h
      · exact .ofPayloadMap Tables.vex_subset h rfl rfl
      · cases h; exact .choice hchild
  | vex3 otherwise =>
      simp only [Tables.route] at h
      split at h
      · exact inner_routeVex3 h
      · cases h; exact .choice hchild
  | xop otherwise =>
      simp only [Tables.route] at h
      split at h
      · cases h; exact .choice hchild
      · exact inner_routeXop h
  | evex otherwise =>
      simp only [Tables.route] at h
      split at h
      · exact inner_routeEvex h
      · cases h; exact .choice hchild
  | segment strong register => cases h; exact .segment strong register
  | operandSize => cases h; exact .operandSize
  | addressSize => cases h; exact .addressSize
  | lock => cases h; exact .lock
  | repne => cases h; exact .repne
  | rep => cases h; exact .rep
  | rex otherwise bits =>
      simp only [Tables.route] at h
      split at h
      · cases h; exact .rex bits
      · cases h; exact .choice hchild

/-! ### The last move -/

/-- Into a node: the ModRM byte may be read. -/
theorem enter_eq_ok {policy : ModRMPolicy} {n : Node} (h : Tables.enter policy n s = .ok s') :
    ∃ p u x, s' = { s with pending := p, used := u, modRM := x } := by
  unfold Tables.enter at h
  split at h
  · obtain ⟨⟨x, s₁⟩, h₁, h⟩ := bind_eq_ok_iff.mp h
    obtain ⟨p, u, rfl⟩ : s.Advances s₁ := advances_byte h₁
    cases h
    exact ⟨p, u, x, rfl⟩
  · cases h
    exact ⟨_, _, _, rfl⟩

/-- Only leaves end the walk. -/
theorem fillsOperands_of_done {n : Node} (h : t.route m n s = .ok (s', .done)) :
    n.fillsOperands := by
  by_contra hn
  exact (inner_route (Bool.eq_false_iff.mpr hn) h).ne_done rfl

/-- **How a walk ends.** The last move is through a node that fills in operands, and what all moves
before keep holds there. -/
theorem walk_ends {J : Next → State → Prop}
    (hJ : ∀ next s b, J next s → t.dispatch m next s = .ok b → b.2 ≠ .done → J b.2 b.1) :
    ∀ {fuel : Nat} {next : Next} {s : State}, next ≠ .done → J next s →
      t.walk m fuel next s = .ok s' → ∃ id policy s₁ s₂, J (.child id policy) s₁ ∧
        Tables.enter policy (t.forest.get id) s₁ = .ok s₂ ∧ (t.forest.get id).fillsOperands ∧
        t.route m (t.forest.get id) s₂ = .ok (s', .done)
  | _, .done, _, hnext, _, _ => absurd rfl hnext
  | 0, .child _ _, _, _, _, h | 0, .lookup _ _, _, _, _, h => by cases h
  | fuel + 1, .lookup map policy, s, _, hs, h => by
      rw [walk_eq_dispatch] at h
      obtain ⟨b, hb, h⟩ := bind_eq_ok_iff.mp h
      obtain ⟨x, rest, -, -, hchild⟩ := Tables.dispatch_lookup hb
      have hnext : b.2 ≠ .done := by rw [hchild]; exact Next.noConfusion
      exact walk_ends hJ hnext (hJ _ s b hs hb hnext) h
  | fuel + 1, .child id policy, s, _, hs, h => by
      rw [walk_eq_dispatch] at h
      obtain ⟨b, hb, h⟩ := bind_eq_ok_iff.mp h
      by_cases hnext : b.2 = .done
      · obtain ⟨s₁, next⟩ := b
        obtain rfl : next = .done := hnext
        rw [walk_done] at h
        cases h
        rw [dispatch_child] at hb
        obtain ⟨s₂, h₂, hb⟩ := bind_eq_ok_iff.mp hb
        exact ⟨id, policy, s, s₂, hs, h₂, fillsOperands_of_done hb, hb⟩
      · exact walk_ends hJ hnext (hJ _ s b hs hb hnext) h

/-! ### On the way -/

variable {window : List UInt8}

/-- Before the last move nothing is filled in, and the bytes of the window are read in order. -/
structure Underway (window : List UInt8) (s : State) : Prop where
  filled : s.filled = State.filled { pending := [] }
  consumed : ∃ c, window = c ++ s.pending ∧ s.used = c.length

namespace Underway

theorem kinds (h : Underway window s) : s.kinds = [] := congrArg State.kinds h.filled

/-- The last node fills in the operands of its steps. -/
theorem kinds_route {n : Node} {b : State × Next} (hs : Underway window s)
    (hfills : n.fillsOperands) (h : t.route m n s = .ok b) :
    b.1.kinds = n.steps.flatMap (·.kinds m s) := by
  rw [(runsTo_route hfills h).2.effect.kinds, hs.kinds, List.nil_append]

theorem branch (h : Underway window s) : s.branch = none := congrArg State.branch h.filled

/-- What is read on the way comes next. -/
theorem follow {β : Type} [HasState β] {r : Except Stop β} {b : β}
    {g : List UInt8 → Bool → Except Stop β} (h : Underway window s) (hr : Follows s r g)
    (hb : r = .ok b) (hfilled : (state b).filled = s.filled) : Underway window (state b) := by
  refine ⟨hfilled.trans h.filled, ?_⟩
  obtain ⟨c, hc, hused⟩ := h.consumed
  have hself := hr s.invalid id
  rw [hb] at hself
  obtain ⟨c', j, hc'⟩ := hself
  refine ⟨c ++ c', ?_, ?_⟩
  · rw [List.append_assoc, ← hc'.pending, hc]
  · rw [hc'.used, hused, List.length_append]

end Underway

/-- A ModRM byte fills nothing in either. -/
theorem filled_enter {policy : ModRMPolicy} {n : Node} (h : Tables.enter policy n s = .ok s') :
    s'.filled = s.filled := by
  obtain ⟨p, u, x, rfl⟩ := enter_eq_ok h
  rfl

theorem Underway.enter {policy : ModRMPolicy} {n : Node} (h : Underway window s)
    (hs' : Tables.enter policy n s = .ok s') : Underway window s' :=
  h.follow (follows_enter policy n s) hs' (filled_enter hs')

/-- A walk is underway until its last move. -/
theorem Underway.dispatch {next : Next} {b : State × Next} (h : Underway window s)
    (hb : t.dispatch m next s = .ok b) (hnext : b.2 ≠ .done) : Underway window b.1 := by
  refine h.follow (follows_dispatch (.refl m) (fun _ => Node.selectsAlike_refl m _) next s) hb ?_
  cases next with
  | done => cases hb; rfl
  | lookup map policy =>
      obtain ⟨a, ha, hb⟩ := bind_eq_ok_iff.mp hb
      obtain ⟨p, u, hadvances⟩ := advances_byte ha
      cases hb
      show a.2.filled = s.filled
      rw [hadvances]
      rfl
  | child id policy =>
      rw [dispatch_child] at hb
      obtain ⟨s₁, h₁, hb⟩ := bind_eq_ok_iff.mp hb
      have hfills : (t.forest.get id).fillsOperands = false := by
        by_contra hfills
        exact hnext (runsTo_route (eq_true_of_ne_false hfills) hb).1
      exact (inner_route hfills hb).filled_eq.trans (filled_enter h₁)

/-- **How reading ends.** -/
theorem read_ends (h : t.read m window = .ok s') : ∃ n s₁, Underway window s₁ ∧
    n.fillsOperands ∧ t.route m n s₁ = .ok (s', .done) := by
  have hstart : Underway window { pending := window } := ⟨rfl, [], rfl, rfl⟩
  obtain ⟨id, policy, s₁, s₂, hs₁, hs₂, hfills, hroute⟩ :=
    walk_ends (J := fun _ => Underway window) (fun _ _ _ hs hb hnext => hs.dispatch hb hnext)
      Next.noConfusion hstart h
  exact ⟨t.forest.get id, s₂, hs₁.enter hs₂, hfills, hroute⟩

/-- The record is an invalid one at every address, or it is that of a state that is accepted. -/
theorem decode_cases (t : Tables) (m : Mode) (bytes : List UInt8) :
    (∃ n, ∀ ip, t.decode m ip bytes = .bad n ip) ∨
      ∃ s, t.read m (bytes.take maxLength) = .ok s ∧ s.Accepted m ∧
        ∀ ip, t.decode m ip bytes = s.finish m ip := by
  simp only [Tables.decode_eq_record]
  rcases t.read m (bytes.take maxLength) with (_ | used | _) | s
  · exact .inl ⟨_, fun _ => rfl⟩
  · exact .inl ⟨used, fun _ => rfl⟩
  · exact .inl ⟨_, fun _ => rfl⟩
  · by_cases hbad : s.invalid || m.strict && s.strayLock
    · exact .inl ⟨s.used, fun _ => if_pos hbad⟩
    · exact .inr ⟨s, rfl, hbad, fun _ => rfl⟩

end

end OpcodeForest
