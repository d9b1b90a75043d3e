import OpcodeForest.Proofs.Decode.Arrival

/-!
# Walks of windows that differ in one byte

Two walks agree up to the first byte that differs, and a node that they come to before it is met in
the same state. A payload of two-byte VEX is apart, since it is read in place of the ModRM byte: the
walks may have chosen their way by it. But a choice leaves the state as it is, so where each walk
comes to such a payload the states differ in that byte only.

* `Tables.moves_local`, `Tables.ComesTo.swap`: walks agree up to the first byte that differs.
* `Tables.ComesTo.goes_on`, `Tables.ComesTo.route`: from a node to the last one.
* `State.core`, `core_dispatch`: what choices leave alone.
* `Tables.MeetsVex2`, `vex2_twins`: two walks to payloads of two-byte VEX.
-/

namespace OpcodeForest

section

variable {t : Tables} {m : Mode} {s : State} {n : Node} {next : Next} {b : State × Next}

/-! ### Before the byte -/

/-- Moves take bytes from the front. -/
theorem Tables.moves_suffix : ∀ {k : Nat} {b b' : State × Next}, t.moves m k b = .ok b' →
    b'.1.pending <:+ b.1.pending
  | 0, _, _, h => by cases h; exact List.suffix_refl _
  | k + 1, b, b', h => by
      obtain ⟨b₁, h₁, h⟩ := bind_eq_ok_iff.mp h
      obtain ⟨c, hc, -⟩ := dispatch_local h₁
      exact (moves_suffix h).trans ⟨c, hc.symm⟩

/-- Moves that leave the bytes `e` alone do not depend on them. -/
theorem Tables.moves_local : ∀ {k : Nat} {s : State} {next : Next} {a r e : List UInt8}
    {b : State × Next}, t.moves m k ({ s with pending := a ++ e }, next) = .ok b →
      b.1.pending = r ++ e → ∀ e', t.moves m k ({ s with pending := a ++ e' }, next)
        = .ok ({ b.1 with pending := r ++ e' }, b.2)
  | 0, s, next, a, r, e, b, h, hb, e' => by
      cases h
      rw [List.append_cancel_right hb]
      rfl
  | k + 1, s, next, a, r, e, b, h, hb, e' => by
      obtain ⟨b₁, h₁, h⟩ := bind_eq_ok_iff.mp h
      obtain ⟨c, hc, hlocal⟩ := dispatch_local h₁
      obtain ⟨a₁, ha₁⟩ : e <:+ b₁.1.pending :=
        List.IsSuffix.trans ⟨r, hb.symm⟩ (Tables.moves_suffix h)
      have ha : a = c ++ a₁ := by
        have happend : a ++ e = c ++ a₁ ++ e := by
          rw [List.append_assoc, ha₁]
          exact hc
        exact List.append_cancel_right happend
      have hnext := hlocal (a₁ ++ e')
      rw [← List.append_assoc, ← ha] at hnext
      have h' : t.moves m k ({ b₁.1 with pending := a₁ ++ e }, b₁.2) = .ok b := by rw [ha₁]; exact h
      rw [Tables.moves, show t.dispatch m _ { s with pending := a ++ e' } = _ from hnext]
      exact Tables.moves_local h' hb e'

/-- Only the bytes that are taken matter. -/
theorem enter_local {policy : ModRMPolicy} {s s' : State} (h : Tables.enter policy n s = .ok s') :
    ∃ c, s.pending = c ++ s'.pending ∧
      ∀ p, Tables.enter policy n { s with pending := c ++ p } = .ok { s' with pending := p } := by
  have hfollows := follows_enter policy n s s.invalid id
  rw [h] at hfollows
  obtain ⟨c, j, hc⟩ := hfollows
  exact ⟨c, hc.pending, hc.follows_self h⟩

/-- **Walks agree up to the first byte that differs.** -/
theorem Tables.ComesTo.swap {a e : List UInt8} (h : t.ComesTo m (a ++ e) n s)
    (hs : s.pending = e) (e' : List UInt8) : t.ComesTo m (a ++ e') n { s with pending := e' } := by
  obtain ⟨k, s₁, id, policy, hmoves, hn, henter⟩ := h
  obtain ⟨c, hc, hlocal⟩ := enter_local henter
  rw [hs] at hc
  exact ⟨k, _, id, policy, Tables.moves_local (s := { pending := [] }) hmoves hc e', hn, hlocal e'⟩

/-- What is left in the window is known from the count. -/
theorem Underway.pending_of_used {a e : List UInt8} (h : Underway (a ++ e) s)
    (hused : s.used = a.length) : s.pending = e := by
  obtain ⟨c₀, hsplit, hlength⟩ := h.consumed
  exact (List.append_inj hsplit (hused.symm.trans hlength)).2.symm

/-! ### Through a node -/

/-- From a node that the walk passes it goes on to the last one. -/
theorem Tables.ComesTo.goes_on {window : List UInt8} {last : Node} {s' : State}
    (h : t.ComesTo m window last s') (hlast : last.fillsOperands) (hn : t.ComesTo m window n s)
    (hinner : n.fillsOperands = false) : ∃ b, t.route m n s = .ok b ∧
      ∃ k s₁ id policy, t.moves m k b = .ok (s₁, .child id policy) ∧ last = t.forest.get id ∧
        Tables.enter policy last s₁ = .ok s' := by
  obtain ⟨j, s₀, id₀, policy₀, hj, hn, henter₀⟩ := hn
  obtain ⟨k, s₁, id, policy, hk, hid, henter⟩ := h.moves_on hlast hj Next.noConfusion
  cases k with
  | zero =>
      cases hk
      rw [hid, ← hn, hinner] at hlast
      cases hlast
  | succ k =>
      obtain ⟨b, hb, hk⟩ := bind_eq_ok_iff.mp hk
      rw [dispatch_child, ← hn, henter₀] at hb
      exact ⟨b, hb, k, s₁, id, policy, hk, hid, henter⟩

theorem Tables.ComesTo.route {window : List UInt8} {last : Node} {s' s₁ : State}
    (hn : t.ComesTo m window n s) (hroute : t.route m n s = .ok b) {k : Nat} {id : NodeId}
    {policy : ModRMPolicy} (hmoves : t.moves m k b = .ok (s₁, .child id policy))
    (hlast : last = t.forest.get id) (henter : Tables.enter policy last s₁ = .ok s') :
    t.ComesTo m window last s' := by
  obtain ⟨j, s₀, id₀, policy₀, hj, hn, henter₀⟩ := hn
  refine ⟨j + (k + 1), s₁, id, policy, ?_, hlast, henter⟩
  rw [Tables.moves_add, hj]
  show t.dispatch m (.child id₀ policy₀) s₀ >>= t.moves m k = _
  rw [dispatch_child, ← hn, henter₀]
  show t.route m n s >>= t.moves m k = _
  rw [hroute]
  exact hmoves

/-! ### A payload in place of the ModRM byte -/

/-- What is left of a state when bytes are read, and one of them for the ModRM byte. -/
def State.core (s : State) : State := { s with pending := [], used := 0, modRM := 0 }

theorem core_enter {policy : ModRMPolicy} {s' : State} (h : Tables.enter policy n s = .ok s') :
    s'.core = s.core := by
  obtain ⟨p, u, x, rfl⟩ := enter_eq_ok h
  rfl

theorem State.mandatory_dropMandatory (s : State) : s.dropMandatory.mandatory = s.mandatory := by
  unfold State.dropMandatory
  split <;> rfl

/-- A move to a child only reads bytes where there is no mandatory prefix. -/
theorem core_dispatch {id : NodeId} {policy : ModRMPolicy} (h : t.dispatch m next s = .ok b)
    (hb : b.2 = .child id policy) (hmandatory : b.1.mandatory = .none) : b.1.core = s.core := by
  cases next with
  | done => cases h; cases hb
  | lookup map policy' =>
      obtain ⟨a, ha, h⟩ := bind_eq_ok_iff.mp h
      obtain ⟨p, u, hadvances⟩ := advances_byte ha
      cases h
      show a.2.core = s.core
      rw [hadvances]
      rfl
  | child id' policy' =>
      rw [dispatch_child] at h
      obtain ⟨s₁, h₁, hroute⟩ := bind_eq_ok_iff.mp h
      have hfills : (t.forest.get id').fillsOperands = false := by
        by_contra hfills
        rw [(runsTo_route (eq_true_of_ne_false hfills) hroute).1] at hb
        cases hb
      rw [← core_enter h₁]
      cases inner_route hfills hroute with
      | choice => rfl
      | used =>
          have hnone : s₁.mandatory = .none := s₁.mandatory_dropMandatory.symm.trans hmandatory
          show s₁.dropMandatory.core = s₁.core
          rw [State.dropMandatory, hnone]
      | _ => cases hb

/-- The walk goes on to a payload of two-byte VEX, in the state `s`. -/
inductive Tables.MeetsVex2 (t : Tables) (m : Mode) : State × Next → State → Prop where
  | here {s s' : State} {id otherwise : NodeId} {policy : ModRMPolicy}
      (hn : t.forest.get id = .vex2 otherwise)
      (h : Tables.enter policy (.vex2 otherwise) s = .ok s') :
      MeetsVex2 t m (s, .child id policy) s'
  | move {b b' : State × Next} {s' : State} (h : t.dispatch m b.2 b.1 = .ok b')
      (h' : MeetsVex2 t m b' s') : MeetsVex2 t m b s'

namespace Tables.MeetsVex2

variable {s' : State}

theorem of_moves {id otherwise : NodeId} {policy : ModRMPolicy}
    (hn : t.forest.get id = .vex2 otherwise)
    (henter : Tables.enter policy (.vex2 otherwise) s = .ok s') : ∀ {k : Nat} {b : State × Next},
      t.moves m k b = .ok (s, .child id policy) → t.MeetsVex2 m b s'
  | 0, b, h => by cases h; exact .here hn henter
  | k + 1, b, h => by
      obtain ⟨b₁, h₁, h⟩ := bind_eq_ok_iff.mp h
      exact .move h₁ (of_moves hn henter h)

/-- The node is met further on in the bytes. -/
theorem suffix (h : t.MeetsVex2 m b s) : s.pending <:+ b.1.pending := by
  induction h with
  | here hn henter =>
      obtain ⟨c, hc, -⟩ := enter_local henter
      exact ⟨c, hc.symm⟩
  | move hb _ ih =>
      obtain ⟨c, hc, -⟩ := dispatch_local hb
      exact ih.trans ⟨c, hc.symm⟩

theorem ne_done (h : t.MeetsVex2 m b s) : b.2 ≠ .done := by
  induction h with
  | here => exact Next.noConfusion
  | move hb _ ih =>
      intro hdone
      rw [hdone] at hb
      cases hb
      exact ih rfl

/-- On the way through a map a byte is read. -/
theorem length_lt {map : OpcodeMap} {policy : ModRMPolicy}
    (h : t.MeetsVex2 m (s, .lookup map policy) s') : s'.pending.length < s.pending.length := by
  cases h with
  | move hb h' =>
      obtain ⟨x, rest, hx, hrest, -⟩ := dispatch_lookup hb
      have hle := h'.suffix.length_le
      rw [hrest] at hle
      rw [show s.pending = x :: rest from hx]
      exact Nat.lt_succ_of_le hle

/-- Where no byte is read on the way, the way leads from child to child. -/
theorem exists_child (h : t.MeetsVex2 m b s) (hpending : b.1.pending = s.pending) :
    ∃ id policy, b.2 = .child id policy := by
  obtain ⟨s₁, next⟩ := b
  cases next with
  | done => exact absurd rfl h.ne_done
  | child id policy => exact ⟨id, policy, rfl⟩
  | lookup map policy =>
      have hlt := h.length_lt
      rw [← show s₁.pending = s.pending from hpending] at hlt
      exact absurd hlt (Nat.lt_irrefl _)

/-- One move before the node is met. -/
theorem core_move {b' : State × Next} (hb : t.dispatch m next s = .ok b')
    (h' : t.MeetsVex2 m b' s') (hpending : b'.1.pending = s'.pending)
    (hmandatory : s'.mandatory = .none) (hcore : s'.core = b'.1.core) : s'.core = s.core := by
  obtain ⟨id, policy, hchild⟩ := h'.exists_child hpending
  have hnone : b'.1.mandatory = .none := (congrArg State.mandatory hcore).symm.trans hmandatory
  exact hcore.trans (core_dispatch hb hchild hnone)

/-- **Where no byte is taken on the way** and no mandatory prefix is left, the walk meets the payload
in the state that it started from. -/
theorem core_eq (h : t.MeetsVex2 m b s) (hpending : b.1.pending = s.pending)
    (hmandatory : s.mandatory = .none) : s.core = b.1.core := by
  induction h with
  | here hn henter => exact core_enter henter
  | @move b b' s' hb h' ih =>
      obtain ⟨c, hc, -⟩ := dispatch_local hb
      have hpending' : b'.1.pending = s'.pending := by
        refine (h'.suffix.eq_of_length_le ?_).symm
        rw [← hpending, hc, List.length_append]
        exact Nat.le_add_left _ _
      exact core_move hb h' hpending' hmandatory (ih hpending' hmandatory)

/-- Into a payload, or through it and a map. -/
theorem at_vex2 (hlong : m.long) {id otherwise : NodeId} {policy : ModRMPolicy}
    (hn : t.forest.get id = .vex2 otherwise) (h : t.MeetsVex2 m (s, .child id policy) s') :
    ∃ s₀, Tables.enter policy (.vex2 otherwise) s = .ok s₀ ∧
      (s' = s₀ ∨ s'.pending.length < s₀.pending.length) := by
  cases h with
  | here hn' henter =>
      rw [hn] at hn'
      cases hn'
      exact ⟨s', henter, .inl rfl⟩
  | @move _ b _ hb h' =>
      rw [dispatch_child, hn] at hb
      obtain ⟨s₀, henter, hroute⟩ := bind_eq_ok_iff.mp hb
      rw [Tables.route, if_pos (Bool.or_eq_true_iff.mpr (.inl hlong))] at hroute
      obtain ⟨hstate, map, -, hnext⟩ := lookup_of_payloadMap hroute
      obtain ⟨s₁, next⟩ := b
      dsimp only at hstate hnext
      subst hstate hnext
      exact ⟨s₀, henter, .inr h'.length_lt⟩

/-- Entering a node takes one byte if the policy reads it. -/
theorem length_enter {policy : ModRMPolicy} (h : Tables.enter policy n s = .ok s') :
    s'.pending.length + (policy.reads n).toNat = s.pending.length := by
  unfold Tables.enter at h
  split at h
  next hreads =>
    obtain ⟨⟨x, s₁⟩, h₁, h⟩ := bind_eq_ok_iff.mp h
    cases h
    rw [State.byte] at h₁
    cases hp : s.pending with
    | nil => rw [hp] at h₁; cases h₁
    | cons y rest =>
        rw [hp] at h₁
        cases h₁
        rw [hreads]
        rfl
  next hreads =>
    cases h
    rw [Bool.eq_false_iff.mpr hreads]
    rfl

/-- A move reads the byte `x`, or it is the same move whatever the byte. -/
theorem reads_or_swaps {x : UInt8} {a c : List UInt8}
    (h : t.dispatch m next { s with pending := a ++ x :: c } = .ok b) (hc : c <:+ b.1.pending) :
    b.1.pending = c ∨ ∃ a', b.1.pending = a' ++ x :: c ∧
      ∀ y, t.dispatch m next { s with pending := a ++ y :: c }
        = .ok ({ b.1 with pending := a' ++ y :: c }, b.2) := by
  obtain ⟨c₀, hc₀, hlocal⟩ := dispatch_local h
  obtain ⟨r, hr⟩ := hc
  have hsplit : a ++ [x] = c₀ ++ r := by
    have happend : a ++ [x] ++ c = c₀ ++ r ++ c := by
      rw [List.append_assoc, List.append_assoc, hr]
      exact hc₀
    exact List.append_cancel_right happend
  rcases List.eq_nil_or_concat r with rfl | ⟨a', z, rfl⟩
  · exact .inl hr.symm
  · rw [List.concat_eq_append] at hsplit hr
    rw [← List.append_assoc] at hsplit
    obtain ⟨rfl, hz⟩ := List.append_inj' hsplit rfl
    cases hz
    refine .inr ⟨a', ?_, fun y => ?_⟩
    · rw [← hr, List.append_assoc]
      rfl
    · rw [List.append_assoc]
      exact hlocal (a' ++ y :: c)

/-- Walks meet the payload alike if it is in the byte where their windows differ first. -/
theorem core_eq_of_twins (hlong : m.long) {p p' : UInt8} {c : List UInt8} (h : t.MeetsVex2 m b s)
    {r : State} {next : Next} {a : List UInt8} (hb : b = ({ r with pending := a ++ p :: c }, next))
    (h' : t.MeetsVex2 m ({ r with pending := a ++ p' :: c }, next) s') (hs : s.pending = c)
    (hs' : s'.pending = c) (hnone : s.mandatory = .none) (hnone' : s'.mandatory = .none) :
    s.core = s'.core := by
  induction h generalizing r next a with
  | here hn henter =>
      cases hb
      obtain ⟨s₀, henter', rfl | hlt⟩ := h'.at_vex2 hlong hn
      · exact (core_enter henter).trans (core_enter henter').symm
      · have hlength := length_enter henter
        have hlength' := length_enter henter'
        simp only [List.length_append, List.length_cons] at hlength hlength'
        rw [hs] at hlength
        rw [hs'] at hlt
        omega
  | move hb₁ h₁ ih =>
      subst hb
      cases h' with
      | here hn henter' =>
          obtain ⟨s₀, henter, rfl | hlt⟩ := (MeetsVex2.move hb₁ h₁).at_vex2 hlong hn
          · exact (core_enter henter).trans (core_enter henter').symm
          · have hlength := length_enter henter
            have hlength' := length_enter henter'
            simp only [List.length_append, List.length_cons] at hlength hlength'
            rw [hs'] at hlength'
            rw [hs] at hlt
            omega
      | @move _ b₂ _ hb₂ h₂ =>
          have hread₁ := reads_or_swaps hb₁ (hs ▸ h₁.suffix)
          have hread₂ := reads_or_swaps hb₂ (hs' ▸ h₂.suffix)
          rcases hread₁ with hread₁ | ⟨a₁, hpending, hswap⟩
          · rcases hread₂ with hread₂ | ⟨a₂, hpending, hswap⟩
            · have hcore := core_move hb₁ h₁ (hread₁.trans hs.symm) hnone
                (h₁.core_eq (hread₁.trans hs.symm) hnone)
              have hcore' := core_move hb₂ h₂ (hread₂.trans hs'.symm) hnone'
                (h₂.core_eq (hread₂.trans hs'.symm) hnone')
              exact hcore.trans hcore'.symm
            · obtain rfl := Except.ok.inj (hb₁.symm.trans (hswap p))
              have hlength := congrArg List.length hread₁
              simp only [List.length_append, List.length_cons] at hlength
              omega
          · obtain rfl := Except.ok.inj (hb₂.symm.trans (hswap p'))
            refine ih ?_ h₂ hs hnone
            rw [← hpending]

end Tables.MeetsVex2

/-- **Payloads of two-byte VEX in the byte where the windows differ first** are met in states that
differ in that byte only. -/
theorem vex2_twins (hlong : m.long) {p p' : UInt8} {a c : List UInt8} {s' : State}
    {otherwise otherwise' : NodeId}
    (hcomes : t.ComesTo m (a ++ p :: c) (.vex2 otherwise) s)
    (hcomes' : t.ComesTo m (a ++ p' :: c) (.vex2 otherwise') s') (hused : s.used = a.length + 1)
    (hused' : s'.used = a.length + 1) (hmodRM' : s'.modRM = p') (hnone : s.mandatory = .none)
    (hnone' : s'.mandatory = .none) : s' = { s with modRM := p' } := by
  have hpending {q : UInt8} {s : State} (hunder : Underway (a ++ q :: c) s)
      (hused : s.used = a.length + 1) : s.pending = c := by
    rw [← List.singleton_append, ← List.append_assoc] at hunder
    refine hunder.pending_of_used (hused.trans ?_)
    rw [List.length_append, List.length_singleton]
  have hs := hpending hcomes.underway hused
  have hs' := hpending hcomes'.underway hused'
  obtain ⟨k, s₁, id, policy, hmoves, hn, henter⟩ := hcomes
  obtain ⟨k', s₁', id', policy', hmoves', hn', henter'⟩ := hcomes'
  have hcore := Tables.MeetsVex2.core_eq_of_twins (r := { pending := [] }) hlong
    (.of_moves hn.symm henter hmoves) rfl (.of_moves hn'.symm henter' hmoves') hs hs' hnone hnone'
  have hrebuild (s : State) : s =
    { s.core with pending := s.pending, used := s.used, modRM := s.modRM } := rfl
  rw [hrebuild s', ← hcore, hs', hused', hmodRM', ← hs, ← hused]
  rfl

end

end OpcodeForest
