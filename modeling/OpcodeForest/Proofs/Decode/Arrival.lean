import OpcodeForest.Proofs.Decode.EvexAttributes
import OpcodeForest.Proofs.Decode.Registers

/-!
# Walks to a leaf

A walk that comes to a leaf ends there, and there is one way to its last node. After an EVEX
payload that way leads through choices which all have the ModRM byte, so the state at the leaf is
what the payload has made of the bytes before it, with one more byte read for the opcode and one for
the ModRM byte.

* `Tables.endsAt_of_comesTo`, `Tables.ComesTo.decode_eq`: a walk that comes to a leaf ends there.
* `Tables.ComesTo.moves_on`: the first moves of the walk are on the way.
* `State.Bare`, `exists_moves_bare`: segment and address-size bytes before an opcode.
* `Tables.mem_kinds_evex`: the kinds of node after an EVEX payload.
* `comesTo_evex`: the state at an EVEX leaf.
* `exists_comesTo_evex`: a payload that leads to a leaf.
-/

namespace OpcodeForest

section

variable {t : Tables} {m : Mode} {s : State} {l : Leaf} {bytes window : List UInt8}

/-! ### Ends of walks -/

/-- A walk that comes to a leaf ends with its plan. -/
theorem Tables.ComesTo.read_eq (ht : t.Terminates m) (h : t.ComesTo m window (.leaf l) s) :
    t.read m window = l.run m s := by
  obtain ⟨k, s₁, id, policy, hmoves, hn, henter⟩ := h
  rw [ht.read_moves hmoves (Nat.le_add_right _ 2)]
  show t.walk m (t.walkBound window.length + 1 + 1) (.child id policy) s₁ = _
  rw [walk_child, ← hn, henter]
  show (l.run m s >>= fun s => pure (s, Next.done)) >>= _ = _
  cases l.run m s with
  | ok s' => exact walk_done ..
  | error e => rfl

/-- **An instruction whose walk comes to a leaf ends there.** -/
theorem Tables.endsAt_of_comesTo (ht : t.Terminates m)
    (hcomes : t.ComesTo m (bytes.take maxLength) (.leaf l) s) (h : t.accepts m bytes) :
    t.EndsAt m bytes (.leaf l) s := by
  obtain ⟨s', hread, haccepted, hdecode⟩ := decode_of_accepts h
  rw [hcomes.read_eq ht] at hread
  have hmem : .leaf l ∈ t.forest.nodes := by
    obtain ⟨k, s₁, id, policy, -, hn, -⟩ := hcomes
    rw [hn]
    exact Forest.get_mem (hn ▸ rfl)
  refine ⟨hcomes, hmem, rfl, s', ?_, haccepted, hdecode⟩
  show (l.run m s >>= fun s => pure (s, Next.done)) = _
  rw [hread]
  rfl

/-- **The verdict on an instruction and its record** are those of the state after the leaf. -/
theorem Tables.ComesTo.decode_eq (ht : t.Terminates m)
    (hcomes : t.ComesTo m (bytes.take maxLength) (.leaf l) s) {s' : State}
    (hrun : l.run m s = .ok s') :
    (t.accepts m bytes ↔ s'.Accepted m) ∧ ∀ ip, t.decode m ip bytes = s'.finish m ip := by
  have hread : t.read m (bytes.take maxLength) = .ok s' := (hcomes.read_eq ht).trans hrun
  refine ⟨?_, fun ip => ?_⟩
  · rw [Tables.accepts_iff, hread, State.Accepted, Bool.not_eq_true]
    simp only [Except.ok.injEq, exists_eq_left']
  · rw [Tables.decode_eq_record, hread]
    rfl

/-- In strict mode a leaf refuses what it forbids, and nothing else. -/
theorem Tables.ComesTo.accepts_iff_of_forbids (ht : t.Terminates m) (hm : m.strict)
    (hcomes : t.ComesTo m (bytes.take maxLength) (.leaf l) s) {s' : State} {bad : Bool}
    (hrun : l.run m s = .ok s') (hlock : s'.strayLock = false)
    (hinvalid : s'.invalid = (s.invalid || m.strict && bad)) :
    t.accepts m bytes ↔ s.invalid = false ∧ bad = false := by
  rw [(hcomes.decode_eq ht hrun).1, State.Accepted, hinvalid, hlock, hm, Bool.and_false,
    Bool.or_false, Bool.true_and, Bool.not_eq_true, Bool.or_eq_false_iff]

/-- From a node that fills in operands the walk goes nowhere. -/
theorem done_of_moves_fills {id : NodeId} (hfills : (t.forest.get id).fillsOperands)
    {policy : ModRMPolicy} {k : Nat} {b : State × Next}
    (h : t.moves m (k + 1) (s, .child id policy) = .ok b) : b.2 = .done := by
  obtain ⟨⟨s', next⟩, hdispatch, h⟩ := bind_eq_ok_iff.mp h
  rw [dispatch_child] at hdispatch
  obtain ⟨s₁, -, hroute⟩ := bind_eq_ok_iff.mp hdispatch
  obtain rfl : next = .done := (runsTo_route hfills hroute).1
  rw [Tables.moves_done] at h
  cases h
  rfl

/-- **There is one way to the last node**: where the walk has come after some moves, it goes on to
the last node from there. -/
theorem Tables.ComesTo.moves_on {n : Node} (h : t.ComesTo m window n s) (hfills : n.fillsOperands)
    {k : Nat} {b : State × Next} (hmoves : t.moves m k ({ pending := window }, t.restart) = .ok b)
    (hb : b.2 ≠ .done) : ∃ j s₁ id policy, t.moves m j b = .ok (s₁, .child id policy) ∧
      n = t.forest.get id ∧ Tables.enter policy n s₁ = .ok s := by
  obtain ⟨i, s₁, id, policy, hi, hid, henter⟩ := h
  rcases Nat.lt_or_ge i k with hlt | hle
  · obtain ⟨j, rfl⟩ := Nat.exists_eq_add_of_lt hlt
    rw [Nat.add_assoc, Tables.moves_add, hi] at hmoves
    exact absurd (done_of_moves_fills (hid ▸ hfills) hmoves) hb
  · obtain ⟨j, rfl⟩ := Nat.exists_eq_add_of_le hle
    rw [Tables.moves_add, hmoves] at hi
    exact ⟨j, s₁, id, policy, hi, hid, henter⟩

/-! ### Before the opcode -/

/-- The node of a segment or address-size byte. -/
def Node.isAddressPrefix : Node → Bool
  | segment _ _ | addressSize => true
  | _ => false

/-- One of the bytes is the address-size byte. -/
def Tables.swapsAddressSize (t : Tables) (pre : List UInt8) : Bool :=
  pre.any fun x => t.forest.get (t.legacy.oneByte.node x) == .addressSize

/-- What segment and address-size bytes leave as it is at first. -/
structure State.Bare (s : State) : Prop where
  hasRex : s.hasRex = false
  mandatory : s.mandatory = .none
  lock : s.draft.prefixes.lock = false
  invalid : s.invalid = false
  r : s.r = false
  x : s.x = false
  b : s.b = false

theorem exists_dispatch_bare {id : NodeId} (hid : (t.forest.get id).isAddressPrefix) (hs : s.Bare) :
    ∃ s' : State, s'.Bare ∧ s'.draft.prefixes.addressSize
        = (s.draft.prefixes.addressSize || t.forest.get id == .addressSize) ∧
      ∀ e, t.dispatch m (.child id .ifNeeded) { s with pending := e }
        = .ok ({ s' with pending := e }, t.restart) := by
  obtain ⟨-, hmandatory, hlock, hinvalid⟩ := hs
  simp only [dispatch_child]
  generalize t.forest.get id = n at hid
  cases n with
  | segment strong register =>
      exact ⟨s.applySegment m strong register, ⟨rfl, hmandatory, hlock, hinvalid, rfl, rfl, rfl⟩,
        (Bool.or_false _).symm, fun _ => rfl⟩
  | addressSize =>
      exact ⟨s.applyAddressSize, ⟨rfl, hmandatory, hlock, hinvalid, rfl, rfl, rfl⟩,
        (Bool.or_true _).symm, fun _ => rfl⟩
  | _ => cases hid

/-- **A walk passes segment and address-size bytes.** -/
theorem exists_moves_bare (pre : List UInt8)
    (hpre : ∀ x ∈ pre, (t.forest.get (t.legacy.oneByte.node x)).isAddressPrefix) :
    ∃ s : State, s.Bare ∧ s.draft.prefixes.addressSize = t.swapsAddressSize pre ∧
      ∀ e, t.moves m (2 * pre.length) ({ pending := pre ++ e }, t.restart)
        = .ok ({ s with pending := e }, t.restart) := by
  induction pre using List.reverseRecOn with
  | nil => exact ⟨{ pending := [] }, ⟨rfl, rfl, rfl, rfl, rfl, rfl, rfl⟩, rfl, fun _ => rfl⟩
  | append_singleton pre x ih =>
      obtain ⟨s, hs, hsize, hmoves⟩ := ih fun y hy => hpre y (List.mem_append_left _ hy)
      obtain ⟨s', hs', hsize', hdispatch⟩ := exists_dispatch_bare (m := m)
        (s := { s with used := s.used + 1 })
        (hpre x (List.mem_append_right _ List.mem_cons_self))
        ⟨hs.hasRex, hs.mandatory, hs.lock, hs.invalid, hs.r, hs.x, hs.b⟩
      refine ⟨s', hs', ?_, fun e => ?_⟩
      · rw [hsize', hsize]
        simp [Tables.swapsAddressSize]
      rw [List.length_append, List.append_assoc, Nat.mul_add, Tables.moves_add, hmoves]
      show t.dispatch m (.child (t.legacy.oneByte.node x) .ifNeeded) _ >>= t.moves m 0 = _
      rw [hdispatch]
      rfl

/-! ### After an EVEX payload -/

/-- From the maps of EVEX only nodes of its kinds are met. -/
theorem Tables.mem_kinds_evex {blobs : Blobs} (ht : Tables.load blobs = .ok t) {id : NodeId}
    (hid : t.Meets t.evex id) {k : Kind} (hk : (t.forest.get id).kind? = some k) :
    k ∈ Family.evex.kinds := by
  have hholds := Tables.holds_evex ht
  have hfresh := (Tables.load_wellFormed ht).sentinels
  obtain ⟨legacy, f₁, vex, f₂, xop, f₃, evex, f₄, -, -, -, h₄, rfl⟩ := load_eq_ok_iff.mp ht
  obtain ⟨hg₄, hevex⟩ := loadMaps_grown h₄
  rcases hid with rfl | ⟨map, hmap, a, ha, hreaches⟩
  · rw [hholds.invalid] at hk
    cases hk
  · have hamong := hg₄.among_of_reaches (.refl f₄) hfresh (hevex map hmap a ha) hreaches
    rcases hamong with hb | ⟨hle, hlt⟩
    · rcases Forest.get_sentinel hfresh hb with hb | ⟨modRM, hb⟩ <;> rw [hb] at hk <;> cases hk
    · obtain ⟨n, hn⟩ : ∃ n, f₄.get? id = some n := ⟨_, Array.getElem?_eq_getElem hlt⟩
      rw [Forest.get, hn] at hk
      obtain ⟨k', hk', hkind⟩ := (hg₄.built id n hle hn).kind?
      obtain rfl : k' = k := Option.some.inj (hkind.symm.trans hk)
      exact hk'

/-- Every choice after an EVEX payload has the ModRM byte, and its children do not read it. -/
theorem child_of_evex_choice {blobs : Blobs} (ht : Tables.load blobs = .ok t) {id : NodeId}
    (hid : t.Meets t.evex id) (hchoice : (t.forest.get id).isChoice) {b : State × Next}
    (h : t.route m (t.forest.get id) s = .ok b) : ∃ id', b.2 = .child id' .never := by
  have habsent : ∀ k ∈ Family.evex.kinds,
      k ∉ [.byMode false, .byOption false, .payloadPrefix false, .byLength false] := by
    decide +kernel
  have hkind := fun k => Tables.mem_kinds_evex ht hid (k := k)
  generalize t.forest.get id = n at hchoice h hkind
  cases n with
  | byForm | group | splitGroup | byW | byLengthRounded => cases h; exact ⟨_, rfl⟩
  | fineGroup coarse fine =>
      simp only [Tables.route] at h
      split at h <;> cases h <;> exact ⟨_, rfl⟩
  | byMode modRM | byOption modRM | payloadPrefix modRM | byLength modRM =>
      have hne := habsent _ (hkind _ rfl)
      cases modRM with
      | false => simp at hne
      | true => cases h; exact ⟨_, rfl⟩
  | _ => cases hchoice

/-- What an EVEX payload makes of a state. -/
def State.afterEvex (m : Mode) (p₀ p₁ p₂ : UInt8) (s : State) : State :=
  State.applyEvex m p₀ p₁ p₂ (State.checkEvex m p₀ p₂ (s.beginPayload m))

theorem routeEvex_of_bits {p₁ p₂ : UInt8} {rest : List UInt8}
    (hpending : s.pending = p₁ :: p₂ :: rest) (hbit : bit p₁ 2) {n : Nat}
    (hmap : s.modRM.toNat % 8 = n + 1) : t.routeEvex m s = Tables.payloadMap t.evex n .always
      (State.afterEvex m s.modRM p₁ p₂ { s with pending := rest, used := s.used + 2 }) := by
  have hbegin : (s.beginPayload m).pending = p₁ :: p₂ :: rest := hpending
  rw [routeEvex_eq, State.byte_of_pending hbegin]
  show t.afterEvex m s.modRM p₁ p₂ _ = _
  rw [Tables.afterEvex, if_pos hbit, hmap]
  rfl

theorem bits_of_routeEvex {p₁ p₂ : UInt8} {rest : List UInt8} {b : State × Next}
    (hpending : s.pending = p₁ :: p₂ :: rest) (h : t.routeEvex m s = .ok b) :
    bit p₁ 2 ∧ ∃ n, s.modRM.toNat % 8 = n + 1 := by
  have hbegin : (s.beginPayload m).pending = p₁ :: p₂ :: rest := hpending
  rw [routeEvex_eq, State.byte_of_pending hbegin] at h
  have hafter : t.afterEvex m s.modRM p₁ p₂ _ = .ok b := h
  unfold Tables.afterEvex at hafter
  split at hafter
  next hbit =>
    dsimp only at hafter
    split at hafter
    · cases hafter
    · next n hn => exact ⟨hbit, n, hn⟩
  next => cases hafter

theorem routeEvex_eq_ok {p₁ p₂ : UInt8} {rest : List UInt8} {b : State × Next}
    (hpending : s.pending = p₁ :: p₂ :: rest) (h : t.routeEvex m s = .ok b) :
    b.1 = State.afterEvex m s.modRM p₁ p₂ { s with pending := rest, used := s.used + 2 } ∧
      ∃ map ∈ t.evex, b.2 = .lookup map .always := by
  obtain ⟨hbit, n, hn⟩ := bits_of_routeEvex hpending h
  rw [routeEvex_of_bits hpending hbit hn] at h
  exact lookup_of_payloadMap h

/-- **The way from the opcode to an EVEX leaf** reads the ModRM byte, and nothing else. -/
theorem moves_evex {blobs : Blobs} (ht : Tables.load blobs = .ok t) {map : OpcodeMap}
    (hmap : map ∈ t.evex) {op modRM : UInt8} {rest : List UInt8}
    (hpending : s.pending = op :: modRM :: rest) {n : Nat} {s₁ s₂ : State} {id : NodeId}
    {policy : ModRMPolicy}
    (hmoves : t.moves m n (s, .lookup map .always) = .ok (s₁, .child id policy))
    (henter : Tables.enter policy (t.forest.get id) s₁ = .ok s₂) :
    s₂ = { s with pending := rest, used := s.used + 2, modRM := modRM } := by
  let before : State := { s with pending := modRM :: rest, used := s.used + 1 }
  let after : State := { s with pending := rest, used := s.used + 2, modRM := modRM }
  -- into the first node the ModRM byte is read, and into no other
  let J (next : Next) (s : State) : Prop := ∃ id policy, next = .child id policy ∧
    t.Meets t.evex id ∧ (policy = .always ∧ s = before ∨ policy = .never ∧ s = after)
  have hentered : ∀ {policy : ModRMPolicy} {n : Node} {s₁ s₂ : State},
      (policy = .always ∧ s₁ = before ∨ policy = .never ∧ s₁ = after) →
        Tables.enter policy n s₁ = .ok s₂ → s₂ = after := by
    rintro policy n s₁ s₂ (⟨rfl, rfl⟩ | ⟨rfl, rfl⟩) h <;> exact (Except.ok.inj h).symm
  have hkeep : ∀ next s b, J next s → t.dispatch m next s = .ok b → b.2 ≠ .done →
      J b.2 b.1 := by
    rintro next s b ⟨id, policy, rfl, hid, hs⟩ hb hdone
    rw [dispatch_child] at hb
    obtain ⟨s₁, h₁, hroute⟩ := bind_eq_ok_iff.mp hb
    obtain rfl := hentered hs h₁
    have hchoice := isChoice_of_meets (Tables.holds_evex ht) hid hroute hdone
    obtain ⟨id', hnext⟩ := child_of_evex_choice ht hid hchoice hroute
    have hwithin := within_of_isChoice (Tables.holds_evex ht) hid hchoice hroute
    rw [hnext] at hwithin
    exact ⟨id', .never, hnext, hwithin, .inr ⟨rfl, state_of_isChoice hchoice hroute⟩⟩
  cases n with
  | zero => cases hmoves
  | succ n =>
      have hlookup : t.dispatch m (.lookup map .always) s
          = .ok (before, .child (map.node op) .always) := by
        show s.byte >>= _ = _
        rw [State.byte_of_pending hpending]
        rfl
      rw [Tables.moves, hlookup] at hmoves
      obtain ⟨id', policy', hnext, -, hs⟩ := Tables.moves_keep (J := J) hkeep
        (b := (before, .child (map.node op) .always))
        ⟨_, _, rfl, Tables.meets_node hmap op, .inl ⟨rfl, rfl⟩⟩ hmoves Next.noConfusion
      cases hnext
      exact hentered hs henter

/-- **The state at an EVEX leaf**, after segment and address-size bytes, in 64-bit mode. -/
theorem comesTo_evex {blobs : Blobs} (ht : Tables.load blobs = .ok t) (hlong : m.long)
    {pre rest : List UInt8}
    (hpre : ∀ x ∈ pre, (t.forest.get (t.legacy.oneByte.node x)).isAddressPrefix)
    {e p₀ p₁ p₂ op modRM : UInt8} {otherwise : NodeId}
    (he : t.forest.get (t.legacy.oneByte.node e) = .evex otherwise)
    (h : t.ComesTo m (pre ++ e :: p₀ :: p₁ :: p₂ :: op :: modRM :: rest) (.leaf l) s) :
    ∃ s₀ : State, s₀.Bare ∧ ∃ used,
      s = { s₀.afterEvex m p₀ p₁ p₂ with pending := rest, used, modRM } := by
  obtain ⟨s₀, hs₀, -, hpasses⟩ := exists_moves_bare (m := m) pre hpre
  obtain ⟨j, s₁, id, policy, hj, hid, henter⟩ := h.moves_on rfl (hpasses _) Next.noConfusion
  refine ⟨s₀, hs₀, ?_⟩
  -- to the escape, through it, and on from the map that the payload selects
  obtain _ | _ | j := j
  · cases hj
  · cases hj
    rw [he] at hid
    cases hid
  · obtain ⟨⟨s₂, next⟩, hroute, hj⟩ := bind_eq_ok_iff.mp
      (show t.dispatch m (.child (t.legacy.oneByte.node e) .ifNeeded) _ >>= t.moves m j = _ from hj)
    rw [dispatch_child, he] at hroute
    have hpayload : t.routeEvex m { s₀ with pending := p₁ :: p₂ :: op :: modRM :: rest
                                            used := s₀.used + 2, modRM := p₀ } = .ok (s₂, next) :=
      (if_pos (Bool.or_eq_true_iff.mpr (.inl hlong))).symm.trans hroute
    obtain ⟨hstate, map, hmap, hnext⟩ := routeEvex_eq_ok rfl hpayload
    dsimp only at hstate hnext
    subst hstate hnext
    rw [hid] at henter
    have hleaf := moves_evex ht hmap rfl hj henter
    exact ⟨s₀.used + 6, hleaf⟩

/-- **An EVEX payload leads to the leaf of its opcode**, where there is no choice on the way. -/
theorem exists_comesTo_evex (hlong : m.long) {pre rest : List UInt8}
    (hpre : ∀ x ∈ pre, (t.forest.get (t.legacy.oneByte.node x)).isAddressPrefix)
    {e p₀ p₁ p₂ op modRM : UInt8} {otherwise : NodeId}
    (he : t.forest.get (t.legacy.oneByte.node e) = .evex otherwise) (hbit : bit p₁ 2) {n : Nat}
    (hn : p₀.toNat % 8 = n + 1) {map : OpcodeMap} (hmap : t.evex[n]? = some map)
    (hl : .leaf l = t.forest.get (map.node op)) :
    ∃ s, t.ComesTo m (pre ++ e :: p₀ :: p₁ :: p₂ :: op :: modRM :: rest) (.leaf l) s := by
  obtain ⟨s₀, -, -, hpasses⟩ := exists_moves_bare (m := m) pre hpre
  let s₁ : State := { s₀ with pending := p₁ :: p₂ :: op :: modRM :: rest
                              used := s₀.used + 2, modRM := p₀ }
  let s₂ : State := State.afterEvex m p₀ p₁ p₂
    { s₁ with pending := op :: modRM :: rest, used := s₁.used + 2 }
  have hroute : t.route m (.evex otherwise) s₁ = .ok (s₂, .lookup map .always) := by
    refine (if_pos (Bool.or_eq_true_iff.mpr (.inl hlong))).trans ?_
    rw [routeEvex_of_bits rfl hbit hn, Tables.payloadMap, hmap]
  refine ⟨_, 2 * pre.length + 3, { s₂ with pending := modRM :: rest, used := s₂.used + 1 },
    map.node op, .always, ?_, hl, rfl⟩
  rw [Tables.moves_add, hpasses]
  show t.dispatch m (.child (t.legacy.oneByte.node e) .ifNeeded) _ >>= t.moves m 1 = _
  rw [dispatch_child, he]
  show t.route m (.evex otherwise) s₁ >>= t.moves m 1 = _
  rw [hroute]
  rfl

end

end OpcodeForest
