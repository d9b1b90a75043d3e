import OpcodeForest.Proofs.Decode.Arrival
import OpcodeForest.Proofs.Decode.VexForms

/-!
# Walks to a leaf after VEX and XOP

The payloads of two- and three-byte VEX and of XOP select a map of opcodes. From there the way to a
leaf leads through choices, which read nothing but ModRM bytes, so the state at the leaf is what the
payload has made of the bytes before it.

* `VexPayload`, `VexPayload.Selects`: the payloads, and the maps that they select.
* `State.ReadsModRM`, `readsModRM_moves`: the way from the opcode to a leaf.
* `State.FollowsVex`, `comesTo_vex`: the state at a leaf.
* `exists_comesTo_vex`: a payload that leads to a leaf.
-/

namespace OpcodeForest

/-! ### Payloads -/

/-- The payload bytes of two-byte VEX, or of three-byte VEX and XOP. -/
inductive VexPayload where
  | two (p : UInt8)
  | three (p₁ p₂ : UInt8)

namespace VexPayload

/-- The first byte, which is read like a ModRM byte. -/
def first : VexPayload → UInt8
  | two p => p
  | three p₁ _ => p₁

/-- The bytes behind the first one. -/
def more : VexPayload → List UInt8
  | two _ => []
  | three _ p₂ => [p₂]

def bytes (payload : VexPayload) : List UInt8 := payload.first :: payload.more

/-- The four bits of `vvvv`. -/
def vvvv : VexPayload → Nat
  | two p => State.payloadVvvv p
  | three _ p₂ => State.payloadVvvv p₂

/-- The bit that extends the register field. -/
def r (m : Mode) (payload : VexPayload) : Bool := m.long && !bit payload.first 7

/-- The bit that extends the index field. -/
def x (m : Mode) : VexPayload → Bool
  | two _ => false
  | three p₁ _ => m.long && !bit p₁ 6

/-- The bit that extends the `rm` field. -/
def b (m : Mode) : VexPayload → Bool
  | two _ => false
  | three p₁ _ => m.long && !bit p₁ 5

/-- What the payload makes of a state. -/
def apply (m : Mode) (s : State) : VexPayload → State
  | two p => (s.beginPayload m).applyVex2 m p
  | three p₁ p₂ => (s.beginPayload m).applyVex3 m p₁ p₂

/-- Behind the node of an escape the payload selects a map. -/
inductive Selects (t : Tables) (m : Mode) (map : OpcodeMap) : VexPayload → Node → Prop where
  | vex2 {p : UInt8} {otherwise : NodeId} (hp : m.long ∨ p.toNat / 64 = 3)
      (hmap : t.vex[0]? = some map) : Selects t m map (two p) (.vex2 otherwise)
  | vex3 {p₁ p₂ : UInt8} {otherwise : NodeId} {n : Nat} (hp : m.long ∨ p₁.toNat / 64 = 3)
      (hn : p₁.toNat % 32 = n + 1) (hmap : t.vex[n]? = some map) :
      Selects t m map (three p₁ p₂) (.vex3 otherwise)
  | xop {p₁ p₂ : UInt8} {otherwise : NodeId} {n : Nat} (hn : p₁.toNat % 32 = n + 8)
      (hmap : t.xop[n]? = some map) : Selects t m map (three p₁ p₂) (.xop otherwise)

theorem vvvv_lt (payload : VexPayload) : payload.vvvv < 16 := by
  cases payload <;> exact Nat.lt_succ_of_le (Nat.sub_le ..)

end VexPayload

section

variable {t : Tables} {m : Mode} {s s' : State} {payload : VexPayload} {map : OpcodeMap} {n : Node}
  {l : Leaf} {rest : List UInt8}

namespace VexPayload.Selects

theorem mem (h : payload.Selects t m map n) : map ∈ t.vex ++ t.xop := by
  cases h with
  | vex2 _ hmap | vex3 _ _ hmap => exact List.mem_append_left _ (List.mem_of_getElem? hmap)
  | xop _ hmap => exact List.mem_append_right _ (List.mem_of_getElem? hmap)

/-- **Behind an escape** the walk goes on in the map that the payload selects. -/
theorem route (h : payload.Selects t m map n) (s : State) (rest : List UInt8) :
    t.route m n { s with pending := payload.more ++ rest, modRM := payload.first }
      = .ok (payload.apply m { s with pending := rest, used := s.used + payload.more.length
                                      modRM := payload.first }, .lookup map .ifNeeded) := by
  cases h with
  | vex2 hp hmap =>
      rw [Tables.route, if_pos (isTaken_of_mod hp rfl), Tables.payloadMap, hmap]
      rfl
  | @vex3 p₁ p₂ otherwise n hp hn hmap =>
      have hnumber : (three p₁ p₂).first.toNat % 32 = n + 1 := hn
      rw [Tables.route, if_pos (isTaken_of_mod hp rfl), Tables.routeVex3, hnumber]
      show Tables.payloadMap t.vex n .ifNeeded _ = _
      rw [Tables.payloadMap, hmap]
      rfl
  | @xop p₁ p₂ otherwise n hn hmap =>
      have hnumber : (three p₁ p₂).first.toNat % 32 = n + 8 := hn
      rw [Tables.route, hnumber, if_neg (Nat.not_lt.mpr (Nat.le_add_left 8 n)), Tables.routeXop,
        hnumber]
      show Tables.payloadMap t.xop n .ifNeeded _ = _
      rw [Tables.payloadMap, hmap]
      rfl

/-- The first byte of a payload is read as a ModRM byte. -/
theorem hasModRM (h : payload.Selects t m map n) : n.hasModRM := by
  cases h <;> rfl

theorem moves {e : UInt8} (h : payload.Selects t m map (t.forest.get (t.legacy.oneByte.node e)))
    (s : State) (rest : List UInt8) :
    t.moves m 2 ({ s with pending := e :: (payload.bytes ++ rest) }, t.restart)
      = .ok (payload.apply m { s with pending := rest, used := s.used + 2 + payload.more.length
                                      modRM := payload.first }, .lookup map .ifNeeded) := by
  have henter : ∀ s : State,
      Tables.enter .ifNeeded (t.forest.get (t.legacy.oneByte.node e)) s = s.readModRM :=
    fun _ => if_pos h.hasModRM
  show t.dispatch m (.child (t.legacy.oneByte.node e) .ifNeeded) _ >>= t.moves m 0 = _
  rw [dispatch_child, henter]
  show t.route m (t.forest.get (t.legacy.oneByte.node e)) { s with
    pending := payload.more ++ rest, used := s.used + 2, modRM := payload.first } >>= _ = _
  rw [h.route { s with used := s.used + 2 } rest]
  rfl

end VexPayload.Selects

/-! ### From the opcode to the leaf -/

/-- From `s` on nothing has been read but ModRM bytes, of which the last one counts. -/
inductive State.ReadsModRM (s : State) : State → Prop where
  | refl : ReadsModRM s s
  | read {s' : State} {x : UInt8} {p : List UInt8} (h : ReadsModRM s s')
      (hp : s'.pending = x :: p) :
      ReadsModRM s { s' with pending := p, used := s'.used + 1, modRM := x }

namespace State.ReadsModRM

/-- Entering a node reads one byte at most. -/
theorem enter {policy : ModRMPolicy} {s₁ : State} (h : s.ReadsModRM s')
    (h₁ : Tables.enter policy n s' = .ok s₁) : s.ReadsModRM s₁ := by
  unfold Tables.enter at h₁
  split at h₁
  · cases hp : s'.pending with
    | nil =>
        rw [State.readModRM, State.byte, hp] at h₁
        cases h₁
    | cons x p =>
        rw [State.readModRM, State.byte_of_pending hp] at h₁
        cases h₁
        exact h.read hp
  · cases h₁
    exact h

/-- So the state stays or bytes are taken. -/
theorem eq_or_lt (h : s.ReadsModRM s') : s' = s ∨ s'.pending.length < s.pending.length := by
  induction h with
  | refl => exact .inl rfl
  | @read s' x p _ hp ih =>
      have hlt : p.length < s'.pending.length := by
        rw [hp]
        exact Nat.lt_succ_self _
      rcases ih with rfl | ih
      · exact .inr hlt
      · exact .inr (hlt.trans ih)

/-- One byte has been read, so it is the ModRM byte. -/
theorem eq_of_pending {modRM : UInt8} (h : s.ReadsModRM s') (hs : s.pending = modRM :: rest)
    (hs' : s'.pending = rest) :
    s' = { s with pending := rest, used := s.used + 1, modRM } := by
  cases h with
  | refl => exact absurd (hs.symm.trans hs') (List.cons_ne_self modRM rest)
  | @read s₁ x p h hp =>
      obtain rfl : p = rest := hs'
      rcases h.eq_or_lt with rfl | hlt
      · obtain ⟨rfl, -⟩ := List.cons.inj (hp.symm.trans hs)
        rfl
      · rw [hp, hs] at hlt
        exact absurd hlt (Nat.lt_irrefl _)

end State.ReadsModRM

/-- A choice goes on to a child. -/
theorem child_of_isChoice (hn : n.isChoice) {b : State × Next} (h : t.route m n s = .ok b) :
    ∃ id policy, b.2 = .child id policy := by
  cases n with
  | byMode | byForm | byOption | group | splitGroup | payloadPrefix | byW | byLength
  | byLengthRounded =>
      cases h
      exact ⟨_, _, rfl⟩
  | fineGroup =>
      simp only [Tables.route] at h
      split at h <;> cases h <;> exact ⟨_, _, rfl⟩
  | _ => cases hn

/-- **The way from the opcode to a leaf** of VEX or XOP reads ModRM bytes, and nothing else. -/
theorem readsModRM_moves {blobs : Blobs} (ht : Tables.load blobs = .ok t)
    (hmap : map ∈ t.vex ++ t.xop) {op : UInt8} (hpending : s.pending = op :: rest) {k : Nat}
    {s₁ s₂ : State} {id : NodeId} {policy : ModRMPolicy}
    (hmoves : t.moves m k (s, .lookup map .ifNeeded) = .ok (s₁, .child id policy))
    (henter : Tables.enter policy (t.forest.get id) s₁ = .ok s₂) :
    State.ReadsModRM { s with pending := rest, used := s.used + 1 } s₂ := by
  have hholds := Tables.holds_vex ht
  let before : State := { s with pending := rest, used := s.used + 1 }
  let J (next : Next) (s : State) : Prop := ∃ id policy, next = .child id policy ∧
    t.Meets (t.vex ++ t.xop) id ∧ before.ReadsModRM s
  have hkeep : ∀ next s b, J next s → t.dispatch m next s = .ok b → b.2 ≠ .done →
      J b.2 b.1 := by
    rintro next s b ⟨id, policy, rfl, hid, hs⟩ hb hdone
    rw [dispatch_child] at hb
    obtain ⟨s₁, h₁, hroute⟩ := bind_eq_ok_iff.mp hb
    have hchoice := isChoice_of_meets hholds hid hroute hdone
    have hwithin := within_of_isChoice hholds hid hchoice hroute
    obtain ⟨id', policy', hnext⟩ := child_of_isChoice hchoice hroute
    rw [hnext] at hwithin
    exact ⟨id', policy', hnext, hwithin, state_of_isChoice hchoice hroute ▸ hs.enter h₁⟩
  cases k with
  | zero => cases hmoves
  | succ k =>
      have hlookup : t.dispatch m (.lookup map .ifNeeded) s
          = .ok (before, .child (map.node op) .ifNeeded) := by
        show s.byte >>= _ = _
        rw [State.byte_of_pending hpending]
        rfl
      rw [Tables.moves, hlookup] at hmoves
      obtain ⟨id', policy', hnext, -, hs⟩ := Tables.moves_keep (J := J) hkeep
        (b := (before, .child (map.node op) .ifNeeded))
        ⟨_, _, rfl, Tables.meets_node hmap op, .refl⟩ hmoves Next.noConfusion
      exact hs.enter henter

/-- **A walk passes segment and address-size bytes and a payload.** -/
theorem exists_moves_vex {pre : List UInt8}
    (hpre : ∀ x ∈ pre, (t.forest.get (t.legacy.oneByte.node x)).isAddressPrefix) {e : UInt8}
    (hpayload : payload.Selects t m map (t.forest.get (t.legacy.oneByte.node e))) :
    ∃ s₀ : State, s₀.Bare ∧ s₀.draft.prefixes.addressSize = t.swapsAddressSize pre ∧ ∃ used,
      ∀ rest, t.moves m (2 * pre.length + 2)
          ({ pending := pre ++ e :: (payload.bytes ++ rest) }, t.restart)
        = .ok ({ payload.apply m s₀ with pending := rest, used, modRM := payload.first },
            .lookup map .ifNeeded) := by
  obtain ⟨s₀, hs₀, hsize, hpasses⟩ := exists_moves_bare (m := m) pre hpre
  refine ⟨s₀, hs₀, hsize, s₀.used + 2 + payload.more.length, fun rest => ?_⟩
  rw [Tables.moves_add, hpasses]
  refine (hpayload.moves s₀ rest).trans ?_
  cases payload <;> rfl

/-! ### The state at a leaf -/

/-- The address size after the bytes. -/
def Tables.addressSizeAfter (t : Tables) (m : Mode) (pre : List UInt8) : Size :=
  m.bitness.addressSize (t.swapsAddressSize pre)

/-- What a payload of VEX or XOP leaves to its leaf, after segment and address-size bytes. -/
structure State.FollowsVex (t : Tables) (m : Mode) (pre : List UInt8) (payload : VexPayload)
    (modRM : UInt8) (s : State) : Prop where
  invalid : s.invalid = false
  strayLock : s.strayLock = false
  addressSize : s.addressSize m = t.addressSizeAfter m pre
  vvvvField : s.vvvvField = payload.vvvv
  r : s.r = payload.r m
  x : s.x = payload.x m
  b : s.b = payload.b m
  modRM : s.modRM = modRM

/-- Outside 64-bit mode the extensions are as before, and off. -/
theorem extension_eq {old new : Bool} (h : old = false) :
    (if m.long then new else old) = (m.long && new) := by
  subst h
  cases m.long <;> rfl

/-- A state after a VEX payload, with the prefixes that may stand before it. -/
theorem State.Bare.followsVex {s₀ : State} (h : s₀.Bare) {pre : List UInt8}
    (hsize : s₀.draft.prefixes.addressSize = t.swapsAddressSize pre) (payload : VexPayload)
    (modRM : UInt8) (pending : List UInt8) (used : Nat) :
    State.FollowsVex t m pre payload modRM
      { payload.apply m s₀ with pending, used, modRM } := by
  have hinvalid : (s₀.invalid || m.strict && (s₀.hasRex || s₀.mandatory != .none)) = false := by
    rw [h.invalid, h.hasRex, h.mandatory]
    exact Bool.and_false _
  have hlock : (s₀.draft.prefixes.lock && !s₀.allowLock) = false := by rw [h.lock, Bool.false_and]
  have haddress := congrArg m.bitness.addressSize hsize
  cases payload with
  | two p =>
      exact ⟨hinvalid, hlock, haddress, rfl, extension_eq h.r, h.x, h.b, rfl⟩
  | three p₁ p₂ =>
      exact ⟨hinvalid, hlock, haddress, rfl, extension_eq h.r, extension_eq h.x,
        extension_eq h.b, rfl⟩

namespace State.FollowsVex

variable {pre : List UInt8} {modRM : UInt8}

theorem mod_eq (h : s.FollowsVex t m pre payload modRM) : s.mod = modRM.toNat / 64 := by
  rw [State.mod, h.modRM]

theorem rm_eq (h : s.FollowsVex t m pre payload modRM) : s.rm = modRM.toNat % 8 := by
  rw [State.rm, h.modRM]

theorem reg_eq (h : s.FollowsVex t m pre payload modRM) : s.reg = modRM.toNat / 8 % 8 := by
  rw [State.reg, h.modRM]

end State.FollowsVex

/-- **The state at a leaf of VEX or XOP**, after segment and address-size bytes, with `rest` to
come. -/
theorem comesTo_vex {blobs : Blobs} (ht : Tables.load blobs = .ok t) {pre : List UInt8}
    (hpre : ∀ x ∈ pre, (t.forest.get (t.legacy.oneByte.node x)).isAddressPrefix)
    {e op modRM : UInt8}
    (hpayload : payload.Selects t m map (t.forest.get (t.legacy.oneByte.node e)))
    (h : t.ComesTo m (pre ++ e :: (payload.bytes ++ op :: modRM :: rest)) (.leaf l) s)
    (hrest : s.pending = rest) : s.FollowsVex t m pre payload modRM := by
  obtain ⟨s₀, hs₀, hsize, used, hmoves⟩ := exists_moves_vex hpre hpayload
  obtain ⟨j, s₁, id, policy, hj, hid, henter⟩ := h.moves_on rfl (hmoves _) Next.noConfusion
  rw [hid] at henter
  have hreads := readsModRM_moves ht hpayload.mem rfl hj henter
  rw [hreads.eq_of_pending rfl hrest]
  exact hs₀.followsVex hsize payload modRM rest (used + 2)

/-- **A payload leads to the leaf of its opcode**, where there is no choice on the way. -/
theorem exists_comesTo_vex {pre : List UInt8}
    (hpre : ∀ x ∈ pre, (t.forest.get (t.legacy.oneByte.node x)).isAddressPrefix)
    {e op modRM : UInt8}
    (hpayload : payload.Selects t m map (t.forest.get (t.legacy.oneByte.node e)))
    (hl : .leaf l = t.forest.get (map.node op)) (hmodRM : l.form.hasModRM) :
    ∃ s, t.ComesTo m (pre ++ e :: (payload.bytes ++ op :: modRM :: rest)) (.leaf l) s ∧
      s.pending = rest := by
  obtain ⟨s₀, -, -, used, hmoves⟩ := exists_moves_vex hpre hpayload
  refine ⟨{ payload.apply m s₀ with pending := rest, used := used + 2, modRM },
    ⟨2 * pre.length + 2 + 1, { payload.apply m s₀ with
      pending := modRM :: rest, used := used + 1, modRM := payload.first }, map.node op,
      .ifNeeded, ?_, hl, if_pos hmodRM⟩, rfl⟩
  rw [Tables.moves_add, hmoves]
  rfl

end

end OpcodeForest
