import OpcodeForest.Proofs.Decode.FollowStep

/-!
# Walks followed

A node is followed by the same node as long as both runs select the same child where it selects
by the options. So a walk is followed by the walk in a mode that relaxes the checks, node by node.

* `follows_route`: one node.
* `walk_eq_dispatch`: a walk as one move after the other.
* `follows_walk`: a walk.
* `walk_of_le`: a walk that is not cut short is the same with more fuel.
-/

namespace OpcodeForest

open HasState

variable {m' m : Mode}

/-- Both modes select the same child where a node selects by the options. -/
def Node.SelectsAlike (m' m : Mode) : Node → Prop
  | .byOption _ _ alternatives => ∀ a ∈ alternatives, m'.options.has a.2 = m.options.has a.2
  | _ => True

/-- In one mode the options select the same child, trivially. -/
theorem Node.selectsAlike_refl (m : Mode) (n : Node) : n.SelectsAlike m m := by
  cases n with
  | byOption => exact fun _ _ => rfl
  | _ => trivial

/-! ### Payloads -/

/-- A payload without a map is rejected in both runs. -/
theorem follows_payloadMap (maps : List OpcodeMap) (n : Nat) (policy : ModRMPolicy) (s : State) :
    Follows s (Tables.payloadMap maps n policy s) fun p i =>
      Tables.payloadMap maps n policy (s.alter p i) := by
  unfold Tables.payloadMap
  cases maps[n]? with
  | none => exact .rejected s
  | some map => exact .plain rfl rfl rfl fun _ _ => rfl

theorem follows_applyVex2 (h : m'.Relaxes m) (p₁ : UInt8) (s : State) :
    Follows s (.ok (s.applyVex2 m p₁)) fun p i => .ok ((s.alter p i).applyVex2 m' p₁) := by
  unfold State.applyVex2
  simp only [h.long]
  exact .plain rfl rfl rfl fun _ _ => rfl

/-- The bits of a payload go into the state, whatever the mode checks. -/
theorem follows_applyVex3 (h : m'.Relaxes m) (p₁ p₂ : UInt8) (s : State) :
    Follows s (.ok (s.applyVex3 m p₁ p₂)) fun p i => .ok ((s.alter p i).applyVex3 m' p₁ p₂) := by
  unfold State.applyVex3
  simp only [h.long]
  exact .plain rfl rfl rfl fun _ _ => rfl

theorem follows_applyEvex (h : m'.Relaxes m) (p₀ p₁ p₂ : UInt8) (s : State) :
    Follows s (.ok (s.applyEvex m p₀ p₁ p₂)) fun p i =>
      .ok ((s.alter p i).applyEvex m' p₀ p₁ p₂) := by
  unfold State.applyEvex
  simp only [h.long]
  exact .plain rfl rfl rfl fun _ _ => rfl

/-- A VEX payload of three bytes, one of which is still to be read. -/
theorem follows_routeVex3 (h : m'.Relaxes m) (t : Tables) (s : State) :
    Follows s (t.routeVex3 m s) fun p i => t.routeVex3 m' (s.alter p i) := by
  have hp₁ : ∀ p i, (s.alter p i).modRM = s.modRM := fun _ _ => rfl
  simp only [Tables.routeVex3, hp₁]
  refine (follows_mark (h.check _) follows_byte s).bind fun ⟨p₂, s₁⟩ => ?_
  cases s.modRM.toNat % 32 with
  | zero => exact .rejected s₁
  | succ n => exact (follows_applyVex3 h _ p₂ s₁).bind (follows_payloadMap t.vex n .ifNeeded)

theorem follows_routeXop (h : m'.Relaxes m) (t : Tables) (s : State) :
    Follows s (t.routeXop m s) fun p i => t.routeXop m' (s.alter p i) := by
  have hp₁ : ∀ p i, (s.alter p i).modRM = s.modRM := fun _ _ => rfl
  simp only [Tables.routeXop, hp₁]
  exact (follows_mark (h.check _) follows_byte s).bind fun ⟨p₂, s₁⟩ =>
    (follows_applyVex3 h _ p₂ s₁).bind (follows_payloadMap t.xop _ .ifNeeded)

/-- What the three payload bytes of EVEX select. -/
def Tables.afterEvex (t : Tables) (m : Mode) (p₀ p₁ p₂ : UInt8) (s : State) :
    Except Stop (State × Next) :=
  if bit p₁ 2 then
    let s := (s.checkEvex m p₀ p₂).applyEvex m p₀ p₁ p₂
    match p₀.toNat % 8 with
    | 0 => .error (.rejected s.used)
    | n + 1 => payloadMap t.evex n .always s
  else .error (.rejected s.used)

/-- An EVEX payload as two bytes and what follows them. -/
theorem routeEvex_eq (t : Tables) (s : State) : t.routeEvex m s = (s.beginPayload m).byte >>=
    fun a => a.2.byte >>= fun b => t.afterEvex m s.modRM a.1 b.1 b.2 := rfl

/-- The reserved bits of an EVEX payload count only where the mode checks. -/
theorem follows_afterEvex (h : m'.Relaxes m) (t : Tables) (p₀ p₁ p₂ : UInt8) (s : State) :
    Follows s (t.afterEvex m p₀ p₁ p₂ s) fun p i => t.afterEvex m' p₀ p₁ p₂ (s.alter p i) := by
  unfold Tables.afterEvex State.checkEvex
  simp only [h.long]
  refine .ite (fun _ => ?_) fun _ => .rejected s
  cases p₀.toNat % 8 with
  | zero => exact .rejected s
  | succ n =>
      have happly := follows_mark (h.check (bit p₀ 3 || bit p₂ 7 && p₂.toNat % 8 == 0
        || !m.long && !bit p₂ 3)) (l := Except.ok ∘ State.applyEvex m' p₀ p₁ p₂)
        (follows_applyEvex h p₀ p₁ p₂) s
      exact happly.bind (follows_payloadMap t.evex n .always)

theorem follows_routeEvex (h : m'.Relaxes m) (t : Tables) (s : State) :
    Follows s (t.routeEvex m s) fun p i => t.routeEvex m' (s.alter p i) := by
  have hp₀ : ∀ p i, (s.alter p i).modRM = s.modRM := fun _ _ => rfl
  simp only [routeEvex_eq, hp₀]
  refine (follows_mark (h.check _) follows_byte s).bind fun ⟨p₁, s₁⟩ => ?_
  dsimp only [alter, state]
  exact (follows_byte s₁).bind fun b => follows_afterEvex h t s.modRM p₁ b.1 b.2

/-- Operands, and the byte that spells the code. -/
theorem follows_trailing (h : m'.Relaxes m) (codes : List (UInt8 × Code)) (s : State) :
    Follows s (Tables.runTrailing m codes s) fun p i =>
      Tables.runTrailing m' codes (s.alter p i) := by
  refine (follows_steps h _ s).bind fun s => ?_
  refine (follows_byte s).bind fun ⟨b, s⟩ => ?_
  dsimp only [alter]
  cases (codes.filter (·.1 == b)).getLast? with
  | none => exact .rejected s
  | some code =>
      refine .ite (fun _ => .rejected s) fun _ => ?_
      exact .plain rfl rfl rfl fun _ _ => rfl

/-! ### Nodes -/

/-- Options that have the same switches select the same alternative. -/
theorem find?_has_eq {alternatives : List (NodeId × Options)}
    (h : ∀ a ∈ alternatives, m'.options.has a.2 = m.options.has a.2) :
    alternatives.find? (m'.options.has ·.2) = alternatives.find? (m.options.has ·.2) := by
  induction alternatives with
  | nil => rfl
  | cons a rest ih =>
      rw [List.find?_cons, List.find?_cons, h a List.mem_cons_self,
        ih fun a ha => h a (List.mem_cons_of_mem _ ha)]

/-- **A node is followed by the same node.** -/
theorem follows_route (h : m'.Relaxes m) (t : Tables) {n : Node} (hn : n.SelectsAlike m' m)
    (s : State) : Follows s (t.route m n s) fun p i => t.route m' n (s.alter p i) := by
  have hmandatory : ∀ p i, (s.alter p i).mandatory = s.mandatory := fun _ _ => rfl
  have hform : ∀ p i, (s.alter p i).registerForm = s.registerForm := fun _ _ => rfl
  cases n with
  | invalid | null => exact .rejected s
  | byForm | escape | group | splitGroup | payloadPrefix | byW | byLength | byLengthRounded
  | operandSize | addressSize | lock | repne | rep => exact .plain rfl rfl rfl fun _ _ => rfl
  | byMode modRM other long =>
      simp only [Tables.route, h.long]
      exact .plain rfl rfl rfl fun _ _ => rfl
  | byOption modRM default alternatives =>
      simp only [Tables.route, find?_has_eq hn]
      exact .plain rfl rfl rfl fun _ _ => rfl
  | fineGroup coarse fine =>
      exact .ite (fun _ => .plain rfl rfl rfl fun _ _ => rfl)
        fun _ => .plain rfl rfl rfl fun _ _ => rfl
  | mandatory modRM children =>
      simp only [Tables.route, State.dropMandatory, hmandatory]
      cases s.mandatory <;> exact .plain rfl rfl rfl fun _ _ => rfl
  | mandatoryByForm reg mem =>
      simp only [Tables.route, State.dropMandatory, hmandatory, hform]
      generalize (if s.registerForm then reg else mem).getD s.mandatory.rank (.invalid, false) = a
      obtain ⟨child, uses⟩ := a
      cases uses <;> cases s.mandatory <;> exact .plain rfl rfl rfl fun _ _ => rfl
  | mandatoryKept children clearF3 clearF2 readsModRM =>
      simp only [Tables.route, hmandatory]
      cases s.mandatory <;> cases clearF3 <;> cases clearF2 <;>
        exact .plain rfl rfl rfl fun _ _ => rfl
  | vex2 otherwise =>
      have hp₁ : ∀ p i, (s.alter p i).modRM = s.modRM := fun _ _ => rfl
      simp only [Tables.route, h.long, hp₁]
      refine .ite (fun _ => ?_) fun _ => .plain rfl rfl rfl fun _ _ => rfl
      have happly := follows_mark (h.check (s.hasRex || s.mandatory != .none))
        (l := Except.ok ∘ State.applyVex2 m' s.modRM) (follows_applyVex2 h s.modRM) s
      exact happly.bind (follows_payloadMap t.vex 0 .ifNeeded)
  | vex3 otherwise =>
      simp only [Tables.route, h.long]
      exact .ite (fun _ => follows_routeVex3 h t s) fun _ => .plain rfl rfl rfl fun _ _ => rfl
  | xop otherwise =>
      exact .ite (fun _ => .plain rfl rfl rfl fun _ _ => rfl) fun _ => follows_routeXop h t s
  | evex otherwise =>
      simp only [Tables.route, h.long]
      exact .ite (fun _ => follows_routeEvex h t s) fun _ => .plain rfl rfl rfl fun _ _ => rfl
  | trailing codes =>
      exact (follows_trailing h codes s).bind fun _ => .plain rfl rfl rfl fun _ _ => rfl
  | segment strong register =>
      simp only [Tables.route, State.applySegment, h.long]
      exact .plain rfl rfl rfl fun _ _ => rfl
  | rex otherwise bits =>
      simp only [Tables.route, h.long]
      exact .ite (fun _ => .plain rfl rfl rfl fun _ _ => rfl)
        fun _ => .plain rfl rfl rfl fun _ _ => rfl
  | leaf l => exact (follows_leaf h l s).bind fun _ => .plain rfl rfl rfl fun _ _ => rfl

/-! ### Walks -/

theorem dispatch_child (t : Tables) (id : NodeId) (policy : ModRMPolicy) (s : State) :
    t.dispatch m (.child id policy) s
      = Tables.enter policy (t.forest.get id) s >>= t.route m (t.forest.get id) := rfl

/-- A walk that has ended needs no fuel. -/
theorem walk_done (t : Tables) (fuel : Nat) (s : State) : t.walk m fuel .done s = .ok s := by
  cases fuel <;> rfl

/-- A walk is one move after the other. -/
theorem walk_eq_dispatch (t : Tables) (fuel : Nat) (next : Next) (s : State) :
    t.walk m (fuel + 1) next s = t.dispatch m next s >>= fun b => t.walk m fuel b.2 b.1 := by
  cases next with
  | done => exact (walk_done t fuel s).symm
  | child | lookup => rfl

/-- The ModRM byte is asked for by the node, not by the mode. -/
theorem follows_enter (policy : ModRMPolicy) (node : Node) (s : State) :
    Follows s (Tables.enter policy node s) fun p i => Tables.enter policy node (s.alter p i) :=
  .ite (fun _ => follows_readModRM s) fun _ => .plain rfl rfl rfl fun _ _ => rfl

/-- A sequence does not stop for a reason for which neither part stops. -/
theorem bind_ne_error {ε α β : Type} {x : Except ε α} {g : α → Except ε β} {e : ε}
    (hx : x ≠ .error e) (hg : ∀ a, x = .ok a → g a ≠ .error e) : x >>= g ≠ .error e := by
  intro h
  cases x with
  | error e' => exact hx (congrArg _ (Except.error.inj h))
  | ok a => exact hg a rfl h

/-- A walk does not stop for a reason for which neither its first move nor the rest stops. -/
theorem walk_succ_ne {t : Tables} {fuel : Nat} {next : Next} {s : State} {e : Stop}
    (hmove : t.dispatch m next s ≠ .error e)
    (hrest : ∀ b, t.dispatch m next s = .ok b → t.walk m fuel b.2 b.1 ≠ .error e) :
    t.walk m (fuel + 1) next s ≠ .error e := by
  rw [walk_eq_dispatch]
  exact bind_ne_error hmove hrest

/-- **One move.** -/
theorem follows_dispatch (h : m'.Relaxes m) {t : Tables}
    (ht : ∀ id, (t.forest.get id).SelectsAlike m' m) (next : Next) (s : State) :
    Follows s (t.dispatch m next s) fun p i => t.dispatch m' next (s.alter p i) := by
  cases next with
  | done => exact .plain rfl rfl rfl fun _ _ => rfl
  | child id policy => exact (follows_enter policy _ s).bind (follows_route h t (ht id))
  | lookup map policy => exact (follows_byte s).bind fun _ => .plain rfl rfl rfl fun _ _ => rfl

/-- **A walk is followed by the walk in a mode that relaxes the checks.** -/
theorem follows_walk (h : m'.Relaxes m) {t : Tables}
    (ht : ∀ id, (t.forest.get id).SelectsAlike m' m) : ∀ (fuel : Nat) (next : Next) (s : State),
    Follows s (t.walk m fuel next s) fun p i => t.walk m' fuel next (s.alter p i)
  | 0, .done, _ => .plain rfl rfl rfl fun _ _ => rfl
  | 0, .child _ _, _ | 0, .lookup _ _, _ => fun _ _ => rfl
  | fuel + 1, next, s => by
      simp only [walk_eq_dispatch]
      exact (follows_dispatch h ht next s).bind fun b => follows_walk h ht fuel b.2 b.1

/-! ### Fuel -/

/-- One unit of fuel more changes nothing for a walk that was not cut short. -/
theorem walk_succ (t : Tables) : ∀ (fuel : Nat) (next : Next) (s : State),
    t.walk m fuel next s ≠ .error .circular → t.walk m (fuel + 1) next s = t.walk m fuel next s
  | 0, .done, _, _ => rfl
  | 0, .child _ _, _, h | 0, .lookup _ _, _, h => absurd rfl h
  | fuel + 1, next, s, h => by
      rw [walk_eq_dispatch] at h
      rw [walk_eq_dispatch t (fuel + 1), walk_eq_dispatch t fuel]
      cases hb : t.dispatch m next s with
      | error e => rfl
      | ok b =>
          rw [hb] at h
          exact walk_succ t fuel b.2 b.1 h

/-- More fuel changes nothing for a walk that is not cut short. -/
theorem walk_of_le {t : Tables} {fuel fuel' : Nat} {next : Next} {s : State}
    (h : t.walk m fuel next s ≠ .error .circular) (hle : fuel ≤ fuel') :
    t.walk m fuel' next s = t.walk m fuel next s := by
  induction hle with
  | refl => rfl
  | step _ ih => rw [walk_succ t _ next s (ih ▸ h), ih]

end OpcodeForest
