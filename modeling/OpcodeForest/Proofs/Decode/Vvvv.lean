import OpcodeForest.Proofs.Decode.Twins
import OpcodeForest.Proofs.Decode.VexForms
import OpcodeForest.Proofs.Decode.Widths

/-!
# The register in `vvvv`

Every plan of an instruction with a payload names the register in `vvvv` as an operand or refuses
all values but one. So two instructions whose bytes differ in `vvvv` only have different operands.

* `Step.tellsVvvv`, `Leaf.tellsVvvv_plan`: the steps that tell registers in `vvvv` apart.
* `vvvv_of_operands`: at one leaf, the operands tell the register.
* `State.respell`, `moves_respell`: a walk after a payload does not depend on `vvvv`.
* `DifferInVvvv`, `Tables.PartInVvvv`: two payloads.
* `vvvv_never_ignored`: two instructions.
-/

namespace OpcodeForest

/-! ### Steps -/

/-- The thirty-two registers from the first one of the bank are all there. -/
def Bank.isRoomy : Bank → Bool
  | gpr _ => true
  | byte => false
  | file base | vector base | low base => base.index.val ≤ 217

/-- The step tells registers in `vvvv` apart, by an operand or by refusing all but one. -/
def Step.tellsVvvv : Step → Bool
  | vvvv bank => bank.isRoomy
  | narrowVvvv base => base.index.val ≤ 241
  | noVvvv => true
  | _ => false

/-- **An instruction with a payload tells registers in `vvvv` apart.** -/
theorem Leaf.tellsVvvv_plan {l : Leaf} (h : l.form.hasPayload)
    (hroom : ∀ i, (l.register i).index.val ≤ 217) : l.plan.steps.any (·.tellsVvvv) := by
  obtain ⟨form, codes, registers, number, locks, tuple, flags⟩ := l
  cases form with
  | vexVHW | vexVHM | vexMHV | vexVHWIb | vexVWH | vexVHWIs4 | vexVHIs4W | vexHRIb | vexVHEv
  | vexVHEvIb | vexVXVsibHX | evexVkHW | evexVkHWEr | evexVkHWIb | evexVkHWIbEr | evexHkWIb
  | evexKkHW | evexKkHWIb | evexKkHWIbSae | evexKP1HW | evexVHEv | evexVHEvEr | evexVHEvIb =>
      simp [Leaf.plan, Step.tellsVvvv, Bank.isRoomy, hroom]
  | evexVW =>
      simp only [Leaf.plan]
      split <;> rfl
  | _ => first | rfl | exact absurd h Bool.false_ne_true

/-- Of the instructions with a payload one has no ModRM byte. -/
theorem Form.eq_vexSimple {form : Form} (h : form.hasPayload) (hmodRM : form.hasModRM = false) :
    form = .vexSimple := by
  cases form <;> first
    | rfl
    | exact absurd h Bool.false_ne_true
    | exact absurd hmodRM.symm Bool.false_ne_true

/-- Sums that stay in the numbering tell their numbers apart. -/
theorem Register.offset_inj {r : Register} {n k : Nat} (hn : r.index.val + n < 249)
    (hk : r.index.val + k < 249) (h : r.offset n = r.offset k) : n = k := by
  rw [offset_of_lt hn, offset_of_lt hk] at h
  have hindex : r.index.val + n = r.index.val + k := congrArg (·.index.val) h
  omega

section

variable {m : Mode} {s : State}

/-- A bank with 32 registers in a row tells its numbers apart. -/
theorem Bank.register_inj {bank : Bank} (hbank : bank.isRoomy) {n k : Nat} (hn : n < 32)
    (hk : k < 32) (h : bank.register m s n = bank.register m s k) : n = k := by
  have hinj {r : Register} (hr : r.index.val ≤ 217) (h : r.offset n = r.offset k) : n = k :=
    Register.offset_inj (by omega) (by omega) h
  cases bank with
  | byte => cases hbank
  | gpr sizing =>
      refine hinj ?_ h
      rw [first]
      cases sizing.size m s <;> decide
  | file base | vector base | low base => exact hinj (of_decide_eq_true hbank) h

/-- The state with another register in `vvvv`, and perhaps with another ModRM byte. -/
def State.respell (x : UInt8) (v : Nat) (s : State) : State := { s with modRM := x, vvvvField := v }

variable {x : UInt8} {v : Nat}

/-- How many operands a step adds does not depend on `vvvv`. -/
theorem Step.length_operands (step : Step) (v : Nat) (lock lock' : Bool) (tail tail' : Nat) :
    (step.operands m s lock tail).length
      = (step.operands m (s.respell s.modRM v) lock' tail').length := by
  cases step <;> rfl

/-- The same operands come from the same operands of each step. -/
theorem adds_of_flatten {steps : List Step} {oss oss' : List (List Operand)}
    (h : List.Forall₂ (Step.Adds m s) steps oss)
    (h' : List.Forall₂ (Step.Adds m (s.respell s.modRM v)) steps oss')
    (hflatten : oss.flatten = oss'.flatten) :
    ∀ step ∈ steps, ∃ os, step.Adds m s os ∧ step.Adds m (s.respell s.modRM v) os := by
  induction h generalizing oss' with
  | nil => exact fun _ hstep => absurd hstep List.not_mem_nil
  | @cons step os rest oss hadds _ ih =>
      cases h' with
      | @cons _ os' _ oss' hadds' hrest' =>
          have hlength : os.length = os'.length := by
            obtain ⟨lock, tail, -, -, rfl⟩ := hadds
            obtain ⟨lock', tail', -, -, rfl⟩ := hadds'
            exact step.length_operands v lock lock' tail tail'
          rw [List.flatten_cons, List.flatten_cons] at hflatten
          obtain ⟨rfl, hrest⟩ := List.append_inj hflatten hlength
          exact List.forall_mem_cons.mpr ⟨⟨os, hadds, hadds'⟩, ih hrest' hrest⟩

/-- **A step that tells registers in `vvvv` apart adds other operands for another register**, or is
broken by one of them. -/
theorem Step.vvvv_of_adds (hm : m.strict) (hlong : m.long) {step : Step} (hstep : step.tellsVvvv)
    (hlt : s.vvvvField < 32) (hlt' : v < 32) (hbreaks : step.breaks m s = false)
    (hbreaks' : step.breaks m (s.respell x v) = false)
    (h : step = .noVvvv ∨ x = s.modRM ∧
      ∃ os, step.Adds m s os ∧ step.Adds m (s.respell x v) os) : s.vvvvField = v := by
  cases step with
  | noVvvv =>
      have hzero : s.vvvvField = 0 := by simpa [Step.breaks, hm] using hbreaks
      have hzero' : v = 0 := by simpa [Step.breaks, hm, State.respell] using hbreaks'
      rw [hzero, hzero']
  | vvvv bank =>
      obtain ⟨rfl, os, ⟨lock, tail, -, -, rfl⟩, lock', tail', -, -, hos⟩ :=
        h.resolve_left Step.noConfusion
      have hregister : bank.register m s (s.vvvv m)
          = bank.register m (s.respell s.modRM v) ((s.respell s.modRM v).vvvv m) :=
        congrArg Operand.register (List.singleton_inj.mp hos)
      have hbank : bank.register m (s.respell s.modRM v) v = bank.register m s v := by
        cases bank with
        | gpr sizing => cases sizing <;> rfl
        | _ => rfl
      rw [State.vvvv, State.vvvv, if_pos hlong, if_pos hlong] at hregister
      exact Bank.register_inj hstep hlt hlt' (hregister.trans hbank)
  | narrowVvvv base =>
      obtain ⟨rfl, os, ⟨lock, tail, -, -, rfl⟩, lock', tail', -, -, hos⟩ :=
        h.resolve_left Step.noConfusion
      have hnarrow {k : Nat} (hk : (m.strict && decide (7 < k)) = false) : k ≤ 7 := by
        rw [hm, Bool.true_and] at hk
        exact Nat.le_of_not_lt (of_decide_eq_false hk)
      have hle : s.vvvvField ≤ 7 := hnarrow hbreaks
      have hle' : v ≤ 7 := hnarrow hbreaks'
      have hroom : base.index.val ≤ 241 := of_decide_eq_true hstep
      have hregister : base.offset (s.vvvvField % 8) = base.offset (v % 8) :=
        congrArg Operand.register (List.singleton_inj.mp hos)
      have hmod := Register.offset_inj (by omega) (by omega) hregister
      omega
  | _ => cases hstep

/-- **Instructions with the same operands have the same register in `vvvv`**, if they end at the
same leaf in states that agree on all else. -/
theorem vvvv_of_operands {t : Tables} {l : Leaf} {bytes bytes' : List UInt8} (hm : m.strict)
    (hlong : m.long) (hl : l.form.hasPayload) (hroom : ∀ i, (l.register i).index.val ≤ 217)
    (hx : l.form.hasModRM → x = s.modRM) (hlt : s.vvvvField < 32) (hlt' : v < 32)
    (h : t.EndsAt m bytes (.leaf l) s) (h' : t.EndsAt m bytes' (.leaf l) (s.respell x v))
    {ip ip' : UInt64}
    (hoperands : (t.decode m ip bytes).operands = (t.decode m ip' bytes').operands) :
    s.vvvvField = v := by
  obtain ⟨hcomes, -, hfills, s₁, hroute, haccepted, hdecode⟩ := h
  obtain ⟨hcomes', -, -, s₁', hroute', haccepted', hdecode'⟩ := h'
  have hbreaks := ((runsTo_route hfills hroute).2.unbroken haccepted).2
  have hbreaks' := ((runsTo_route hfills hroute').2.unbroken haccepted').2
  obtain ⟨oss, hoss, hadds⟩ := operands_route hcomes.underway hfills hroute
  obtain ⟨oss', hoss', hadds'⟩ := operands_route hcomes'.underway hfills hroute'
  rw [hdecode, hdecode', State.finish, State.finish, if_neg haccepted,
    if_neg haccepted'] at hoperands
  have hflatten : oss.flatten = oss'.flatten := hoss.symm.trans (hoperands.trans hoss')
  obtain ⟨step, hmem, hstep⟩ := List.any_eq_true.mp (Leaf.tellsVvvv_plan hl hroom)
  refine Step.vvvv_of_adds hm hlong hstep hlt hlt' (hbreaks step hmem) (hbreaks' step hmem) ?_
  by_cases hmodRM : l.form.hasModRM
  · obtain rfl := hx hmodRM
    exact .inr ⟨rfl, adds_of_flatten hadds hadds' hflatten step hmem⟩
  · have hform := Form.eq_vexSimple hl (Bool.eq_false_iff.mpr hmodRM)
    have hsteps : l.plan.steps = [.noVvvv] := by simp only [Leaf.plan, hform]
    exact .inl (List.mem_singleton.mp (hsteps ▸ hmem))

/-! ### After the payload -/

/-- A ModRM byte that is not read again is `x`. -/
def Next.Keeps (x : UInt8) (s : State) : Next → Prop
  | .child _ policy | .lookup _ policy => policy = .never → x = s.modRM
  | .done => True

variable {t : Tables} {f : Family} {maps : List OpcodeMap} {n : Node} {b : State × Next}

/-- A byte is read without a look at `vvvv`. -/
theorem byte_respell {a : UInt8 × State} (h : s.byte = .ok a) :
    (s.respell x v).byte = .ok (a.1, a.2.respell x v) := by
  cases hp : s.pending with
  | nil =>
      rw [State.byte, hp] at h
      cases h
  | cons y rest =>
      have hrespell : (s.respell x v).pending = y :: rest := hp
      rw [State.byte_of_pending hp] at h
      rw [State.byte_of_pending hrespell]
      cases h
      rfl

/-- Entering a node that has a ModRM byte makes both bytes the same. -/
theorem enter_respell {policy : ModRMPolicy} {s' : State} (h : Tables.enter policy n s = .ok s')
    (hx : policy = .never → x = s.modRM) : ∃ x',
      Tables.enter policy n (s.respell x v) = .ok (s'.respell x' v) ∧
        (n.hasModRM → x' = s'.modRM) := by
  unfold Tables.enter at h ⊢
  by_cases hreads : policy.reads n
  · rw [if_pos hreads] at h ⊢
    obtain ⟨⟨y, s₁⟩, hbyte, h⟩ := bind_eq_ok_iff.mp h
    cases h
    refine ⟨y, ?_, fun _ => rfl⟩
    rw [State.readModRM, byte_respell hbyte]
    rfl
  · rw [if_neg hreads] at h ⊢
    cases h
    refine ⟨x, rfl, fun hmodRM => hx ?_⟩
    cases policy with
    | never => rfl
    | ifNeeded => exact absurd hmodRM hreads
    | always => exact absurd rfl hreads

/-- A choice after the payload is made alike, whatever `vvvv` is. -/
theorem route_respell (hn : n.isChoice) (h : t.route m n s = .ok b)
    (hx : n.hasModRM → x = s.modRM) :
    t.route m n (s.respell x v) = .ok (b.1.respell x v, b.2) ∧ b.2.Keeps x b.1 := by
  have hbelow {modRM : Bool} (hx : modRM → x = s.modRM) : ModRMPolicy.below modRM = .never →
      x = s.modRM := by
    intro hnever
    cases modRM with
    | true => exact hx rfl
    | false => cases hnever
  cases n with
  | byMode | byOption | payloadPrefix | byLength =>
      cases h
      exact ⟨rfl, hbelow hx⟩
  | byForm | group | splitGroup | byW | byLengthRounded =>
      cases h
      obtain rfl := hx rfl
      exact ⟨rfl, fun _ => rfl⟩
  | fineGroup coarse fine =>
      obtain rfl := hx rfl
      have hfield : (s.respell s.modRM v).registerForm = s.registerForm := rfl
      have hmodRM : (s.respell s.modRM v).modRM = s.modRM := rfl
      have hreg : (s.respell s.modRM v).reg = s.reg := rfl
      simp only [Tables.route, hfield, hmodRM, hreg] at h ⊢
      split at h <;> cases h
      next hfine => exact ⟨if_pos hfine, fun _ => rfl⟩
      next hfine => exact ⟨if_neg hfine, fun _ => rfl⟩
  | _ => cases hn

/-- **A move after a payload does not depend on `vvvv`.** -/
theorem dispatch_respell {next : Next} (ht : t.Holds f maps) (hnext : t.Within maps next)
    (h : t.dispatch m next s = .ok b) (hb : b.2 ≠ .done) (hx : next.Keeps x s) : ∃ x',
      t.dispatch m next (s.respell x v) = .ok (b.1.respell x' v, b.2) ∧ b.2.Keeps x' b.1 := by
  cases next with
  | done => exact absurd hnext id
  | lookup map policy =>
      obtain ⟨a, ha, h⟩ := bind_eq_ok_iff.mp h
      obtain ⟨p, u, hadvances⟩ := advances_byte ha
      cases h
      refine ⟨x, ?_, fun hnever => (hx hnever).trans ?_⟩
      · show (s.respell x v).byte >>= _ = _
        rw [byte_respell ha]
        rfl
      · rw [hadvances]
  | child id policy =>
      rw [dispatch_child] at h ⊢
      obtain ⟨s₁, h₁, h⟩ := bind_eq_ok_iff.mp h
      have hchoice := isChoice_of_meets ht hnext h hb
      obtain ⟨x', henter, hx'⟩ := enter_respell h₁ hx
      obtain ⟨hroute, hkeeps⟩ := route_respell hchoice h hx'
      refine ⟨x', ?_, hkeeps⟩
      rw [henter]
      exact hroute

theorem moves_respell (ht : t.Holds f maps) : ∀ {k : Nat} {b b' : State × Next} {x : UInt8},
    t.Within maps b.2 → b.2.Keeps x b.1 → t.moves m k b = .ok b' → b'.2 ≠ .done → ∃ x',
      t.moves m k (b.1.respell x v, b.2) = .ok (b'.1.respell x' v, b'.2) ∧ b'.2.Keeps x' b'.1 ∧
        t.Within maps b'.2
  | 0, b, b', x, hwithin, hx, h, _ => by
      cases h
      exact ⟨x, rfl, hx, hwithin⟩
  | k + 1, b, b', x, hwithin, hx, h, hb' => by
      obtain ⟨b₁, h₁, h⟩ := bind_eq_ok_iff.mp h
      have hb₁ : b₁.2 ≠ .done := by
        intro hdone
        obtain ⟨s₁, next⟩ := b₁
        obtain rfl : next = .done := hdone
        rw [Tables.moves_done] at h
        cases h
        exact hb' rfl
      obtain ⟨x₁, hdispatch, hx₁⟩ := dispatch_respell ht hwithin h₁ hb₁ hx
      obtain ⟨x', hmoves, hx'⟩ := moves_respell ht (within_dispatch ht hwithin h₁ hb₁).1 hx₁ h hb'
      refine ⟨x', ?_, hx'⟩
      rw [Tables.moves, hdispatch]
      exact hmoves

/-! ### Payloads -/

/-- The bytes differ in the four bits of `vvvv`, and in no others. -/
structure DifferInVvvv (p p' : UInt8) : Prop where
  ne : p ≠ p'
  low : p.toNat % 8 = p'.toNat % 8
  high : p.toNat / 128 = p'.toNat / 128

namespace DifferInVvvv

variable {p p' : UInt8}

theorem symm (h : DifferInVvvv p p') : DifferInVvvv p' p := ⟨h.ne.symm, h.low.symm, h.high.symm⟩

theorem bit_two (h : DifferInVvvv p p') : bit p' 2 = bit p 2 := by
  have hlow := h.low
  simp only [bit, Nat.testBit_eq_decide_div_mod_eq, decide_eq_decide]
  omega

theorem bit_seven (h : DifferInVvvv p p') : bit p' 7 = bit p 7 := by
  have hhigh := h.high
  simp only [bit, Nat.testBit_eq_decide_div_mod_eq, decide_eq_decide]
  omega

theorem length_eq (h : DifferInVvvv p p') : p'.toNat / 4 % 2 = p.toNat / 4 % 2 := by
  have hlow := h.low
  omega

theorem mandatory_eq (h : DifferInVvvv p p') :
    Mandatory.ofBits p'.toNat = Mandatory.ofBits p.toNat := by
  have hlow := h.low
  rw [Mandatory.ofBits, Mandatory.ofBits, show p'.toNat % 4 = p.toNat % 4 by omega]

/-- The payloads spell different numbers. -/
theorem payloadVvvv_ne (h : DifferInVvvv p p') : State.payloadVvvv p' ≠ State.payloadVvvv p := by
  have hlow := h.low
  have hhigh := h.high
  have hne : p.toNat ≠ p'.toNat := fun heq => h.ne (UInt8.toNat_inj.mp heq)
  have hlt := p.toNat_lt
  have hlt' := p'.toNat_lt
  rw [State.payloadVvvv, State.payloadVvvv]
  omega

/-- Two-byte payloads give states that differ in `vvvv` only. -/
theorem applyVex2 (h : DifferInVvvv p p') (m : Mode) (s : State) :
    State.applyVex2 m p' s = (State.applyVex2 m p s).respell s.modRM (State.payloadVvvv p') := by
  rw [State.applyVex2, h.bit_seven, h.length_eq, h.mandatory_eq]
  rfl

theorem applyVex3 (h : DifferInVvvv p p') (m : Mode) (p₁ : UInt8) (s : State) :
    State.applyVex3 m p₁ p' s
      = (State.applyVex3 m p₁ p s).respell s.modRM (State.payloadVvvv p') := by
  rw [State.applyVex3, h.bit_seven, h.length_eq, h.mandatory_eq]
  rfl

theorem applyEvex (h : DifferInVvvv p p') (m : Mode) (p₀ p₂ : UInt8) (s : State) :
    State.applyEvex m p₀ p' p₂ s = (State.applyEvex m p₀ p p₂ s).respell s.modRM
      (State.payloadVvvv p' + 16 * (!bit p₂ 3).toNat) := by
  rw [State.applyEvex, h.bit_seven, h.mandatory_eq]
  rfl

end DifferInVvvv

theorem payloadVvvv_lt_32 (p : UInt8) : State.payloadVvvv p < 32 :=
  Nat.lt_of_lt_of_le (State.payloadVvvv_lt p) (by decide)

/-- Two walks have come to one map of a payload, in states that differ in `vvvv`. -/
inductive Tables.PartInVvvv (t : Tables) : State × Next → State × Next → Prop where
  | intro {f : Family} {maps : List OpcodeMap} {map : OpcodeMap} {policy : ModRMPolicy} {s : State}
      {x : UInt8} {v : Nat} (hholds : t.Holds f maps) (hf : f ≠ .legacy) (hmap : map ∈ maps)
      (hpolicy : policy ≠ .never) (hne : v ≠ s.vvvvField) (hlt : s.vvvvField < 32) (hlt' : v < 32) :
      PartInVvvv t (s, .lookup map policy) (s.respell x v, .lookup map policy)

/-- Two payloads lead to the same map, in states that differ in `vvvv`. -/
theorem partInVvvv_payloadMap {s' : State} {maps' : List OpcodeMap} (hholds : t.Holds f maps)
    (hf : f ≠ .legacy) (hmaps : maps' ⊆ maps) {k : Nat} {policy : ModRMPolicy}
    (hpolicy : policy ≠ .never) (hs' : s' = s.respell x v) (hne : v ≠ s.vvvvField)
    (hlt : s.vvvvField < 32) (hlt' : v < 32) (h : Tables.payloadMap maps' k policy s = .ok b) :
    ∃ b', Tables.payloadMap maps' k policy s' = .ok b' ∧ t.PartInVvvv b b' := by
  subst hs'
  unfold Tables.payloadMap at h ⊢
  cases hk : maps'[k]? with
  | none => rw [hk] at h; cases h
  | some map =>
      rw [hk] at h
      cases h
      exact ⟨_, rfl, .intro hholds hf (hmaps (List.mem_of_getElem? hk)) hpolicy hne hlt hlt'⟩

section

variable {blobs : Blobs} {p p' : UInt8} {c : List UInt8}

/-- Outside of 64-bit mode the payload shares its top bits with a ModRM byte, hence the mode. -/
theorem partInVvvv_vex2 (ht : Tables.load blobs = .ok t) (hlong : m.long) (hp : DifferInVvvv p p')
    {otherwise otherwise' : NodeId} (hs : s.modRM = p)
    (h : t.route m (.vex2 otherwise) s = .ok b) :
    ∃ b', t.route m (.vex2 otherwise') { s with modRM := p' } = .ok b' ∧ t.PartInVvvv b b' := by
  have htaken : ∀ s : State, m.long || s.registerForm := fun _ =>
    Bool.or_eq_true_iff.mpr (.inl hlong)
  have happly : State.applyVex2 m p' (State.beginPayload m { s with modRM := p' })
      = (State.applyVex2 m p (s.beginPayload m)).respell p' (State.payloadVvvv p') :=
    hp.applyVex2 m (State.beginPayload m { s with modRM := p' })
  rw [Tables.route, if_pos (htaken _), hs] at h
  rw [Tables.route, if_pos (htaken _)]
  exact partInVvvv_payloadMap (Tables.holds_vex ht) Family.noConfusion
    (List.subset_append_left _ _) ModRMPolicy.noConfusion happly hp.payloadVvvv_ne
    (payloadVvvv_lt_32 p) (payloadVvvv_lt_32 p') h

/-- What three-byte VEX and XOP make of a state whose next byte is `p`. -/
theorem payload_of_pending (hs : s.pending = p :: c) : (s.beginPayload m).byte
    = .ok (p, { s.beginPayload m with pending := c, used := s.used + 1 }) :=
  State.byte_of_pending (s := s.beginPayload m) hs

/-- A payload of three bytes that names a map leads there. -/
theorem routeVex3_of_map (hs : s.pending = p :: c) {n : Nat} (hn : s.modRM.toNat % 32 = n + 1) :
    t.routeVex3 m s = Tables.payloadMap t.vex n .ifNeeded (State.applyVex3 m s.modRM p
      { s.beginPayload m with pending := c, used := s.used + 1 }) := by
  unfold Tables.routeVex3
  dsimp only
  rw [payload_of_pending hs, hn]
  rfl

/-- There is no map zero. -/
theorem map_of_routeVex3 (h : t.routeVex3 m s = .ok b) : ∃ n, s.modRM.toNat % 32 = n + 1 := by
  obtain ⟨a, -, h⟩ := bind_eq_ok_iff.mp h
  dsimp only at h
  split at h
  · cases h
  · next n hn => exact ⟨n, hn⟩

theorem partInVvvv_vex3 (ht : Tables.load blobs = .ok t) (hp : DifferInVvvv p p')
    (hs : s.pending = p :: c) (h : t.routeVex3 m s = .ok b) :
    ∃ b', t.routeVex3 m { s with pending := p' :: c } = .ok b' ∧ t.PartInVvvv b b' := by
  let s' : State := { s with pending := p' :: c }
  obtain ⟨n, hn⟩ := map_of_routeVex3 h
  have hn' : s'.modRM.toNat % 32 = n + 1 := hn
  rw [routeVex3_of_map hs hn] at h
  rw [routeVex3_of_map rfl hn']
  exact partInVvvv_payloadMap (Tables.holds_vex ht) Family.noConfusion
    (List.subset_append_left _ _) ModRMPolicy.noConfusion (hp.applyVex3 m s.modRM _)
    hp.payloadVvvv_ne (payloadVvvv_lt_32 p) (payloadVvvv_lt_32 p') h

theorem partInVvvv_xop (ht : Tables.load blobs = .ok t) (hp : DifferInVvvv p p')
    (hs : s.pending = p :: c) (h : t.routeXop m s = .ok b) :
    ∃ b', t.routeXop m { s with pending := p' :: c } = .ok b' ∧ t.PartInVvvv b b' := by
  unfold Tables.routeXop at h ⊢
  rw [payload_of_pending hs] at h
  rw [payload_of_pending rfl]
  exact partInVvvv_payloadMap (Tables.holds_vex ht) Family.noConfusion
    (List.subset_append_right _ _) ModRMPolicy.noConfusion (hp.applyVex3 m s.modRM _)
    hp.payloadVvvv_ne (payloadVvvv_lt_32 p) (payloadVvvv_lt_32 p') h

theorem partInVvvv_evex (ht : Tables.load blobs = .ok t) (hp : DifferInVvvv p p')
    (hs : s.pending = p :: c) (h : t.routeEvex m s = .ok b) :
    ∃ b', t.routeEvex m { s with pending := p' :: c } = .ok b' ∧ t.PartInVvvv b b' := by
  cases c with
  | nil =>
      rw [routeEvex_eq, payload_of_pending hs] at h
      cases h
  | cons p₂ rest =>
      let s' : State := { s with pending := p' :: p₂ :: rest }
      obtain ⟨hbit, n, hn⟩ := bits_of_routeEvex hs h
      have hn' : s'.modRM.toNat % 8 = n + 1 := hn
      rw [routeEvex_of_bits hs hbit hn] at h
      rw [routeEvex_of_bits rfl (hp.bit_two.trans hbit) hn']
      have hhigh := (!bit p₂ 3).toNat_le
      have hlt := State.payloadVvvv_lt p
      have hlt' := State.payloadVvvv_lt p'
      refine partInVvvv_payloadMap (Tables.holds_evex ht) Family.noConfusion
        (List.Subset.refl _) ModRMPolicy.noConfusion (hp.applyEvex m s.modRM p₂ _)
        (fun heq => hp.payloadVvvv_ne (Nat.add_right_cancel heq)) ?_ ?_ h
      · show State.payloadVvvv p + 16 * (!bit p₂ 3).toNat < 32
        omega
      · omega

/-! ### Two instructions -/

/-- Leaves with payloads count from the first vectors and general-purpose registers. -/
def Node.storesPayloadBases : Node → Bool
  | .leaf l => !l.form.hasPayload ||
      l.registers.all [Register.xmm0, .ymm0, .zmm0, .eax, .rax].contains
  | _ => true

/-- The nodes of VEX, XOP and EVEX count from the first vectors and general-purpose registers. -/
def Tables.StoresPayloadBases (t : Tables) : Prop := ∀ n ∈ t.forest.nodes, n.storesPayloadBases

/-- A first register leaves room for the 32 numbers of a payload. -/
theorem Tables.StoresPayloadBases.room (h : t.StoresPayloadBases) {l : Leaf}
    (hmem : .leaf l ∈ t.forest.nodes) (hl : l.form.hasPayload) (i : Nat) :
    (l.register i).index.val ≤ 217 := by
  have hroom : ∀ r ∈ [Register.xmm0, .ymm0, .zmm0, .eax, .rax], r.index.val ≤ 217 := by decide
  have hbases := h _ hmem
  rw [Node.storesPayloadBases, hl, Bool.not_true, Bool.false_or] at hbases
  rw [Leaf.register, List.getD_eq_getElem?_getD]
  cases hi : l.registers[i]? with
  | none => decide
  | some r =>
      have hr := List.all_eq_true.mp hbases r (List.mem_of_getElem? hi)
      exact hroom r (List.contains_iff_mem.mp hr)

/-- After a payload the walk only reads bytes. -/
theorem core_moves (ht : t.Holds f maps) {k : Nat} {b' : State × Next} (hb : t.Within maps b.2)
    (h : t.moves m k b = .ok b') (hb' : b'.2 ≠ .done) : b'.1.core = b.1.core := by
  let J (next : Next) (s : State) : Prop := t.Within maps next ∧ s.core = b.1.core
  have hJ : ∀ next s b', J next s → t.dispatch m next s = .ok b' → b'.2 ≠ .done →
      J b'.2 b'.1 := by
    rintro next s b' ⟨hnext, hs⟩ hdispatch hdone
    obtain ⟨hwithin, p, u, x, hb'⟩ := within_dispatch ht hnext hdispatch hdone
    refine ⟨hwithin, ?_⟩
    rw [hb', ← hs]
    rfl
  exact (Tables.moves_keep (J := J) hJ ⟨hb, rfl⟩ h hb').2

variable {bytes bytes' : List UInt8} {n' : Node} {s' : State}

/-- **Walks that part in `vvvv` end with other operands.** -/
theorem operands_ne_of_part (ht : Tables.load blobs = .ok t) (hbases : t.StoresPayloadBases)
    (hm : m.strict) (hlong : m.long) (hcomes : t.ComesTo m (bytes.take maxLength) n s)
    (hcomes' : t.ComesTo m (bytes'.take maxLength) n' s') (hinner : n.fillsOperands = false)
    (hpart : ∀ b, t.route m n s = .ok b → ∃ b', t.route m n' s' = .ok b' ∧ t.PartInVvvv b b')
    (h : t.accepts m bytes) (h' : t.accepts m bytes') (ip ip' : UInt64) :
    (t.decode m ip bytes).operands ≠ (t.decode m ip' bytes').operands := by
  have hterminates := (Tables.load_wellFormed ht).terminates m
  obtain ⟨last, s₂, hends⟩ := Tables.endsAt_of_accepts h
  obtain ⟨hlast, hmem, hfills, -⟩ := id hends
  obtain ⟨b, hroute, k, s₁, id, policy, hmoves, hid, henter⟩ := hlast.goes_on hfills hcomes hinner
  obtain ⟨b', hroute', hpart⟩ := hpart b hroute
  cases hpart with
  | @intro f maps map policy₀ σ x v hholds hf hmap hpolicy hne hlt hlt' =>
      obtain ⟨x₁, hmoves', hkeeps, hwithin⟩ := moves_respell (x := x) (v := v) hholds
        (b := (σ, .lookup map policy₀)) hmap (fun hnever => absurd hnever hpolicy) hmoves
        Next.noConfusion
      obtain ⟨x₂, henter', hx₂⟩ := enter_respell (v := v) henter hkeeps
      obtain ⟨l, hl, hform⟩ := leaf_of_meets hholds hwithin (hid ▸ hfills)
      obtain rfl : last = .leaf l := hid.trans hl
      have hcomes₂ := hcomes'.route hroute' hmoves' hid henter'
      have hends' := Tables.endsAt_of_comesTo hterminates hcomes₂ h'
      have hcore : s₂.core = σ.core :=
        (core_enter henter).trans (core_moves hholds (b := (σ, .lookup map policy₀)) hmap hmoves
          Next.noConfusion)
      have hvvvv : s₂.vvvvField = σ.vvvvField := congrArg (·.vvvvField) hcore
      have hpayload := hasPayload_of_mem hf hform
      intro hoperands
      refine hne (.trans ?_ hvvvv)
      exact (vvvv_of_operands hm hlong hpayload (hbases.room hmem hpayload) hx₂ (hvvvv ▸ hlt) hlt'
        hends hends' hoperands).symm

/-- No mandatory prefix comes before a payload of an instruction, in strict mode. -/
theorem mandatory_of_accepts (ht : Tables.load blobs = .ok t) (hm : m.strict) (hlong : m.long)
    {otherwise : NodeId} (hcomes : t.ComesTo m (bytes.take maxLength) (.vex2 otherwise) s)
    (h : t.accepts m bytes) : s.mandatory = .none := by
  obtain ⟨last, s₂, hlast, -, hfills, s₃, hroute₂, haccepted, -⟩ := Tables.endsAt_of_accepts h
  obtain ⟨b, hroute, k, s₁, id, policy, hmoves, -, henter⟩ := hlast.goes_on hfills hcomes rfl
  rw [Tables.route, if_pos (Bool.or_eq_true_iff.mpr (.inl hlong))] at hroute
  obtain ⟨hb, map, hmap, hnext⟩ := lookup_of_payloadMap hroute
  have hwithin : t.Within (t.vex ++ t.xop) b.2 := hnext ▸ List.mem_append_left _ hmap
  have hcore := (core_enter henter).trans
    (core_moves (Tables.holds_vex ht) hwithin hmoves Next.noConfusion)
  have hvalid : b.1.invalid = false :=
    (congrArg (·.invalid) hcore).symm.trans ((runsTo_route hfills hroute₂).2.unbroken haccepted).1
  have hbegin : (s.invalid || m.strict && (s.hasRex || s.mandatory != .none)) = false :=
    (congrArg State.invalid hb).symm.trans hvalid
  rw [hm, Bool.true_and] at hbegin
  exact bne_eq_false_iff_eq.mp (Bool.or_eq_false_iff.mp (Bool.or_eq_false_iff.mp hbegin).2).2

/-- In 64-bit mode, the node takes a payload whose `vvvv` bits are in the byte `p`, which comes after
`k` others. Two-byte VEX has its payload in place of the ModRM byte; the others have a first byte
there. -/
def Node.TakesVvvv (s : State) (k : Nat) (p : UInt8) : Node → Prop
  | vex2 _ => s.used = k + 1 ∧ s.modRM = p
  | vex3 _ | evex _ => s.used = k ∧ s.pending.head? = some p
  | xop _ => 8 ≤ s.modRM.toNat % 32 ∧ s.used = k ∧ s.pending.head? = some p
  | _ => False

/-- The instruction is decoded through a payload whose `vvvv` bits are in the byte `p`, which comes
after `k` others. -/
def Tables.TakesVvvv (t : Tables) (m : Mode) (bytes : List UInt8) (k : Nat) (p : UInt8) : Prop :=
  ∃ n s, t.ComesTo m (bytes.take maxLength) n s ∧ n.TakesVvvv s k p

/-- A payload whose second byte differs. -/
theorem partInVvvv_route (ht : Tables.load blobs = .ok t) (hlong : m.long) (hp : DifferInVvvv p p')
    {k : Nat} (hn : n.TakesVvvv s k p) (hsecond : s.used = k) (hs : s.pending = p :: c)
    (h : t.route m n s = .ok b) :
    ∃ b', t.route m n { s with pending := p' :: c } = .ok b' ∧ t.PartInVvvv b b' := by
  have htaken : ∀ s : State, m.long || s.registerForm := fun _ =>
    Bool.or_eq_true_iff.mpr (.inl hlong)
  cases n with
  | vex3 otherwise =>
      rw [Tables.route, if_pos (htaken _)] at h ⊢
      exact partInVvvv_vex3 ht hp hs h
  | evex otherwise =>
      rw [Tables.route, if_pos (htaken _)] at h ⊢
      exact partInVvvv_evex ht hp hs h
  | xop otherwise =>
      rw [Tables.route, if_neg (Nat.not_lt.mpr hn.1)] at h ⊢
      exact partInVvvv_xop ht hp hs h
  | vex2 otherwise =>
      have hfirst := hn.1
      omega
  | _ => exact absurd hn id

namespace Node.TakesVvvv

variable {k : Nat}

/-- A node that takes the byte of `vvvv` is no leaf. -/
theorem fillsOperands (hn : n.TakesVvvv s k p) : n.fillsOperands = false := by
  cases n with
  | leaf | trailing => exact absurd hn id
  | _ => rfl

/-- The byte of `vvvv` is next, or it stands in the place of a ModRM byte. -/
theorem second_or_vex2 (hn : n.TakesVvvv s k p) : s.used = k ∧ s.pending.head? = some p ∨
    s.used = k + 1 ∧ s.modRM = p ∧ ∃ otherwise, n = .vex2 otherwise := by
  cases n with
  | vex2 otherwise => exact .inr ⟨hn.1, hn.2, otherwise, rfl⟩
  | vex3 | evex => exact .inl hn
  | xop => exact .inl hn.2
  | _ => exact absurd hn id

theorem lt_length {window : List UInt8} (hn : n.TakesVvvv s k p) (hs : Underway window s) :
    k < window.length := by
  obtain ⟨c₀, hsplit, hlength⟩ := hs.consumed
  rw [hsplit, List.length_append, ← hlength]
  rcases hn.second_or_vex2 with ⟨hused, hhead⟩ | ⟨hused, -⟩
  · obtain ⟨rest, hrest⟩ := List.head?_eq_some_iff.mp hhead
    rw [hused, hrest, List.length_cons]
    omega
  · omega

end Node.TakesVvvv

/-- **`vvvv` is never ignored.** In strict 64-bit mode two instructions whose bytes differ only in
the four `vvvv` bits of the payload that they are decoded through have different operands. So an
opcode whose operands do not name the register in `vvvv` is valid with one value there at most. -/
theorem vvvv_never_ignored (ht : Tables.load blobs = .ok t) (hbases : t.StoresPayloadBases)
    (hm : m.strict) (hlong : m.long) (hp : DifferInVvvv p p') {a : List UInt8}
    (htakes : t.TakesVvvv m (a ++ p :: c) a.length p)
    (htakes' : t.TakesVvvv m (a ++ p' :: c) a.length p') (h : t.accepts m (a ++ p :: c))
    (h' : t.accepts m (a ++ p' :: c)) (ip ip' : UInt64) :
    (t.decode m ip (a ++ p :: c)).operands ≠ (t.decode m ip' (a ++ p' :: c)).operands := by
  obtain ⟨n, s, hcomes, hn⟩ := htakes
  obtain ⟨n', s', hcomes', hn'⟩ := htakes'
  -- the byte is in the window
  obtain ⟨j, hj⟩ : ∃ j, maxLength = a.length + (j + 1) := by
    have hlt := hn.lt_length hcomes.underway
    rw [List.length_take] at hlt
    exact Nat.exists_eq_add_of_lt (Nat.lt_of_lt_of_le hlt (Nat.min_le_left _ _))
  have hwindow (q : UInt8) : (a ++ q :: c).take maxLength = a ++ q :: c.take j := by
    rw [hj, List.take_length_add_append]
    rfl
  -- a walk that takes it for a second payload byte can be followed with the other byte
  have hsecond {p p' : UInt8} (hp : DifferInVvvv p p') {n : Node} {s : State}
      (hcomes : t.ComesTo m ((a ++ p :: c).take maxLength) n s) (hn : n.TakesVvvv s a.length p)
      (hused : s.used = a.length) (h : t.accepts m (a ++ p :: c)) (h' : t.accepts m (a ++ p' :: c))
      (ip ip' : UInt64) :
      (t.decode m ip (a ++ p :: c)).operands ≠ (t.decode m ip' (a ++ p' :: c)).operands := by
    have hpending := (hwindow p ▸ hcomes.underway).pending_of_used hused
    have hswap := (hwindow p ▸ hcomes).swap hpending (p' :: c.take j)
    exact operands_ne_of_part ht hbases hm hlong hcomes ((hwindow p').symm ▸ hswap)
      hn.fillsOperands (fun b => partInVvvv_route ht hlong hp hn hused hpending) h h' ip ip'
  rcases hn.second_or_vex2 with ⟨hused, -⟩ | ⟨hused, hmodRM, otherwise, rfl⟩
  · exact hsecond hp hcomes hn hused h h' ip ip'
  rcases hn'.second_or_vex2 with ⟨hused', -⟩ | ⟨hused', hmodRM', otherwise', rfl⟩
  · exact (hsecond hp.symm hcomes' hn' hused' h' h ip' ip).symm
  · obtain rfl := vex2_twins hlong (hwindow p ▸ hcomes) (hwindow p' ▸ hcomes') hused hused' hmodRM'
      (mandatory_of_accepts ht hm hlong hcomes h) (mandatory_of_accepts ht hm hlong hcomes' h')
    exact operands_ne_of_part ht hbases hm hlong hcomes hcomes' rfl
      (fun b => partInVvvv_vex2 ht hlong hp hmodRM) h h' ip ip'

end

end

/-- Sums of vectors with `xmm1` and with `xmm2` in `vvvv`, after payloads of two-byte VEX. -/
theorem vvvv_never_ignored_small :
    let m : Mode := { bitness := .bits64, options := {} }
    let bytes (p : UInt8) : List UInt8 := [0xC5] ++ p :: [0x58, 0xC1]
    Tables.load vectorBlobs = .ok vectorTables ∧ vectorTables.StoresPayloadBases ∧ m.strict ∧
      m.long ∧ DifferInVvvv 0xF0 0xE8 ∧ vectorTables.TakesVvvv m (bytes 0xF0) 1 0xF0 ∧
      vectorTables.TakesVvvv m (bytes 0xE8) 1 0xE8 ∧ vectorTables.accepts m (bytes 0xF0) ∧
      vectorTables.accepts m (bytes 0xE8) ∧
      (vectorTables.decode m 0 (bytes 0xF0)).operands
        ≠ (vectorTables.decode m 0 (bytes 0xE8)).operands := by
  intro m bytes
  have hbases : vectorTables.StoresPayloadBases := by
    have hall : ∀ n ∈ vectorTables.forest.nodes, n.storesPayloadBases := by decide
    exact hall
  have hp : DifferInVvvv 0xF0 0xE8 := ⟨by decide, by decide, by decide⟩
  have htakes (p : UInt8) : vectorTables.TakesVvvv m (bytes p) 1 p :=
    ⟨.vex2 .invalid, _, ⟨1, _, ⟨6⟩, .ifNeeded, rfl, rfl, rfl⟩, rfl, rfl⟩
  have h : vectorTables.accepts m (bytes 0xF0) := by decide
  have h' : vectorTables.accepts m (bytes 0xE8) := by decide
  exact ⟨load_vectorBlobs, hbases, by decide, by decide, hp, htakes 0xF0, htakes 0xE8, h, h',
    vvvv_never_ignored load_vectorBlobs hbases (by decide) (by decide) hp (htakes 0xF0)
      (htakes 0xE8) h h' 0 0⟩

end OpcodeForest
