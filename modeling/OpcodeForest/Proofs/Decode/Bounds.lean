import OpcodeForest.Proofs.Decode.FollowWalk

/-!
# Bytes of a move

A move of a walk reads a bounded number of bytes: a step of a plan at most eight, a plan has at most
six steps, and the ModRM byte may come before. So with enough bytes ahead no move starves.

* `readsAtMost_step`, `readsAtMost_leaf`: one step, and the steps of a leaf.
* `readsAtMost_dispatch`: one move.
-/

namespace OpcodeForest

open HasState

variable {m : Mode} {s : State}

/-- At most `n` bytes are read from `s` on the way to the outcome, and the walk is not cut short. -/
def ReadsAtMost {β : Type} [HasState β] (n : Nat) (s : State) : Except Stop β → Prop
  | .ok b => s.pending.length ≤ (state b).pending.length + n
  | .error (.rejected _) => True
  | .error .starved => s.pending.length < n
  | .error .circular => False

namespace ReadsAtMost

variable {β γ : Type} [HasState β] [HasState γ] {n n' : Nat}

/-- A bound may be raised. -/
theorem mono {r : Except Stop β} (h : ReadsAtMost n s r) (hle : n ≤ n') : ReadsAtMost n' s r := by
  rcases r with (_ | _ | _) | b
  · exact Nat.lt_of_lt_of_le h hle
  · trivial
  · exact h
  · exact Nat.le_trans h (Nat.add_le_add_left hle _)

/-- A result that took nothing from the window. -/
theorem plain {b : β} (h : (state b).pending = s.pending) : ReadsAtMost n s (.ok b) := by
  show s.pending.length ≤ (state b).pending.length + n
  rw [h]
  exact Nat.le_add_right _ _

/-- A rejection is within every bound: nothing is read after it. -/
theorem rejected (used : Nat) : ReadsAtMost n s (.error (.rejected used) : Except Stop β) := trivial

theorem ite {P : Prop} [Decidable P] {r₁ r₂ : Except Stop β} (h₁ : ReadsAtMost n s r₁)
    (h₂ : ReadsAtMost n s r₂) : ReadsAtMost n s (if P then r₁ else r₂) := by
  split
  · exact h₁
  · exact h₂

/-- **One after the other.** -/
theorem bind {r : Except Stop β} {k : β → Except Stop γ} (h : ReadsAtMost n s r)
    (hk : ∀ b, r = .ok b → ReadsAtMost n' (state b) (k b)) : ReadsAtMost (n + n') s (r >>= k) := by
  rcases r with (_ | _ | _) | b
  · exact Nat.lt_of_lt_of_le h (Nat.le_add_right _ _)
  · trivial
  · exact h
  · have hb : s.pending.length ≤ (state b).pending.length + n := h
    have hkb := hk b rfl
    show ReadsAtMost (n + n') s (k b)
    revert hkb
    rcases k b with (_ | _ | _) | b' <;> intro hkb
    · have hkb : (state b).pending.length < n' := hkb
      show s.pending.length < n + n'
      omega
    · trivial
    · exact hkb
    · have hkb : (state b).pending.length ≤ (state b').pending.length + n' := hkb
      show s.pending.length ≤ (state b').pending.length + (n + n')
      omega

/-- Nothing is read after `r`. -/
theorem andThen {r : Except Stop β} {k : β → Except Stop γ} (h : ReadsAtMost n s r)
    (hk : ∀ b, ReadsAtMost 0 (state b) (k b)) : ReadsAtMost n s (r >>= k) :=
  h.bind fun b _ => hk b

end ReadsAtMost

/-! ### Reading bytes -/

/-- The only reader that takes from the window itself; the others go through it. -/
theorem readsAtMost_byte (s : State) : ReadsAtMost 1 s s.byte := by
  unfold State.byte
  cases hp : s.pending with
  | nil =>
      show s.pending.length < 1
      rw [hp]; exact Nat.one_pos
  | cons b rest =>
      show s.pending.length ≤ rest.length + 1
      rw [hp]; exact Nat.le_refl _

theorem readsAtMost_word (n : Nat) (s : State) : ReadsAtMost n s (s.word n) := by
  unfold State.word
  split
  · show s.pending.length ≤ (s.pending.drop n).length + n
    rw [List.length_drop]; omega
  · exact Nat.lt_of_not_le ‹_›

theorem readsAtMost_readModRM (s : State) : ReadsAtMost 1 s s.readModRM :=
  (readsAtMost_byte s).andThen fun _ => .plain rfl

/-- Without the displacement an address takes the index byte at most. -/
theorem readsAtMost_addressShape (vectors : Option Register) (s : State) :
    ReadsAtMost 1 s (s.addressShape m vectors) := by
  unfold State.addressShape
  cases s.addressSize m with
  | w16 => exact .plain rfl
  | w32 | w64 =>
      exact .ite ((readsAtMost_byte s).andThen fun _ => .plain rfl) (.plain rfl)

theorem wideSize_le (mod : Nat) (noBase : Bool) : AddressShape.wideSize mod noBase ≤ 4 := by
  unfold AddressShape.wideSize
  split
  · exact Nat.le_refl _
  · split <;> omega

/-- Every address size has displacements of four bytes at most. -/
theorem displacementSize_le {vectors : Option Register} {a : AddressShape × State}
    (h : s.addressShape m vectors = .ok a) : a.1.displacementSize ≤ 4 := by
  unfold State.addressShape at h
  have hwide : ∀ gpr : Register,
      (if s.rm = 4 then
        s.byte >>= fun b => pure (AddressShape.indexed m b.2 gpr vectors b.1, b.2)
      else
        pure (AddressShape.plain m s gpr, s) : Except Stop (AddressShape × State)) = .ok a →
      a.1.displacementSize ≤ 4 := fun gpr h => by
    split at h
    · cases hb : s.byte with
      | error e => rw [hb] at h; cases h
      | ok b =>
          rw [hb] at h
          cases h
          exact wideSize_le _ _
    · cases h
      unfold AddressShape.plain
      split
      · exact Nat.le_refl _
      · exact wideSize_le _ _
  cases hsize : s.addressSize m with
  | w16 =>
      rw [hsize] at h
      cases h
      show (AddressShape.of16 s.mod s.rm).displacementSize ≤ 4
      unfold AddressShape.of16
      split
      · exact (by decide : 2 ≤ 4)
      · dsimp only
        split
        · omega
        · split <;> omega
  | w32 | w64 =>
      rw [hsize] at h
      exact hwide _ h

/-- The index byte and a displacement of four bytes. -/
theorem readsAtMost_readMemory (tuple : TupleType) (vectors : Option Register) (s : State) :
    ReadsAtMost 5 s (s.readMemory m tuple vectors) := by
  rw [readMemory_eq]
  show ReadsAtMost (1 + 4) s _
  refine .bind (readsAtMost_addressShape vectors s) fun a ha => ?_
  exact .mono (.andThen (readsAtMost_word _ a.2) fun _ => .plain rfl) (displacementSize_le ha)

/-! ### Steps -/

/-- The widest offset has eight bytes. -/
theorem Size.bits_le (size : Size) : size.bits / 8 ≤ 8 := by cases size <;> decide

theorem readsAtMost_readRm (bank : Bank) (s : State) : ReadsAtMost 5 s (s.readRm m bank) :=
  .ite (.plain rfl) (readsAtMost_readMemory _ _ s)

theorem readsAtMost_readMem (tuple : TupleType) (vectors : Option Register) (s : State) :
    ReadsAtMost 5 s (s.readMem m tuple vectors) :=
  .ite (.rejected _) (readsAtMost_readMemory _ _ s)

theorem readsAtMost_readImmediate (k : OperandKind) (n : Nat) (s : State) :
    ReadsAtMost n s (s.readImmediate k n) :=
  (readsAtMost_word n s).andThen fun _ => .plain rfl

theorem readsAtMost_readIs4 (base : Register) (s : State) : ReadsAtMost 1 s (s.readIs4 m base) :=
  (readsAtMost_byte s).andThen fun _ => .plain rfl

theorem readsAtMost_readBranch (n : Nat) (size : Size) (s : State) :
    ReadsAtMost n s (s.readBranch n size) :=
  (readsAtMost_word n s).andThen fun _ => .plain rfl

/-- The offset has four bytes at most, and the selector two. -/
theorem readsAtMost_readFar (size : Size) (s : State) : ReadsAtMost 8 s (s.readFar size) := by
  have hoffset : (if size = .w16 then 2 else 4) ≤ 6 := by split <;> omega
  show ReadsAtMost (6 + 2) s _
  exact .bind ((readsAtMost_word _ s).mono hoffset) fun b _ =>
    .andThen (readsAtMost_word 2 b.2) fun _ => .plain rfl

/-- A control register may be marked as forbidden, without a further byte. -/
theorem pending_addControlRegister (base : Register) (s : State) :
    (s.addControlRegister m base).pending = s.pending := by
  unfold State.addControlRegister
  dsimp only
  split
  · split <;> rfl
  · rfl

/-- An exchange with the accumulator reads no operand bytes. -/
theorem pending_exchange (number : UInt32) (s : State) :
    (s.exchange m number).pending = s.pending := by
  unfold State.exchange
  dsimp only
  split
  · rfl
  · split <;> rfl

/-- The lock rules look at the prefixes that have been read. -/
theorem pending_applyLock (rules : LockRules) (s : State) :
    (s.applyLock rules).pending = s.pending := by
  unfold State.applyLock
  dsimp only
  split
  · rfl
  · split
    · rfl
    · split <;> rfl

/-- The rounding mode has been read with the payload. -/
theorem pending_applyRounding (onlySuppress : Bool) (s : State) :
    (s.applyRounding onlySuppress).pending = s.pending := by
  unfold State.applyRounding
  split
  · split <;> rfl
  · rfl

/-- **A step reads at most eight bytes.** -/
theorem readsAtMost_step (step : Step) (s : State) : ReadsAtMost 8 s (step.run m s) := by
  cases step with
  | controlReg base => exact .plain (pending_addControlRegister base s)
  | exchange number => exact .plain (pending_exchange number s)
  | lockable rules => exact .plain (pending_applyLock rules s)
  | rounding onlySuppress => exact .plain (pending_applyRounding onlySuppress s)
  | rmRegister bank => exact .ite (.plain rfl) (.rejected _)
  | requireRegister => exact .ite (.plain rfl) (.rejected _)
  -- operands in memory
  | rm bank => exact (readsAtMost_readRm bank s).mono (by omega)
  | rmBound | rmScalar => exact .ite (.plain rfl) ((readsAtMost_readMemory _ _ s).mono (by omega))
  | rmVector base tuple broadcast =>
      exact .ite (.plain rfl) ((readsAtMost_readMemory _ _ (State.withBroadcast broadcast _)).mono
        (by omega))
  | mem => exact (readsAtMost_readMem _ _ s).mono (by omega)
  | memVector | memVsib | memSib => exact (readsAtMost_readMem _ _ (State.mark _ s)).mono (by omega)
  | memBound =>
      exact .mono (.andThen (readsAtMost_readMem _ _ (State.mark _ s)) fun _ => .plain rfl)
        (by omega)
  | offsetMemory =>
      exact .mono (.andThen (readsAtMost_word _ s) fun _ => .plain rfl) (Size.bits_le _)
  -- immediates and branches
  | imm8 | imm16 | imm32 | imm8Signed => exact (readsAtMost_readImmediate _ _ s).mono (by omega)
  | imm8Second =>
      exact .mono (.andThen (readsAtMost_byte s) fun _ => .plain rfl) (by omega)
  | immZ sizing =>
      simp only [Step.run]
      cases sizing.size m s <;> exact (readsAtMost_readImmediate _ _ s).mono (by omega)
  | immFull sizing => exact (readsAtMost_readImmediate _ _ s).mono (Size.bits_le _)
  | is4 base => exact .mono (.andThen (readsAtMost_readIs4 base s) fun _ => .plain rfl) (by omega)
  | is4BeforeRm base =>
      show ReadsAtMost (5 + 3) s _
      exact .bind (readsAtMost_readRm _ s) fun s _ =>
        .mono (.andThen (readsAtMost_readIs4 base s) fun _ => .plain rfl) (by omega)
  | rel8 target => exact (readsAtMost_readBranch _ _ s).mono (by omega)
  | relZ width target => exact (readsAtMost_readBranch _ _ s).mono (by split <;> omega)
  | far sizing => exact readsAtMost_readFar _ s
  | _ => exact .plain rfl

/-- The steps of a plan, by induction on their list. -/
theorem readsAtMost_steps : ∀ (steps : List Step) (s : State),
    ReadsAtMost (8 * steps.length) s (runSteps m steps s)
  | [], _ => .plain rfl
  | step :: rest, s => by
      rw [List.length_cons, Nat.mul_add, Nat.add_comm]
      exact .bind (readsAtMost_step step s) fun s _ => readsAtMost_steps rest s

/-- No form has more than six steps. -/
theorem length_plan_le (l : Leaf) : l.plan.steps.length ≤ 6 := by
  obtain ⟨form, codes, registers, number, locks, tuple, flags⟩ := l
  cases form with
  | evexVW =>
      simp only [Leaf.plan]
      split <;> exact (by decide : 5 ≤ 6)
  | _ => exact Nat.le_of_ble_eq_true rfl

/-! ### Moves -/

/-- Six steps of eight bytes. -/
theorem readsAtMost_leaf (l : Leaf) (s : State) : ReadsAtMost 48 s (l.run m s) :=
  (readsAtMost_steps l.plan.steps (s.setCode _)).mono (Nat.mul_le_mul_left 8 (length_plan_le l))

/-- The map of a payload is chosen by bits that have been read. -/
theorem readsAtMost_payloadMap (maps : List OpcodeMap) (k : Nat) (policy : ModRMPolicy)
    (s : State) : ReadsAtMost 0 s (Tables.payloadMap maps k policy s) := by
  unfold Tables.payloadMap
  cases maps[k]? with
  | none => exact .rejected _
  | some map => exact .plain rfl

/-- The last byte of a three-byte VEX payload; the two before it have been read as opcode and ModRM
byte. -/
theorem readsAtMost_routeVex3 (t : Tables) (s : State) : ReadsAtMost 1 s (t.routeVex3 m s) := by
  refine .andThen (readsAtMost_byte (s.beginPayload m)) fun ⟨p₂, s₁⟩ => ?_
  dsimp only
  split
  · exact .rejected _
  · exact readsAtMost_payloadMap _ _ _ (s₁.applyVex3 m _ p₂)

theorem readsAtMost_routeXop (t : Tables) (s : State) : ReadsAtMost 1 s (t.routeXop m s) :=
  .andThen (readsAtMost_byte (s.beginPayload m)) fun b =>
    readsAtMost_payloadMap _ _ _ (b.2.applyVex3 m _ b.1)

/-- The last two bytes of an EVEX payload. -/
theorem readsAtMost_routeEvex (t : Tables) (s : State) : ReadsAtMost 2 s (t.routeEvex m s) := by
  show ReadsAtMost (1 + 1) s _
  refine .bind (readsAtMost_byte (s.beginPayload m)) fun b _ =>
    .andThen (readsAtMost_byte b.2) fun ⟨p₂, s₂⟩ => ?_
  dsimp only
  split
  · split
    · exact .rejected _
    · exact readsAtMost_payloadMap _ _ _ ((s₂.checkEvex m _ p₂).applyEvex m _ b.1 p₂)
  · exact .rejected _

/-- Two operands, and the byte that spells the code. -/
theorem readsAtMost_trailing (codes : List (UInt8 × Code)) (s : State) :
    ReadsAtMost 17 s (Tables.runTrailing m codes s) := by
  show ReadsAtMost (16 + 1) s _
  refine .bind (readsAtMost_steps _ s) fun s₁ _ =>
    .andThen (readsAtMost_byte s₁) fun ⟨b, s₂⟩ => ?_
  dsimp only
  cases (codes.filter (·.1 == b)).getLast? with
  | none => exact .rejected _
  | some code => exact .ite (.rejected _) (.plain rfl)

theorem pending_dropMandatory (s : State) : s.dropMandatory.pending = s.pending := by
  unfold State.dropMandatory
  cases s.mandatory <;> rfl

/-- **One node.** The leaves are the nodes that read the most. -/
theorem readsAtMost_route (t : Tables) (n : Node) (s : State) :
    ReadsAtMost 48 s (t.route m n s) := by
  cases n with
  | invalid | null => exact .rejected _
  | fineGroup => exact .ite (.plain rfl) (.plain rfl)
  | mandatory => exact .plain (pending_dropMandatory s)
  | mandatoryByForm reg mem =>
      have hdrop : ∀ uses : Bool, (if uses then s.dropMandatory else s).pending = s.pending := by
        rintro (_ | _)
        · rfl
        · exact pending_dropMandatory s
      exact .plain (hdrop _)
  | mandatoryKept children clearF3 clearF2 readsModRM =>
      simp only [Tables.route]
      cases s.mandatory <;> cases clearF3 <;> cases clearF2 <;> exact .plain rfl
  | vex2 =>
      exact .ite ((readsAtMost_payloadMap _ _ _ (State.applyVex2 m _ _)).mono (by omega))
        (.plain rfl)
  | vex3 => exact .ite ((readsAtMost_routeVex3 t s).mono (by omega)) (.plain rfl)
  | xop => exact .ite (.plain rfl) ((readsAtMost_routeXop t s).mono (by omega))
  | evex => exact .ite ((readsAtMost_routeEvex t s).mono (by omega)) (.plain rfl)
  | trailing codes =>
      exact .mono (.andThen (readsAtMost_trailing codes s) fun _ => .plain rfl) (by omega)
  | rex => exact .ite (.plain rfl) (.plain rfl)
  | leaf l => exact .andThen (readsAtMost_leaf l s) fun _ => .plain rfl
  | _ => exact .plain rfl

/-- The ModRM byte, if the node asks for it. -/
theorem readsAtMost_enter (policy : ModRMPolicy) (n : Node) (s : State) :
    ReadsAtMost 1 s (Tables.enter policy n s) :=
  .ite (readsAtMost_readModRM s) ((ReadsAtMost.plain rfl).mono (Nat.zero_le _))

/-- **A move reads a bounded number of bytes.** -/
theorem readsAtMost_dispatch (t : Tables) (next : Next) (s : State) :
    ReadsAtMost Tables.moveBytes s (t.dispatch m next s) := by
  cases next with
  | done => exact .plain rfl
  | child id policy =>
      exact .bind (readsAtMost_enter policy _ s) fun s _ => readsAtMost_route t _ s
  | lookup map policy =>
      exact .mono (.andThen (readsAtMost_byte s) fun _ => .plain rfl) (by decide)

/-- A single move ends. -/
theorem dispatch_ne_circular (t : Tables) (next : Next) (s : State) :
    t.dispatch m next s ≠ .error .circular := fun h => by
  have hreads := readsAtMost_dispatch (m := m) t next s
  rw [h] at hreads
  exact hreads

end OpcodeForest
