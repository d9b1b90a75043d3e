import OpcodeForest.Proofs.Decode.Operands

/-!
# The order of the bytes

The steps of a plan read their bytes one after the other: first those of an address, last those of
an immediate. Between them stand steps that read nothing.

* `State.Reads`, `reads_step`: the bytes that are read from one state to another.
* `Step.Role`, `Step.role`: what a step reads; `reads_of_silent`: a silent step reads nothing.
* `addressFirst_plan`, `immediateLast_plan`: the order in the plans of leaves.
-/

namespace OpcodeForest

/-! ### Bytes that are read -/

/-- The bytes `c` are read from `s` to `s'`. -/
structure State.Reads (c : List UInt8) (s s' : State) : Prop where
  pending : s.pending = c ++ s'.pending
  used : s'.used = s.used + c.length

namespace State.Reads

variable {c c' : List UInt8} {s s' s'' : State}

theorem trans (h : s.Reads c s') (h' : s'.Reads c' s'') : s.Reads (c ++ c') s'' where
  pending := by rw [h.pending, h'.pending, List.append_assoc]
  used := by rw [h'.used, h.used, List.length_append, Nat.add_assoc]

/-- Where the bytes ahead are the same nothing was read. -/
theorem eq_nil (h : s.Reads c s') (hp : s'.pending = s.pending) : c = [] := by
  have hlength := congrArg List.length h.pending
  rw [hp, List.length_append] at hlength
  exact List.length_eq_zero_iff.mp (by omega)

/-- What was read is the start of the window. -/
theorem take_used {window : List UInt8} (h : s.Reads c s') {a : List UInt8}
    (hwindow : window = a ++ s.pending) (hused : s.used = a.length) :
    window.take s'.used = a ++ c := by
  rw [h.used, hused, hwindow, h.pending, ← List.append_assoc, ← List.length_append]
  exact List.take_left

end State.Reads

section

variable {m : Mode} {s s' : State}

/-- A run that is followed by itself reads bytes in order. -/
theorem Follows.reads {r : Except Stop State} {g : List UInt8 → Bool → Except Stop State}
    (h : Follows s r g) (hr : r = .ok s') : ∃ c, s.Reads c s' := by
  have hself := h s.invalid id
  rw [hr] at hself
  obtain ⟨c, _, hc⟩ := hself
  exact ⟨c, hc.pending, hc.used⟩

theorem reads_step {step : Step} (h : step.run m s = .ok s') : ∃ c, s.Reads c s' :=
  (follows_step (.refl m) step s).reads h

theorem reads_byte {a : UInt8 × State} (h : s.byte = .ok a) : s.Reads [a.1] a.2 := by
  unfold State.byte at h
  split at h
  next => cases h
  next b rest hp => cases h; exact ⟨hp, rfl⟩

theorem reads_word {n : Nat} {a : Nat × State} (h : s.word n = .ok a) :
    ∃ d, d.length = n ∧ a.1 = littleEndian d ∧ s.Reads d a.2 := by
  unfold State.word at h
  split at h
  next hle =>
    have hd : (s.pending.take n).length = n := List.length_take_of_le hle
    cases h
    exact ⟨_, hd, rfl, (List.take_append_drop n _).symm, by rw [hd]⟩
  next => cases h

end

/-! ### Roles -/

/-- What a step reads. -/
inductive Step.Role where
  /-- Nothing. -/
  | silent
  /-- The constant one, which is an immediate without bytes. -/
  | constant
  /-- The bytes of an address, if the ModRM byte names memory. -/
  | address
  | immediate
  /-- The second immediate byte. -/
  | second
  /-- A branch, a register number or an absolute address. -/
  | other
deriving DecidableEq

namespace Step

def role : Step → Role
  | rm _ | rmBound | rmVector _ _ _ | rmScalar | mem | memVector _ | memVsib _ _ | memSib | memBound
  | is4BeforeRm _ => .address
  | imm8 | imm16 | imm32 | immZ _ | imm8Signed _ | immFull _ => .immediate
  | imm8Second => .second
  | one => .constant
  | is4 _ | rel8 _ | relZ _ _ | far _ | offsetMemory => .other
  | _ => .silent

/-- Before an address nothing is read, and there is one at most. -/
def addressFirst : List Role → Bool
  | [] => true
  | .silent :: rest => addressFirst rest
  | _ :: rest => rest.all (· != .address)

/-- After an immediate only the second one is read. -/
def immediateLast : List Role → Bool
  | [] => true
  | .immediate :: rest => rest == [.second] || rest.all (· == .silent)
  | .second :: _ | .constant :: _ => false
  | _ :: rest => immediateLast rest

end Step

section

variable {m : Mode} {s s' : State}

theorem pending_of_silent {step : Step} (hsilent : step.role = .silent)
    (h : step.run m s = .ok s') : s'.pending = s.pending := by
  cases step with
  | controlReg base => cases h; exact pending_addControlRegister base s
  | exchange number => cases h; exact pending_exchange number s
  | lockable rules => cases h; exact pending_applyLock rules s
  | rounding onlySuppress => cases h; exact pending_applyRounding onlySuppress s
  | rmRegister bank => obtain ⟨-, h⟩ := of_registerForm h; cases h; rfl
  | requireRegister => obtain ⟨-, h⟩ := of_registerForm h; cases h; rfl
  | rm | rmBound | rmVector | rmScalar | mem | memVector | memVsib | memSib | memBound | is4BeforeRm
  | imm8 | imm16 | imm32 | immZ | imm8Signed | immFull | imm8Second | one | is4 | rel8 | relZ | far
  | offsetMemory => cases hsilent
  | _ => cases h; rfl

/-- **A silent step reads nothing.** -/
theorem reads_of_silent {step : Step} (hsilent : step.role = .silent) (h : step.run m s = .ok s') :
    s.Reads [] s' := by
  obtain ⟨c, hc⟩ := reads_step h
  exact hc.eq_nil (pending_of_silent hsilent h) ▸ hc

theorem reads_of_all_silent : ∀ {steps : List Step} {s : State},
    (∀ step ∈ steps, step.role = .silent) → runSteps m steps s = .ok s' → s.Reads [] s'
  | [], _, _, h => by
      cases h
      exact ⟨rfl, rfl⟩
  | step :: rest, s, hsilent, h => by
      obtain ⟨s₁, h₁, h⟩ := bind_eq_ok_iff.mp h
      rw [List.forall_mem_cons] at hsilent
      exact (reads_of_silent hsilent.1 h₁).trans (reads_of_all_silent hsilent.2 h)

end

/-! ### Plans -/

/-- **Addresses are read first.** -/
theorem addressFirst_plan (l : Leaf) : Step.addressFirst (l.plan.steps.map (·.role)) := by
  obtain ⟨form, codes, registers, number, locks, tuple, flags⟩ := l
  cases form with
  | evexVW =>
      simp only [Leaf.plan]
      split <;> rfl
  | _ => rfl

/-- **Immediates are read last**, apart from the shifts by one, which read none. -/
theorem immediateLast_plan {l : Leaf} (hb : l.form ≠ .eb1) (hv : l.form ≠ .ev1) :
    Step.immediateLast (l.plan.steps.map (·.role)) := by
  obtain ⟨form, codes, registers, number, locks, tuple, flags⟩ := l
  cases form with
  | eb1 => exact absurd rfl hb
  | ev1 => exact absurd rfl hv
  | evexVW =>
      simp only [Leaf.plan]
      split <;> rfl
  | _ => rfl

end OpcodeForest
