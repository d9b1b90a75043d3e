import OpcodeForest.Proofs.Decode.Arrival
import OpcodeForest.Proofs.Decode.Widths

/-!
# Broadcast operands

An EVEX instruction can read one element from memory and broadcast it. Its leaf says whether it
may, and its tuple type has a scale for one element or not.

* `Step.spreads`, `Leaf.spreads`: the memory operand may be broadcast.
* `spreads_of_broadcast`: an instruction with a broadcast operand ends at a leaf that allows it.
* `spreads_of_evexB`: the bit `b` on a memory operand asks for one.
-/

namespace OpcodeForest

/-! ### Leaves -/

/-- The step reads a vector register, or memory of which one element may be broadcast. -/
def Step.spreads : Step → Bool
  | rmVector _ _ broadcast => broadcast
  | _ => false

/-- A memory operand of the leaf may be broadcast. -/
def Leaf.spreads (l : Leaf) : Bool := l.plan.steps.any (·.spreads)

/-- Only EVEX instructions broadcast. -/
theorem Leaf.isEvex_of_spreads {l : Leaf} (h : l.spreads) : l.form.isEvex := by
  obtain ⟨form, codes, registers, number, locks, tuple, flags⟩ := l
  cases form <;> first | rfl | cases h

theorem TupleType.scale_ne_iff (tuple : TupleType) :
    tuple.scale true ≠ tuple.scale false ↔ tuple.element?.isSome := by
  cases tuple <;> decide

section

variable {t : Tables} {m : Mode} {s : State} {n : Node} {bytes : List UInt8}

/-! ### What is noted -/

theorem Step.broadcast_note {step : Step} {n : Notes} (h : (step.note m s n).broadcast) :
    n.broadcast ∨ step.spreads := by
  cases step with
  | rmVector base tuple broadcast =>
      simp only [Step.note] at h
      split at h
      · exact .inl h
      · exact .inr (Bool.and_eq_true_iff.mp h).2
  | controlReg | exchange | lockable => simp only [Step.note] at h; split at h <;> exact .inl h
  | rounding onlySuppress =>
      simp only [Step.note] at h
      split at h
      · cases onlySuppress <;> exact .inl h
      · exact .inl h
  | _ => exact .inl h

theorem Step.broadcast_notes : ∀ {steps : List Step} {n : Notes},
    (steps.foldl (fun n step => step.note m s n) n).broadcast →
      n.broadcast ∨ steps.any (·.spreads)
  | [], _, h => .inl h
  | step :: rest, n, h => by
      rw [List.any_cons, Bool.or_eq_true]
      rw [List.foldl_cons] at h
      rcases broadcast_notes h with hnote | hrest
      · exact (broadcast_note hnote).imp_right .inl
      · exact .inr (.inr hrest)

/-! ### Instructions -/

/-- **A broadcast operand is allowed by the last leaf.** -/
theorem spreads_of_broadcast (h : t.EndsAt m bytes n s) {ip : UInt64}
    (hb : (t.decode m ip bytes).broadcast) : ∃ l, n = .leaf l ∧ l.spreads := by
  obtain ⟨hcomes, -, hfills, s', hroute, haccepted, hdecode⟩ := h
  have hfilled : s.notes.broadcast = false :=
    congrArg (·.draft.broadcast) hcomes.underway.filled
  rw [hdecode, State.finish, if_neg haccepted] at hb
  have hnotes : s'.notes = _ := (runsTo_route hfills hroute).2.effect.notes
  have hspreads : n.steps.any (·.spreads) := by
    have hfold : s'.notes.broadcast := hb
    rw [hnotes] at hfold
    exact (Step.broadcast_notes hfold).resolve_left (Bool.eq_false_iff.mp hfilled)
  cases n with
  | leaf l => exact ⟨l, rfl, hspreads⟩
  | _ => cases hspreads

/-- **The bit `b` on memory asks for a broadcast**, in strict mode: where the leaf allows none the
instruction is refused. -/
theorem spreads_of_evexB (hm : m.strict) {l : Leaf} (hl : l.form.isEvex)
    (h : t.EndsAt m bytes (.leaf l) s) (hb : s.evexB) (hform : s.registerForm = false) :
    l.spreads := by
  obtain ⟨hcomes, -, hfills, s', hroute, haccepted, -⟩ := h
  have hfilled := hcomes.underway.filled
  have hplain : s.notes.Plain :=
    ⟨congrArg (·.draft.broadcast) hfilled, congrArg (·.draft.suppressExceptions) hfilled,
      congrArg (·.draft.rounding) hfilled⟩
  obtain ⟨-, hruns⟩ := runsTo_route hfills hroute
  obtain ⟨-, hbreaks⟩ := hruns.unbroken haccepted
  have hattributes := attributes_of_accounts (accounts_of_evex l hl) hm hplain hruns.rejects hbreaks
  have hheeds := hattributes.heeds hb
  rw [hform] at hheeds
  cases hheeds with
  | broadcast hnoted _ _ =>
      exact (Step.broadcast_notes hnoted).resolve_left (Bool.eq_false_iff.mp hplain.1)

end

end OpcodeForest
