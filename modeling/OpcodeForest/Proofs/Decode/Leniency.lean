import OpcodeForest.Proofs.Decode.Locality

/-!
# Lenient decoding

Leaving out the checks changes no path through the forest, so lenient and strict decoding read the
same bytes and draft the same record; strict decoding may then refuse it.

* `Options.has_union_noInvalidCheck`: the switch is not seen by a test that does not ask for it.
* `Tables.decode_lenient`: the strict record is the lenient one or that of an invalid instruction.
-/

namespace OpcodeForest

namespace Options

/-- The options that a test asks for do not include leaving out the checks. -/
def ignoresChecks (q : Options) : Bool := q.bits &&& noInvalidCheck.bits == 0

/-- Switches can be tested one by one. -/
theorem or_and_bits (a b c : UInt8) : (a ||| b) &&& c = (a &&& c) ||| (b &&& c) := by
  apply UInt8.toBitVec_inj.mp
  simp only [UInt8.toBitVec_and, UInt8.toBitVec_or]
  rw [BitVec.and_comm, BitVec.and_or_distrib_left, BitVec.and_comm c.toBitVec a.toBitVec,
    BitVec.and_comm c.toBitVec b.toBitVec]

/-- The switch is not seen by a test that does not ask for it. -/
theorem has_union_noInvalidCheck {q : Options} (h : q.ignoresChecks) (o : Options) :
    (o.union noInvalidCheck).has q = o.has q := by
  have hq : noInvalidCheck.bits &&& q.bits = 0 := by
    rw [UInt8.and_comm]; exact beq_iff_eq.mp h
  rw [has, has, union, or_and_bits, hq, UInt8.or_zero]

theorem has_union_right (o q : Options) : (o.union q).has q := by
  rw [has, union, beq_iff_eq]
  apply UInt8.toBitVec_inj.mp
  simp only [UInt8.toBitVec_and, UInt8.toBitVec_or]
  ext i hi
  rw [BitVec.getElem_and, BitVec.getElem_or]
  cases q.bits.toBitVec[i] <;> simp

end Options

namespace Mode

/-- The mode without the checks. -/
def lenient (m : Mode) : Mode := { m with options := m.options.union .noInvalidCheck }

theorem strict_lenient (m : Mode) : m.lenient.strict = false := by
  rw [strict, lenient, Options.has_union_right]
  rfl

theorem lenient_relaxes (m : Mode) : m.lenient.Relaxes m where
  bitness := rfl
  amd := Options.has_union_noInvalidCheck rfl m.options
  noPause := Options.has_union_noInvalidCheck rfl m.options
  strict h := by rw [m.strict_lenient] at h; cases h

end Mode

namespace Node

/-- No alternative of the node is selected by leaving out the checks. -/
def ignoresChecks : Node → Bool
  | .byOption _ _ alternatives => alternatives.all (·.2.ignoresChecks)
  | _ => true

/-- So a node selects alike with it and without it. -/
theorem selectsAlike_lenient {n : Node} (h : n.ignoresChecks) (m : Mode) :
    n.SelectsAlike m.lenient m := by
  cases n with
  | byOption modRM default alternatives =>
      exact fun a ha => Options.has_union_noInvalidCheck (List.all_eq_true.mp h a ha) m.options
  | _ => trivial

end Node

namespace Tables

/-- No alternative of any node is selected by leaving out the checks. -/
def IgnoresChecks (t : Tables) : Prop := ∀ n ∈ t.forest.nodes, n.ignoresChecks

variable {t : Tables}

/-- The stand-in for a missing node ignores the checks as well. -/
theorem IgnoresChecks.get (ht : t.IgnoresChecks) (id : NodeId) :
    (t.forest.get id).ignoresChecks := by
  unfold Forest.get
  cases hn : t.forest.get? id with
  | none => rfl
  | some n => exact ht n (Array.mem_of_getElem? hn)

/-- What lenient decoding reads where strict decoding reads `r`. -/
theorem read_lenient (ht : t.IgnoresChecks) (m : Mode) (window : List UInt8) :
    match t.read m window with
    | .ok s => ∃ j : Bool, (j → s.invalid) ∧ t.read m.lenient window = .ok { s with invalid := j }
    | .error e => t.read m.lenient window = .error e := by
  have hfollows := follows_walk m.lenient_relaxes
    (fun id => Node.selectsAlike_lenient (ht.get id) m) (t.walkBound window.length) t.restart
    { pending := window } false (fun h => nomatch h)
  unfold read
  rcases hr : t.walk m (t.walkBound window.length) t.restart { pending := window }
    with (_ | used | _) | s
  · rw [hr] at hfollows; exact hfollows
  · rw [hr] at hfollows
    obtain ⟨c, hc⟩ := hfollows
    obtain ⟨p, rfl⟩ := hc.ahead
    exact hc.follows p
  · rw [hr] at hfollows; exact hfollows
  · rw [hr] at hfollows
    obtain ⟨c, j, hc⟩ := hfollows
    have hp := hc.follows s.pending
    rw [← show window = c ++ s.pending from hc.pending] at hp
    exact ⟨j, hc.mark, hp⟩

/-- **The strict record is the lenient one or that of an invalid instruction** of the same
length. -/
theorem decode_lenient (ht : t.IgnoresChecks) (m : Mode) (ip : UInt64) (bytes : List UInt8) :
    (t.decode m ip bytes).length = (t.decode m.lenient ip bytes).length ∧
      (t.decode m ip bytes = t.decode m.lenient ip bytes ∨
        t.decode m ip bytes = .bad (t.decode m.lenient ip bytes).length ip) := by
  have hread := read_lenient ht m (bytes.take maxLength)
  simp only [decode_eq_record]
  cases hr : t.read m (bytes.take maxLength) with
  | error e =>
      rw [hr] at hread
      dsimp only at hread
      rw [hread]
      cases e <;> exact ⟨rfl, .inl rfl⟩
  | ok s =>
      rw [hr] at hread
      obtain ⟨j, hj, hread⟩ := hread
      rw [hread]
      dsimp only [record]
      rw [length_finish, length_finish]
      refine ⟨rfl, ?_⟩
      simp only [State.finish, m.strict_lenient, Bool.false_and, Bool.or_false]
      cases j with
      | true =>
          rw [if_pos (by rw [hj rfl, Bool.true_or]), if_pos rfl]
          exact .inl rfl
      | false =>
          rw [if_neg Bool.false_ne_true]
          by_cases hbad : s.invalid || m.strict && s.strayLock
          · rw [if_pos hbad]; exact .inr rfl
          · rw [if_neg hbad]; exact .inl rfl

/-- What strict decoding accepts, lenient decoding accepts. -/
theorem accepts_lenient (ht : t.IgnoresChecks) {m : Mode} {bytes : List UInt8}
    (h : t.accepts m bytes) : t.accepts m.lenient bytes := by
  obtain ⟨s, hr, hgood⟩ := accepts_iff.mp h
  have hread := read_lenient ht m (bytes.take maxLength)
  rw [hr] at hread
  obtain ⟨j, hj, hread⟩ := hread
  refine accepts_iff.mpr ⟨_, hread, ?_⟩
  rw [Bool.or_eq_false_iff] at hgood
  rw [m.strict_lenient, Bool.false_and, Bool.or_false]
  exact Bool.eq_false_iff.mpr fun h => by rw [hgood.1] at hj; exact absurd (hj h) Bool.false_ne_true

end Tables

/-- The decoder without the checks. -/
def Decoder.lenient (d : Decoder) : Decoder := { d with mode := d.mode.lenient }

/-- Strict and lenient decoding go on at the same place. -/
theorem Decoder.next_lenient {d : Decoder} (h : d.decode.1.length = d.lenient.decode.1.length) :
    d.decode.2.position = d.lenient.decode.2.position ∧
      d.decode.2.ip = d.lenient.decode.2.ip := by
  refine ⟨congrArg (d.position + ·) h, ?_⟩
  have hip : d.decode.1.ip = d.lenient.decode.1.ip :=
    (Tables.ip_record _ _ _ _).trans (Tables.ip_record _ _ _ _).symm
  show d.decode.1.nextIp = d.lenient.decode.1.nextIp
  rw [Instruction.nextIp, Instruction.nextIp, h, hip]

end OpcodeForest
