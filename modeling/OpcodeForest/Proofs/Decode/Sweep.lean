import Mathlib.Algebra.GroupWithZero.Nat
import OpcodeForest.Proofs.Corpus.Builtin

/-!
# Sweeps

Decoding one instruction after the other covers a buffer without gaps or overlaps. Each instruction
takes between one and fifteen bytes as long as there are bytes, so the sweep ends, and it ends
exactly at the end of the buffer.

* `length_decode_pos`: an instruction takes a byte at least.
* `Decoder.Tiles`: records that follow each other from a decoder to the end of its buffer.
* `Decoder.tiles_sweep`: the records of a sweep do.
* `sweep_tiles`: what follows for their number, lengths and addresses.
-/

namespace OpcodeForest

namespace Tables

variable {t : Tables} {m : Mode}

/-! ### The length of an instruction -/

theorem read_nil (t : Tables) (m : Mode) : t.read m [] = .error .starved := by
  have hfuel : t.walkBound ([] : List UInt8).length = t.forest.size + 1 + 1 := Nat.one_mul _
  rw [read, hfuel]
  rfl

theorem decode_nil (t : Tables) (m : Mode) (ip : UInt64) : t.decode m ip [] = .bad 0 ip := by
  rw [decode_eq_record, List.take_nil, read_nil]
  rfl

/-- **An instruction takes a byte at least**, if there is one. -/
theorem length_decode_pos (ht : t.Terminates m) (ip : UInt64) {bytes : List UInt8}
    (hbytes : bytes ≠ []) : 0 < (t.decode m ip bytes).length := by
  rw [decode_eq_record, length_record]
  cases hn : verdict (t.read m (bytes.take maxLength)) with
  | none =>
      obtain ⟨b, rest, rfl⟩ := List.exists_cons_of_ne_nil hbytes
      exact Nat.succ_pos _
  | some n =>
      by_contra hzero
      obtain rfl : n = 0 := Nat.eq_zero_of_not_pos hzero
      -- without a byte there would be no verdict
      obtain ⟨-, hfollows, -⟩ := verdict_bytes ht hn
      have hnil := hfollows []
      rw [List.take_zero, List.append_nil, read_nil] at hnil
      cases hr : t.read m (bytes.take maxLength) with
      | ok s => rw [hr] at hnil; cases hnil
      | error e =>
          rw [hr] at hnil hn
          cases hnil
          cases hn

theorem length_decode_le_maxLength (t : Tables) (m : Mode) (ip : UInt64) (bytes : List UInt8) :
    (t.decode m ip bytes).length ≤ maxLength :=
  Nat.le_trans (t.length_decode_le_window m ip bytes) (List.length_take_le _ _)

theorem ip_decode (t : Tables) (m : Mode) (ip : UInt64) (bytes : List UInt8) :
    (t.decode m ip bytes).ip = ip := by
  rw [decode_eq_record, ip_record]

end Tables

/-! ### One instruction after the other -/

namespace Decoder

variable {d d' : Decoder} {i : Instruction} {l : List Instruction}

theorem next?_eq_none_iff : d.next? = none ↔ d.data.length ≤ d.position := by
  simp [next?, canDecode]

theorem next?_of_lt (h : d.position < d.data.length) : d.next? = some d.decode := by
  simp [next?, canDecode, h]

/-- At the end of the buffer a decoder stays where it is. -/
theorem decode_at_end (h : d.data.length ≤ d.position) : d.decode = (.bad 0 d.ip, d) := by
  have hbytes : d.data.drop d.position = [] := List.drop_eq_nil_of_le h
  have hip : (Instruction.bad 0 d.ip).nextIp = d.ip := UInt64.add_zero d.ip
  rw [decode, hbytes, Tables.decode_nil, hip]
  rfl

theorem ip_decode (d : Decoder) : d.decode.1.ip = d.ip := Tables.ip_decode _ _ _ _

/-- A call moves the decoder within its buffer, and by a byte at least. -/
theorem lt_position_decode (ht : d.tables.Terminates d.mode) (h : d.position < d.data.length) :
    d.position < d.decode.2.position := by
  have hbytes : d.data.drop d.position ≠ [] := by
    rw [Ne, List.drop_eq_nil_iff]
    exact Nat.not_le_of_lt h
  exact Nat.lt_add_of_pos_right (Tables.length_decode_pos ht d.ip hbytes)

theorem position_decode_le (h : d.position ≤ d.data.length) :
    d.decode.2.position ≤ d.data.length :=
  (Reaches.decode (d := d) ⟨rfl, rfl, rfl, h⟩).position

/-- The records that calls give one after the other, as long as bytes are left. -/
inductive Tiles : Decoder → List Instruction → Prop where
  | done {d : Decoder} (h : d.next? = none) : Tiles d []
  | more {d : Decoder} {l : List Instruction} (h : d.next? = some d.decode)
      (hl : Tiles d.decode.2 l) : Tiles d (d.decode.1 :: l)

/-- **A sweep has them all.** Each call takes a byte at least, so there are no more calls than
bytes. -/
theorem tiles_take (n : Nat) : ∀ {d : Decoder}, d.tables.Terminates d.mode →
    d.data.length - d.position ≤ n → d.Tiles (d.take n) := by
  induction n with
  | zero =>
      intro d _ hn
      exact .done (next?_eq_none_iff.mpr (Nat.le_of_sub_eq_zero (Nat.eq_zero_of_le_zero hn)))
  | succ n ih =>
      intro d ht hn
      by_cases hlt : d.position < d.data.length
      · have hnext := next?_of_lt hlt
        have hmoved := lt_position_decode ht hlt
        have htiles : d.decode.2.Tiles (d.decode.2.take n) := by
          refine ih ht ?_
          show d.data.length - d.decode.2.position ≤ n
          omega
        rw [take, hnext]
        exact .more hnext htiles
      · have hnext := next?_eq_none_iff.mpr (Nat.le_of_not_lt hlt)
        rw [take, hnext]
        exact .done hnext

theorem tiles_sweep (ht : d.tables.Terminates d.mode) : d.Tiles d.sweep :=
  tiles_take _ ht (Nat.le_refl _)

namespace Tiles

/-- The `n`-th call gives the `n`-th record, and after the last one there is nothing. -/
theorem next?_runCalls (h : d.Tiles l) (n : Nat) :
    (runCalls (List.replicate n .next) d).next?.map (·.1) = l[n]? := by
  induction h generalizing n with
  | @done d h =>
      have hstays : ∀ n, runCalls (List.replicate n .next) d = d := by
        intro n
        induction n with
        | zero => rfl
        | succ n ih => rw [List.replicate_succ, runCalls, Call.run, h]; exact ih
      rw [hstays, h]
      rfl
  | more h _ ih =>
      cases n with
      | zero => exact congrArg _ h
      | succ n =>
          rw [List.replicate_succ, runCalls, Call.run, h]
          exact ih n

/-- The lengths add up to the rest of the buffer. -/
theorem sum_length (h : d.Tiles l) (hd : d.position ≤ d.data.length) :
    d.position + (l.map (·.length)).sum = d.data.length := by
  induction h with
  | done h => exact Nat.le_antisymm hd (next?_eq_none_iff.mp h)
  | @more d l h _ ih =>
      rw [List.map_cons, List.sum_cons, ← Nat.add_assoc]
      exact ih (position_decode_le hd)

/-- The addresses are those of the first bytes. -/
theorem ip_eq (h : d.Tiles l) {n : Nat} {i : Instruction} (hi : l[n]? = some i) :
    i.ip = d.ip + UInt64.ofNat ((l.take n).map (·.length)).sum := by
  induction h generalizing n with
  | done h => cases hi
  | @more d l h _ ih =>
      cases n with
      | zero =>
          obtain rfl := Option.some.inj hi
          exact (ip_decode d).trans (UInt64.add_zero _).symm
      | succ n =>
          rw [List.take_succ_cons, List.map_cons, List.sum_cons, UInt64.ofNat_add,
            ← UInt64.add_assoc, ih hi]
          exact congrArg (· + _ + _) (ip_decode d)

/-- Where an instruction ends the next one starts. -/
theorem isChain (h : d.Tiles l) : l.IsChain fun i j => i.nextIp = j.ip := by
  induction h with
  | done h => exact .nil
  | @more d l h hl ih =>
      cases hl with
      | done h => exact .singleton _
      | @more d' l' h' hl => exact .cons_cons (ip_decode d.decode.2).symm ih

end Tiles

end Decoder

/-- The built-in tables load, and every walk through them ends. -/
theorem builtin_terminates : ∃ t, Tables.builtin = .ok t ∧ ∀ m, t.Terminates m := by
  obtain ⟨t, ht, -⟩ := builtin_loads
  obtain ⟨b, -, hload⟩ := bind_eq_ok_iff.mp ht
  exact ⟨t, ht, (Tables.load_wellFormed hload).terminates⟩

/-- **A sweep tiles the buffer**, in tables where every walk ends; the built-in ones are such
tables. A call takes at most fifteen bytes of those that are left, and one at least; at the end of
the buffer it gives an invalid record of length 0 and moves nothing. The records of a sweep are
what the calls give, each starts where the one before it ends, and together they are as long as
the buffer. -/
theorem sweep_tiles : (∃ t, Tables.builtin = .ok t ∧ ∀ m, t.Terminates m) ∧
    ∀ d : Decoder, d.tables.Terminates d.mode → d.position ≤ d.data.length →
      (d.decode.2.position ≤ d.data.length ∧
        d.decode.2.position = d.position + d.decode.1.length ∧ d.decode.1.length ≤ 15 ∧
        (d.canDecode → 1 ≤ d.decode.1.length) ∧
        (¬ d.canDecode → d.decode = (.bad 0 d.ip, d))) ∧
      (∀ n, (Decoder.runCalls (List.replicate n .next) d).next?.map (·.1) = d.sweep[n]?) ∧
      d.position + (d.sweep.map (·.length)).sum = d.data.length ∧
      (∀ (n : Nat) (i : Instruction), d.sweep[n]? = some i →
        i.ip = d.ip + UInt64.ofNat ((d.sweep.take n).map (·.length)).sum) ∧
      d.sweep.IsChain fun i j => i.nextIp = j.ip := by
  refine ⟨builtin_terminates, fun d ht hd => ?_⟩
  have htiles := d.tiles_sweep ht
  refine ⟨⟨Decoder.position_decode_le hd, rfl, Tables.length_decode_le_maxLength _ _ _ _,
    fun hcan => ?_, fun hend => ?_⟩, htiles.next?_runCalls, htiles.sum_length hd,
    fun _ _ hi => htiles.ip_eq hi, htiles.isChain⟩
  · exact Nat.pos_of_lt_add_right (Decoder.lt_position_decode ht (of_decide_eq_true hcan))
  · exact Decoder.decode_at_end (Nat.le_of_not_lt (of_decide_eq_false (Bool.eq_false_iff.mpr hend)))

/-- Three instructions of the small tables, the last one cut short, from an address where the
counting starts again. -/
theorem sweep_tiles_small :
    let d := smallTables.decoder { bitness := .bits64, options := {} } [16, 7, 240, 16, 7, 16]
      18446744073709551615
    d.tables.Terminates d.mode ∧ d.sweep.length = 3 ∧ (d.sweep.map (·.length)).sum = 6 ∧
      (∀ i, d.sweep[2]? = some i → i.ip = 4) ∧
      (Decoder.runCalls [.next, .next, .next] d).next? = none := by
  intro d
  have ht : d.tables.Terminates d.mode := (Tables.load_wellFormed load_smallBlobs).terminates _
  obtain ⟨-, hcalls, hsum, hip, -⟩ := sweep_tiles.2 d ht (Nat.zero_le _)
  have hlength : d.sweep.length = 3 := by decide
  have htake : ((d.sweep.take 2).map (·.length)).sum = 5 := by decide
  refine ⟨ht, hlength, (Nat.zero_add _).symm.trans hsum, fun i hi => ?_, ?_⟩
  · rw [hip 2 i hi, htake]
    decide
  · have hnone := hcalls 3
    rw [List.getElem?_eq_none (Nat.le_of_eq hlength)] at hnone
    exact Option.map_eq_none_iff.mp hnone

end OpcodeForest
