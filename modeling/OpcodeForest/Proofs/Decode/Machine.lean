import OpcodeForest.Machine
import OpcodeForest.Proofs.Decode.Locality

/-!
# Machines and decoders

A `Machine` works on a state of its own and reads zeros after its window, move by move. While it
reads an instruction, its position and its mark follow from the number of bytes that were asked
for. So each of its moves is a move of the walk over the window and as many zeros as there may be,
and a call that returns gives the record of `Tables.decode` and moves as a `Decoder` does.

What a call shows depends on the bytes ahead and the address, not on what the machine was left with
and not on the record that it is given.

* `move_eq_ok`, `run_eq_ok`: a move, and all moves, of a machine as moves of a walk.
* `decodeOut_eq_ok`, `decoder_runCalls`: a machine refines a decoder.
* `Alike.run`, `outcome_eq`: machines that see the same do the same.
* `decode_local`: decoding depends on the instruction's own bytes.
-/

namespace OpcodeForest

namespace Machine

variable {x y z : Machine} {next next' : Next}

/-! ### In the middle of an instruction -/

/-- All bytes of the window. -/
def bytes (x : Machine) : List UInt8 := (x.data.take x.limit).drop x.start

theorem length_bytes (x : Machine) : x.bytes.length = x.limit - x.start := by
  rw [bytes, List.length_drop, List.length_take, Nat.min_eq_left x.limit_le]

/-- Position and mark say how many bytes were asked for since the start. -/
structure Reading (x : Machine) : Prop where
  start_le : x.start ≤ x.limit
  position : x.position = x.start + min x.state.used x.bytes.length
  ended : x.ended = decide (x.bytes.length < x.state.used)

/-- `y` goes on with the instruction of `x`. -/
structure Continues (x y : Machine) : Prop where
  tables : y.tables = x.tables
  mode : y.mode = x.mode
  sums : y.sums = x.sums
  data : y.data = x.data
  ip : y.ip = x.ip
  start : y.start = x.start
  limit : y.limit = x.limit

theorem Continues.refl (x : Machine) : x.Continues x := ⟨rfl, rfl, rfl, rfl, rfl, rfl, rfl⟩

theorem Continues.trans (h : x.Continues y) (h' : y.Continues z) : x.Continues z where
  tables := h'.tables.trans h.tables
  mode := h'.mode.trans h.mode
  sums := h'.sums.trans h.sums
  data := h'.data.trans h.data
  ip := h'.ip.trans h.ip
  start := h'.start.trans h.start
  limit := h'.limit.trans h.limit

/-- A machine keeps the bytes of its instruction. -/
theorem Continues.bytes (h : x.Continues y) : y.bytes = x.bytes := by
  rw [Machine.bytes, Machine.bytes, h.data, h.start, h.limit]

theorem continues_advance (x : Machine) (s : State) : x.Continues (x.advance s) :=
  ⟨rfl, rfl, rfl, rfl, rfl, rfl, rfl⟩

/-- The bytes ahead are those of the window that have not been asked for. -/
theorem Reading.window (h : x.Reading) : x.window = x.bytes.drop x.state.used := by
  rw [Machine.window, h.position, ← List.drop_drop]
  show x.bytes.drop _ = _
  rcases Nat.le_total x.state.used x.bytes.length with hle | hle
  · rw [Nat.min_eq_left hle]
  · rw [Nat.min_eq_right hle, List.drop_length, List.drop_eq_nil_of_le hle]

/-- Positions move on with the count of bytes. -/
theorem Reading.advance (h : x.Reading) {s : State} (hused : x.state.used ≤ s.used) :
    (x.advance s).Reading where
  start_le := h.start_le
  position := by
    have hstart := h.start_le
    have hposition := h.position
    have hlength : (x.advance s).bytes.length = x.bytes.length := rfl
    show min (x.position + (s.used - x.state.used)) x.limit = x.start + min s.used _
    rw [x.length_bytes] at hposition
    rw [hlength, x.length_bytes]
    omega
  ended := by
    have hstart := h.start_le
    have hposition := h.position
    have hlength : (x.advance s).bytes.length = x.bytes.length := rfl
    show (x.ended || decide (x.limit < x.position + (s.used - x.state.used)))
      = decide (_ < s.used)
    rw [x.length_bytes] at hposition
    rw [h.ended, hlength, x.length_bytes, ← Bool.decide_or]
    exact decide_eq_decide.mpr (by omega)

/-- Padding can be added in steps. -/
theorem look_add (n k : Nat) (x : Machine) : x.look (n + k) = Tables.padded k (x.look n) := by
  rw [look, look, Tables.padded, List.append_assoc, List.replicate_append_replicate]

/-- What is ahead after the bytes `c` have been read, of the window or of the zeros after it. -/
theorem Reading.look_advance (h : x.Reading) {s : State} {c : List UInt8} {n : Nat}
    (hpending : (x.look n).pending = c ++ s.pending) (hused : s.used = x.state.used + c.length) :
    ∃ k, s = (x.advance s).look k := by
  have hwindow : (x.advance s).window = x.window.drop c.length := by
    rw [(h.advance (hused ▸ Nat.le_add_right _ _)).window, h.window, List.drop_drop, ← hused]
    rfl
  have hrest : s.pending = x.window.drop c.length
      ++ List.replicate (n - (c.length - x.window.length)) 0 := by
    have hdrop := congrArg (List.drop c.length) hpending
    rw [List.drop_left, look, List.drop_append, List.drop_replicate] at hdrop
    exact hdrop.symm
  refine ⟨n - (c.length - x.window.length), ?_⟩
  rw [look, hwindow, ← hrest]
  rfl

/-! ### Moves and runs -/

/-- What a walk comes to when the machine comes to `y`. -/
def Agrees (y : Machine) (r : Except Stop State) : Prop :=
  (∃ k, r = .ok (y.look k)) ∨ y.state.invalid = true ∧ r = .error (.rejected y.state.used)

/-- A move of the tables is a move of a walk, or it finds that a node has no meaning. -/
theorem tables_move_eq_ok {t : Tables} {m : Mode} {sums : Sums} {s : State} {b : State × Next}
    (h : t.move m sums next s = .ok b) : t.dispatch m next s = .ok b ∨
      ∃ used, t.dispatch m next s = .error (.rejected used) ∧
        b = ({ s with used, invalid := true }, .done) := by
  rw [Tables.move] at h
  split at h
  · cases h
  · rcases hb : t.dispatch m next s with (_ | used | _) | b'
    · rw [hb] at h; cases h
    · rw [hb] at h; exact .inr ⟨used, rfl, (Except.ok.inj h).symm⟩
    · rw [hb] at h; cases h
    · rw [hb] at h; exact .inl (congrArg _ (Except.ok.inj h))

/-- **A move of a machine** is a move of the walk over the window and zeros, however many there are;
or the walk ends, for a node has no meaning. -/
theorem move_eq_ok (hx : x.Reading) (h : x.move next = .ok (y, next')) :
    x.Continues y ∧ y.Reading ∧
      ((∃ k, ∀ n, x.tables.dispatch x.mode next (x.look (Tables.moveBytes + n))
          = .ok (y.look (k + n), next')) ∨
        next' = .done ∧ y.state.invalid = true ∧
          ∀ n, x.tables.dispatch x.mode next (x.look (Tables.moveBytes + n))
            = .error (.rejected y.state.used)) := by
  obtain ⟨⟨s, next₁⟩, hmove, h⟩ := bind_eq_ok_iff.mp h
  obtain ⟨rfl, rfl⟩ := Prod.mk.inj (Except.ok.inj h)
  rcases tables_move_eq_ok hmove with hb | ⟨used, hb, hs⟩
  · obtain ⟨c, hpending, hused⟩ := Tables.used_of_dispatch hb
    have hused : s.used = x.state.used + c.length := hused
    obtain ⟨k, hk⟩ := hx.look_advance hpending hused
    refine ⟨x.continues_advance s, hx.advance (hused ▸ Nat.le_add_right _ _), .inl ⟨k, fun n => ?_⟩⟩
    rw [look_add, look_add, ← hk]
    exact Tables.dispatch_padded hb n
  · obtain ⟨rfl, rfl⟩ := Prod.mk.inj hs
    have hrejected := Tables.dispatch_rejected_padded hb
    refine ⟨x.continues_advance _, hx.advance (hrejected 0).1, .inr ⟨rfl, rfl, fun n => ?_⟩⟩
    rw [look_add]
    exact (hrejected n).2

theorem run_done (fuel : Nat) (x : Machine) : x.run fuel .done = .ok x := by
  cases fuel <;> rfl

theorem run_zero (hnext : next ≠ .done) (x : Machine) : x.run 0 next = .error .endless := by
  cases next with
  | done => exact absurd rfl hnext
  | child | lookup => rfl

/-- A run is a move and the rest of the run. -/
theorem run_succ (hnext : next ≠ .done) (fuel : Nat) (x : Machine) :
    x.run (fuel + 1) next = x.move next >>= fun b => b.1.run fuel b.2 := by
  cases next with
  | done => exact absurd rfl hnext
  | child | lookup => rfl

/-- **All moves of a machine**, as the walk over the window and enough zeros. -/
theorem run_eq_ok {fuel n : Nat} (hx : x.Reading) (h : x.run fuel next = .ok y)
    (hn : fuel * Tables.moveBytes ≤ n) :
    x.Continues y ∧ y.Reading ∧ y.Agrees (x.tables.walk x.mode fuel next (x.look n)) := by
  induction fuel generalizing next x n with
  | zero =>
      by_cases hnext : next = .done
      · subst hnext
        obtain rfl : x = y := Except.ok.inj ((run_done 0 x).symm.trans h)
        exact ⟨.refl x, hx, .inl ⟨n, rfl⟩⟩
      · rw [run_zero hnext] at h
        cases h
  | succ fuel ih =>
      by_cases hnext : next = .done
      · subst hnext
        obtain rfl : x = y := Except.ok.inj ((run_done _ x).symm.trans h)
        exact ⟨.refl x, hx, .inl ⟨n, rfl⟩⟩
      · rw [Nat.succ_mul] at hn
        obtain ⟨k, rfl⟩ : ∃ k, n = Tables.moveBytes + k := Nat.exists_eq_add_of_le (by omega)
        rw [run_succ hnext] at h
        obtain ⟨⟨z, next'⟩, hmove, h⟩ := bind_eq_ok_iff.mp h
        obtain ⟨hcontinues, hz, hmoves⟩ := move_eq_ok hx hmove
        rw [walk_eq_dispatch]
        rcases hmoves with ⟨k', hb⟩ | ⟨rfl, hinvalid, hb⟩
        · obtain ⟨hcontinues', hy, hagrees⟩ := ih hz h (n := k' + k) (by omega)
          rw [hcontinues.tables, hcontinues.mode] at hagrees
          rw [hb k]
          exact ⟨hcontinues.trans hcontinues', hy, hagrees⟩
        · obtain rfl : z = y := Except.ok.inj ((run_done _ z).symm.trans h)
          rw [hb k]
          exact ⟨hcontinues, hz, .inr ⟨hinvalid, rfl⟩⟩

/-! ### Decoding -/

/-- At the start of a call the window is laid out. -/
theorem bytes_restart (x : Machine) :
    x.restart.bytes = (x.data.drop x.position).take maxLength := by
  show (x.data.take (min x.data.length (x.position + maxLength))).drop x.position = _
  rw [List.drop_take, List.take_eq_take_iff, List.length_drop]
  omega

theorem reading_restart (x : Machine) : x.restart.Reading where
  start_le := Nat.le_min.mpr ⟨x.position_le, Nat.le_add_right _ _⟩
  position := by
    show x.position = x.position + min 0 _
    rw [Nat.zero_min, Nat.add_zero]
  ended := rfl

theorem look_restart (n : Nat) (x : Machine) : x.restart.look n
    = { pending := (x.data.drop x.position).take maxLength ++ List.replicate n 0 } := by
  rw [look, x.reading_restart.window, bytes_restart]
  rfl

/-- The length that a run found is its count. -/
theorem verdict_of_agrees {r : Except Stop State} (h : y.Agrees r) :
    Tables.verdict r = some y.state.used := by
  rcases h with ⟨k, rfl⟩ | ⟨-, rfl⟩ <;> rfl

/-- The record at the end of an instruction. -/
theorem fst_finish (hy : y.Reading) {r : Except Stop State} (h : y.Agrees r) :
    y.finish.1 = if y.state.used ≤ y.bytes.length
      then Tables.record y.mode y.ip y.state.used r else .bad y.bytes.length y.ip := by
  have hlength : y.position - y.start = min y.state.used y.bytes.length := by
    rw [hy.position, Nat.add_sub_cancel_left]
  show (if y.ended then _ else _) = _
  rw [hlength, hy.ended]
  split
  · rename_i hended
    rw [decide_eq_true_eq] at hended
    rw [if_neg (Nat.not_le_of_lt hended), Nat.min_eq_right (Nat.le_of_lt hended)]
  · rename_i hended
    rw [decide_eq_true_eq, Nat.not_lt] at hended
    rw [if_pos hended, Nat.min_eq_left hended]
    rcases h with ⟨k, rfl⟩ | ⟨hinvalid, rfl⟩
    · rfl
    · rw [State.finish, hinvalid]
      rfl

theorem length_fst_finish (y : Machine) : y.finish.1.length = y.position - y.start := by
  show (if y.ended then Instruction.bad _ _ else _).length = _
  split
  · rfl
  · exact Tables.length_finish _ _ _

/-- The decoder at the position and the address of a machine. -/
def decoder (x : Machine) : Decoder where
  tables := x.tables
  mode := x.mode
  data := x.data
  position := x.position
  ip := x.ip

/-- The moves of one call. -/
def walked (x : Machine) : Except Fault Machine :=
  x.restart.run (x.tables.walkBound (maxLength + 6)) x.tables.restart

/-- Of the machine that it is called on, and of the record, nothing is left when a call starts. -/
theorem decodeOut_eq (record : Instruction) (x : Machine) :
    x.decodeOut record = finish <$> x.walked := rfl

/-- A record comes from a walk that ended. -/
theorem exists_walked {record i : Instruction} (h : x.decodeOut record = .ok (i, y)) :
    ∃ z, x.walked = .ok z ∧ z.finish = (i, y) := by
  rw [decodeOut_eq] at h
  cases hz : x.walked with
  | error e => rw [hz] at h; cases h
  | ok z => rw [hz] at h; exact ⟨z, rfl, Except.ok.inj h⟩

/-- The moves of a call that returns are those that read an instruction from the window and zeros
after it. -/
theorem agrees_read (h : x.walked = .ok z) : x.restart.Continues z ∧ z.Reading ∧ ∃ zeros,
    z.Agrees (x.tables.read x.mode ((x.data.drop x.position).take maxLength ++ zeros)) := by
  obtain ⟨hcontinues, hz, hagrees⟩ := run_eq_ok x.reading_restart h (Nat.le_refl _)
  refine ⟨hcontinues, hz, List.replicate (x.tables.walkBound (maxLength + 6) * Tables.moveBytes) 0,
    ?_⟩
  rw [look_restart] at hagrees
  change z.Agrees (x.tables.walk x.mode _ x.tables.restart _) at hagrees
  generalize hfuel : x.tables.walkBound (maxLength + 6) = fuel at hagrees ⊢
  generalize (x.data.drop x.position).take maxLength = window at hagrees ⊢
  have hcircular : x.tables.walk x.mode fuel x.tables.restart
      { pending := window ++ List.replicate (fuel * Tables.moveBytes) 0 } ≠ .error .circular := by
    intro h
    have hverdict := verdict_of_agrees hagrees
    rw [h] at hverdict
    cases hverdict
  -- there are more zeros than moves, so reading an instruction has fuel enough for this walk
  have hle : fuel ≤ x.tables.walkBound
      (window ++ List.replicate (fuel * Tables.moveBytes) 0).length := by
    rw [List.length_append, List.length_replicate]
    calc fuel ≤ fuel * Tables.moveBytes := Nat.le_mul_of_pos_right _ (by decide)
      _ ≤ window.length + fuel * Tables.moveBytes + 1 := by omega
      _ ≤ _ := Nat.le_mul_of_pos_right _ (Nat.succ_pos _)
  rw [Tables.read, walk_of_le hcircular hle]
  exact hagrees

/-- **A call that returns does what a decoder does**, whatever the machine was left with and
whatever the record of the caller holds. -/
theorem decodeOut_eq_ok (ht : x.tables.Terminates x.mode) {record i : Instruction}
    (h : x.decodeOut record = .ok (i, y)) : (i, y.decoder) = x.decoder.decode := by
  obtain ⟨z, hwalked, hfinish⟩ := exists_walked h
  obtain ⟨hcontinues, hz, zeros, hagrees⟩ := agrees_read hwalked
  obtain rfl : z.finish.1 = i := congrArg Prod.fst hfinish
  obtain rfl : { z with ip := z.finish.1.nextIp } = y := congrArg Prod.snd hfinish
  have hi : z.finish.1 = x.tables.decode x.mode x.ip (x.data.drop x.position) := by
    rw [fst_finish hz hagrees, hcontinues.bytes, bytes_restart, hcontinues.mode, hcontinues.ip,
      Tables.decode_of_verdict ht (verdict_of_agrees hagrees)]
    rfl
  have hposition : x.position + z.finish.1.length = z.position := by
    have hstart : z.start = x.position := hcontinues.start
    rw [length_fst_finish, hz.position, hstart]
    omega
  refine Prod.ext hi ?_
  show Decoder.mk z.tables z.mode z.data z.position z.finish.1.nextIp = Decoder.mk x.tables x.mode
    x.data (x.position + (x.tables.decode x.mode x.ip (x.data.drop x.position)).length)
    (x.tables.decode x.mode x.ip (x.data.drop x.position)).nextIp
  rw [← hi, hposition, hcontinues.tables, hcontinues.mode, hcontinues.data]
  rfl

theorem sums_decodeOut {record i : Instruction} (h : x.decodeOut record = .ok (i, y)) :
    y.sums = x.sums := by
  obtain ⟨z, hwalked, hfinish⟩ := exists_walked h
  obtain rfl : z.finish.2 = y := congrArg Prod.snd hfinish
  exact (agrees_read hwalked).1.sums

/-! ### Calls -/

/-- The machine after a call, if it returns. -/
def call : Decoder.Call → Machine → Except Fault Machine
  | .decode, x => do
      let (_, x) ← x.decode
      return x
  | .decodeOut record, x => do
      let (_, x) ← x.decodeOut record
      return x
  | .next, x => do
      match ← x.next? with
      | some (_, x) => return x
      | none => return x
  | .setIp ip, x => return x.setIp ip
  | .setPosition n, x => return x.setPosition n

/-- The machine after several calls, if they return. -/
def runCalls : List Decoder.Call → Machine → Except Fault Machine
  | [], x => .ok x
  | call :: calls, x => do
      let x ← x.call call
      runCalls calls x

theorem decoder_call (ht : x.tables.Terminates x.mode) {call : Decoder.Call}
    (h : x.call call = .ok y) : y.decoder = call.run x.decoder ∧ y.sums = x.sums := by
  cases call with
  | decode | decodeOut =>
      obtain ⟨⟨i, z⟩, hdecode, h⟩ := bind_eq_ok_iff.mp h
      obtain rfl := Except.ok.inj h
      exact ⟨congrArg Prod.snd (decodeOut_eq_ok ht hdecode), sums_decodeOut hdecode⟩
  | next =>
      obtain ⟨b, hnext, h⟩ := bind_eq_ok_iff.mp h
      rw [next?] at hnext
      show _ = (x.decoder.next?.map (·.2)).getD x.decoder ∧ _
      rw [Decoder.next?, show x.decoder.canDecode = x.canDecode from rfl]
      cases hcan : x.canDecode with
      | false =>
          rw [hcan] at hnext
          obtain rfl := Except.ok.inj hnext
          obtain rfl := Except.ok.inj h
          exact ⟨rfl, rfl⟩
      | true =>
          rw [hcan] at hnext
          obtain ⟨⟨i, z⟩, hdecode, hnext⟩ := bind_eq_ok_iff.mp hnext
          obtain rfl := Except.ok.inj hnext
          obtain rfl := Except.ok.inj h
          exact ⟨congrArg Prod.snd (decodeOut_eq_ok ht hdecode), sums_decodeOut hdecode⟩
  | setIp | setPosition =>
      obtain rfl := Except.ok.inj h
      exact ⟨rfl, rfl⟩

/-- **Calls that return lead where those of a decoder lead.** -/
theorem decoder_runCalls {calls : List Decoder.Call} (ht : x.tables.Terminates x.mode)
    (h : x.runCalls calls = .ok y) :
    y.decoder = Decoder.runCalls calls x.decoder ∧ y.sums = x.sums := by
  induction calls generalizing x with
  | nil =>
      obtain rfl := Except.ok.inj h
      exact ⟨rfl, rfl⟩
  | cons call calls ih =>
      obtain ⟨z, hcall, h⟩ := bind_eq_ok_iff.mp h
      obtain ⟨hz, hsums⟩ := decoder_call ht hcall
      have hreaches : x.decoder.Reaches z.decoder :=
        hz ▸ Decoder.Reaches.run ⟨rfl, rfl, rfl, x.position_le⟩ call
      have htables : z.tables = x.tables := hreaches.tables
      have hmode : z.mode = x.mode := hreaches.mode
      rw [Decoder.runCalls, ← hz, ← hsums]
      exact ih (htables ▸ hmode ▸ ht) h

/-! ### What a call shows -/

/-- Two machines in the middle of an instruction that see the same. -/
structure Alike (x y : Machine) : Prop where
  left : x.Reading
  right : y.Reading
  tables : x.tables = y.tables
  mode : x.mode = y.mode
  sums : x.sums = y.sums
  ip : x.ip = y.ip
  state : x.state = y.state
  bytes : x.bytes = y.bytes

theorem Alike.look (h : x.Alike y) (n : Nat) : x.look n = y.look n := by
  rw [Machine.look, Machine.look, h.left.window, h.right.window, h.state, h.bytes]

/-- Machines that look alike move alike. -/
theorem Alike.move (h : x.Alike y) (next : Next) :
    (∃ e, x.move next = .error e ∧ y.move next = .error e) ∨
      ∃ x' y' next', x.move next = .ok (x', next') ∧ y.move next = .ok (y', next') ∧
        x'.Alike y' := by
  have hmove : y.tables.move y.mode y.sums next (y.look Tables.moveBytes)
      = x.tables.move x.mode x.sums next (x.look Tables.moveBytes) := by
    rw [h.tables, h.mode, h.sums, h.look]
  cases hx : x.tables.move x.mode x.sums next (x.look Tables.moveBytes) with
  | error e =>
      rw [hx] at hmove
      exact .inl ⟨e, by rw [Machine.move, hx]; rfl, by rw [Machine.move, hmove]; rfl⟩
  | ok b =>
      rw [hx] at hmove
      have hx : x.move next = .ok (x.advance b.1, b.2) := by rw [Machine.move, hx]; rfl
      have hy : y.move next = .ok (y.advance b.1, b.2) := by rw [Machine.move, hmove]; rfl
      exact .inr ⟨_, _, _, hx, hy, (move_eq_ok h.left hx).2.1, (move_eq_ok h.right hy).2.1,
        h.tables, h.mode, h.sums, h.ip, rfl, h.bytes⟩

/-- **Machines that see the same do the same.** -/
theorem Alike.run {fuel : Nat} (h : x.Alike y) :
    (∃ e, x.run fuel next = .error e ∧ y.run fuel next = .error e) ∨
      ∃ x' y', x.run fuel next = .ok x' ∧ y.run fuel next = .ok y' ∧ x'.Alike y' := by
  induction fuel generalizing next x y with
  | zero =>
      by_cases hnext : next = .done
      · subst hnext
        exact .inr ⟨x, y, run_done 0 x, run_done 0 y, h⟩
      · exact .inl ⟨.endless, run_zero hnext x, run_zero hnext y⟩
  | succ fuel ih =>
      by_cases hnext : next = .done
      · subst hnext
        exact .inr ⟨x, y, run_done _ x, run_done _ y, h⟩
      · rw [run_succ hnext, run_succ hnext]
        rcases h.move next with ⟨e, hx, hy⟩ | ⟨x', y', next', hx, hy, h'⟩
        · rw [hx, hy]
          exact .inl ⟨e, rfl, rfl⟩
        · rw [hx, hy]
          exact ih h'

/-- At the end they have passed the same bytes, and the records are the same. -/
theorem Alike.finish (h : x.Alike y) :
    x.position - x.start = y.position - y.start ∧ x.finish.1 = y.finish.1 := by
  have hpassed : x.position - x.start = y.position - y.start := by
    rw [h.left.position, h.right.position, h.state, h.bytes, Nat.add_sub_cancel_left,
      Nat.add_sub_cancel_left]
  refine ⟨hpassed, ?_⟩
  show (if x.ended then _ else _) = if y.ended then _ else _
  rw [hpassed, h.left.ended, h.right.ended, h.state, h.bytes, h.mode, h.ip]

/-- What a call shows: the record, the number of bytes that it passes, and the address after
them. -/
def outcome (record : Instruction) (x : Machine) : Except Fault (Instruction × Nat × UInt64) := do
  let (i, y) ← x.decodeOut record
  return (i, y.position - x.position, y.ip)

/-- **What a call shows depends on the bytes ahead and the address**, and on how the machine is
built. -/
theorem outcome_eq (htables : x.tables = y.tables) (hmode : x.mode = y.mode)
    (hsums : x.sums = y.sums) (hip : x.ip = y.ip)
    (hbytes : x.data.drop x.position = y.data.drop y.position) (record record' : Instruction) :
    x.outcome record = y.outcome record' := by
  have hrestart : x.restart.Alike y.restart := ⟨x.reading_restart, y.reading_restart, htables,
    hmode, hsums, hip, rfl, by rw [bytes_restart, bytes_restart, hbytes]⟩
  have hy : y.walked = y.restart.run (x.tables.walkBound (maxLength + 6)) x.tables.restart := by
    rw [walked, htables]
  rw [outcome, outcome, decodeOut_eq, decodeOut_eq, hy]
  rcases hrestart.run with ⟨e, hx', hy'⟩ | ⟨x', y', hx', hy', h⟩
  · rw [walked, hx', hy']
    rfl
  · obtain ⟨hpassed, hfinish⟩ := h.finish
    have hx : x'.start = x.position := (run_eq_ok x.reading_restart hx' (Nat.le_refl _)).1.start
    have hy : y'.start = y.position := (run_eq_ok y.reading_restart hy' (Nat.le_refl _)).1.start
    rw [hx, hy] at hpassed
    rw [walked, hx', hy']
    show Except.ok (x'.finish.1, x'.position - x.position, x'.finish.1.nextIp)
      = .ok (y'.finish.1, y'.position - y.position, y'.finish.1.nextIp)
    rw [hpassed, hfinish]

end Machine

/-- A new machine over `data`, whose first byte is at `ip`. -/
def Tables.machine (t : Tables) (m : Mode) (sums : Sums) (data : List UInt8) (ip : UInt64) :
    Machine :=
  { tables := t, mode := m, sums, data, ip }

/-- **Decoding depends only on the instruction's own bytes.** After any calls a decoder goes on as a
new one over the rest of its buffer. Where an instruction is accepted, other bytes after it change
nothing, and on fewer bytes there is no instruction. A machine keeps a state from one call to the
next. After any calls it shows what a new one shows over the rest of its buffer, whatever the
records are that they write to, and where it returns it does what the decoder does. -/
theorem decode_local {t : Tables} {m : Mode} (ht : t.Terminates m) :
    (∀ (data : List UInt8) (ip : UInt64) (calls : List Decoder.Call),
      let d := Decoder.runCalls calls (t.decoder m data ip)
      let fresh := t.decoder m (data.drop d.position) d.ip
      d.position ≤ data.length ∧ d.decode.1 = fresh.decode.1 ∧
        d.decode.2.position = d.position + fresh.decode.2.position ∧
        d.decode.2.ip = fresh.decode.2.ip) ∧
    (∀ (ip : UInt64) (bytes : List UInt8), t.accepts m bytes →
      let record := (t.decoder m bytes ip).decode.1
      (∀ e, (t.decoder m (bytes.take record.length ++ e) ip).decode.1 = record) ∧
        ∀ k < record.length, (t.decoder m (bytes.take k) ip).decode.1 = .bad k ip) ∧
    (∀ (ip : UInt64) (bytes : List UInt8),
      ¬ (t.decoder m bytes ip).decode.1.isInvalid → t.accepts m bytes) ∧
    ∀ (sums : Sums) (data : List UInt8) (ip : UInt64) (calls : List Decoder.Call) (x : Machine),
      (t.machine m sums data ip).runCalls calls = .ok x →
      let fresh := t.machine m sums (data.drop x.position) x.ip
      x.decoder = Decoder.runCalls calls (t.decoder m data ip) ∧
      ∀ record record', x.outcome record = fresh.outcome record' ∧
        ∀ i y, x.decodeOut record = .ok (i, y) → (i, y.decoder) = x.decoder.decode := by
  refine ⟨fun data ip calls => ?_, fun ip bytes h => ?_,
    fun ip bytes h => t.accepts_of_not_isInvalid h, fun sums data ip calls x h => ?_⟩
  rotate_left
  · have hn := t.verdict_of_accepts h ip
    exact ⟨t.decode_append ht hn ip, fun k hk => t.decode_truncated ht hn ip hk⟩
  · obtain ⟨hx, hsums⟩ := Machine.decoder_runCalls (x := t.machine m sums data ip) ht h
    have hreaches : (t.decoder m data ip).Reaches x.decoder :=
      hx ▸ Decoder.Reaches.runCalls calls ⟨rfl, rfl, rfl, Nat.zero_le _⟩
    have htables : x.tables = t := hreaches.tables
    have hmode : x.mode = m := hreaches.mode
    have hdata : x.data = data := hreaches.data
    refine ⟨hx, fun record record' => ⟨?_, fun i y hy => ?_⟩⟩
    · refine Machine.outcome_eq (y := t.machine m sums (data.drop x.position) x.ip) htables hmode
        hsums rfl ?_ record record'
      rw [hdata]
      rfl
    · exact Machine.decodeOut_eq_ok (htables ▸ hmode ▸ ht) hy
  have hreaches : (t.decoder m data ip).Reaches (Decoder.runCalls calls (t.decoder m data ip)) :=
    .runCalls calls ⟨rfl, rfl, rfl, Nat.zero_le _⟩
  generalize Decoder.runCalls calls (t.decoder m data ip) = d at hreaches
  obtain ⟨tables, mode, data', position, ip'⟩ := d
  obtain ⟨rfl, rfl, rfl, hposition⟩ := hreaches
  exact ⟨hposition, rfl, by rw [Tables.decoder]; exact congrArg _ (Nat.zero_add _).symm, rfl⟩

/-- An instruction of two bytes in the small tables, alone and after other calls. A call at the
last byte has found the end of the buffer. -/
theorem decode_local_small :
    let m : Mode := { bitness := .bits64, options := {} }
    let record := (smallTables.decoder m [16, 7, 9] 5).decode.1
    let d := Decoder.runCalls [.next, .decode, .setPosition 1]
      (smallTables.decoder m [240, 16, 7, 9] 0)
    smallTables.Terminates m ∧ ¬ record.isInvalid ∧ record.length = 2 ∧
      (∀ e, (smallTables.decoder m ([16, 7] ++ e) 5).decode.1 = record) ∧
      (smallTables.decoder m [16] 5).decode.1 = .bad 1 5 ∧
      d.decode.1 = (smallTables.decoder m [16, 7, 9] d.ip).decode.1 ∧
      ∃ x, (smallTables.machine m .checked [240, 16, 7, 9] 0).runCalls
          [.setPosition 3, .decodeOut record, .setPosition 1] = .ok x ∧ x.ended ∧
        x.outcome record = (smallTables.machine m .checked [16, 7, 9] x.ip).outcome {} := by
  intro m record d
  have hterminates : smallTables.Terminates m :=
    (Tables.load_wellFormed load_smallBlobs).terminates m
  have hvalid : ¬ record.isInvalid := by decide
  have hlength : record.length = 2 := by decide
  obtain ⟨hcalls, haccepted, hvalid_accepted, hmachine⟩ := decode_local hterminates
  obtain ⟨happend, htruncated⟩ := haccepted 5 [16, 7, 9] (hvalid_accepted 5 _ hvalid)
  have hposition : d.position = 1 := by decide
  obtain ⟨-, hdecode, -⟩ := hcalls [240, 16, 7, 9] 0 [.next, .decode, .setPosition 1]
  have hrun : (match (smallTables.machine m .checked [240, 16, 7, 9] 0).runCalls
      [.setPosition 3, .decodeOut record, .setPosition 1] with
    | .ok x => x.ended && x.position == 1
    | .error _ => false) = true := by decide +kernel
  refine ⟨hterminates, hvalid, hlength, fun e => ?_, htruncated 1 (by decide), ?_, ?_⟩
  · have he := happend e
    rwa [show (smallTables.decoder m [16, 7, 9] 5).decode.1.length = 2 from hlength] at he
  · rwa [show (Decoder.runCalls _ _).position = 1 from hposition] at hdecode
  · cases hx : (smallTables.machine m .checked [240, 16, 7, 9] 0).runCalls
        [.setPosition 3, .decodeOut record, .setPosition 1] with
    | error e => rw [hx] at hrun; cases hrun
    | ok x =>
        rw [hx] at hrun
        obtain ⟨hended, hposition⟩ := Bool.and_eq_true_iff.mp hrun
        have houtcome := ((hmachine .checked _ 0 _ x hx).2 record {}).1
        rw [eq_of_beq hposition] at houtcome
        exact ⟨x, rfl, hended, houtcome⟩

end OpcodeForest
