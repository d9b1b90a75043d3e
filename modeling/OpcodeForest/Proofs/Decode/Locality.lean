import OpcodeForest.Proofs.Decode.Moves

/-!
# An instruction is its own bytes

What is decoded depends on the bytes of the instruction only, not on the bytes after it. On fewer
bytes the instruction is not found. Calls of a decoder change its position and its address only.

* `read_local`: the bytes by which reading comes to a verdict, and what it does on others.
* `length_decode_le`: an instruction is no longer than the bytes there are.
* `decode_append`, `decode_truncated`: the instruction with other bytes after it, and cut short.
* `decode_of_verdict`: the record on a window, as seen from a longer one.
* `Decoder.Reaches.runCalls`: calls leave everything but position and address alone.
-/

namespace OpcodeForest

open HasState

namespace Tables

variable {t : Tables} {m : Mode}

theorem Terminates.walk_eq (ht : t.Terminates m) {window : List UInt8} {fuel : Nat}
    (hle : t.walkBound window.length ≤ fuel) :
    t.walk m fuel t.restart { pending := window } = t.read m window :=
  walk_of_le (ht window) hle

/-- A walk is followed by itself. -/
theorem follows_self (t : Tables) (m : Mode) (fuel : Nat) (window : List UInt8) :
    Follows { pending := window } (t.walk m fuel t.restart { pending := window }) fun p i =>
      t.walk m fuel t.restart (State.alter p i { pending := window }) :=
  follows_walk (.refl m) (fun id => Node.selectsAlike_refl m (t.forest.get id)) fuel t.restart _

/-- The number of bytes after which a walk came to a verdict. -/
def verdict : Except Stop State → Option Nat
  | .ok s => some s.used
  | .error (.rejected used) => some used
  | .error .starved | .error .circular => none

/-- The same outcome with other bytes left. -/
def leaving (p : List UInt8) : Except Stop State → Except Stop State
  | .ok s => .ok { s with pending := p }
  | .error e => .error e

/-- A walk comes to its verdict by the bytes `c`, whatever comes after them. -/
theorem walk_local {fuel : Nat} {window : List UInt8} {n : Nat}
    (hn : verdict (t.walk m fuel t.restart { pending := window }) = some n) :
    ∃ c, c <+: window ∧ c.length = n ∧
      (∀ p, t.walk m fuel t.restart { pending := c ++ p }
        = leaving p (t.walk m fuel t.restart { pending := window })) ∧
      ∀ k < n, t.walk m fuel t.restart { pending := c.take k } = .error .starved := by
  have hfollows := follows_self t m fuel window false (fun h => nomatch h)
  cases hw : t.walk m fuel t.restart { pending := window } with
  | ok s =>
      rw [hw] at hfollows hn
      obtain ⟨c, j, hc⟩ := hfollows
      obtain rfl : c.length = n := by
        rw [← Option.some.inj hn]; exact (hc.used.trans (Nat.zero_add _)).symm
      exact ⟨c, ⟨s.pending, hc.pending.symm⟩, rfl, hc.follows_self hw, hc.starves⟩
  | error e =>
      rw [hw] at hfollows hn
      cases e with
      | starved | circular => cases hn
      | rejected used =>
          obtain ⟨c, hc⟩ := hfollows
          obtain rfl : c.length = n := by
            rw [← Option.some.inj hn]; exact (hc.used.trans (Nat.zero_add _)).symm
          exact ⟨c, hc.ahead, rfl, hc.follows, hc.starves⟩

/-- **The bytes of an instruction.** Reading comes to its verdict by the bytes `c`; whatever comes
after them, the verdict is the same, and on fewer bytes the reader starves. -/
theorem read_local (ht : t.Terminates m) {window : List UInt8} {n : Nat}
    (hn : verdict (t.read m window) = some n) : ∃ c, c <+: window ∧ c.length = n ∧
      (∀ p, t.read m (c ++ p) = leaving p (t.read m window)) ∧
      ∀ k < n, t.read m (c.take k) = .error .starved := by
  obtain ⟨c, hc, hlen, -, -⟩ := walk_local hn
  -- another window is compared under fuel that is enough for both
  have hother : ∀ fuel, t.walkBound window.length ≤ fuel →
      (∀ p, t.walk m fuel t.restart { pending := c ++ p } = leaving p (t.read m window)) ∧
      ∀ k < n, t.walk m fuel t.restart { pending := c.take k } = .error .starved := by
    intro fuel hle
    have hwalk := ht.walk_eq hle
    obtain ⟨c', hc', hlen', hfollows, hstarves⟩ := walk_local ((congrArg verdict hwalk).trans hn)
    obtain rfl : c = c' := (List.prefix_of_prefix_length_le hc hc' (by omega)).eq_of_length
      (hlen.trans hlen'.symm)
    exact ⟨fun p => hwalk ▸ hfollows p, hstarves⟩
  refine ⟨c, hc, hlen, fun p => ?_, fun k hk => ?_⟩
  · rw [← ht.walk_eq (Nat.le_max_right (t.walkBound window.length) _)]
    exact (hother _ (Nat.le_max_left _ _)).1 p
  · rw [← ht.walk_eq (Nat.le_max_right (t.walkBound window.length) _)]
    exact (hother _ (Nat.le_max_left _ _)).2 k hk

/-! ### Records -/

/-- The record of an outcome on a window of `n` bytes. -/
def record (m : Mode) (ip : UInt64) (n : Nat) : Except Stop State → Instruction
  | .ok s => s.finish m ip
  | .error (.rejected used) => .bad used ip
  | .error .starved | .error .circular => .bad n ip

theorem decode_eq_record (t : Tables) (m : Mode) (ip : UInt64) (bytes : List UInt8) :
    t.decode m ip bytes
      = record m ip (bytes.take maxLength).length (t.read m (bytes.take maxLength)) := rfl

theorem record_leaving (m : Mode) (ip : UInt64) (n : Nat) (p : List UInt8) (r : Except Stop State) :
    record m ip n (leaving p r) = record m ip n r := by
  rcases r with (_ | _ | _) | s <;> rfl

/-- The length of the window counts only where no verdict is reached. -/
theorem record_of_verdict {r : Except Stop State} {used : Nat} (h : verdict r = some used)
    (m : Mode) (ip : UInt64) (n n' : Nat) : record m ip n r = record m ip n' r := by
  rcases r with (_ | _ | _) | s
  · cases h
  · rfl
  · cases h
  · rfl

theorem length_finish (m : Mode) (ip : UInt64) (s : State) : (s.finish m ip).length = s.used := by
  unfold State.finish
  split <;> rfl

theorem length_record (m : Mode) (ip : UInt64) (n : Nat) (r : Except Stop State) :
    (record m ip n r).length = (verdict r).getD n := by
  rcases r with (_ | _ | _) | s
  · rfl
  · rfl
  · rfl
  · exact length_finish m ip s

theorem ip_record (m : Mode) (ip : UInt64) (n : Nat) (r : Except Stop State) :
    (record m ip n r).ip = ip := by
  rcases r with (_ | _ | _) | s
  · rfl
  · rfl
  · rfl
  · show (s.finish m ip).ip = ip
    unfold State.finish
    split <;> rfl

/-- An instruction is no longer than its window. -/
theorem length_decode_le_window (t : Tables) (m : Mode) (ip : UInt64) (bytes : List UInt8) :
    (t.decode m ip bytes).length ≤ (bytes.take maxLength).length := by
  rw [decode_eq_record, length_record]
  cases hn : verdict (t.read m (bytes.take maxLength)) with
  | none => exact Nat.le_refl _
  | some n =>
      obtain ⟨c, hc, hlen, -⟩ := walk_local hn
      exact hlen ▸ hc.length_le

/-- An instruction is no longer than the bytes there are. -/
theorem length_decode_le (t : Tables) (m : Mode) (ip : UInt64) (bytes : List UInt8) :
    (t.decode m ip bytes).length ≤ bytes.length :=
  Nat.le_trans (t.length_decode_le_window m ip bytes) (List.length_take_le' _ _)

/-- The bytes `c` of a verdict, as the first ones of all. -/
theorem verdict_bytes (ht : t.Terminates m) {bytes : List UInt8} {n : Nat}
    (hn : verdict (t.read m (bytes.take maxLength)) = some n) :
      n ≤ (bytes.take maxLength).length ∧
      (∀ p, t.read m (bytes.take n ++ p) = leaving p (t.read m (bytes.take maxLength))) ∧
      ∀ k < n, t.read m (bytes.take k) = .error .starved := by
  obtain ⟨c, hc, rfl, hfollows, hstarves⟩ := read_local ht hn
  obtain ⟨rest, hrest⟩ := hc.trans (List.take_prefix _ _)
  have htake : ∀ k ≤ c.length, bytes.take k = c.take k := fun k hk => by
    rw [← hrest, List.take_append_of_le_length hk]
  refine ⟨hc.length_le, fun p => ?_, fun k hk => ?_⟩
  · rw [htake _ (Nat.le_refl _), List.take_length]
    exact hfollows p
  · rw [htake k (Nat.le_of_lt hk)]
    exact hstarves k hk

/-- **Bytes after the instruction do not matter.** -/
theorem decode_append (ht : t.Terminates m) {bytes : List UInt8} {n : Nat}
    (hn : verdict (t.read m (bytes.take maxLength)) = some n) (ip : UInt64) (e : List UInt8) :
    t.decode m ip (bytes.take n ++ e) = t.decode m ip bytes := by
  obtain ⟨hle, hfollows, -⟩ := verdict_bytes ht hn
  have hwindow : (bytes.take n ++ e).take maxLength
      = bytes.take n ++ e.take (maxLength - (bytes.take n).length) := by
    rw [List.length_take] at hle
    rw [List.take_append, List.take_take, Nat.min_eq_right (by omega)]
  rw [decode_eq_record, hwindow, hfollows, record_leaving, decode_eq_record]
  exact record_of_verdict hn m ip _ _

/-- **On fewer bytes the instruction is not found.** -/
theorem decode_truncated (ht : t.Terminates m) {bytes : List UInt8} {n : Nat}
    (hn : verdict (t.read m (bytes.take maxLength)) = some n) (ip : UInt64) {k : Nat} (hk : k < n) :
    t.decode m ip (bytes.take k) = .bad k ip := by
  obtain ⟨hle, -, hstarves⟩ := verdict_bytes ht hn
  rw [List.length_take] at hle
  have hwindow : (bytes.take k).take maxLength = bytes.take k := by
    rw [List.take_take, Nat.min_eq_right (by omega)]
  rw [decode_eq_record, hwindow, hstarves k hk, List.length_take, Nat.min_eq_left (by omega)]
  rfl

/-- The record of an outcome on a longer window, as seen from a window of `n` bytes. -/
theorem decode_of_verdict (ht : t.Terminates m) {bytes p : List UInt8} {n : Nat}
    (hn : verdict (t.read m (bytes.take maxLength ++ p)) = some n) (ip : UInt64) :
    t.decode m ip bytes = if n ≤ (bytes.take maxLength).length
      then record m ip n (t.read m (bytes.take maxLength ++ p))
      else .bad (bytes.take maxLength).length ip := by
  obtain ⟨c, ⟨rest, hc⟩, rfl, hfollows, hstarves⟩ := read_local ht hn
  rw [decode_eq_record]
  generalize bytes.take maxLength = window at *
  split
  · rename_i hle
    obtain ⟨q, rfl⟩ : ∃ q, window = c ++ q :=
      (List.prefix_of_prefix_length_le ⟨rest, hc⟩ ⟨p, rfl⟩ hle).imp fun _ h => h.symm
    rw [hfollows, record_leaving]
    exact record_of_verdict hn m ip _ _
  · rename_i hlt
    have hwindow : c.take window.length = window := by
      have htake := congrArg (List.take window.length) hc
      rw [List.take_append_of_le_length (by omega), List.take_left] at htake
      exact htake
    have hread := hstarves window.length (by omega)
    rw [hwindow] at hread
    rw [hread]
    rfl

/-- The bytes start with an instruction, whose record is not marked invalid. -/
def accepts (t : Tables) (m : Mode) (bytes : List UInt8) : Bool :=
  match t.read m (bytes.take maxLength) with
  | .ok s => !(s.invalid || m.strict && s.strayLock)
  | .error _ => false

theorem accepts_iff {bytes : List UInt8} : t.accepts m bytes ↔
    ∃ s, t.read m (bytes.take maxLength) = .ok s ∧
      (s.invalid || m.strict && s.strayLock) = false := by
  unfold accepts
  cases t.read m (bytes.take maxLength) with
  | error e => exact ⟨nofun, fun ⟨_, h, _⟩ => nomatch h⟩
  | ok s => simp only [Bool.not_eq_true', Except.ok.injEq, exists_eq_left']

theorem accepts_of_not_isInvalid {ip : UInt64} {bytes : List UInt8}
    (h : ¬ (t.decode m ip bytes).isInvalid) : t.accepts m bytes := by
  rw [decode_eq_record] at h
  rcases hr : t.read m (bytes.take maxLength) with (_ | _ | _) | s
  · rw [hr] at h; exact absurd rfl h
  · rw [hr] at h; exact absurd rfl h
  · rw [hr] at h; exact absurd rfl h
  · refine accepts_iff.mpr ⟨s, hr, Bool.eq_false_iff.mpr fun hbad => h ?_⟩
    rw [hr, record, State.finish, if_pos hbad]
    rfl

/-- What is accepted comes to its verdict by the bytes of the record. -/
theorem verdict_of_accepts {bytes : List UInt8} (h : t.accepts m bytes) (ip : UInt64) :
    verdict (t.read m (bytes.take maxLength)) = some (t.decode m ip bytes).length := by
  obtain ⟨s, hr, -⟩ := accepts_iff.mp h
  rw [decode_eq_record, length_record, hr]
  rfl

/-- A new decoder over `data`, whose first byte is at `ip`. -/
def decoder (t : Tables) (m : Mode) (data : List UInt8) (ip : UInt64) : Decoder :=
  { tables := t, mode := m, data, ip }

end Tables

/-! ### Decoders -/

namespace Decoder

/-- The calls that move a decoder. A record that is written over counts as decoded anew. -/
inductive Call where
  | decode
  | decodeOut (record : Instruction)
  | next
  | setIp (ip : UInt64)
  | setPosition (n : Nat)

namespace Call

/-- The decoder after a call. -/
def run : Call → Decoder → Decoder
  | decode, d | decodeOut _, d => d.decode.2
  | next, d => (d.next?.map (·.2)).getD d
  | setIp ip, d => d.setIp ip
  | setPosition n, d => d.setPosition n

end Call

/-- The decoder after several calls. -/
def runCalls : List Call → Decoder → Decoder
  | [], d => d
  | call :: calls, d => runCalls calls (call.run d)

/-- The decoders that calls reach from `d`: only position and address differ, and the position is
one of the buffer. -/
structure Reaches (d d' : Decoder) : Prop where
  tables : d'.tables = d.tables
  mode : d'.mode = d.mode
  data : d'.data = d.data
  position : d'.position ≤ d'.data.length

theorem Reaches.decode {d d' : Decoder} (h : d.Reaches d') : d.Reaches d'.decode.2 where
  tables := h.tables
  mode := h.mode
  data := h.data
  position := by
    have hle := d'.tables.length_decode_le d'.mode d'.ip (d'.data.drop d'.position)
    have hposition := h.position
    rw [List.length_drop] at hle
    show d'.position + (d'.tables.decode d'.mode d'.ip (d'.data.drop d'.position)).length
      ≤ d'.data.length
    omega

theorem Reaches.run {d d' : Decoder} (h : d.Reaches d') (call : Call) :
    d.Reaches (call.run d') := by
  cases call with
  | decode | decodeOut => exact h.decode
  | next =>
      show d.Reaches ((d'.next?.map (·.2)).getD d')
      unfold next?
      split
      · exact h.decode
      · exact h
  | setIp ip => exact ⟨h.tables, h.mode, h.data, h.position⟩
  | setPosition n => exact ⟨h.tables, h.mode, h.data, Nat.min_le_right _ _⟩

theorem Reaches.runCalls {d : Decoder} : ∀ (calls : List Call) {d' : Decoder}, d.Reaches d' →
    d.Reaches (Decoder.runCalls calls d')
  | [], _, h => h
  | call :: calls, _, h => Reaches.runCalls calls (h.run call)

end Decoder

end OpcodeForest
