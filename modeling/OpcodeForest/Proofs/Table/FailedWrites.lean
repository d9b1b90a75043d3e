import Mathlib.Data.List.Flatten
import OpcodeForest.Table.Writer

/-!
# Writes that fail

A call that fails gives no number to its record, so the calls after it write and number their
records as if it had not been made. What it has put out until then stays in the bytes: the kind of
the record at least, unless there was no room for another record to begin with.

* `WriteContext.record_inRoom`: a record itself never fails for want of room.
* `Writer.write_of_error`: what a failing call leaves behind.
* `Writer.calls_accepted`: the calls that succeed are the same without those that fail.
* `failed_writes`: what a sequence of calls has in common with that of its successful ones.
-/

namespace OpcodeForest

/-! ### Faults of a record -/

namespace Emission

variable {a b : Emission}

/-- The fault, if there is one, is no want of room. -/
def InRoom (e : Emission) : Prop := e.fault ≠ some .tooManySlots

theorem inRoom_ofBytes (bs : List UInt8) : (ofBytes bs).InRoom := by rintro ⟨⟩

theorem inRoom_fail {e : TableError} (h : e ≠ .tooManySlots) : (fail e).InRoom :=
  fun heq => h (Option.some.inj heq)

/-- A sequence fails for want of room only if a part of it does. -/
theorem InRoom.append (ha : a.InRoom) (hb : b.InRoom) : (a ++ b).InRoom := by
  obtain ⟨_, _ | _⟩ := a
  · exact hb
  · exact ha

theorem inRoom_concat {es : List Emission} (h : ∀ e ∈ es, e.InRoom) : (concat es).InRoom := by
  induction es with
  | nil => exact inRoom_ofBytes []
  | cons e es ih =>
      obtain ⟨he, hes⟩ := List.forall_mem_cons.mp h
      exact he.append (ih hes)

end Emission

namespace WriteContext

variable (c : WriteContext)

/-- A bad reference has faults of its own. -/
theorem reference_inRoom (tag slot : UInt8) (kind : SlotKind) :
    (c.reference tag slot kind).InRoom := by
  unfold reference
  split
  · exact Emission.inRoom_fail (by rintro ⟨⟩)
  · split
    · exact Emission.inRoom_ofBytes _
    · exact Emission.inRoom_fail (by rintro ⟨⟩)

theorem optional_inRoom (name : String) (tag : Option UInt8) : (c.optional name tag).InRoom := by
  cases tag with
  | none => exact Emission.inRoom_fail (by rintro ⟨⟩)
  | some tag => exact Emission.inRoom_ofBytes _

mutual

/-- An entry adds no record, so it cannot lack room for one. -/
theorem entry_inRoom : ∀ e : Entry, (c.entry e).InRoom
  | .invalid | .invalidPair => by rw [entry]; exact Emission.inRoom_ofBytes _
  | .invalidNoModRM | .null => by rw [entry]; exact c.optional_inRoom _ _
  | .ref slot => by rw [entry]; exact c.reference_inRoom _ _ _
  | .repeated count e => by
      rw [entry]
      refine (Emission.inRoom_ofBytes _).append ?_
      split
      · exact Emission.inRoom_fail (by rintro ⟨⟩)
      · exact entry_inRoom e
  | .node tag fields => by
      rw [entry]
      exact (Emission.inRoom_ofBytes _).append (fields_inRoom fields)

theorem field_inRoom : ∀ f : NodeField, (c.field f).InRoom
  | .code _ | .register _ | .tuple _ | .flag _ | .number _ | .byte _ => by
      rw [field]; exact Emission.inRoom_ofBytes _
  | .codes codes => by
      rw [field]
      split
      · exact Emission.inRoom_ofBytes _
      · exact Emission.inRoom_fail (by rintro ⟨⟩)
  | .child e => by
      rw [field]
      split
      · exact Emission.inRoom_fail (by rintro ⟨⟩)
      · exact entry_inRoom e
  | .table slot => by rw [field]; exact c.reference_inRoom _ _ _

theorem fields_inRoom : ∀ fs : List NodeField, (c.fields fs).InRoom
  | [] => by rw [fields]; exact Emission.inRoom_ofBytes []
  | f :: fs => by rw [fields]; exact (field_inRoom f).append (fields_inRoom fs)

end

theorem scalar_inRoom (e : Entry) : (c.scalar e).InRoom := by
  unfold scalar
  split
  · exact Emission.inRoom_fail (by rintro ⟨⟩)
  · exact c.entry_inRoom e

/-- A run is written as its entry, or as a repetition of it. -/
theorem run_inRoom (r : Entry × Nat) : (c.run r).InRoom := by
  unfold run
  split
  · exact c.entry_inRoom _
  · exact Emission.inRoom_ofBytes _
  · exact (Emission.inRoom_ofBytes _).append (c.scalar_inRoom _)

/-- **A record never fails for want of room.** -/
theorem record_inRoom (r : Record) : (c.record r).InRoom := by
  cases r with
  | handler e => exact (Emission.inRoom_ofBytes _).append (c.scalar_inRoom e)
  | array entries =>
      refine (Emission.inRoom_ofBytes _).append (Emission.inRoom_concat ?_)
      exact List.forall_mem_map.mpr fun r _ => c.run_inRoom r

/-- The kind of a record is put out whatever follows. -/
theorem record_bytes_ne_nil (r : Record) : (c.record r).bytes ≠ [] := by
  cases r <;> exact List.cons_ne_nil _ _

end WriteContext

/-! ### Calls -/

/-- A call of the writer: the record, what the call gives, and what it puts out. -/
structure Call where
  record : Record
  outcome : Except TableError UInt8
  bytes : List UInt8

namespace Writer

variable (w : Writer) (r : Record) (rs : List Record) (bs : List UInt8)

/-- The writer with other bytes before those it will write. -/
def withBytes : Writer := { w with bytes := bs }

/-- What a call puts out, up to its fault if there is one. -/
def emission : Emission :=
  if 256 ≤ w.slots.length then .fail .tooManySlots else w.context.record r

def call : Call := ⟨r, (w.write r).1, (w.emission r).bytes⟩

@[simp] theorem record_call : (w.call r).record = r := rfl

/-- The calls that write records in order. -/
def calls (w : Writer) : List Record → List Call
  | [] => []
  | r :: rs => w.call r :: (w.write r).2.calls rs

/-- The records of the calls that succeed. -/
def accepted : List Record := ((rs.zip (w.writeAll rs).1).filter (·.2.isOk)).map (·.1)

variable {w r rs} {e : TableError}

/-- **What a failing call leaves behind**: the bytes it has put out, and nothing else. -/
theorem write_of_fault (h : (w.emission r).fault = some e) :
    w.write r = (.error e, w.withBytes (w.bytes ++ (w.emission r).bytes)) := by
  unfold emission at h ⊢
  unfold write
  split at h
  · rename_i hfull
    obtain rfl := Option.some.inj h
    rw [if_pos hfull, if_pos hfull, Emission.fail, List.append_nil]
    rfl
  · rename_i hroom
    rw [if_neg hroom, if_neg hroom]
    dsimp only
    rw [h]
    rfl

/-- A call without a fault gives the next number. -/
theorem write_of_no_fault (h : (w.emission r).fault = none) :
    w.write r = (.ok (UInt8.ofNat w.slots.length),
      { w with bytes := w.bytes ++ (w.emission r).bytes, slots := w.slots ++ [r.kind] }) := by
  unfold emission at h ⊢
  unfold write
  split at h
  · cases h
  · rename_i hroom
    rw [if_neg hroom, if_neg hroom]
    dsimp only
    rw [h]

/-- What has been put out before does not matter for a call. -/
theorem write_withBytes : (w.withBytes bs).write r
    = ((w.write r).1, (w.write r).2.withBytes (bs ++ (w.call r).bytes)) := by
  cases h : (w.emission r).fault with
  | none => rw [write_of_no_fault h, write_of_no_fault (w := w.withBytes bs) h]; rfl
  | some e => rw [write_of_fault h, write_of_fault (w := w.withBytes bs) h]; rfl

theorem bytes_write : (w.write r).2.bytes = w.bytes ++ (w.call r).bytes :=
  congrArg (·.2.bytes) (write_withBytes w.bytes)

theorem call_withBytes : (w.withBytes bs).call r = w.call r := by
  rw [call, write_withBytes]
  rfl

/-- A record gets a number if its call succeeds. -/
theorem slots_write : (w.write r).2.slots
    = if (w.call r).outcome.isOk then w.slots ++ [r.kind] else w.slots := by
  rw [call]
  cases h : (w.emission r).fault with
  | none => rw [write_of_no_fault h]; rfl
  | some e => rw [write_of_fault h]; rfl

/-- A failing call changes nothing for the calls after it. -/
theorem write_of_error (h : (w.call r).outcome = .error e) :
    (w.write r).2 = w.withBytes (w.bytes ++ (w.call r).bytes) := by
  cases hfault : (w.emission r).fault with
  | none => rw [call, write_of_no_fault hfault] at h; cases h
  | some e => rw [write_of_fault hfault]; rfl

/-- A failing call that puts nothing out has failed for want of room. -/
theorem bytes_call_eq_nil_iff (h : (w.call r).outcome = .error e) :
    (w.call r).bytes = [] ↔ e = .tooManySlots := by
  have hfault : (w.emission r).fault = some e := by
    cases hfault : (w.emission r).fault with
    | none => rw [call, write_of_no_fault hfault] at h; cases h
    | some e' =>
        rw [call, write_of_fault hfault] at h
        rw [Except.error.inj h]
  by_cases hfull : 256 ≤ w.slots.length
  · rw [emission, if_pos hfull] at hfault
    refine iff_of_true ?_ (Option.some.inj hfault).symm
    rw [call, emission, if_pos hfull]
    rfl
  · rw [emission, if_neg hfull] at hfault
    refine iff_of_false ?_ fun he => w.context.record_inRoom r (he ▸ hfault)
    rw [call, emission, if_neg hfull]
    exact w.context.record_bytes_ne_nil r

/-! ### Sequences of calls -/

/-- So it does not matter for all the calls. -/
theorem calls_withBytes (rs : List Record) : ∀ (w : Writer) (bs : List UInt8),
    (w.withBytes bs).calls rs = w.calls rs := by
  induction rs with
  | nil => exact fun _ _ => rfl
  | cons r rs ih =>
      intro w bs
      rw [calls, calls, call_withBytes, write_withBytes, ih]

/-- There is one call for each record. -/
theorem records_calls (rs : List Record) : ∀ w : Writer, (w.calls rs).map Call.record = rs := by
  induction rs with
  | nil => exact fun _ => rfl
  | cons r rs ih =>
      intro w
      rw [calls, List.map_cons, ih, record_call]

/-- The answers of a sequence are those of its calls. -/
theorem outcomes_writeAll (rs : List Record) : ∀ w : Writer,
    (w.writeAll rs).1 = (w.calls rs).map Call.outcome := by
  induction rs with
  | nil => exact fun _ => rfl
  | cons r rs ih =>
      intro w
      rw [calls, List.map_cons, ← ih]
      rfl

/-- **The bytes of a sequence are those of its calls**, also of the calls that fail. -/
theorem bytes_writeAll (rs : List Record) : ∀ w : Writer,
    (w.writeAll rs).2.bytes = w.bytes ++ (w.calls rs).flatMap Call.bytes := by
  induction rs with
  | nil => exact fun w => (List.append_nil _).symm
  | cons r rs ih =>
      intro w
      rw [calls, List.flatMap_cons, ← List.append_assoc, ← bytes_write, ← ih]
      rfl

/-- The numbered records are those of the calls that succeed. -/
theorem slots_writeAll (rs : List Record) : ∀ w : Writer, (w.writeAll rs).2.slots
    = w.slots ++ ((w.calls rs).filter (·.outcome.isOk)).map (·.record.kind) := by
  induction rs with
  | nil => exact fun w => (List.append_nil _).symm
  | cons r rs ih =>
      intro w
      have hrest : (w.writeAll (r :: rs)).2 = ((w.write r).2.writeAll rs).2 := rfl
      rw [hrest, ih, slots_write, calls, List.filter_cons]
      split
      · rw [List.map_cons, List.append_assoc]
        rfl
      · rfl

theorem accepted_eq (w : Writer) (rs : List Record) :
    w.accepted rs = ((w.calls rs).filter (·.outcome.isOk)).map Call.record := by
  have hzip : rs.zip (w.writeAll rs).1 = (w.calls rs).map fun c => (c.record, c.outcome) := by
    rw [outcomes_writeAll, ← List.zip_map', records_calls]
  rw [accepted, hzip, List.filter_map, List.map_map]
  rfl

/-- **The calls that succeed are the same without those that fail.** -/
theorem calls_accepted (rs : List Record) : ∀ w : Writer,
    w.calls (w.accepted rs) = (w.calls rs).filter (·.outcome.isOk) := by
  simp only [accepted_eq]
  induction rs with
  | nil => exact fun _ => rfl
  | cons r rs ih =>
      intro w
      rw [calls, List.filter_cons]
      split
      · rw [List.map_cons, calls, record_call, ih]
      · rename_i hfail
        obtain ⟨e, he⟩ : ∃ e, (w.call r).outcome = .error e := by
          cases h : (w.call r).outcome with
          | error e => exact ⟨e, rfl⟩
          | ok n => rw [h] at hfail; exact absurd rfl hfail
        rw [write_of_error he, calls_withBytes, ih]

/-- Each call is made by a writer, in the state that the earlier calls left. -/
theorem exists_call_of_mem {c : Call} (rs : List Record) : ∀ w : Writer, c ∈ w.calls rs →
    ∃ (w' : Writer) (r : Record), c = w'.call r := by
  induction rs with
  | nil => intro w hc; cases hc
  | cons r rs ih =>
      intro w hc
      rcases List.mem_cons.mp hc with rfl | hc
      · exact ⟨w, r, rfl⟩
      · exact ih _ hc

end Writer

/-- The bytes of the successful ones among some calls. -/
theorem Call.flatMap_filter_sublist (cs : List Call) :
    List.Sublist ((cs.filter (·.outcome.isOk)).flatMap Call.bytes) (cs.flatMap Call.bytes) := by
  rw [List.flatMap_def, List.flatMap_def]
  exact (List.filter_sublist.map _).flatten

/-- They are all bytes there are if the other calls have put nothing out. -/
theorem Call.flatMap_filter_eq_iff (cs : List Call) :
    (cs.filter (·.outcome.isOk)).flatMap Call.bytes = cs.flatMap Call.bytes ↔
      ∀ c ∈ cs, c.outcome.isOk ∨ c.bytes = [] := by
  induction cs with
  | nil => exact iff_of_true rfl (by simp)
  | cons c cs ih =>
      rw [List.forall_mem_cons, ← ih, List.filter_cons]
      split
      · rename_i hok
        rw [List.flatMap_cons, List.flatMap_cons, List.append_right_inj, and_iff_right (.inl hok)]
      · rename_i hfail
        rw [List.flatMap_cons, or_iff_right hfail]
        constructor
        · intro h
          -- the bytes of the successful calls are no more than those of all the calls after `c`
          have hle := (flatMap_filter_sublist cs).length_le
          have hlength := congrArg List.length h
          rw [List.length_append] at hlength
          obtain hnil : c.bytes = [] := List.eq_nil_of_length_eq_zero (by omega)
          exact ⟨hnil, by rw [h, hnil, List.nil_append]⟩
        · rintro ⟨hnil, h⟩
          rw [hnil, List.nil_append, h]

/-- **A failing call takes no number, but what it has put out stays.** The calls of a sequence that
succeed give the same numbers when the failing ones are left out, and leave the same records to
refer to. The bytes are those of the shorter sequence with those that the failing calls have put out
between them; they are the same only if every failing call has failed for want of room. -/
theorem failed_writes (w : Writer) (rs : List Record) :
    (w.writeAll (w.accepted rs)).1 = (w.writeAll rs).1.filter (·.isOk) ∧
    (w.writeAll (w.accepted rs)).2.slots = (w.writeAll rs).2.slots ∧
    List.Sublist (w.writeAll (w.accepted rs)).2.bytes (w.writeAll rs).2.bytes ∧
    ((w.writeAll (w.accepted rs)).2.bytes = (w.writeAll rs).2.bytes ↔
      ∀ outcome ∈ (w.writeAll rs).1, outcome.isOk ∨ outcome = .error .tooManySlots) := by
  simp only [Writer.bytes_writeAll, Writer.outcomes_writeAll, Writer.slots_writeAll,
    Writer.calls_accepted]
  refine ⟨?_, ?_, (Call.flatMap_filter_sublist _).append_left _, ?_⟩
  · rw [List.filter_map]
    rfl
  · rw [List.filter_filter]
    simp only [Bool.and_self]
  · rw [List.append_right_inj, Call.flatMap_filter_eq_iff, List.forall_mem_map]
    refine forall₂_congr fun c hc => ?_
    obtain ⟨w', r, rfl⟩ := Writer.exists_call_of_mem rs w hc
    cases houtcome : (w'.call r).outcome with
    | ok n => exact iff_of_true (.inl rfl) (.inl rfl)
    | error e =>
        rw [Writer.bytes_call_eq_nil_iff houtcome, Except.error.injEq]

/-- A pair where one node has to stand fails behind the kind of its record, and that byte stays
before the next record, which takes the number 0 all the same. -/
theorem failed_writes_small :
    let w : Writer := { family := .legacy }
    let rs : List Record := [.handler .invalidPair, .handler .invalid]
    w.accepted rs = [.handler .invalid] ∧ (w.writeAll rs).1 = [.error .repeatInScalar, .ok 0] ∧
      (w.writeAll [.handler .invalid]).1 = [.ok 0] ∧
      (w.writeAll [.handler .invalid]).2.bytes = [0, 2] ∧ (w.writeAll rs).2.bytes = [0, 0, 2] ∧
      (w.writeAll [.handler .invalid]).2.bytes ≠ (w.writeAll rs).2.bytes := by
  intro w rs
  have haccepted : w.accepted rs = [.handler .invalid] := by decide
  have houtcomes : (w.writeAll rs).1 = [.error .repeatInScalar, .ok 0] := by decide
  obtain ⟨hnumbers, -, -, hbytes⟩ := failed_writes w rs
  rw [haccepted] at hnumbers hbytes
  refine ⟨haccepted, houtcomes, hnumbers.trans (by rw [houtcomes]; rfl), by decide, by decide,
    fun heq => ?_⟩
  have hroom := hbytes.mp heq (.error .repeatInScalar) (by rw [houtcomes]; exact List.mem_cons_self)
  rcases hroom with h | h <;> cases h

end OpcodeForest
