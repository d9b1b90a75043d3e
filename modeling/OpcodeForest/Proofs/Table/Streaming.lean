import OpcodeForest.Proofs.Table.Integrity

/-!
# Readers on more bytes

A reader goes through the data once and never looks ahead, so what it has found is the same whatever
bytes follow. Two runs are compared, one on some data and one on the same data with more behind it:
they stay together until the first of them runs out of bytes.

* `Foretells`: what the run on less data says about the other one.
* `Streams`: readers whose runs stay together; `congruence_streams`: all of them.
* `streams_entry`, `streams_slotRecord`: entries and records, for any depth of nesting.
* `records_decided`, `records_truncated`: sequences of records.
* `readTable_errors_decided`: whole tables.
-/

namespace OpcodeForest

namespace Cursor

/-- More bytes behind those that are left. -/
def extend (e : List UInt8) (c : Cursor) : Cursor := { c with rest := c.rest ++ e }

/-- One more record. -/
def withSlot (s : Slot) (c : Cursor) : Cursor := { c with slots := c.slots ++ [s] }

/-- Where the data ends. -/
def last (c : Cursor) : Nat := c.offset + c.rest.length

theorem length_extend (e : List UInt8) (c : Cursor) :
    (c.extend e).rest.length = c.rest.length + e.length := List.length_append

end Cursor

namespace TableError

/-- The fault of a misplaced array reference that ends before its number. -/
def unnamedArray : TableError := .slotKindMismatch (UInt32.size - 1) .handler .array

end TableError

namespace Reader

variable {α β : Type}

/-! ### Two runs -/

/-- How the run on the same data with `e` behind it ends, given the end of a run, with results that
`R` relates. If that ran out of bytes, the other has added the same nodes by then; a misplaced array
reference is a fault with its number and without. -/
inductive Foretells (e : List UInt8) (R : α → α → Prop) :
    Except TableError α × Cursor → Except TableError α × Cursor → Prop
  | ok {a b : α} {c : Cursor} (h : R a b) : Foretells e R (.ok a, c) (.ok b, c.extend e)
  | error {x : TableError} {c : Cursor} : Foretells e R (.error x, c) (.error x, c.extend e)
  | starved {c : Cursor} {b : Except TableError α × Cursor} (hrest : c.rest = [])
      (hforest : b.2.forest.Extends c.forest) :
      Foretells e R (.error (.unexpectedEnd c.offset), c) b
  | unnamed {c c' : Cursor} {x : TableError} : Foretells e R (.error .unnamedArray, c) (.error x, c')

/-- The reader only moves on. -/
structure Advances (c c' : Cursor) : Prop where
  last : c'.last = c.last
  shorter : c'.rest.length ≤ c.rest.length

theorem Advances.refl (c : Cursor) : Advances c c := ⟨rfl, Nat.le_refl _⟩

theorem Advances.trans {c c' c'' : Cursor} (h : Advances c c') (h' : Advances c' c'') :
    Advances c c'' :=
  ⟨h'.last.trans h.last, Nat.le_trans h'.shorter h.shorter⟩

/-- Where fewer than `n` bytes are left, `r` runs on them as `r'` does with `e` behind them. The two
differ where a bound on the depth is taken from the number of bytes. -/
structure Streams (e : List UInt8) (n : Nat) (R : α → α → Prop) (r r' : Reader α) : Prop
    extends Keeping R r' where
  advances : ∀ c : Cursor, c.rest.length < n → Advances c (r.run c).2
  foretells : ∀ c : Cursor, c.rest.length < n → Foretells e R (r.run c) (r'.run (c.extend e))

/-- The reader takes a byte at least. -/
def Consumes (r : Reader α) : Prop :=
  ∀ c a c', Reads r c a c' → c'.rest.length < c.rest.length

/-- What follows can only take more. -/
theorem Consumes.lt_of_bind {r : Reader α} {g : α → Reader β} {c c' : Cursor} {b : β}
    (hr : Consumes r) (h : Reads (r >>= g) c b c')
    (hg : ∀ a c₁, Reads r c a c₁ → Advances c₁ ((g a).run c₁).2) :
    c'.rest.length < c.rest.length := by
  rw [Reads, run_bind] at h
  cases hrun : r.run c with
  | mk x c₁ =>
      rw [hrun] at h
      cases x with
      | error x => cases h
      | ok a =>
          have hshorter := (hg a c₁ hrun).shorter
          rw [show (g a).run c₁ = _ from h] at hshorter
          exact Nat.lt_of_le_of_lt hshorter (hr c a c₁ hrun)

namespace Streams

variable {e : List UInt8} {n : Nat} {R : α → α → Prop} {S : β → β → Prop} {r r' : Reader α}
  {g g' : α → Reader β}

/-- Where no cursor is small enough. -/
theorem zero (h : Keeping R r') : Streams e 0 R r r' :=
  ⟨h, fun _ hc => absurd hc (Nat.not_lt_zero _), fun _ hc => absurd hc (Nat.not_lt_zero _)⟩

theorem pure {a b : α} (h : R a b) : Streams e n R (Pure.pure a) (Pure.pure b) :=
  ⟨.pure h, fun c _ => .refl c, fun _ _ => .ok h⟩

theorem throw (x : TableError) : Streams e n R (MonadExcept.throw x) (MonadExcept.throw x) :=
  ⟨.throw x, fun c _ => .refl c, fun _ _ => .error⟩

/-- What both runs do after a first reader, given what they do where it succeeds. -/
theorem foretells_bind {c : Cursor} (h : Foretells e R (r.run c) (r'.run (c.extend e)))
    (hkeeps : ∀ b c', Reads r' (c.extend e) b c' → Keeps (g' b))
    (hg : ∀ a b c', Reads r c a c' → R a b →
      Foretells e S ((g a).run c') ((g' b).run (c'.extend e))) :
    Foretells e S ((r >>= g).run c) ((r' >>= g').run (c.extend e)) := by
  rw [run_bind, run_bind]
  cases hrun' : r'.run (c.extend e) with
  | mk y c₂ =>
  cases hrun : r.run c with
  | mk x c₁ =>
  rw [hrun, hrun'] at h
  cases h with
  | ok hab => exact hg _ _ c₁ hrun hab
  | error => exact .error
  | unnamed => exact .unnamed
  | starved hrest hforest =>
      refine .starved hrest ?_
      cases y with
      | error y => exact hforest
      | ok b => exact (hkeeps b c₂ hrun' c₂).trans hforest

/-- Two readers in a row advance if each does. -/
theorem advances_bind {c : Cursor} (h : Advances c (r.run c).2)
    (hg : ∀ a c', Reads r c a c' → Advances c' ((g a).run c').2) :
    Advances c ((r >>= g).run c).2 := by
  rw [run_bind]
  cases hrun : r.run c with
  | mk x c₁ =>
      rw [hrun] at h
      cases x with
      | error x => exact h
      | ok a => exact h.trans (hg a c₁ hrun)

/-- One after the other, where fewer than `m` bytes are left in between. -/
theorem bind_lt {m : Nat} (h : Streams e n R r r')
    (hlt : ∀ ⦃c a c'⦄, c.rest.length < n → Reads r c a c' → c'.rest.length < m)
    (hg : ∀ a b, R a b → Streams e m S (g a) (g' b)) : Streams e n S (r >>= g) (r' >>= g') := by
  refine ⟨h.toKeeping.bind fun a b hab => (hg a b hab).toKeeping, fun c hc => ?_, fun c hc => ?_⟩
  · refine advances_bind (h.advances c hc) fun a c' hread => ?_
    have hforetells := h.foretells c hc
    rw [show r.run c = _ from hread] at hforetells
    generalize r'.run (c.extend e) = b at hforetells
    cases hforetells with
    | ok hab => exact (hg a _ hab).advances c' (hlt hc hread)
  · refine foretells_bind (h.foretells c hc) (fun b c' hread => ?_) fun a b c' hread hab =>
      (hg a b hab).foretells c' (hlt hc hread)
    obtain ⟨a, hab⟩ := h.related hread
    exact (hg a b hab).keeps

/-- **One after the other.** -/
theorem bind (h : Streams e n R r r') (hg : ∀ a b, R a b → Streams e n S (g a) (g' b)) :
    Streams e n S (r >>= g) (r' >>= g') := by
  refine h.bind_lt (fun c a c' hc hread => ?_) hg
  have hshorter := (h.advances c hc).shorter
  rw [show r.run c = _ from hread] at hshorter
  exact Nat.lt_of_le_of_lt hshorter hc

/-- After a reader that takes a byte there is one byte less. -/
theorem bind_consumes (h : Streams e (n + 1) R r r') (hr : Consumes r)
    (hg : ∀ a b, R a b → Streams e n S (g a) (g' b)) : Streams e (n + 1) S (r >>= g) (r' >>= g') :=
  h.bind_lt (fun c a c' hc hread =>
    Nat.lt_of_lt_of_le (hr c a c' hread) (Nat.le_of_lt_succ hc)) hg

end Streams

section

variable {e : List UInt8} {n : Nat}

/-- A byte is taken, or there is a fault. -/
theorem consumes_byte : Consumes byte := by
  rintro ⟨_ | ⟨b, rest⟩, offset, forest, slots⟩ a c' h
  · cases h
  · cases h
    exact Nat.lt_succ_self _

theorem streams_byte : Streams e n Eq byte byte := by
  refine ⟨⟨keeps_byte, fun _ b _ _ => ⟨b, rfl⟩⟩, ?_, ?_⟩ <;>
    rintro ⟨_ | ⟨b, rest⟩, offset, forest, slots⟩ -
  · exact .refl _
  · exact ⟨Nat.add_right_comm offset 1 rest.length, Nat.le_succ _⟩
  · exact .starved rfl (keeps_byte _)
  · exact .ok rfl

/-- The records do not depend on the bytes to come. -/
theorem streams_slot (k : UInt8) : Streams e n (Slot.Lift Eq) (slot k) (slot k) := by
  refine ⟨keeping_slot k, fun c _ => ?_, fun c _ => ?_⟩
  · rw [run_slot]
    exact .refl c
  · rw [run_slot, run_slot]
    show Foretells e _ ((c.slots[k.toNat]?).elim _ _, c) ((c.slots[k.toNat]?).elim _ _, c.extend e)
    cases c.slots[k.toNat]? with
    | none => exact .error
    | some s => exact .ok (Slot.lift_eq.mpr rfl)

/-- The one reader that goes on where a byte is missing. -/
theorem streams_misplacedArray {R : α → α → Prop} :
    Streams e n R (misplacedArray : Reader α) misplacedArray := by
  refine ⟨keeping_misplacedArray, ?_, ?_⟩ <;> rintro ⟨_ | ⟨b, rest⟩, offset, forest, slots⟩ -
  · exact .refl _
  · exact ⟨Nat.add_right_comm offset 1 rest.length, Nat.le_succ _⟩
  · cases e with
    | nil => exact .error
    | cons b e => exact .unnamed
  · exact .error

/-- All readers stay together in both runs. -/
theorem congruence_streams (f : Family) :
    Congruence f (fun _ : Stage => Eq) (fun _ _ R r r' => Streams e n (R .only) r r') where
  mono _ h := h
  sentinel _ := rfl
  pure h := .pure h
  throw x := .throw x
  bind h hg := h.bind fun a b => hg .only a b le_rfl
  byte _ := streams_byte
  position _ := ⟨.get_bind fun _ => .pure rfl, fun c _ => .refl c, fun _ _ => .ok rfl⟩
  slot _ k := streams_slot k
  misplacedArray := streams_misplacedArray
  push _ _ hp := by
    rw [Payload.eq_of_lift hp]
    exact ⟨keeping_push _, fun _ _ => ⟨rfl, Nat.le_refl _⟩, fun _ _ => .ok rfl⟩

/-! ### Entries -/

/-- Entries, with room for as many levels as there are bytes. A run with more room does the same. -/
theorem streams_entryWithin (f : Family) : ∀ {depth depth' : Nat}, depth ≤ depth' →
    Streams e depth (Constructed.Lift Eq) (entryWithin f depth) (entryWithin f depth')
  | 0, depth', _ => .zero ((sizedCongruence_keeping f).entryWithin depth' .only)
  | _ + 1, _ + 1, hle => streams_byte.bind_consumes consumes_byte fun tag _ htag => htag ▸
      (congruence_streams f).tagged (fun w => (congruence_streams f).single w
        (streams_entryWithin f (Nat.le_of_succ_le_succ hle))) tag .only

/-- **Entries.** -/
theorem streams_entry (f : Family) : Streams e n (Constructed.Lift Eq) (entry f) (entry f) := by
  have hwithin (c : Cursor) : Streams e (c.rest.length + 1) (Constructed.Lift Eq)
      (entryWithin f (c.rest.length + 1)) (entryWithin f ((c.extend e).rest.length + 1)) :=
    streams_entryWithin f (by rw [Cursor.length_extend]; omega)
  exact ⟨(sizedCongruence_keeping f).entry .only,
    fun c _ => (hwithin c).advances c (Nat.lt_succ_self _),
    fun c _ => (hwithin c).foretells c (Nat.lt_succ_self _)⟩

/-- An entry has a tag, at least. -/
theorem consumes_entry (f : Family) : Consumes (entry f) := by
  intro c a c' h
  have hwithin : Streams [] c.rest.length Eq (single (entryWithin f c.rest.length)) _ :=
    (congruence_streams f).single .only (streams_entryWithin f (Nat.le_refl _))
  have hrun : Reads (byte >>= tagged f (single (entryWithin f c.rest.length))) c a c' := h
  exact consumes_byte.lt_of_bind hrun fun tag c₁ hbyte =>
    ((congruence_streams f).tagged (fun _ => hwithin) tag .only).advances c₁
      (consumes_byte c tag c₁ hbyte)

/-! ### Records -/

/-- The entries of an array, with room for as many as there are bytes. -/
theorem streams_fill (f : Family) (declared : Nat) : ∀ {fuel fuel' : Nat} (filled : Nat),
    fuel ≤ fuel' → Streams e fuel (List.Forall₂ Eq) (fill f declared fuel filled)
      (fill f declared fuel' filled)
  | 0, fuel', filled, _ =>
      .zero ((sizedCongruence_keeping f).fill (sizedCongruence_keeping f).entry declared fuel'
        filled .only)
  | fuel + 1, fuel' + 1, filled, hle => by
      have hrest (filled : Nat) := streams_fill f declared filled (Nat.le_of_succ_le_succ hle)
      rw [fill, fill]
      split
      · exact .pure .nil
      · refine (streams_entry f).bind_consumes (consumes_entry f) fun a b hab => ?_
        cases hab with
        | single hid =>
            exact (hrest _).bind fun _ _ hids => .pure (.cons hid hids)
        | repeated count hid =>
            dsimp only
            split
            · exact .throw _
            · exact (hrest _).bind fun _ _ hids =>
                .pure (List.rel_append (forall₂_replicate count hid) hids)

theorem streams_array (f : Family) : Streams e n (List.Forall₂ Eq) (array f) (array f) := by
  refine ((congruence_streams f).number .only).bind fun declared _ hdeclared => hdeclared ▸ ?_
  have hfill (c : Cursor) : Streams e (c.rest.length + 2) (List.Forall₂ Eq)
      (fill f declared (c.rest.length + 2) 0)
      (fill f declared ((c.extend e).rest.length + 2) 0) :=
    streams_fill f declared 0 (by rw [Cursor.length_extend]; omega)
  have hkeeping (fuel : Nat) : Keeping (List.Forall₂ Eq) (fill f declared fuel 0) :=
    (sizedCongruence_keeping f).fill (sizedCongruence_keeping f).entry declared fuel 0 .only
  exact ⟨.get_bind fun _ => hkeeping _, fun c _ => (hfill c).advances c (by omega),
    fun c _ => (hfill c).foretells c (by omega)⟩

/-- **Records.** -/
theorem streams_slotRecord (f : Family) :
    Streams e n (Slot.Lift Eq) (slotRecord f) (slotRecord f) :=
  (congruence_streams f).slotRecord (fun _ => streams_entry f) (fun _ => streams_array f) .only

theorem consumes_slotRecord (f : Family) : Consumes (slotRecord f) := by
  intro c s c' h
  have hrun : Reads (byte >>= kindRecord f c.offset) c s c' := h
  have hkind (kind : UInt8) (n : Nat) :
      Streams [] n (Slot.Lift Eq) (kindRecord f c.offset kind) (kindRecord f c.offset kind) :=
    (congruence_streams f).kindRecord (fun _ => streams_entry f) (fun _ => streams_array f)
      c.offset kind .only
  exact consumes_byte.lt_of_bind hrun fun kind c₁ _ =>
    (hkind kind _).advances c₁ (Nat.lt_succ_self _)

end

/-! ### Sequences of records -/

section

variable {e : List UInt8} {f : Family} {c c' : Cursor}

/-- No bytes, no records. -/
theorem reads_records_nil (fuel : Nat) (h : c.rest = []) : Reads (records f fuel) c () c := by
  cases fuel with
  | zero => rfl
  | succ fuel =>
      show (if c.rest.isEmpty then _ else _ : Reader Unit).run c = _
      rw [if_pos (List.isEmpty_iff.mpr h)]
      rfl

/-- The number of a record has to fit into a byte. -/
theorem run_records_full (fuel : Nat) (h : c.rest ≠ []) (hslots : 256 ≤ c.slots.length) :
    (records f (fuel + 1)).run c = (.error .tooManySlots, c) := by
  show (if c.rest.isEmpty then _ else _ : Reader Unit).run c = _
  rw [if_neg (mt List.isEmpty_iff.mp h), if_pos hslots]
  rfl

/-- The records after the one that is read. -/
def recordsAfter (f : Family) (fuel : Nat) (s : Slot) : Reader Unit := do
  modify (Cursor.withSlot s)
  records f fuel

theorem run_recordsAfter (fuel : Nat) (s : Slot) :
    (recordsAfter f fuel s).run c = (records f fuel).run (c.withSlot s) := rfl

/-- One record, and then the others. -/
theorem run_records_step (fuel : Nat) (h : c.rest ≠ []) (hslots : ¬ 256 ≤ c.slots.length) :
    (records f (fuel + 1)).run c = (slotRecord f >>= recordsAfter f fuel).run c := by
  show (if c.rest.isEmpty then _ else _ : Reader Unit).run c = _
  rw [if_neg (mt List.isEmpty_iff.mp h), if_neg hslots]
  rfl

theorem keeps_recordsAfter (fuel : Nat) (s : Slot) : Keeps (recordsAfter f fuel s) :=
  fun c => keeps_records f fuel (c.withSlot s)

/-- **A sequence of records on less data** either ends between two records of the longer one, or
fails and tells how that one goes on. -/
theorem records_foretell : ∀ {fuel fuel' : Nat} {c : Cursor}, fuel ≤ fuel' →
    c.rest.length ≤ fuel →
    (∃ c', Reads (records f fuel) c () c' ∧ c'.rest = [] ∧ c'.last = c.last ∧
      ∃ k, Reads (records f k) (c.extend e) () (c'.extend e)) ∨
    (∃ x c', (records f fuel).run c = (.error x, c') ∧ c'.last = c.last) ∧
      Foretells e Eq ((records f fuel).run c) ((records f fuel').run (c.extend e))
  | fuel, fuel', c, hle, hlength => by
      by_cases hrest : c.rest = []
      · exact .inl ⟨c, reads_records_nil fuel hrest, hrest, rfl, 0, rfl⟩
      have hmore : (c.extend e).rest ≠ [] := List.append_ne_nil_of_left_ne_nil hrest e
      obtain ⟨fuel, rfl⟩ : ∃ k, fuel = k + 1 :=
        Nat.exists_eq_succ_of_ne_zero fun h => hrest (List.eq_nil_of_length_eq_zero (by omega))
      obtain ⟨fuel', rfl⟩ : ∃ k, fuel' = k + 1 := Nat.exists_eq_succ_of_ne_zero (by omega)
      by_cases hslots : 256 ≤ c.slots.length
      · rw [run_records_full fuel hrest hslots,
          run_records_full (c := c.extend e) fuel' hmore hslots]
        exact .inr ⟨⟨_, c, rfl, rfl⟩, .error⟩
      have hrecord := (streams_slotRecord (e := e) (n := c.rest.length + 1) f).foretells c
        (Nat.lt_succ_self _)
      have hadvances := (streams_slotRecord (e := e) (n := c.rest.length + 1) f).advances c
        (Nat.lt_succ_self _)
      simp only [Reads, run_records_step _ hrest hslots]
      rw [run_records_step (c := c.extend e) fuel' hmore hslots]
      cases hrun : (slotRecord f).run c with
      | mk x c₁ =>
      rw [hrun] at hadvances
      cases x with
      | error x =>
          refine .inr ⟨⟨x, c₁, ?_, hadvances.last⟩, ?_⟩
          · rw [run_bind, hrun]
          · refine Streams.foretells_bind hrecord (fun s _ _ => keeps_recordsAfter fuel' s) ?_
            intro s _ c₂ hread _
            rw [Reads, hrun] at hread
            cases hread
      | ok s =>
          have hlt := consumes_slotRecord f c s c₁ hrun
          have hsame : (slotRecord f).run (c.extend e) = (.ok s, c₁.extend e) := by
            rw [hrun] at hrecord
            generalize (slotRecord f).run (c.extend e) = b at hrecord
            cases hrecord with
            | ok hs => rw [Slot.lift_eq.mp hs]
          have hlast : (c₁.withSlot s).last = c.last := hadvances.last
          simp only [run_bind, hrun, hsame, run_recordsAfter]
          rcases records_foretell (c := c₁.withSlot s) (Nat.le_of_succ_le_succ hle)
            (Nat.le_of_lt_succ (Nat.lt_of_lt_of_le hlt hlength)) with
            ⟨c', hread, hnil, hc', k, hk⟩ | ⟨⟨x, c', hfail, hc'⟩, hrest'⟩
          · refine .inl ⟨c', hread, hnil, hc'.trans hlast, k + 1, ?_⟩
            rw [run_records_step (c := c.extend e) k hmore hslots, run_bind, hsame]
            exact hk
          · exact .inr ⟨⟨x, c', hfail, hc'.trans hlast⟩, hrest'⟩

end

end Reader

/-! ### Tables -/

/-- Reading `d` stands between two records, or before the first or behind the last one, when `n`
bytes have been read. -/
def RecordBoundary (f : Family) (d : List UInt8) (forest : Forest) (n : Nat) : Prop :=
  ∃ k c, Reader.Reads (Reader.records f k) { rest := d, forest } () c ∧ c.offset = n

section

variable {f : Family} {d : List UInt8} {forest : Forest} {c : Cursor}

/-- A fault of the records is one of the table. -/
theorem readTable_of_error {x : TableError}
    (h : (Reader.records f d.length).run { rest := d, forest } = (.error x, c)) (count : Nat) :
    readTable f count d forest = (.error x, c.forest) := by
  have hwhole : (Reader.whole f count).run { rest := d, forest } = (.error x, c) := by
    show (Reader.records f d.length >>= _).run _ = _
    rw [Reader.run_bind, h]
  rw [readTable, hwhole]

theorem forest_readTable
    (h : Reader.Reads (Reader.records f d.length) { rest := d, forest } () c) (count : Nat) :
    (readTable f count d forest).2 = c.forest := by
  have hwhole : (Reader.whole f count).run { rest := d, forest }
      = (Reader.rootMaps count c.slots, c) := by
    show (Reader.records f d.length >>= _).run _ = _
    rw [Reader.run_bind, show (Reader.records f d.length).run _ = _ from h]
    show (liftExcept (Reader.rootMaps count c.slots) : Reader _).run c = _
    cases Reader.rootMaps count c.slots <;> rfl
  rw [readTable, hwhole]

/-- What is wrong with the first records stays wrong. -/
theorem records_decided {x : TableError}
    (h : (Reader.records f d.length).run { rest := d, forest } = (.error x, c))
    (hend : ∀ n, x ≠ .unexpectedEnd n) (hunnamed : x ≠ .unnamedArray) (e : List UInt8) :
    (Reader.records f (d ++ e).length).run { rest := d ++ e, forest } = (.error x, c.extend e) := by
  have hle : d.length ≤ (d ++ e).length := List.length_append ▸ Nat.le_add_right _ _
  rcases Reader.records_foretell (f := f) (e := e) (c := { rest := d, forest }) hle
    (Nat.le_refl _) with ⟨c', hread, -⟩ | ⟨-, hforetells⟩
  · rw [Reader.Reads, h] at hread
    cases hread
  · have hmore : Reader.Foretells e Eq (.error x, c)
        ((Reader.records f (d ++ e).length).run { rest := d ++ e, forest }) := h ▸ hforetells
    generalize (Reader.records f (d ++ e).length).run { rest := d ++ e, forest } = b at hmore
    cases hmore with
    | error => rfl
    | starved => exact absurd rfl (hend _)
    | unnamed => exact absurd rfl hunnamed

/-- Records that are cut short end at the cut. -/
theorem records_truncated {p e : List UInt8}
    (h : Reader.Reads (Reader.records f (p ++ e).length) { rest := p ++ e, forest } () c)
    (hcut : ¬ RecordBoundary f (p ++ e) forest p.length) :
    ∃ c', (Reader.records f p.length).run { rest := p, forest }
        = (.error (.unexpectedEnd p.length), c') ∧ c.forest.Extends c'.forest := by
  have hle : p.length ≤ (p ++ e).length := List.length_append ▸ Nat.le_add_right _ _
  have hoffset {c' : Cursor} (hnil : c'.rest = [])
      (hlast : c'.last = Cursor.last { rest := p, forest }) : c'.offset = p.length := by
    rw [Cursor.last, Cursor.last, hnil, Nat.zero_add] at hlast
    exact hlast
  rcases Reader.records_foretell (f := f) (e := e) (c := { rest := p, forest }) hle
    (Nat.le_refl _) with ⟨c', -, hnil, hlast, k, hk⟩ | ⟨⟨x, c', hfail, hlast⟩, hforetells⟩
  · exact absurd ⟨k, c'.extend e, hk, show c'.offset = _ from hoffset hnil hlast⟩ hcut
  · -- the longer run succeeds, so the shorter one can only have run out of bytes
    have hmore : Reader.Foretells e Eq (.error x, c') (.ok (), c) := by
      rw [hfail] at hforetells
      exact h ▸ hforetells
    cases hmore with
    | starved hnil hforest =>
        rw [hoffset hnil hlast] at hfail
        exact ⟨c', hfail, hforest⟩

/-- **Errors in tables are decided by the bytes read so far.** If reading the records of `d` fails,
and not for want of bytes, then it fails with the same error and the same nodes whatever follows
`d`. If all records of `d` are read, then what is left of `d` when it is cut within a record gives
an unexpected end at the cut, and its nodes come first among those of `d`. -/
theorem readTable_errors_decided (f : Family) (count : Nat) (d : List UInt8) (forest : Forest) :
    (∀ x c, (Reader.records f d.length).run { rest := d, forest } = (.error x, c) →
      (∀ n, x ≠ .unexpectedEnd n) → x ≠ .unnamedArray →
      readTable f count d forest = (.error x, c.forest) ∧
        ∀ e, readTable f count (d ++ e) forest = (.error x, c.forest)) ∧
    (∀ c, Reader.Reads (Reader.records f d.length) { rest := d, forest } () c →
      ∀ p, p <+: d → ¬ RecordBoundary f d forest p.length →
        ∃ g, readTable f count p forest = (.error (.unexpectedEnd p.length), g) ∧
          g.Extends forest ∧ (readTable f count d forest).2.Extends g) := by
  constructor
  · intro x c hfail hend hunnamed
    exact ⟨readTable_of_error hfail count, fun e =>
      readTable_of_error (records_decided hfail hend hunnamed e) count⟩
  · rintro c hread p ⟨e, rfl⟩ hcut
    obtain ⟨c', hfail, hforest⟩ := records_truncated hread hcut
    have hp := readTable_of_error hfail count
    refine ⟨c'.forest, hp, ?_, ?_⟩
    · have hkeeps := readTable_extends f count p forest
      rwa [hp] at hkeeps
    · rwa [forest_readTable hread]

end

/-- An array whose first entry is a node with two children: a bad tag after that node, and the array
cut before its second entry. -/
theorem readTable_errors_decided_small :
    let forest := Forest.fresh.push (.byMode false .invalid .invalidNoModRM)
    (∀ e, readTable .legacy 0 ([1, 2, 0, 2, 3, 255] ++ e) .fresh
      = (.error (.unknownTag .legacy 255 5), forest)) ∧
    readTable .legacy 0 [1, 2, 0, 2, 3, 2] .fresh = (.ok [], forest) ∧
    ∃ g, readTable .legacy 0 [1, 2, 0, 2, 3] .fresh = (.error (.unexpectedEnd 5), g) ∧
      g.Extends .fresh ∧ forest.Extends g := by
  intro forest
  obtain ⟨hdecided, -⟩ := readTable_errors_decided .legacy 0 [1, 2, 0, 2, 3, 255] .fresh
  obtain ⟨-, htruncated⟩ := readTable_errors_decided .legacy 0 [1, 2, 0, 2, 3, 2] .fresh
  have hfail : (Reader.records .legacy 6).run { rest := [1, 2, 0, 2, 3, 255], forest := .fresh }
      = (.error (.unknownTag .legacy 255 5), { rest := [], offset := 6, forest }) := rfl
  have hrecord : Reader.Reads (Reader.slotRecord .legacy)
      { rest := [1, 2, 0, 2, 3, 2], forest := .fresh } (.array [⟨3⟩, .invalid])
      { rest := [], offset := 6, forest } := rfl
  have hread (k : Nat) : Reader.Reads (Reader.records .legacy (k + 1))
      { rest := [1, 2, 0, 2, 3, 2], forest := .fresh } ()
      { rest := [], offset := 6, forest, slots := [.array [⟨3⟩, .invalid]] } := by
    rw [Reader.Reads, Reader.run_records_step k (List.cons_ne_nil _ _) (by decide), Reader.run_bind,
      hrecord]
    exact Reader.reads_records_nil k rfl
  have hcut : ¬ RecordBoundary .legacy [1, 2, 0, 2, 3, 2] .fresh 5 := by
    rintro ⟨k, c, hk, hoffset⟩
    cases k with
    | zero => cases hk; cases hoffset
    | succ k =>
        have hc := (Prod.mk.inj (hk.symm.trans (hread k))).2
        rw [hc] at hoffset
        cases hoffset
  have htable : readTable .legacy 0 [1, 2, 0, 2, 3, 2] .fresh = (.ok [], forest) := by
    decide +kernel
  obtain ⟨g, hg, hfresh, hforest⟩ := htruncated _ (hread 5) [1, 2, 0, 2, 3] ⟨[2], rfl⟩ hcut
  rw [htable] at hforest
  exact ⟨(hdecided _ _ hfail (fun _ => TableError.noConfusion) TableError.noConfusion).2, htable, g,
    hg, hfresh, hforest⟩

end OpcodeForest
