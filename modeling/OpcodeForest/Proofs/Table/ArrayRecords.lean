import Mathlib.Data.List.DropRight
import OpcodeForest.Proofs.Table.RoundTrip
import OpcodeForest.Proofs.Table.Shapes

/-!
# How far an array record is read

The writer puts out every entry of an array; the reader stops once the places that the record
declares are filled. Entries that fill no place, those repeated zero times, are read where they
stand before others and are left unread at the end.

* `trimmed`: the entries without those at the end that fill no place.
* `record_eq_trimmed`: the record of an array starts with the record of its trimmed entries.
* `reads_arrayRecord_alone`: a record is read whatever nodes the records before it hold.
* `array_record_read`: a reader gets to the end of the trimmed record, so to the last byte exactly
  where the last entry fills a place.
-/

namespace OpcodeForest

/-! ### Entries that fill no place -/

/-- The entries without those at the end that fill no place. -/
def trimmed (entries : List Entry) : List Entry := entries.rdropWhile fun e => e.width = 0

/-- The entries at the end that fill no place. -/
def unfilled (entries : List Entry) : List Entry := entries.rtakeWhile fun e => e.width = 0

/-- What is trimmed off comes last. -/
theorem trimmed_append_unfilled (entries : List Entry) :
    trimmed entries ++ unfilled entries = entries :=
  List.rdropWhile_append_rtakeWhile

/-- Only entries that fill no place are trimmed off. -/
theorem width_of_mem_unfilled {entries : List Entry} {e : Entry} (h : e ∈ unfilled entries) :
    e.width = 0 :=
  of_decide_eq_true (List.mem_rtakeWhile_imp (p := fun e : Entry => e.width = 0) h)

theorem mem_of_mem_trimmed {entries : List Entry} {e : Entry} (h : e ∈ trimmed entries) :
    e ∈ entries := by
  rw [← trimmed_append_unfilled entries]
  exact List.mem_append_left _ h

/-- Nothing is trimmed off where the last entry fills a place. -/
theorem endsFilled_iff {entries : List Entry} : EndsFilled entries ↔ unfilled entries = [] := by
  rw [unfilled, List.rtakeWhile_eq_nil_iff, EndsFilled]
  cases entries using List.reverseRecOn with
  | nil => simp
  | append_singleton entries e =>
      simp [UInt32.toNat_inj.symm, Nat.pos_iff_ne_zero]

/-- And so it is after trimming. -/
theorem endsFilled_trimmed (entries : List Entry) : EndsFilled (trimmed entries) := by
  rw [endsFilled_iff, unfilled, List.rtakeWhile_eq_nil_iff]
  exact fun hne => List.rdropWhile_last_not _ entries hne

/-- Only a repetition can fill no place. -/
theorem Entry.isRepeat_of_width {e : Entry} (h : e.width = 0) : e.isRepeat := by
  by_contra hrep
  have hone := e.width_of_not_isRepeat hrep
  rw [h] at hone
  cases hone

theorem placesOf_append (as bs : List Entry) :
    placesOf (as ++ bs) = placesOf as + placesOf bs := by
  simp [placesOf]

theorem placesOf_eq_zero : ∀ {entries : List Entry}, (∀ e ∈ entries, e.width = 0) →
    placesOf entries = 0
  | [], _ => rfl
  | e :: entries, h => by
      rw [placesOf_cons, h e List.mem_cons_self,
        placesOf_eq_zero fun e he => h e (List.mem_cons_of_mem _ he)]
      rfl

/-- Trimming keeps the places. -/
theorem placesOf_trimmed (entries : List Entry) :
    placesOf (trimmed entries) = placesOf entries := by
  conv_rhs => rw [← trimmed_append_unfilled entries, placesOf_append,
    placesOf_eq_zero fun _ => width_of_mem_unfilled, Nat.add_zero]

/-- The declared number of places is the same without them. -/
theorem Entry.places_append : ∀ (as : List Entry) {bs : List Entry}, (∀ e ∈ bs, e.width = 0) →
    Entry.places (as ++ bs) = Entry.places as
  | [], [], _ => rfl
  | [], b :: bs, h => by
      have ih := places_append [] fun e he => h e (List.mem_cons_of_mem _ he)
      rw [List.nil_append] at ih ⊢
      show b.width + places bs = _
      rw [ih, h b List.mem_cons_self]
      rfl
  | a :: as, bs, h => by rw [List.cons_append, places, places_append as h, places]

/-! ### What is written for them -/

theorem Emission.concat_append (as bs : List Emission) :
    concat (as ++ bs) = concat as ++ concat bs := by
  induction as with
  | nil => rfl
  | cons a as ih =>
      show a ++ concat (as ++ bs) = a ++ concat as ++ concat bs
      rw [ih, append_assoc]

/-- Entries that are repeated of their own accord join no run before them. -/
theorem groupRuns_append : ∀ (as : List Entry) {bs : List Entry}, (∀ e ∈ bs, e.isRepeat) →
    groupRuns (as ++ bs) = groupRuns as ++ bs.map (·, 1)
  | [], [], _ => rfl
  | [], b :: bs, h => by
      have ih := groupRuns_append [] fun e he => h e (List.mem_cons_of_mem _ he)
      rw [List.nil_append] at ih ⊢
      rcases groupRuns_cons b bs with ⟨_, _, _, hrep, -⟩ | ⟨heq, -⟩
      · exact absurd (h b List.mem_cons_self) hrep
      · rw [heq, ih]
        rfl
  | a :: as, bs, h => by
      rw [List.cons_append, groupRuns, groupRuns_append as h, groupRuns]
      cases groupRuns as with
      | cons r runs =>
          dsimp only [List.cons_append]
          split <;> rfl
      | nil =>
          cases bs with
          | nil => rfl
          | cons b bs =>
              refine if_neg ?_
              rintro ⟨rfl, hrep⟩
              rw [h a List.mem_cons_self] at hrep
              cases hrep

/-- **The record of an array starts with that of its trimmed entries.** -/
theorem WriteContext.record_eq_trimmed (w : WriteContext) (entries : List Entry) :
    w.record (.array entries)
      = w.record (.array (trimmed entries)) ++ .concat ((unfilled entries).map w.entry) := by
  have hruns : groupRuns entries
      = groupRuns (trimmed entries) ++ (unfilled entries).map (·, 1) := by
    conv_lhs => rw [← trimmed_append_unfilled entries]
    exact groupRuns_append _ fun e he => e.isRepeat_of_width (width_of_mem_unfilled he)
  have hplaces : Entry.places entries = Entry.places (trimmed entries) := by
    conv_lhs => rw [← trimmed_append_unfilled entries]
    exact Entry.places_append _ fun _ => width_of_mem_unfilled
  have halone : w.run ∘ (·, 1) = w.entry := by
    rw [run_eq_entry]
    rfl
  rw [record, record, hplaces, hruns, List.map_append, List.map_map, halone,
    Emission.concat_append, Emission.append_assoc]

/-- Entries take bytes, so only no entries take none. -/
theorem WriteContext.concat_length_pos {w : WriteContext} {entries : List Entry} {bs : List UInt8}
    (h : .concat (entries.map w.entry) = Emission.ofBytes bs) : bs = [] ↔ entries = [] := by
  cases entries with
  | nil => simp [← Emission.ofBytes_inj h]
  | cons e entries =>
      obtain ⟨bs₁, bs₂, he, -, rfl⟩ := Emission.append_eq_ofBytes h
      have hpos := w.entry_length_pos he
      simp [List.length_pos_iff.mp hpos]

/-! ### Reading after any records -/

namespace Slot

/-- A slot of the same shape that holds no node but the invalid one. -/
def blank : Slot → Slot
  | node _ => node .invalid
  | array ids => array (List.replicate ids.length .invalid)

/-- What a blank slot unfolds to. -/
def blankTree : Slot → SlotTree
  | node _ => .node .invalid
  | array ids => .array (List.replicate ids.length .invalid)

theorem span_blank (s : Slot) : s.blank.span = s.span := by
  cases s with
  | node id => rfl
  | array ids => exact congrArg some List.length_replicate

theorem span_blankTree (s : Slot) : s.blankTree.span = s.span := by
  cases s with
  | node id => rfl
  | array ids => exact congrArg some List.length_replicate

theorem kind_blankTree (s : Slot) : s.blankTree.kind = s.kind := by
  cases s <;> rfl

/-- A record of invalid nodes has a tree in the fresh forest. -/
theorem unfolds_blank (s : Slot) : s.blank.Unfolds .fresh s.blankTree := by
  have hinvalid : Forest.fresh.Unfolds .invalid .invalid :=
    .node (rfl : Forest.fresh.get? .invalid = some _) .nil
  cases s with
  | node id => exact .node hinvalid
  | array ids => exact .array (List.forall₂_iff_get.mpr ⟨by simp, fun _ _ _ => by simpa⟩)

end Slot

namespace Cursor

/-- The same place in the bytes, with a fresh forest and blank records. -/
def blank (c : Cursor) : Cursor :=
  { c with forest := .fresh, slots := c.slots.map Slot.blank }

/-- Blanking the records keeps their shape. -/
theorem alike_blank (c : Cursor) : c.blank.Alike c := by
  refine ⟨rfl, rfl, ?_⟩
  rw [blank, List.map_map]
  exact List.map_congr_left fun s _ => s.span_blank

theorem spans_blank (c : Cursor) :
    (c.slots.map Slot.blankTree).map SlotTree.span = c.slots.map Slot.span := by
  rw [List.map_map]
  exact List.map_congr_left fun s _ => s.span_blankTree

/-- A writer whose records have the same kinds can have written them. -/
theorem agrees_blank {c : Cursor} {w : WriteContext} (h : c.slots.map Slot.kind = w.slots) :
    c.blank.Agrees w (c.slots.map Slot.blankTree) where
  sentinels := .refl _
  read := by
    rw [blank, List.forall₂_map_left_iff, List.forall₂_map_right_iff, List.forall₂_same]
    exact fun s _ => s.unfolds_blank
  kinds := by
    rw [← h, List.map_map]
    exact List.map_congr_left fun s _ => s.kind_blankTree.symm

end Cursor

/-- **An array record is read after any records of the right kinds**, and each of its places gets a
node. -/
theorem reads_arrayRecord_alone {w : WriteContext} {c : Cursor} {entries : List Entry}
    {bs : List UInt8} (hkinds : c.slots.map Slot.kind = w.slots)
    (hlaid : ∀ e ∈ entries, e.laidOut w.family (c.slots.map Slot.span))
    (hends : EndsFilled entries) (hplaces : placesOf entries < 2 ^ 32)
    (hw : w.record (.array entries) = .ofBytes bs) (hahead : c.Ahead bs) : ∃ ids forest,
      Reader.Reads (Reader.slotRecord w.family) c (.array ids) { c.skip bs.length with forest } ∧
      ids.length = placesOf entries := by
  obtain ⟨ids, forest, hread, -, -, owners, hlength, rfl, -⟩ :=
    reads_arrayRecord (Cursor.agrees_blank hkinds) (c.spans_blank ▸ hlaid) hends hplaces hw hahead
  obtain ⟨s, ⟨rest, offset, forest', slots⟩, hread', hspan, ⟨hrest, hoffset, -⟩, hslots⟩ :=
    Reader.mirrors_slotRecord w.family c.alike_blank hread
  obtain rfl : (c.skip bs.length).rest = rest := hrest
  obtain rfl : (c.skip bs.length).offset = offset := hoffset
  obtain rfl : slots = c.slots := hslots
  cases s with
  | node id => cases hspan
  | array ids =>
      refine ⟨ids, forest', hread', ?_⟩
      rw [← Option.some.inj hspan, length_spread hlength.symm]

/-- **How far an array record is read.** Whenever a record of entries that have the fields of their
tags, and fewer than `2 ^ 32` places, is written without a fault, a reader that stands before its
bytes with records of the same kinds behind it reads an array of as many nodes as the entries have
places. It stops where the record of the trimmed entries would end: at the last byte exactly where
the last entry fills a place. -/
theorem array_record_read {w : Writer} {c : Cursor} {entries : List Entry} {bs : List UInt8}
    (hkinds : c.slots.map Slot.kind = w.slots)
    (hlaid : ∀ e ∈ entries, e.laidOut w.family (c.slots.map Slot.span))
    (hplaces : placesOf entries < 2 ^ 32) (hok : (w.write (.array entries)).1.isOk)
    (hbytes : (w.write (.array entries)).2.bytes = w.bytes ++ bs) (hahead : c.Ahead bs) :
    ∃ front ids forest,
      (w.write (.array (trimmed entries))).2.bytes = w.bytes ++ front ∧ front <+: bs ∧
      Reader.Reads (Reader.slotRecord w.family) c (.array ids)
        { c.skip front.length with forest } ∧
      ids.length = placesOf entries ∧ (front = bs ↔ EndsFilled entries) := by
  obtain ⟨hroom, bs', hw, hnext⟩ := Writer.write_ok hok
  obtain rfl : bs' = bs := by
    rw [hnext] at hbytes
    exact List.append_cancel_left hbytes
  rw [w.context.record_eq_trimmed] at hw
  obtain ⟨front, back, hfront, hback, rfl⟩ := Emission.append_eq_ofBytes hw
  obtain ⟨ids, forest, hread, hlength⟩ := reads_arrayRecord_alone hkinds
    (fun e he => hlaid e (mem_of_mem_trimmed he)) (endsFilled_trimmed entries)
    (placesOf_trimmed entries ▸ hplaces) hfront (Cursor.ahead_append.mp hahead).1
  refine ⟨front, ids, forest, ?_, List.prefix_append _ _, hread,
    hlength.trans (placesOf_trimmed entries), ?_⟩
  · rw [Writer.write, if_neg (by omega), hfront]
    rfl
  · rw [List.self_eq_append_right, WriteContext.concat_length_pos hback, endsFilled_iff]

/-- Entries with one that is repeated zero times at each end. -/
def sparseEntries : List Entry :=
  [.repeated 0 .null, .ref 0, .ref 0, .ref 0, .invalid, .invalid,
    .node VexTag.byW.byte [.child (.ref 0), .child .invalidNoModRM], .repeated 0 (.ref 0)]

/-- The first of them is read, and the last, of four bytes, is not. -/
theorem array_record_read_small :
    let w : Writer := { family := .vex, slots := [.handler] }
    let bs : List UInt8 := [1, 6, 2, 0, 3, 2, 3, 5, 0, 1, 13, 5, 0, 4, 2, 0, 5, 0]
    let c : Cursor := { rest := bs ++ [9], forest := .fresh, slots := [.node ⟨8⟩] }
    (w.write (.array sparseEntries)).2.bytes = bs ∧ ¬ EndsFilled sparseEntries ∧
      ∃ ids forest, Reader.Reads (Reader.slotRecord .vex) c (.array ids)
        { c.skip 14 with forest } ∧ ids.length = 6 := by
  intro w bs c
  have hbytes : (w.write (.array sparseEntries)).2.bytes = bs := by decide
  obtain ⟨front, ids, forest, hfront, -, hread, hlength, hends⟩ :=
    @array_record_read w c sparseEntries bs rfl (by decide) (by decide) (by decide) hbytes
      ⟨[9], rfl⟩
  obtain rfl : bs.take 14 = front := by
    have hwritten : (w.write (.array (trimmed sparseEntries))).2.bytes = bs.take 14 := by decide
    rw [← hwritten, hfront]
    rfl
  exact ⟨hbytes, fun h => absurd (hends.mpr h) (by decide), ids, forest, hread, hlength⟩

end OpcodeForest
