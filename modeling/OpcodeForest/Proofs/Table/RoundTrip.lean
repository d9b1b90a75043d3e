import OpcodeForest.Code.Vex
import OpcodeForest.Proofs.Table.ArrayRoundTrip
import OpcodeForest.Table.Load

/-!
# Written tables read back

Records follow each other, and each is read against the ones before it; the reader and the
writer number them alike.

* `reads_record`: a record is read as the trees that it describes.
* `reads_records`: so are all records of a table, and the forest grows by their nodes only.
* `readTable_writeAll`: a table that was written without a fault is read as the nodes that its
  records describe.
-/

namespace OpcodeForest

/-! ### Reading records -/

/-- The nodes of a slot are shared as its record says. -/
inductive Slot.Shares : Slot → Record → Prop where
  | node (id : NodeId) (e : Entry) : Shares (.node id) (.handler e)
  | array {ids : List NodeId} {entries : List Entry} (h : Shared entries ids) :
      Shares (.array ids) (.array entries)

/-- **A record is read as what it describes.** A single entry must not be a repetition. -/
theorem reads_record {w : WriteContext} {slots : List SlotTree} {c : Cursor} {bs : List UInt8}
    {r : Record} (hc : c.Agrees w slots) (hfits : r.fits w.family (slots.map SlotTree.span))
    (hw : w.record r = .ofBytes bs) (hahead : c.Ahead bs) : ∃ s forest,
      Reader.Reads (Reader.slotRecord w.family) c s { c.skip bs.length with forest } ∧
      forest.Adds c.forest (r.labels w.family (slots.map SlotTree.span)) ∧
      s.Unfolds forest (r.tree w.family slots) ∧ s.Shares r := by
  cases r with
  | handler e =>
      have hagrees : (c.skip 1).Agrees w slots := hc.grow (.refl _) rfl
      obtain ⟨bs', he, rfl⟩ := Emission.ofBytes_append_eq hw
      obtain ⟨hkind, hahead⟩ := Cursor.ahead_cons.mp hahead
      rw [WriteContext.scalar] at he
      split at he
      · exact absurd he Emission.fail_ne_ofBytes
      rename_i hrep
      obtain ⟨id, forest, hread, hadds, ht⟩ :=
        reads_entry hagrees (Entry.laidOut_of_fits hfits) he hahead
      rw [Entry.constructed_of_not_isRepeat hrep, Cursor.skip_skip] at hread
      refine ⟨.node id, forest, ?_, hadds, .node ht, .node id e⟩
      rw [List.length_append]
      exact (Reader.reads_position c).bind
        ((Reader.reads_byte hkind).bind ((Reader.reads_single hread).map Slot.node))
  | array entries =>
      rw [Record.fits, Bool.and_eq_true, List.all_eq_true, decide_eq_true_eq] at hfits
      obtain ⟨ids, forest, hread, hadds, ht, hshared⟩ := reads_arrayRecord hc
        (fun e he => Entry.laidOut_of_fits (hfits.1 e he)) (endsFilled_of_fits hfits.1) hfits.2 hw
        hahead
      exact ⟨.array ids, forest, hread, hadds, .array ht, .array hshared⟩

/-- The reader sees the kind that the writer has noted. -/
theorem Record.kind_tree (f : Family) (slots : List SlotTree) (r : Record) :
    (r.tree f slots).kind = r.kind := by
  cases r <;> rfl

/-- An array of trees has a place for each place of the record. -/
theorem Record.span_tree (f : Family) (slots : List SlotTree) (r : Record) :
    (r.tree f slots).span = r.span := by
  cases r with
  | handler e => rfl
  | array entries =>
      simp [Record.tree, SlotTree.span, Record.span, placesOf, List.length_flatMap]

namespace Writer

/-- A record that is written without a fault takes a number, and its bytes come last. -/
theorem write_ok {w : Writer} {r : Record} (h : (w.write r).1.isOk) : w.slots.length < 256 ∧
    ∃ bs, w.context.record r = .ofBytes bs ∧
      (w.write r).2 = { w with bytes := w.bytes ++ bs, slots := w.slots ++ [r.kind] } := by
  unfold write at h ⊢
  split at h
  · cases h
  rename_i hlt
  rw [if_neg hlt]
  refine ⟨by omega, ?_⟩
  generalize w.context.record r = e at h ⊢
  obtain ⟨bs, _ | fault⟩ := e
  · exact ⟨bs, rfl, rfl⟩
  · cases h

theorem writeAll_cons (w : Writer) (r : Record) (rs : List Record) :
    w.writeAll (r :: rs) = ((w.write r).1 :: ((w.write r).2.writeAll rs).1,
      ((w.write r).2.writeAll rs).2) := rfl

/-- Writing only ever adds bytes. -/
theorem writeAll_bytes : ∀ (rs : List Record) (w : Writer),
    ∃ more, (w.writeAll rs).2.bytes = w.bytes ++ more
  | [], w => ⟨[], (List.append_nil _).symm⟩
  | r :: rs, w => by
      obtain ⟨more, h⟩ := writeAll_bytes rs (w.write r).2
      obtain ⟨bs, hw⟩ : ∃ bs, (w.write r).2.bytes = w.bytes ++ bs := by
        unfold write
        split
        · exact ⟨[], (List.append_nil _).symm⟩
        · dsimp only
          split <;> exact ⟨_, rfl⟩
      exact ⟨bs ++ more, by rw [writeAll, h, hw, List.append_assoc]⟩

end Writer

/-- A record has a kind byte at least. -/
theorem WriteContext.record_length_pos {w : WriteContext} {r : Record} {bs : List UInt8}
    (h : w.record r = .ofBytes bs) : 0 < bs.length := by
  cases r <;>
  · obtain ⟨bs', -, rfl⟩ := Emission.ofBytes_append_eq h
    simp

/-- One record more, if there are bytes for it and a number. -/
theorem reads_records_step {f : Family} {fuel : Nat} {c c' c'' : Cursor} {s : Slot}
    (hrest : 0 < c.rest.length) (hroom : c.slots.length < 256)
    (hs : Reader.Reads (Reader.slotRecord f) c s c')
    (hmore : Reader.Reads (Reader.records f fuel) { c' with slots := c'.slots ++ [s] } () c'') :
    Reader.Reads (Reader.records f (fuel + 1)) c () c'' := by
  refine (Reader.Reads.get c).bind ?_
  rw [if_neg (by simpa using List.length_pos_iff.mp hrest), if_neg (by omega)]
  exact (Reader.Reads.pure _ _).bind ((Reader.Reads.pure _ _).bind (hs.bind hmore))

/-- The records of a table are read in step with the writer. -/
theorem reads_records : ∀ {rs : List Record} {w : Writer} {slots : List SlotTree} {c : Cursor}
    {fuel : Nat}, c.Agrees w.context slots →
    Record.fitsAfter w.family (slots.map SlotTree.span) rs →
    (∀ outcome ∈ (w.writeAll rs).1, outcome.isOk) →
    (w.writeAll rs).2.bytes = w.bytes ++ c.rest → c.rest.length ≤ fuel → ∃ ss forest,
      Reader.Reads (Reader.records w.family fuel) c ()
        { c.skip c.rest.length with forest, slots := c.slots ++ ss } ∧
      forest.Adds c.forest (Record.labelsAfter w.family (slots.map SlotTree.span) rs) ∧
      List.Forall₂ (Slot.Unfolds forest) (c.slots ++ ss) (Record.treesAfter w.family slots rs) ∧
      List.Forall₂ Slot.Shares ss rs
  | [], w, slots, c, fuel, hc, _, _, hbytes, _ => by
      have hrest : c.rest = [] := List.self_eq_append_right.mp hbytes
      refine ⟨[], c.forest, ?_, .refl _ _, by simpa [Record.treesAfter] using hc.read, .nil⟩
      have hcursor :
          { c.skip c.rest.length with forest := c.forest, slots := c.slots ++ [] } = c := by
        rw [hrest, List.append_nil]; rfl
      rw [hcursor]
      cases fuel with
      | zero => exact .pure _ _
      | succ fuel =>
          refine (Reader.Reads.get c).bind ?_
          rw [hrest]
          exact .pure _ _
  | r :: rs, w, slots, c, fuel, hc, hfits, hok, hbytes, hfuel => by
      rw [Record.fitsAfter, Bool.and_eq_true] at hfits
      rw [Writer.writeAll_cons] at hok hbytes
      obtain ⟨hroom, bs, hw, hnext⟩ := Writer.write_ok (hok _ List.mem_cons_self)
      have hok' := fun o ho => hok o (List.mem_cons_of_mem _ ho)
      rw [hnext] at hok' hbytes
      obtain ⟨more, hmore⟩ := Writer.writeAll_bytes rs
        { w with bytes := w.bytes ++ bs, slots := w.slots ++ [r.kind] }
      have hrest : c.rest = bs ++ more := by
        rw [hmore, List.append_assoc] at hbytes
        exact (List.append_cancel_left hbytes).symm
      obtain ⟨s, g, hread, hadds, hs, hshares⟩ := reads_record hc hfits.1 hw ⟨more, hrest.symm⟩
      -- the cursor after the record, which the rest of the table starts from
      have hagrees : Cursor.Agrees { c.skip bs.length with forest := g, slots := c.slots ++ [s] }
          (Writer.context { w with bytes := w.bytes ++ bs, slots := w.slots ++ [r.kind] })
          (slots ++ [r.tree w.family slots]) :=
        { sentinels := hadds.extend.trans hc.sentinels
          read := List.rel_append (hc.read.imp fun _ _ h => h.mono hadds.extend) (.cons hs .nil)
          kinds := by
            have hkinds : w.slots = slots.map SlotTree.kind := hc.kinds
            rw [List.map_append, ← hkinds, List.map_singleton, Record.kind_tree]
            rfl }
      have hspans : (slots ++ [r.tree w.family slots]).map SlotTree.span
          = slots.map SlotTree.span ++ [r.span] := by
        rw [List.map_append, List.map_singleton, Record.span_tree]
      have hpos := WriteContext.record_length_pos hw
      obtain ⟨fuel, rfl⟩ : ∃ n, fuel = n + 1 :=
        ⟨fuel - 1, by rw [hrest, List.length_append] at hfuel; omega⟩
      have hmore' : c.rest.drop bs.length = more := by rw [hrest, List.drop_left]
      have hfuel' : (c.rest.drop bs.length).length ≤ fuel := by
        rw [hmore']; rw [hrest, List.length_append] at hfuel; omega
      obtain ⟨ss, g', hread', hadds', hts, hshares'⟩ := reads_records hagrees
        (hspans ▸ hfits.2) hok' (by rw [hmore, Cursor.skip_rest, hmore']) hfuel'
      refine ⟨s :: ss, g', ?_, ?_, ?_, .cons hshares hshares'⟩
      · have hslots : c.slots.length < 256 := by
          rw [hc.read.length_eq, ← List.length_map SlotTree.kind, ← hc.kinds]
          exact hroom
        have hcursor : { c.skip c.rest.length with forest := g', slots := c.slots ++ s :: ss }
            = { (c.skip bs.length).skip (c.rest.drop bs.length).length with
                forest := g', slots := c.slots ++ [s] ++ ss } := by
          rw [Cursor.skip_skip, hmore', hrest, List.length_append, List.append_cons]
        rw [hcursor]
        refine reads_records_step (by rw [hrest, List.length_append]; omega) hslots hread hread'
      · rw [Record.labelsAfter, ← hspans]
        exact hadds'.trans hadds
      · rw [Record.treesAfter, List.append_cons]
        exact hts

/-! ### Reading tables -/

/-- Arrays of 256 places are maps. -/
theorem mapM_rootMap (first : Nat) : ∀ {maps : List (List NodeId)} (n : Nat),
    (∀ map ∈ maps, map.length = 256) →
    ((maps.map Slot.array).zipIdx n).mapM (fun (s, n) => Reader.rootMap (first + n) s) = .ok maps
  | [], _, _ => rfl
  | map :: maps, n, h => by
      have ih := mapM_rootMap first (n + 1) fun map hmap => h map (List.mem_cons_of_mem _ hmap)
      have hmap : Reader.rootMap (first + n) (.array map) = .ok map :=
        if_pos (h map List.mem_cons_self)
      rw [List.map_cons, List.zipIdx_cons, List.mapM_cons, ih]
      dsimp only
      rw [hmap]
      rfl

/-- Records that describe 256 places are read as maps. -/
theorem maps_of_shares : ∀ {ss : List Slot} {rs : List Record}, List.Forall₂ Slot.Shares ss rs →
    (∀ r ∈ rs, r.span = some 256) → ∃ maps : List (List NodeId),
      ss = maps.map Slot.array ∧ ∀ map ∈ maps, map.length = 256
  | _, _, .nil, _ => ⟨[], rfl, by simp⟩
  | _, _, .cons h hs, hspan => by
      obtain ⟨maps, rfl, hmaps⟩ := maps_of_shares hs fun r hr => hspan r (List.mem_cons_of_mem _ hr)
      have hfirst := hspan _ List.mem_cons_self
      cases h with
      | node id e => cases hfirst
      | array h =>
          obtain ⟨owners, hlen, rfl, -⟩ := h
          refine ⟨spread _ owners :: maps, rfl, List.forall_mem_cons.mpr ⟨?_, hmaps⟩⟩
          rw [length_spread hlen.symm]
          exact Option.some.inj hfirst

/-- A written table is read, and the forest grows by the nodes that the records describe. -/
theorem readTable_adds {f : Family} {records : List Record} {count : Nat} {forest : Forest}
    (hforest : forest.Extends .fresh)
    (hok : ∀ outcome ∈ (Writer.writeAll { family := f } records).1, outcome.isOk)
    (hfits : Record.fitsAll f records) (hcount : count ≤ records.length)
    (hroots : ∀ r ∈ records.drop (records.length - count), r.span = some 256) :
    ∃ maps forest', readTable f count (Writer.writeAll { family := f } records).2.bytes forest
        = (.ok maps, forest') ∧
      forest'.Adds forest (Record.labelsAfter f [] records) ∧
      List.Forall₂ (fun map t => (Slot.array map).Unfolds forest' t) maps
        ((Record.trees f records).drop (records.length - count)) ∧
      List.Forall₂ (fun map r => (Slot.array map).Shares r) maps
        (records.drop (records.length - count)) := by
  set data := (Writer.writeAll { family := f } records).2.bytes
  have hagrees : ({ rest := data, forest } : Cursor).Agrees (Writer.context { family := f }) [] :=
    ⟨hforest, .nil, rfl⟩
  obtain ⟨ss, g, hread, hadds, hts, hshares⟩ :=
    reads_records hagrees hfits hok rfl (Nat.le_refl data.length)
  rw [List.nil_append] at hread hts
  have hlen : ss.length = records.length := hshares.length_eq
  have hts' := List.forall₂_drop (records.length - count) hts
  have hshares' := List.forall₂_drop (records.length - count) hshares
  obtain ⟨maps, hmaps, h256⟩ := maps_of_shares hshares' hroots
  rw [hmaps, List.forall₂_map_left_iff] at hts' hshares'
  refine ⟨maps, g, ?_, hadds, hts', hshares'⟩
  have hroot : Reader.rootMaps count ss = .ok maps := by
    rw [Reader.rootMaps, if_neg (by omega), hlen]
    simp only [hmaps]
    exact mapM_rootMap _ 0 h256
  have hwhole : Reader.Reads (Reader.whole f count) { rest := data, forest } maps
      { rest := data.drop data.length, offset := 0 + data.length, forest := g, slots := ss } := by
    refine (Reader.Reads.get _).bind (hread.bind ((Reader.Reads.get _).bind ?_))
    show Reader.Reads (liftExcept (Reader.rootMaps count ss)) _ _ _
    rw [hroot]
    exact .pure _ _
  unfold readTable
  rw [hwhole]

/-- **A table that was written is read as its records describe.** Whenever all records are written
without a fault, every node has the fields of its tag, and the last `count` records are arrays of
256 places, the table is read: the node at each place of each map unfolds to the tree of the
entry that covers the place, and one node stands at all places of an entry and of equal entries
in a row. -/
theorem readTable_writeAll {f : Family} {records : List Record} {count : Nat} {forest : Forest}
    (hforest : forest.Extends .fresh)
    (hok : ∀ outcome ∈ (Writer.writeAll { family := f } records).1, outcome.isOk)
    (hfits : Record.fitsAll f records) (hcount : count ≤ records.length)
    (hroots : ∀ r ∈ records.drop (records.length - count), r.span = some 256) :
    ∃ maps forest', readTable f count (Writer.writeAll { family := f } records).2.bytes forest
        = (.ok maps, forest') ∧
      forest'.Extends forest ∧
      List.Forall₂ (fun map t => (Slot.array map).Unfolds forest' t) maps
        ((Record.trees f records).drop (records.length - count)) ∧
      List.Forall₂ (fun map r => (Slot.array map).Shares r) maps
        (records.drop (records.length - count)) := by
  obtain ⟨maps, forest', hread, hadds, hts, hshares⟩ :=
    readTable_adds hforest hok hfits hcount hroots
  exact ⟨maps, forest', hread, hadds.extend, hts, hshares⟩

/-- A node that is referred to twice in a row, a pair of invalid places, a repeated entry and a
node with children of its own. -/
def smallTable : List Record :=
  [.handler (.node VexTag.simple.byte [.code .VEX_Vzeroupper]),
    .array [.ref 0, .ref 0, .invalid, .invalid, .repeated 251 .null,
      .node VexTag.byW.byte [.child (.ref 0), .child .invalidNoModRM]]]

theorem readTable_smallTable :
    ∃ maps forest, readTable .vex 1 (Writer.writeAll { family := .vex } smallTable).2.bytes .fresh
        = (.ok maps, forest) ∧
      forest.Extends .fresh ∧
      List.Forall₂ (fun map t => (Slot.array map).Unfolds forest t) maps
        ((Record.trees .vex smallTable).drop 1) ∧
      List.Forall₂ (fun map r => (Slot.array map).Shares r) maps (smallTable.drop 1) :=
  readTable_writeAll (.refl _) (by decide) (by decide) (by decide) (by decide)

end OpcodeForest
