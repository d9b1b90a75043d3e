import OpcodeForest.Proofs.Table.FieldRoundTrip

/-!
# Written entries read back

An entry that the writer has put out without a fault is read as a node that unfolds to the tree
of the entry. The proof goes by the structure of the entry; each nested entry takes a byte of the
depth that the reader is given.

* `unfolds_push`: the node of a sketch, added with the numbers of its children, unfolds to the
  tree of the sketch.
* `readsBack_entry`: an entry is read as its tree.
-/

namespace OpcodeForest

/-- The numbers that the local ones of a sketch stand for. -/
def resolve (ids : List NodeId) (id : NodeId) : NodeId :=
  (NodeId.invalid :: .invalidNoModRM :: .null :: ids).getD id.index .invalid

/-- The numbers read are put in for the local ones in their order. -/
theorem renumbers_resolve (ids : List NodeId) : Renumbers (resolve ids) firstLocal ids := by
  refine List.ext_getElem (by simp [localNumbers]) fun n _ hn => ?_
  simp only [localNumbers, List.getElem_map, List.getElem_range', resolve, firstLocal]
  rw [Nat.one_mul, Nat.add_comm 3]
  simp [List.getD_eq_getElem?_getD, hn]

theorem forall₂_getD {α β : Type} {R : α → β → Prop} {a : α} {b : β} (hab : R a b) :
    ∀ {as : List α} {bs : List β}, List.Forall₂ R as bs → ∀ n, R (as.getD n a) (bs.getD n b)
  | _, _, .nil, _ => hab
  | _, _, .cons h _, 0 => h
  | _, _, .cons _ hs, n + 1 => forall₂_getD hab hs n

/-- A tag that the family lacks is a fault of the writer. -/
theorem WriteContext.optional_eq_ofBytes {w : WriteContext} {name : String} {tag : Option UInt8}
    {bs : List UInt8} (h : w.optional name tag = .ofBytes bs) : ∃ b, tag = some b ∧ bs = [b] := by
  cases tag with
  | none => exact absurd h Emission.fail_ne_ofBytes
  | some b => exact ⟨b, rfl, (Emission.ofBytes_inj h).symm⟩

namespace Family

/-- The shared entries have the tags that the reader expects. The EVEX family lacks two of them. -/
theorem spells_invalid (f : Family) : f.Spells f.shared.invalid (.sentinel .invalid) := by
  cases f <;> exact ⟨_, rfl⟩

theorem spells_invalidNoModRM {f : Family} {tag : UInt8} (h : f.shared.invalidNoModRM = some tag) :
    f.Spells tag (.sentinel .invalidNoModRM) := by
  cases f <;> cases h <;> exact ⟨_, rfl⟩

theorem spells_null {f : Family} {tag : UInt8} (h : f.shared.null = some tag) :
    f.Spells tag (.sentinel .null) := by
  cases f <;> cases h <;> exact ⟨_, rfl⟩

theorem spells_invalidPair (f : Family) : f.Spells f.shared.invalidPair .invalidPair := by
  cases f <;> exact ⟨_, rfl⟩

theorem spells_repeated (f : Family) : f.Spells f.shared.repeated .repeated := by
  cases f <;> exact ⟨_, rfl⟩

theorem spells_handlerReference (f : Family) :
    f.Spells f.shared.handlerReference .handlerReference := by
  cases f <;> exact ⟨_, rfl⟩

end Family

section Entries

variable {w : WriteContext} {slots : List SlotTree} {depth : Nat} {c c' : Cursor}

/-- The node of a sketch, with the numbers read for its children, unfolds to the tree of the
sketch. -/
theorem unfolds_push {n : Node} {ids : List NodeId} {ts : List Tree} (hc : c.Agrees w slots)
    (hids : List.Forall₂ c.forest.Unfolds ids ts) :
    (c.forest.push (n.rename (resolve ids))).Unfolds ⟨c.forest.size⟩ (.ofSketch n ts) := by
  obtain ⟨h₀, h₁, h₂⟩ := hc.unfolds_sentinel
  have hall : List.Forall₂ c.forest.Unfolds (.invalid :: .invalidNoModRM :: .null :: ids)
      (Tree.sentinels ++ ts) := .cons h₀ (.cons h₁ (.cons h₂ hids))
  have hchildren : List.Forall₂ (c.forest.push (n.rename (resolve ids))).Unfolds
      (n.rename (resolve ids)).children
      (n.children.map fun id => (Tree.sentinels ++ ts).getD id.index .invalid) := by
    rw [Node.children_rename, List.forall₂_map_left_iff, List.forall₂_map_right_iff,
      List.forall₂_same]
    exact fun id _ => (forall₂_getD h₀ hall id.index).mono (.push _ _)
  have h := Forest.Unfolds.node (Forest.get?_push _ _) (Forest.unfoldsAll_iff.mpr hchildren)
  rwa [Node.label_rename] at h

/-- The tag of an entry takes one level of depth and one byte. -/
theorem reads_announced {tag : UInt8} {rule : TagRule} {a : Constructed} (h : c.Ahead [tag])
    (hrule : w.family.Spells tag rule)
    (hr : Reader.Reads (Reader.announced w.family
      (Reader.single (Reader.entryWithin w.family depth)) rule) (c.skip 1) a c') :
    Reader.Reads (Reader.entryWithin w.family (depth + 1)) c a c' := by
  obtain ⟨name, hrow⟩ := hrule
  refine (Reader.reads_byte h).bind ?_
  rw [hrow]
  exact hr

/-- Entries of one byte, which stand for a node that every forest has. -/
theorem readsBack_fixed {e : Entry} {id : NodeId}
    (he : ∀ {bs}, w.entry e = .ofBytes bs → ∃ tag rule, bs = [tag] ∧ w.family.Spells tag rule ∧
      ∀ child, Reader.announced w.family child rule = Pure.pure (e.constructed id))
    (hid : ∀ {c : Cursor}, c.Agrees w slots → c.forest.Unfolds id (e.tree w.family slots)) :
    ReadsBack w slots depth e := by
  intro c bs hc hw hlen hahead
  obtain ⟨tag, rule, rfl, hrule, hread⟩ := he hw
  obtain ⟨depth, rfl⟩ : ∃ d, depth = d + 1 := ⟨depth - 1, by simp at hlen; omega⟩
  refine ⟨id, c.forest, reads_announced hahead hrule ?_, .refl _ _, hid hc⟩
  rw [hread]
  exact .pure _ _

/-- A reference is read as the node of the record, which unfolds to the tree of the record. -/
theorem readsBack_ref (slot : UInt8) : ReadsBack w slots depth (.ref slot) := by
  intro c bs hc hw hlen hahead
  rw [WriteContext.entry] at hw
  obtain ⟨rfl, s, t, hs, ht, hst, hkind⟩ := hc.slot_of_reference hw
  obtain ⟨h⟩ | ⟨h⟩ := hst
  case array => cases hkind
  rename_i id t
  obtain ⟨depth, rfl⟩ : ∃ d, depth = d + 1 := ⟨depth - 1, by simp at hlen; omega⟩
  obtain ⟨htag, hslot⟩ := Cursor.ahead_cons.mp hahead
  refine ⟨id, c.forest, reads_announced htag (w.family.spells_handlerReference) ?_, .refl _ _, ?_⟩
  · have hread : Reader.Reads Reader.handlerReference (c.skip 1) id (c.skip 2) := by
      refine (Reader.reads_byte hslot).bind ?_
      rw [Cursor.skip_skip]
      exact (Reader.reads_slot (c := c.skip 2) hs).bind (.pure _ _)
    exact hread.map _
  · simpa [Entry.tree, ht] using h

/-- A repetition is read as its entry, with the count behind the tag. -/
theorem readsBack_repeated {count : UInt32} {e : Entry}
    (he : ∀ depth, ReadsBack w slots depth e) : ReadsBack w slots depth (.repeated count e) := by
  intro c bs hc hw hlen hahead
  rw [WriteContext.entry] at hw
  obtain ⟨bs', he', rfl⟩ := Emission.ofBytes_append_eq hw
  split at he'
  · exact absurd he' Emission.fail_ne_ofBytes
  rename_i hrep
  obtain ⟨depth, rfl⟩ : ∃ d, depth = d + 1 := ⟨depth - 1, by simp at hlen; omega⟩
  obtain ⟨htag, hrest⟩ := Cursor.ahead_cons.mp hahead
  obtain ⟨hcount, hchild⟩ := Cursor.ahead_append.mp hrest
  have hagrees : ((c.skip 1).skip (Compressed.encode count).length).Agrees w slots :=
    hc.grow (.refl _) rfl
  obtain ⟨id, forest, hreads, hadds, ht⟩ :=
    he depth hagrees he' (by simp at hlen; omega) hchild
  refine ⟨id, forest, reads_announced htag (w.family.spells_repeated) ?_, hadds, ht⟩
  rw [Entry.constructed_of_not_isRepeat hrep, Cursor.skip_skip, Cursor.skip_skip] at hreads
  have hcursor : 1 + (Compressed.encode count).length + bs'.length
      = (w.family.shared.repeated :: Compressed.encode count ++ bs').length := by
    simp; omega
  rw [hcursor] at hreads
  refine (Reader.reads_number hcount).bind ?_
  rw [Cursor.skip_skip]
  exact (Reader.reads_single hreads).map (Constructed.repeated · count.toNat)

/-- A node, given its children: its fields are read as its sketch, and the node is added last. -/
theorem readsBack_node {tag : UInt8} {fields : List NodeField} {n : Node}
    (hn : Entry.sketch? w.family (slots.map SlotTree.span) tag fields = some n)
    (hchildren : ∀ e, .child e ∈ fields → ∀ depth, ReadsBack w slots depth e) :
    ReadsBack w slots depth (.node tag fields) := by
  intro c bs hc hw hlen hahead
  rw [WriteContext.entry] at hw
  obtain ⟨bs', hfields, rfl⟩ := Emission.ofBytes_append_eq hw
  obtain ⟨depth, rfl⟩ : ∃ d, depth = d + 1 := ⟨depth - 1, by simp at hlen; omega⟩
  obtain ⟨htag, hrest⟩ := Cursor.ahead_cons.mp hahead
  obtain ⟨kind, layout, p₀, hspells, hsketch, rfl⟩ := Entry.sketch?_eq_some hn
  have hstands : (c.skip 1).Stands w slots depth fields :=
    ⟨hc.grow (.refl _) rfl, ⟨bs', hfields, by simpa using hlen, hrest⟩,
      fun e he => hchildren e he depth⟩
  obtain ⟨ids, p, c₁, hp, ht⟩ := reads_payload hstands hsketch {}
  obtain ⟨used, hused, hpasses⟩ := ht.passes
  obtain rfl : fields = used := by simpa using hused
  obtain ⟨bs₁, hbs₁, hc₁⟩ := hpasses.bytes
  obtain rfl : bs' = bs₁ := Emission.ofBytes_inj (hfields.symm.trans hbs₁)
  have hnode : kind.node p = (kind.node p₀).rename (resolve ids) := by
    rw [hp _ (renumbers_resolve ids) rfl, Kind.node_rename rfl rfl]
  refine ⟨⟨c₁.forest.size⟩, c₁.forest.push (kind.node p),
    reads_announced htag hspells (ht.reads.bind ?_), ?_, ?_⟩
  · have hcursor : { c.skip ([tag] ++ bs').length with forest := c₁.forest.push (kind.node p) }
        = { c₁ with forest := c₁.forest.push (kind.node p) } := by
      rw [hc₁, Cursor.skip_skip, List.length_append]
      rfl
    rw [hcursor]
    exact (Reader.reads_push _ _).map _
  · rw [Entry.labels, hn, hnode]
    have hlabel := Forest.Adds.push c₁.forest ((kind.node p₀).rename (resolve ids))
    rw [Node.label_rename] at hlabel
    exact hlabel.trans hpasses.adds
  · rw [Entry.tree, hn, hnode]
    exact unfolds_push (hpasses.agrees hstands.agrees) hpasses.trees

end Entries

mutual

/-- **An entry that has been written is read as its tree.** -/
theorem readsBack_entry {w : WriteContext} {slots : List SlotTree} : ∀ (e : Entry),
    e.laidOut w.family (slots.map SlotTree.span) → ∀ depth, ReadsBack w slots depth e
  | .invalid, _, _ => readsBack_fixed
      (fun hw => by
        rw [WriteContext.entry] at hw
        exact ⟨_, _, (Emission.ofBytes_inj hw).symm, w.family.spells_invalid, fun _ => rfl⟩)
      fun hc => hc.unfolds_sentinel.1
  | .invalidPair, _, _ => readsBack_fixed
      (fun hw => by
        rw [WriteContext.entry] at hw
        exact ⟨_, _, (Emission.ofBytes_inj hw).symm, w.family.spells_invalidPair, fun _ => rfl⟩)
      fun hc => hc.unfolds_sentinel.1
  | .invalidNoModRM, _, _ => readsBack_fixed
      (fun hw => by
        obtain ⟨tag, htag, hbs⟩ := WriteContext.optional_eq_ofBytes hw
        exact ⟨tag, _, hbs, Family.spells_invalidNoModRM htag, fun _ => rfl⟩)
      fun hc => hc.unfolds_sentinel.2.1
  | .null, _, _ => readsBack_fixed
      (fun hw => by
        obtain ⟨tag, htag, hbs⟩ := WriteContext.optional_eq_ofBytes hw
        exact ⟨tag, _, hbs, Family.spells_null htag, fun _ => rfl⟩)
      fun hc => hc.unfolds_sentinel.2.2
  | .ref slot, _, _ => readsBack_ref slot
  | .repeated count e, hlaid, _ => by
      rw [Entry.laidOut] at hlaid
      exact readsBack_repeated (readsBack_entry e hlaid)
  | .node tag fields, hlaid, _ => by
      rw [Entry.laidOut, Bool.and_eq_true] at hlaid
      obtain ⟨n, hn⟩ := Option.isSome_iff_exists.mp hlaid.1
      exact readsBack_node hn (readsBack_children fields hlaid.2)

/-- The children of a node are smaller than the node. -/
theorem readsBack_child {w : WriteContext} {slots : List SlotTree} : ∀ (field : NodeField),
    field.laidOut w.family (slots.map SlotTree.span) → ∀ e, field = .child e →
    ∀ depth, ReadsBack w slots depth e
  | .child e, hlaid, _, rfl => readsBack_entry e hlaid

theorem readsBack_children {w : WriteContext} {slots : List SlotTree} :
    ∀ (fields : List NodeField), NodeField.laidOutAll w.family (slots.map SlotTree.span) fields →
    ∀ e, .child e ∈ fields → ∀ depth, ReadsBack w slots depth e
  | field :: fields, hlaid, e, he => by
      rw [NodeField.laidOutAll, Bool.and_eq_true] at hlaid
      rcases List.mem_cons.mp he with he | he
      · exact readsBack_child field hlaid.1 e he.symm
      · exact readsBack_children fields hlaid.2 e he

end

end OpcodeForest
