import OpcodeForest.Proofs.Table.Description
import OpcodeForest.Proofs.Table.Reads
import OpcodeForest.Table.Writer

/-!
# Written fields read back

A node reads its fields one after the other, and each field adds plain data to the payload or
numbers of child nodes. What is kept along the fields is `Passes`: the bytes of the fields so far
are behind, and the numbers read so far unfold to the trees that those fields describe. That the
children read back is assumed here, as `ReadsBack`.

* `fills_field`: one field adds to a payload what its sketch says.
* `reads_payload`: the fields of a node are read as its sketch with the numbers read put in for
  the local ones.
-/

namespace OpcodeForest

/-! ### Emissions without a fault -/

namespace Emission

@[simp] theorem ofBytes_append (as bs : List UInt8) :
    ofBytes as ++ ofBytes bs = ofBytes (as ++ bs) := rfl

/-- A sequence without a fault has parts without a fault. -/
theorem append_eq_ofBytes {a b : Emission} {bs : List UInt8} (h : a ++ b = ofBytes bs) :
    ∃ as bs', a = ofBytes as ∧ b = ofBytes bs' ∧ bs = as ++ bs' := by
  obtain ⟨as, fault⟩ := a
  obtain ⟨bs', fault'⟩ := b
  change andThen _ _ = _ at h
  cases fault with
  | some e => cases h
  | none =>
      obtain ⟨rfl, rfl⟩ := Emission.mk.inj h
      exact ⟨as, bs', rfl, rfl, rfl⟩

/-- The same where the first part is known to be bytes. -/
theorem ofBytes_append_eq {as bs : List UInt8} {b : Emission} (h : ofBytes as ++ b = ofBytes bs) :
    ∃ bs', b = ofBytes bs' ∧ bs = as ++ bs' := by
  obtain ⟨as', bs', ha, hb, rfl⟩ := append_eq_ofBytes h
  obtain rfl : as = as' := congrArg bytes ha
  exact ⟨bs', hb, rfl⟩

/-- A fault is no sequence of bytes. -/
theorem fail_ne_ofBytes {e : TableError} {bs : List UInt8} : fail e ≠ ofBytes bs := by
  intro h
  cases congrArg fault h

theorem ofBytes_inj {as bs : List UInt8} (h : ofBytes as = ofBytes bs) : as = bs :=
  congrArg bytes h

end Emission

/-! ### Where a reader stands among what has been written -/

/-- A slot of the reader holds what its record describes. -/
inductive Slot.Unfolds (forest : Forest) : Slot → SlotTree → Prop where
  | node {id : NodeId} {t : Tree} (h : forest.Unfolds id t) : Unfolds forest (.node id) (.node t)
  | array {ids : List NodeId} {ts : List Tree} (h : List.Forall₂ forest.Unfolds ids ts) :
      Unfolds forest (.array ids) (.array ts)

/-- A record stands for the same trees when the forest has more nodes. -/
theorem Slot.Unfolds.mono {f g : Forest} (hg : g.Extends f) {s : Slot} {t : SlotTree} :
    s.Unfolds f t → s.Unfolds g t
  | .node h => .node (h.mono hg)
  | .array h => .array (h.imp fun _ _ h => h.mono hg)

/-- The reader has read the records `slots`, against which the writer writes on. -/
structure Cursor.Agrees (c : Cursor) (w : WriteContext) (slots : List SlotTree) : Prop where
  sentinels : c.forest.Extends .fresh
  read : List.Forall₂ (Slot.Unfolds c.forest) c.slots slots
  kinds : w.slots = slots.map SlotTree.kind

namespace Cursor.Agrees

variable {c c' : Cursor} {w : WriteContext} {slots : List SlotTree}

/-- Reading on adds nodes and leaves the records alone, so the cursor still agrees with the writer.
-/
theorem grow (h : c.Agrees w slots) (hf : c'.forest.Extends c.forest) (hs : c'.slots = c.slots) :
    c'.Agrees w slots where
  sentinels := hf.trans h.sentinels
  read := hs ▸ h.read.imp fun _ _ h => h.mono hf
  kinds := h.kinds

/-- The sentinels unfold to themselves. -/
theorem unfolds_sentinel (h : c.Agrees w slots) :
    c.forest.Unfolds .invalid .invalid ∧ c.forest.Unfolds .invalidNoModRM .invalidNoModRM ∧
      c.forest.Unfolds .null .null :=
  ⟨.node (h.sentinels.get? (rfl : Forest.fresh.get? .invalid = some _)) .nil,
    .node (h.sentinels.get? (rfl : Forest.fresh.get? .invalidNoModRM = some _)) .nil,
    .node (h.sentinels.get? (rfl : Forest.fresh.get? .null = some _)) .nil⟩

/-- A written reference names a record that has been read. -/
theorem slot_of_reference (h : c.Agrees w slots) {tag slot : UInt8} {kind : SlotKind}
    {bs : List UInt8} (hw : w.reference tag slot kind = .ofBytes bs) :
    bs = [tag, slot] ∧ ∃ s t, c.slots[slot.toNat]? = some s ∧ slots[slot.toNat]? = some t ∧
      s.Unfolds c.forest t ∧ t.kind = kind := by
  unfold WriteContext.reference at hw
  rw [h.kinds, List.getElem?_map] at hw
  cases ht : slots[slot.toNat]? with
  | none => rw [ht] at hw; exact absurd hw Emission.fail_ne_ofBytes
  | some t =>
      simp only [ht, Option.map_some] at hw
      split at hw
      · rename_i hkind
        obtain ⟨hlt, hget⟩ := List.getElem?_eq_some_iff.mp ht
        have hlt' : slot.toNat < c.slots.length := by rw [h.read.length_eq]; exact hlt
        have hs : (c.slots[slot.toNat]).Unfolds c.forest t :=
          hget ▸ (List.forall₂_iff_get.mp h.read).2 _ hlt' hlt
        exact ⟨(Emission.ofBytes_inj hw).symm, c.slots[slot.toNat], t,
          List.getElem?_eq_getElem hlt', rfl, hs, hkind⟩
      · exact absurd hw Emission.fail_ne_ofBytes

end Cursor.Agrees

/-- The reader has gone from `c` to `c'` over the bytes of `fields`; the child nodes it has read
on the way are `ids`. -/
structure Passes (w : WriteContext) (slots : List SlotTree) (c : Cursor)
    (fields : List NodeField) (ids : List NodeId) (c' : Cursor) : Prop where
  bytes : ∃ bs, w.fields fields = .ofBytes bs ∧ c' = { c.skip bs.length with forest := c'.forest }
  adds : c'.forest.Adds c.forest
    (NodeField.labelsAll w.family (slots.map SlotTree.span) fields)
  trees : List.Forall₂ c'.forest.Unfolds ids (NodeField.treesAll w.family slots fields)

/-- The bytes of `fields` lie ahead, at most `depth` of them. -/
def Cursor.Before (c : Cursor) (w : WriteContext) (depth : Nat) (fields : List NodeField) : Prop :=
  ∃ bs, w.fields fields = .ofBytes bs ∧ bs.length ≤ depth ∧ c.Ahead bs

theorem Emission.append_assoc (a b c : Emission) : a ++ b ++ c = a ++ (b ++ c) := by
  obtain ⟨as, _ | _⟩ := a <;> obtain ⟨bs, _ | _⟩ := b
  · exact congrArg (Emission.mk · _) (List.append_assoc _ _ _)
  all_goals rfl

/-- The fields of a node are written one after the other. -/
theorem WriteContext.fields_append (w : WriteContext) (as bs : List NodeField) :
    w.fields (as ++ bs) = w.fields as ++ w.fields bs := by
  induction as with
  | nil => rw [List.nil_append, WriteContext.fields]; rfl
  | cons a as ih => rw [List.cons_append, WriteContext.fields, WriteContext.fields, ih,
      Emission.append_assoc]

/-- Children are counted in the order of the fields. -/
theorem NodeField.treesAll_append (f : Family) (slots : List SlotTree) (as bs : List NodeField) :
    treesAll f slots (as ++ bs) = treesAll f slots as ++ treesAll f slots bs := by
  induction as with
  | nil => simp [treesAll]
  | cons a as ih => simp [treesAll, ih]

theorem NodeField.labelsAll_append (f : Family) (spans : Spans) (as bs : List NodeField) :
    labelsAll f spans (as ++ bs) = labelsAll f spans as ++ labelsAll f spans bs := by
  induction as with
  | nil => simp [labelsAll]
  | cons a as ih => simp [labelsAll, ih]

namespace Passes

variable {w : WriteContext} {slots : List SlotTree} {c c' c'' : Cursor}
  {as bs : List NodeField} {ids ids' : List NodeId}

/-- No fields, no bytes. -/
theorem nil (w : WriteContext) (slots : List SlotTree) (c : Cursor) :
    Passes w slots c [] [] c where
  bytes := ⟨[], by rw [WriteContext.fields]; rfl, rfl⟩
  adds := .refl _ _
  trees := by rw [NodeField.treesAll]; exact .nil

/-- **Fields in sequence**: bytes, new nodes and children add up. -/
theorem append (h : Passes w slots c as ids c') (h' : Passes w slots c' bs ids' c'') :
    Passes w slots c (as ++ bs) (ids ++ ids') c'' where
  bytes := by
    obtain ⟨xs, hxs, hc'⟩ := h.bytes
    obtain ⟨ys, hys, hc''⟩ := h'.bytes
    refine ⟨xs ++ ys, by rw [w.fields_append, hxs, hys, Emission.ofBytes_append], ?_⟩
    rw [hc'', hc', List.length_append, ← Cursor.skip_skip]
    rfl
  adds := by
    rw [NodeField.labelsAll_append]
    exact h'.adds.trans h.adds
  trees := by
    rw [NodeField.treesAll_append]
    exact List.rel_append (h.trees.imp fun _ _ h => h.mono h'.adds.extend) h'.trees

/-- Fields add no records. -/
theorem slots_eq (h : Passes w slots c as ids c') : c'.slots = c.slots := by
  obtain ⟨_, -, hc'⟩ := h.bytes
  rw [hc']; rfl

/-- The writer still knows the records behind the fields. -/
theorem agrees (h : Passes w slots c as ids c') (hc : c.Agrees w slots) : c'.Agrees w slots :=
  hc.grow h.adds.extend h.slots_eq

/-- Behind the first fields the cursor stands before the others. -/
theorem before {depth : Nat} (h : Passes w slots c as ids c')
    (hb : c.Before w depth (as ++ bs)) : c'.Before w depth bs := by
  obtain ⟨xs, hxs, hc'⟩ := h.bytes
  obtain ⟨zs, hzs, hlen, hahead⟩ := hb
  rw [w.fields_append, hxs] at hzs
  obtain ⟨ys, hys, rfl⟩ := Emission.ofBytes_append_eq hzs
  refine ⟨ys, hys, by rw [List.length_append] at hlen; omega, ?_⟩
  rw [hc']
  exact (Cursor.ahead_append.mp hahead).2

/-- A field without children. -/
theorem plain {field : NodeField} {xs : List UInt8} (hw : w.field field = .ofBytes xs)
    (hchild : ∀ e, field ≠ .child e) (htable : ∀ slot, field ≠ .table slot) :
    Passes w slots c [field] [] (c.skip xs.length) where
  bytes := ⟨xs, by
    rw [WriteContext.fields, WriteContext.fields, hw]
    exact congrArg Emission.ofBytes (List.append_nil xs), rfl⟩
  adds := .refl _ _
  trees := by
    cases field with
    | child e => exact absurd rfl (hchild e)
    | table slot => exact absurd rfl (htable slot)
    | _ => simp [NodeField.treesAll, NodeField.trees]

end Passes

/-- The bytes of the next field lie ahead, and fit into the depth that is left. -/
theorem Cursor.Before.cons {c : Cursor} {w : WriteContext} {depth : Nat} {field : NodeField}
    {rest : List NodeField} (h : c.Before w depth (field :: rest)) :
    ∃ bs, w.field field = .ofBytes bs ∧ bs.length ≤ depth ∧ c.Ahead bs := by
  obtain ⟨xs, hxs, hlen, hahead⟩ := h
  rw [WriteContext.fields] at hxs
  obtain ⟨as, bs, has, -, rfl⟩ := Emission.append_eq_ofBytes hxs
  exact ⟨as, has, by rw [List.length_append] at hlen; omega, (Cursor.ahead_append.mp hahead).1⟩

/-! ### Reading fields -/

namespace Entry

/-- What an entry is read as when its node is `id`. -/
def constructed (id : NodeId) : Entry → Constructed
  | repeated count _ => .repeated id count.toNat
  | invalidPair => .repeated id 2
  | _ => .single id

/-- An entry that is no repetition stands for one node. -/
theorem constructed_of_not_isRepeat {e : Entry} (h : ¬ e.isRepeat) (id : NodeId) :
    e.constructed id = .single id := by
  cases e <;> first | rfl | exact absurd rfl h

end Entry

/-- Where the bytes of the entry lie ahead, the reader passes them and finds a node that unfolds
to the tree of the entry. -/
def ReadsBack (w : WriteContext) (slots : List SlotTree) (depth : Nat) (e : Entry) : Prop :=
  ∀ {c : Cursor} {bs : List UInt8}, c.Agrees w slots → w.entry e = .ofBytes bs →
    bs.length ≤ depth → c.Ahead bs → ∃ id forest,
      Reader.Reads (Reader.entryWithin w.family depth) c (e.constructed id)
        { c.skip bs.length with forest } ∧
      forest.Adds c.forest (e.labels w.family (slots.map SlotTree.span)) ∧
      forest.Unfolds id (e.tree w.family slots)

/-- The reader stands before the bytes of `fields`, whose children it can read. -/
structure Cursor.Stands (c : Cursor) (w : WriteContext) (slots : List SlotTree) (depth : Nat)
    (fields : List NodeField) : Prop where
  agrees : c.Agrees w slots
  before : c.Before w depth fields
  children : ∀ e, .child e ∈ fields → ReadsBack w slots depth e

/-- The reader `r` goes from `c` to `c'` over the first of `fields` and stops before `rest`; it
meets the children `ids` and gives `a`. -/
structure Takes {α : Type} (w : WriteContext) (slots : List SlotTree) (r : Reader α) (c : Cursor)
    (fields rest : List NodeField) (ids : List NodeId) (a : α) (c' : Cursor) : Prop where
  reads : Reader.Reads r c a c'
  passes : ∃ used, fields = used ++ rest ∧ Passes w slots c used ids c'

namespace Takes

variable {α β : Type} {w : WriteContext} {slots : List SlotTree} {c c' c'' : Cursor}
  {fields mid rest : List NodeField} {ids ids' : List NodeId} {a : α} {b : β}

theorem pure (a : α) (w : WriteContext) (slots : List SlotTree) (c : Cursor)
    (fields : List NodeField) : Takes w slots (Pure.pure a) c fields fields [] a c :=
  ⟨.pure a c, [], rfl, .nil w slots c⟩

/-- **One after the other.** The children that are read come in the order of the fields. -/
theorem bind {r : Reader α} {g : α → Reader β} (h : Takes w slots r c fields mid ids a c')
    (h' : Takes w slots (g a) c' mid rest ids' b c'') :
    Takes w slots (r >>= g) c fields rest (ids ++ ids') b c'' := by
  obtain ⟨used, rfl, hp⟩ := h.passes
  obtain ⟨used', rfl, hp'⟩ := h'.passes
  exact ⟨h.reads.bind h'.reads, used ++ used', (List.append_assoc ..).symm, hp.append hp'⟩

/-- What is made of the result does not matter for the bytes. -/
theorem map {r : Reader α} (g : α → β) (h : Takes w slots r c fields rest ids a c') :
    Takes w slots (do return g (← r)) c fields rest ids (g a) c' :=
  ⟨h.reads.map g, h.passes⟩

/-- A reader leaves the cursor before the fields that it has not taken. -/
theorem stands {r : Reader α} {depth : Nat} (h : Takes w slots r c fields rest ids a c')
    (hc : c.Stands w slots depth fields) : c'.Stands w slots depth rest := by
  obtain ⟨used, rfl, hp⟩ := h.passes
  exact ⟨hp.agrees hc.agrees, hp.before hc.before,
    fun e he => hc.children e (List.mem_append_right _ he)⟩

/-- A field without children, by the reader of its bytes. -/
theorem plain {r : Reader α} {depth : Nat} {field : NodeField}
    (hc : c.Stands w slots depth (field :: rest)) (hchild : ∀ e, field ≠ .child e)
    (htable : ∀ slot, field ≠ .table slot)
    (hr : ∀ bs, w.field field = .ofBytes bs → c.Ahead bs → Reader.Reads r c a (c.skip bs.length)) :
    ∃ c', Takes w slots r c (field :: rest) rest [] a c' := by
  obtain ⟨bs, hw, -, hahead⟩ := hc.before.cons
  exact ⟨_, hr bs hw hahead, [field], rfl, .plain hw hchild htable⟩

end Takes

/-- The local numbers from `next` on stand for `ids`. -/
def Renumbers (σ : NodeId → NodeId) (next : Nat) (ids : List NodeId) : Prop :=
  (localNumbers next ids.length).map σ = ids

/-- The next number goes to the first child, the later ones to the rest. -/
theorem renumbers_cons {σ : NodeId → NodeId} {next : Nat} {id : NodeId} {ids : List NodeId} :
    Renumbers σ next (id :: ids) ↔ σ ⟨next⟩ = id ∧ Renumbers σ (next + 1) ids := by
  simp [Renumbers, localNumbers, List.range'_succ]

/-- The numbers of the children of two runs of fields. -/
theorem renumbers_append {σ : NodeId → NodeId} {next : Nat} {as bs : List NodeId} :
    Renumbers σ next (as ++ bs) ↔ Renumbers σ next as ∧ Renumbers σ (next + as.length) bs := by
  induction as generalizing next with
  | nil => simp [Renumbers, localNumbers]
  | cons a as ih =>
      rw [List.cons_append, renumbers_cons, renumbers_cons, ih, List.length_cons, and_assoc,
        Nat.add_right_comm, Nat.add_assoc next]

/-- Codes that follow on each other, counted from the first. -/
theorem forall₂_of_consecutive {cs : List Code} (h : consecutive cs) :
    List.Forall₂ (fun n (code : Code) => (cs.headD .Invalid).number.val + n = code.number)
      (List.range cs.length) cs := by
  rw [List.forall₂_iff_get]
  refine ⟨List.length_range, fun n hn hn' => ?_⟩
  obtain ⟨base, rest, rfl⟩ := List.exists_cons_of_length_pos (Nat.zero_lt_of_lt hn')
  simp only [consecutive, List.all_eq_true] at h
  have hmem : ((base :: rest)[n], n) ∈ (base :: rest).zipIdx :=
    List.mk_mem_zipIdx_iff_getElem?.mpr (List.getElem?_eq_getElem hn')
  have hn := beq_iff_eq.mp (h _ hmem)
  simp only [List.headD_cons, List.get_eq_getElem, List.getElem_range]
  exact hn.symm

section Fields

variable {w : WriteContext} {slots : List SlotTree} {depth : Nat} {c : Cursor}
  {fields rest : List NodeField}

/-- A number is read as it was given; its shortest spelling is written. -/
theorem takes_number {n : UInt32} (hc : c.Stands w slots depth (.number n :: rest)) :
    ∃ c', Takes w slots Reader.number c (.number n :: rest) rest [] n.toNat c' := by
  refine Takes.plain hc (by rintro _ ⟨⟩) (by rintro _ ⟨⟩) fun bs hw hahead => ?_
  obtain rfl := Emission.ofBytes_inj hw
  exact Reader.reads_number hahead

theorem takes_byte {b : UInt8} (hc : c.Stands w slots depth (.byte b :: rest)) :
    ∃ c', Takes w slots Reader.byte c (.byte b :: rest) rest [] b c' := by
  refine Takes.plain hc (by rintro _ ⟨⟩) (by rintro _ ⟨⟩) fun bs hw hahead => ?_
  obtain rfl := Emission.ofBytes_inj hw
  exact Reader.reads_byte hahead

theorem takes_code {code : Code} (hc : c.Stands w slots depth (.code code :: rest)) :
    ∃ c', Takes w slots Reader.code c (.code code :: rest) rest [] code c' := by
  refine Takes.plain hc (by rintro _ ⟨⟩) (by rintro _ ⟨⟩) fun bs hw hahead => ?_
  obtain rfl := Emission.ofBytes_inj hw
  exact Reader.reads_code hahead

/-- A group of codes is written as its first one, so the others have to follow on it. -/
theorem takes_codes {cs : List Code} (hc : c.Stands w slots depth (.codes cs :: rest)) :
    ∃ c', Takes w slots (Reader.codes cs.length) c (.codes cs :: rest) rest [] cs c' := by
  refine Takes.plain hc (by rintro _ ⟨⟩) (by rintro _ ⟨⟩) fun bs hw hahead => ?_
  rw [WriteContext.field] at hw
  split at hw
  · rename_i hcs
    obtain rfl := Emission.ofBytes_inj hw
    exact Reader.reads_codes (forall₂_of_consecutive hcs) hahead
  · exact absurd hw Emission.fail_ne_ofBytes

theorem takes_register {r : Register} (hc : c.Stands w slots depth (.register r :: rest)) :
    ∃ c', Takes w slots Reader.register c (.register r :: rest) rest [] r c' := by
  refine Takes.plain hc (by rintro _ ⟨⟩) (by rintro _ ⟨⟩) fun bs hw hahead => ?_
  obtain rfl := Emission.ofBytes_inj hw
  exact Reader.reads_register hahead

theorem takes_tuple {t : TupleType} (hc : c.Stands w slots depth (.tuple t :: rest)) :
    ∃ c', Takes w slots Reader.tuple c (.tuple t :: rest) rest [] t c' := by
  refine Takes.plain hc (by rintro _ ⟨⟩) (by rintro _ ⟨⟩) fun bs hw hahead => ?_
  obtain rfl := Emission.ofBytes_inj hw
  exact Reader.reads_tuple hahead

theorem takes_flag {b : Bool} (hc : c.Stands w slots depth (.flag b :: rest)) :
    ∃ c', Takes w slots Reader.flag c (.flag b :: rest) rest [] b c' := by
  refine Takes.plain hc (by rintro _ ⟨⟩) (by rintro _ ⟨⟩) fun bs hw hahead => ?_
  obtain rfl := Emission.ofBytes_inj hw
  exact Reader.reads_flag hahead

/-- A code is a group of its own. -/
theorem takes_code_group {code : Code} (hc : c.Stands w slots depth (.code code :: rest)) :
    ∃ c', Takes w slots (Reader.codes 1) c (.code code :: rest) rest [] [code] c' := by
  refine Takes.plain hc (by rintro _ ⟨⟩) (by rintro _ ⟨⟩) fun bs hw hahead => ?_
  obtain rfl := Emission.ofBytes_inj hw
  have hcodes : List.Forall₂ (fun n (code' : Code) => code.number.val + n = code'.number)
      (List.range [code].length) [code] := .cons rfl .nil
  exact Reader.reads_codes hcodes hahead

/-- **A child**, by the round trip of its entry. -/
theorem takes_child {e : Entry} (hc : c.Stands w slots depth (.child e :: rest)) :
    ∃ id c', Takes w slots (Reader.single (Reader.entryWithin w.family depth)) c
      (.child e :: rest) rest [id] id c' := by
  obtain ⟨bs, hw, hlen, hahead⟩ := hc.before.cons
  rw [WriteContext.field] at hw
  split at hw
  · exact absurd hw Emission.fail_ne_ofBytes
  · rename_i hrep
    obtain ⟨id, forest, hreads, hadds, ht⟩ :=
      hc.children e List.mem_cons_self hc.agrees hw hlen hahead
    refine ⟨id, { c.skip bs.length with forest }, ?_, [.child e], rfl, ?_, ?_, ?_⟩
    · rw [Entry.constructed_of_not_isRepeat hrep] at hreads
      exact Reader.reads_single hreads
    · refine ⟨bs, ?_, rfl⟩
      rw [WriteContext.fields, WriteContext.fields, WriteContext.field, if_neg hrep, hw]
      exact congrArg Emission.ofBytes (List.append_nil bs)
    · simpa [NodeField.labelsAll, NodeField.labels] using hadds
    · simpa [NodeField.treesAll, NodeField.trees] using ht

/-- Children in a row, by induction on their number. -/
theorem takes_children : ∀ {n : Nat} {c : Cursor} {fields : List NodeField},
    c.Stands w slots depth fields → dropChildren? n fields = some rest → ∃ ids c',
      ids.length = n ∧
      Takes w slots (Reader.times (Reader.single (Reader.entryWithin w.family depth)) n) c
        fields rest ids ids c'
  | 0, c, _, _, hn => by
      obtain rfl := Option.some.inj hn
      exact ⟨[], c, rfl, .pure _ _ _ _ _⟩
  | n + 1, c, .child e :: fields, hc, hn => by
      obtain ⟨id, c₁, ht⟩ := takes_child hc
      obtain ⟨ids, c₂, hlen, ht'⟩ := takes_children (ht.stands hc) hn
      exact ⟨id :: ids, c₂, by rw [List.length_cons, hlen], ht.bind (ht'.map (id :: ·))⟩

/-- Children with their switches. The numbers that are read stand for the local ones. -/
theorem takes_alternatives : ∀ {n next : Nat} {c : Cursor} {fields rest : List NodeField}
    {as : List (NodeId × Options)}, c.Stands w slots depth fields →
    alternatives? n next fields = some (as, rest) → ∃ ids as' c', ids.length = n ∧
      (∀ σ, Renumbers σ next ids → as' = as.map fun a => (σ a.1, a.2)) ∧
      Takes w slots
        (Reader.times (Reader.alternative (Reader.single (Reader.entryWithin w.family depth))) n)
        c fields rest ids as' c'
  | 0, next, c, _, _, _, _, hn => by
      obtain ⟨rfl, rfl⟩ := Prod.mk.inj (Option.some.inj hn)
      exact ⟨[], [], c, rfl, fun _ _ => rfl, .pure _ _ _ _ _⟩
  | n + 1, next, c, .child e :: .number bits :: fields, _, _, hc, hn => by
      rw [alternatives?, Option.map_eq_some_iff] at hn
      obtain ⟨⟨as, rest⟩, hn, heq⟩ := hn
      obtain ⟨rfl, rfl⟩ := Prod.mk.inj heq
      obtain ⟨id, c₁, ht₁⟩ := takes_child hc
      obtain ⟨c₂, ht₂⟩ := takes_number (ht₁.stands hc)
      have hfirst : Takes w slots (Reader.alternative _) c (.child e :: .number bits :: fields)
          fields [id] (id, .ofNat bits.toNat) c₂ :=
        ht₁.bind (ht₂.map fun bits => (id, Options.ofNat bits))
      obtain ⟨ids, as', c₃, hlen, hren, ht₃⟩ := takes_alternatives (hfirst.stands hc) hn
      refine ⟨id :: ids, (id, .ofNat bits.toNat) :: as', c₃, by rw [List.length_cons, hlen],
        fun σ hσ => ?_, hfirst.bind (ht₃.map ((id, Options.ofNat bits.toNat) :: ·))⟩
      obtain ⟨hid, hids⟩ := renumbers_cons.mp hσ
      rw [List.map_cons, hid, hren σ hids]

/-- Bytes with their codes, by induction on their number. -/
theorem takes_trailing : ∀ {n : Nat} {c : Cursor} {fields rest : List NodeField}
    {as : List (UInt8 × Code)}, c.Stands w slots depth fields →
    trailing? n fields = some (as, rest) → ∃ c',
      Takes w slots (Reader.times Reader.trailingCode n) c fields rest [] as c'
  | 0, c, _, _, _, _, hn => by
      obtain ⟨rfl, rfl⟩ := Prod.mk.inj (Option.some.inj hn)
      exact ⟨c, .pure _ _ _ _ _⟩
  | n + 1, c, .byte b :: .code code :: fields, _, _, hc, hn => by
      rw [trailing?, Option.map_eq_some_iff] at hn
      obtain ⟨⟨as, rest⟩, hn, heq⟩ := hn
      obtain ⟨rfl, rfl⟩ := Prod.mk.inj heq
      obtain ⟨c₁, ht₁⟩ := takes_byte hc
      obtain ⟨c₂, ht₂⟩ := takes_code (ht₁.stands hc)
      have hfirst : Takes w slots Reader.trailingCode c (.byte b :: .code code :: fields)
          fields [] (b, code) c₂ :=
        ht₁.bind (ht₂.map fun code => (b, code))
      obtain ⟨c₃, ht₃⟩ := takes_trailing (hfirst.stands hc) hn
      exact ⟨c₃, hfirst.bind (ht₃.map ((b, code) :: ·))⟩

/-- A reference to an array of the length that the layout asks for. -/
theorem takes_table {slot : UInt8} {n : Nat} (hc : c.Stands w slots depth (.table slot :: rest))
    (hn : (slots.map SlotTree.span)[slot.toNat]? = some (some n)) : ∃ ids c', ids.length = n ∧
      Takes w slots (Reader.table w.family n) c (.table slot :: rest) rest ids ids c' := by
  obtain ⟨bs, hw, -, hahead⟩ := hc.before.cons
  obtain ⟨rfl, s, t, hs, ht, hst, -⟩ := hc.agrees.slot_of_reference hw
  rw [List.getElem?_map, ht] at hn
  obtain ⟨h⟩ | ⟨h⟩ := hst
  · cases hn
  rename_i ids ts
  obtain rfl : ts.length = n := Option.some.inj (Option.some.inj hn)
  obtain ⟨htag, hslot⟩ := Cursor.ahead_cons.mp hahead
  refine ⟨ids, c.skip 2, h.length_eq, ?_, [.table slot], rfl, ?_, .refl _ _, ?_⟩
  · refine (Reader.reads_byte htag).bind ?_
    rw [if_neg (fun h => h rfl)]
    refine (Reader.Reads.pure _ _).bind ((Reader.reads_byte hslot).bind ?_)
    rw [Cursor.skip_skip]
    refine (Reader.reads_slot (c := c.skip 2) hs).bind ?_
    show Reader.Reads (if ids.length = ts.length then _ else _) _ _ _
    rw [if_pos h.length_eq]
    exact .pure _ _
  · exact ⟨_, by rw [WriteContext.fields, WriteContext.fields, hw]; rfl, rfl⟩
  · simpa [NodeField.treesAll, NodeField.trees, ht] using h

/-- The reader adds to a payload what the fields up to `rest` say, and so does the sketch `p₀'` to
`p₀`; the payloads stay the same up to the numbers read for the local ones. -/
def Fills (w : WriteContext) (slots : List SlotTree) (r : Payload → Reader Payload) (c : Cursor)
    (fields rest : List NodeField) (next next' : Nat) (p₀ p₀' : Payload) : Prop :=
  ∀ p, ∃ ids p' c', next' = next + ids.length ∧
    (∀ σ, Renumbers σ next ids → p = p₀.rename σ → p' = p₀'.rename σ) ∧
    Takes w slots (r p) c fields rest ids p' c'

/-- A field without children leaves the local numbers as they are. -/
theorem fills_plain {α : Type} {r : Reader α} {a : α} {next : Nat} {p₀ : Payload}
    (h : ∃ c', Takes w slots r c fields rest [] a c') (g : Payload → α → Payload)
    (hg : ∀ σ p, g (p.rename σ) a = (g p a).rename σ) :
    Fills w slots (fun p => do return g p (← r)) c fields rest next next p₀ (g p₀ a) := by
  intro p
  obtain ⟨c', ht⟩ := h
  exact ⟨[], g p a, c', rfl, fun σ _ hp => by rw [hp, hg], ht.map (g p)⟩

/-- One field is read as its sketch. -/
theorem fills_field {k : FieldKind} {next next' : Nat} {p₀ p₀' : Payload}
    (hc : c.Stands w slots depth fields)
    (hk : k.sketch? (slots.map SlotTree.span) next p₀ fields = some (p₀', next', rest)) :
    Fills w slots
      (Reader.field w.family (Reader.single (Reader.entryWithin w.family depth)) · k)
      c fields rest next next' p₀ p₀' := by
  match k, fields, hk with
  | .codes n, .code code :: _, hk =>
      rw [FieldKind.sketch?, Option.ite_none_right_eq_some] at hk
      obtain ⟨rfl, ⟨⟩⟩ := hk
      exact fills_plain (takes_code_group hc) (fun p cs => { p with codes := cs }) fun _ _ => rfl
  | .codes n, .codes cs :: _, hk =>
      rw [FieldKind.sketch?, Option.ite_none_right_eq_some] at hk
      obtain ⟨rfl, ⟨⟩⟩ := hk
      exact fills_plain (takes_codes hc) (fun p cs => { p with codes := cs }) fun _ _ => rfl
  | .codesWidened, .codes [c₁₆, c₃₂] :: _, hk =>
      cases hk
      obtain ⟨c', ht⟩ := takes_codes hc
      have hwide : Takes w slots Reader.codesWidened c _ rest [] [c₁₆, c₃₂, c₃₂] c' :=
        ht.bind (.pure _ _ _ _ _)
      exact fills_plain ⟨c', hwide⟩ (fun p cs => { p with codes := cs }) fun _ _ => rfl
  | .register copies, .register r :: _, hk =>
      cases hk
      exact fills_plain (takes_register hc)
        (fun p r => { p with registers := p.registers ++ List.replicate copies r }) fun _ _ => rfl
  | .tuple, .tuple t :: _, hk =>
      cases hk
      exact fills_plain (takes_tuple hc) (fun p t => { p with tuple := t }) fun _ _ => rfl
  | .flag, .flag b :: _, hk =>
      cases hk
      exact fills_plain (takes_flag hc) (fun p b => { p with flags := p.flags ++ [b] })
        fun _ _ => rfl
  | .number, .number n :: _, hk =>
      cases hk
      have hfills : Fills w slots (fun p => do return { p with number := .ofNat (← Reader.number) })
          c (.number n :: rest) rest next next p₀ { p₀ with number := .ofNat n.toNat } :=
        fills_plain (takes_number hc) (fun p n => { p with number := .ofNat n }) fun _ _ => rfl
      rwa [UInt32.ofNat_toNat] at hfills
  | .locks, .number n :: _, hk =>
      cases hk
      exact fills_plain (takes_number hc) (fun p n => { p with locks := .ofBits n })
        fun _ _ => rfl
  | .children n, fields, hk =>
      rw [FieldKind.sketch?, Option.map_eq_some_iff] at hk
      obtain ⟨_, hk, ⟨⟩⟩ := hk
      obtain ⟨ids, c', rfl, ht⟩ := takes_children hc hk
      intro p
      refine ⟨ids, { p with children := p.children ++ ids }, c', rfl, fun σ hσ hp => ?_,
        ht.map _⟩
      rw [hp, Payload.rename, Payload.rename, List.map_append, hσ]
  | .table n, .table slot :: _, hk =>
      rw [FieldKind.sketch?, Option.ite_none_right_eq_some] at hk
      obtain ⟨hspan, ⟨⟩⟩ := hk
      obtain ⟨ids, c', rfl, ht⟩ := takes_table hc hspan
      intro p
      refine ⟨ids, { p with tables := p.tables ++ [ids] }, c', rfl, fun σ hσ hp => ?_, ht.map _⟩
      rw [hp, Payload.rename, Payload.rename, List.map_append, List.map_singleton, hσ]
  | .alternatives, .number n :: _, hk =>
      rw [FieldKind.sketch?, Option.map_eq_some_iff] at hk
      obtain ⟨⟨as, _⟩, hk, ⟨⟩⟩ := hk
      obtain ⟨c₁, ht₁⟩ := takes_number hc
      obtain ⟨ids, as', c₂, hlen, hren, ht₂⟩ := takes_alternatives (ht₁.stands hc) hk
      intro p
      refine ⟨ids, { p with alternatives := as' }, c₂, by rw [hlen], fun σ hσ hp => ?_,
        ht₁.bind (ht₂.map _)⟩
      rw [hp, Payload.rename, Payload.rename, hren σ hσ]
  | .trailing, .number n :: _, hk =>
      rw [FieldKind.sketch?, Option.map_eq_some_iff] at hk
      obtain ⟨⟨as, _⟩, hk, ⟨⟩⟩ := hk
      obtain ⟨c₁, ht₁⟩ := takes_number hc
      obtain ⟨c₂, ht₂⟩ := takes_trailing (ht₁.stands hc) hk
      intro p
      exact ⟨[], { p with trailing := as }, c₂, rfl, fun _ _ hp => by rw [hp]; rfl,
        ht₁.bind (ht₂.map _)⟩

/-- **The fields of a node are read as its sketch**, with the numbers read put in for the local
ones. -/
theorem reads_payload : ∀ {layout : List FieldKind} {next : Nat} {p₀ p₀' : Payload} {c : Cursor}
    {fields : List NodeField}, c.Stands w slots depth fields →
    Payload.sketch? (slots.map SlotTree.span) layout next p₀ fields = some p₀' → ∀ p, ∃ ids p' c',
      (∀ σ, Renumbers σ next ids → p = p₀.rename σ → p' = p₀'.rename σ) ∧
      Takes w slots
        (Reader.payload w.family (Reader.single (Reader.entryWithin w.family depth)) layout p)
        c fields [] ids p' c'
  | [], _, _, _, c, [], _, hsketch, p => by
      obtain rfl := Option.some.inj hsketch
      exact ⟨[], p, c, fun _ _ hp => hp, .pure _ _ _ _ _⟩
  | k :: layout, next, p₀, _, c, fields, hc, hsketch, p => by
      rw [Payload.sketch?, Option.bind_eq_some_iff] at hsketch
      obtain ⟨⟨p₁, next₁, rest⟩, hk, hsketch⟩ := hsketch
      obtain ⟨ids, p', c₁, rfl, hp', ht⟩ := fills_field hc hk p
      obtain ⟨ids', p'', c₂, hp'', ht'⟩ := reads_payload (ht.stands hc) hsketch p'
      refine ⟨ids ++ ids', p'', c₂, fun σ hσ hp => ?_, ht.bind ht'⟩
      obtain ⟨hids, hids'⟩ := renumbers_append.mp hσ
      exact hp'' σ hids' (hp' σ hids hp)

end Fields

end OpcodeForest
