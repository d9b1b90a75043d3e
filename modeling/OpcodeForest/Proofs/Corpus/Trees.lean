import OpcodeForest.Proofs.Corpus.Builtin

/-!
# The trees of loaded tables

Records that pass the check load, and what is loaded is what they describe: each node has the label
of one of theirs, and each map unfolds to the trees of one of the last records. So a property of
nodes or of trees, checked of the records, holds in the tables.

* `loadMaps_describes`: the maps and the labels of one table.
* `Tables.DescribedBy`: the maps and the labels of all four.
* `builtin_describedBy`: the built-in tables are described by their records.
* `DescribedBy.forall_nodes`, `Forest.UnfoldsMaps.exists_tree`, `DescribedBy.label_opcode`: how a
  check is carried over.
* `Forest.UnfoldsMaps.descends`: the nodes on a way down from an opcode.
-/

namespace OpcodeForest

/-- The trees of the last `count` records, which stand for maps. -/
def Record.roots (f : Family) (count : Nat) (records : List Record) : List SlotTree :=
  (Record.trees f records).drop (records.length - count)

/-- Each of the maps unfolds to the trees in its place. -/
def Forest.UnfoldsMaps (forest : Forest) (maps : List OpcodeMap) (roots : List SlotTree) : Prop :=
  List.Forall₂ (fun map root => (Slot.array map).Unfolds forest root) maps roots

theorem Forest.UnfoldsMaps.mono {f g : Forest} (hg : g.Extends f) {maps : List OpcodeMap}
    {roots : List SlotTree} (h : f.UnfoldsMaps maps roots) : g.UnfoldsMaps maps roots :=
  h.imp fun _ _ h => h.mono hg

/-- What is loaded from records that pass the check. -/
theorem loadMaps_describes {f : Family} {count : Nat} {records : List Record}
    {forest forest' : Forest} {maps : List OpcodeMap} (h : tableChecks f count records)
    (hforest : forest.Extends .fresh)
    (hload : Tables.loadMaps f count (Writer.writeAll { family := f } records).2.bytes forest
      = .ok (maps, forest')) :
    forest'.Adds forest (Record.labelsAfter f [] records) ∧
      forest'.UnfoldsMaps maps (Record.roots f count records) := by
  simp only [tableChecks, Bool.and_eq_true, List.all_eq_true, decide_eq_true_eq, beq_iff_eq] at h
  obtain ⟨⟨⟨⟨hok, hfits⟩, -⟩, hcount⟩, hroots⟩ := h
  obtain ⟨maps', forest'', hread, hadds, hmaps, -⟩ :=
    readTable_adds hforest hok hfits hcount hroots
  rw [Tables.loadMaps, hread] at hload
  cases hload
  exact ⟨hadds, hmaps⟩

namespace Tables

/-- The tables hold what the records describe. -/
structure DescribedBy (t : Tables) (legacy vex xop evex : List Record) : Prop where
  length : 4 ≤ legacy.length
  labels : t.forest.Adds .fresh (Record.labelsAfter .legacy [] legacy
    ++ Record.labelsAfter .vex [] vex ++ Record.labelsAfter .vex [] xop
    ++ Record.labelsAfter .evex [] evex)
  oneByte : ∃ maps, t.forest.UnfoldsMaps maps (Record.roots .legacy 4 legacy) ∧
    t.legacy.oneByte = maps.getD 3 []
  vex : t.forest.UnfoldsMaps t.vex (Record.roots .vex 3 vex)
  xop : t.forest.UnfoldsMaps t.xop (Record.roots .vex 3 xop)
  evex : t.forest.UnfoldsMaps t.evex (Record.roots .evex 3 evex)

/-- **Records that pass the check describe the tables that are loaded from them.** -/
theorem load_describedBy {legacy vex xop evex : List Record}
    (hlegacy : tableChecks .legacy 4 legacy)
    (hvex : tableChecks .vex 3 vex) (hxop : tableChecks .vex 3 xop)
    (hevex : tableChecks .evex 3 evex) {b : Blobs}
    (hb₁ : Writer.serialize .legacy legacy = .ok b.legacy)
    (hb₂ : Writer.serialize .vex vex = .ok b.vex) (hb₃ : Writer.serialize .vex xop = .ok b.xop)
    (hb₄ : Writer.serialize .evex evex = .ok b.evex) {t : Tables} (ht : load b = .ok t) :
    t.DescribedBy legacy vex xop evex := by
  obtain ⟨maps, f₁, mapsVex, f₂, mapsXop, f₃, mapsEvex, f₄, h₁, h₂, h₃, h₄, rfl⟩ :=
    load_eq_ok_iff.mp ht
  rw [Except.ok.inj (hb₁.symm.trans (serialize_of_checks hlegacy))] at h₁
  rw [Except.ok.inj (hb₂.symm.trans (serialize_of_checks hvex))] at h₂
  rw [Except.ok.inj (hb₃.symm.trans (serialize_of_checks hxop))] at h₃
  rw [Except.ok.inj (hb₄.symm.trans (serialize_of_checks hevex))] at h₄
  obtain ⟨hadds₁, hmaps₁⟩ := loadMaps_describes hlegacy (.refl .fresh) h₁
  have hfresh₁ : f₁.Extends .fresh := hadds₁.extend
  obtain ⟨hadds₂, hmaps₂⟩ := loadMaps_describes hvex hfresh₁ h₂
  have hfresh₂ : f₂.Extends .fresh := hadds₂.extend.trans hfresh₁
  obtain ⟨hadds₃, hmaps₃⟩ := loadMaps_describes hxop hfresh₂ h₃
  obtain ⟨hadds₄, hmaps₄⟩ := loadMaps_describes hevex (hadds₃.extend.trans hfresh₂) h₄
  have hextends₂ : f₄.Extends f₂ := hadds₄.extend.trans hadds₃.extend
  have hlength : 4 ≤ legacy.length := by
    simp only [tableChecks, Bool.and_eq_true, decide_eq_true_eq] at hlegacy
    exact hlegacy.1.2
  exact ⟨hlength, hadds₄.trans (hadds₃.trans (hadds₂.trans hadds₁)),
    ⟨maps, hmaps₁.mono (hextends₂.trans hadds₂.extend), rfl⟩, hmaps₂.mono hextends₂,
    hmaps₃.mono hadds₄.extend, hmaps₄⟩

end Tables

/-- **The built-in tables are described by their records.** -/
theorem builtin_describedBy : ∃ b t, Tables.builtin = .ok t ∧ Tables.load b = .ok t ∧
    t.DescribedBy Corpus.Legacy.records Corpus.Vex.records Corpus.Xop.records
      Corpus.Evex.records := by
  obtain ⟨t, hbuiltin, -⟩ := builtin_loads
  obtain ⟨b, hblobs, hload⟩ := bind_eq_ok_iff.mp hbuiltin
  obtain ⟨legacy, hlegacy, hblobs⟩ := bind_eq_ok_iff.mp hblobs
  obtain ⟨vex, hvex, hblobs⟩ := bind_eq_ok_iff.mp hblobs
  obtain ⟨xop, hxop, hblobs⟩ := bind_eq_ok_iff.mp hblobs
  obtain ⟨evex, hevex, hblobs⟩ := bind_eq_ok_iff.mp hblobs
  cases hblobs
  obtain ⟨hlegacy', hvex', hxop', hevex'⟩ := tableChecks_builtin
  exact ⟨_, t, hbuiltin, hload, Tables.load_describedBy hlegacy' hvex' hxop' hevex' hlegacy hvex hxop
    hevex hload⟩

/-! ### Carrying a check over -/

/-- A property of labels holds of the nodes of tables if it holds of the labels in their records. -/
theorem Tables.DescribedBy.forall_nodes {t : Tables} {legacy vex xop evex : List Record}
    (h : t.DescribedBy legacy vex xop evex) {p : Node → Bool} (hp : ∀ n : Node, p n.label = p n)
    (hfresh : Forest.fresh.nodes.toList.all p)
    (hlegacy : (Record.labelsAfter .legacy [] legacy).all p)
    (hvex : (Record.labelsAfter .vex [] vex).all p) (hxop : (Record.labelsAfter .vex [] xop).all p)
    (hevex : (Record.labelsAfter .evex [] evex).all p) : ∀ n ∈ t.forest.nodes, p n := by
  obtain ⟨more, hnodes, hlabels⟩ := h.labels
  intro n hn
  rw [← Array.mem_toList_iff, hnodes] at hn
  rcases List.mem_append.mp hn with hn | hn
  · exact List.all_eq_true.mp hfresh n hn
  · have hall : (Record.labelsAfter .legacy [] legacy ++ Record.labelsAfter .vex [] vex
        ++ Record.labelsAfter .vex [] xop ++ Record.labelsAfter .evex [] evex).all p := by
      simp only [List.all_append, hlegacy, hvex, hxop, hevex, Bool.and_self]
    rw [← hp]
    exact List.all_eq_true.mp hall _ (hlabels n hn)

/-- The property holds of each tree of a record. -/
def SlotTree.all (p : Tree → Bool) : SlotTree → Bool
  | node tree => p tree
  | array trees => trees.all p

/-- A node that a map refers to unfolds to a tree that has been checked. -/
theorem Forest.UnfoldsMaps.exists_tree {f : Forest} {maps : List OpcodeMap} {roots : List SlotTree}
    (h : f.UnfoldsMaps maps roots) {p : Tree → Bool} (hp : roots.all (·.all p)) {map : OpcodeMap}
    (hmap : map ∈ maps) {id : NodeId} (hid : id ∈ map) : ∃ tree, f.Unfolds id tree ∧ p tree := by
  induction h with
  | nil => cases hmap
  | @cons map' root maps roots hroot _ ih =>
      obtain ⟨hfirst, hrest⟩ := Bool.and_eq_true_iff.mp hp
      rcases List.mem_cons.mp hmap with rfl | hmap
      · cases hroot with
        | array htrees =>
            obtain ⟨tree, htree, hunfolds⟩ := (Forest.unfoldsAll_iff.mpr htrees).exists_tree hid
            exact ⟨tree, hunfolds, List.all_eq_true.mp hfirst tree htree⟩
      · exact ih hrest hmap

/-- What stands at a place of the second list has a partner in the first. -/
theorem exists_of_forall₂ {α β : Type} {R : α → β → Prop} {as : List α} {bs : List β}
    (h : List.Forall₂ R as bs) : ∀ {i : Nat} {b : β}, bs[i]? = some b →
      ∃ a, as[i]? = some a ∧ R a b := by
  induction h with
  | nil => exact fun hb => nomatch hb
  | @cons a _ _ _ hab _ ih =>
      intro i b hb
      cases i with
      | zero => exact ⟨a, rfl, Option.some.inj hb ▸ hab⟩
      | succ i => exact ih hb

def Tree.label : Tree → Node
  | node label _ => label

/-- The label of a node is that of its tree. -/
theorem Forest.Unfolds.label_get {f : Forest} {id : NodeId} {tree : Tree} (h : f.Unfolds id tree) :
    (f.get id).label = tree.label := by
  cases h with
  | node hn _ => rw [Forest.get, hn]; rfl

/-- The node of an opcode byte in the one-byte map, which is the last record. -/
theorem Tables.DescribedBy.label_oneByte {t : Tables} {legacy vex xop evex : List Record}
    (ht : t.DescribedBy legacy vex xop evex) {trees : List Tree}
    (htrees : (Record.trees .legacy legacy)[legacy.length - 1]? = some (.array trees)) {b : UInt8}
    {tree : Tree} (htree : trees[b.toNat]? = some tree) :
    (t.forest.get (t.legacy.oneByte.node b)).label = tree.label := by
  obtain ⟨maps, hmaps, honeByte⟩ := ht.oneByte
  have hlength := ht.length
  have hroot : (Record.roots .legacy 4 legacy)[3]? = some (.array trees) := by
    rw [Record.roots, List.getElem?_drop, ← htrees]
    congr 1
    omega
  obtain ⟨map, hmap, hunfolds⟩ := exists_of_forall₂ hmaps hroot
  cases hunfolds with
  | array hunfolds =>
      obtain ⟨id, hid, hunfolds⟩ := exists_of_forall₂ hunfolds htree
      rw [honeByte, List.getD_eq_getElem?_getD, hmap, OpcodeMap.node, List.getD_eq_getElem?_getD,
        Option.getD_some, hid]
      exact hunfolds.label_get

/-- The node that an opcode byte leads to in the one-byte map, without its numbers. -/
def Record.opcodeLabel? (records : List Record) (b : UInt8) : Option Node :=
  match (Record.trees .legacy records)[records.length - 1]? with
  | some (.array trees) => (trees[b.toNat]?).map Tree.label
  | some (.node _) | none => none

/-- The node of an opcode, as the records describe it. -/
theorem Tables.DescribedBy.label_opcode {t : Tables} {legacy vex xop evex : List Record}
    (ht : t.DescribedBy legacy vex xop evex) {b : UInt8} {label : Node}
    (h : Record.opcodeLabel? legacy b = some label) :
    (t.forest.get (t.legacy.oneByte.node b)).label = label := by
  rw [Record.opcodeLabel?] at h
  split at h
  next trees htrees =>
    obtain ⟨tree, htree, hlabel⟩ := Option.map_eq_some_iff.mp h
    exact (ht.label_oneByte htrees htree).trans hlabel
  all_goals cases h

/-- A leaf is its own label. -/
theorem leaf_of_label {n : Node} {l : Leaf} (h : n.label = .leaf l) : n = .leaf l := by
  cases n <;> cases h
  rfl

/-! ### Ways down

The nodes on a way down from an opcode, told from the records. -/

/-- The labels on the way down a tree. -/
def Tree.labelsAlong : List Nat → Tree → Option (List Node)
  | [], .node label _ => some [label]
  | i :: is, .node label ts =>
      match ts[i]? with
      | some child => (child.labelsAlong is).map (label :: ·)
      | none => none

/-- The way down from the node `id`, by the children `is`, has nodes with the `labels`. -/
def Forest.Descends (f : Forest) (id : NodeId) : List Nat → List Node → Prop
  | [], labels => labels = [(f.get id).label]
  | i :: is, label :: labels => (f.get id).label = label ∧
      ∃ child, (f.get id).children[i]? = some child ∧ f.Descends child is labels
  | _ :: _, [] => False

/-- Labels along a way in the tree are found on the same way in the forest. -/
theorem Forest.Unfolds.descends {f : Forest} {is : List Nat} {id : NodeId} {tree : Tree}
    {labels : List Node} (h : f.Unfolds id tree) (hlabels : tree.labelsAlong is = some labels) :
    f.Descends id is labels := by
  induction is generalizing id tree labels with
  | nil =>
      obtain ⟨label, ts⟩ := tree
      cases hlabels
      exact congrArg ([·]) h.label_get.symm
  | cons i is ih =>
      cases h with
      | @node _ n ts hn hts =>
          obtain rfl : f.get id = n := by rw [Forest.get, hn]; rfl
          rw [Tree.labelsAlong] at hlabels
          split at hlabels
          next tree htree =>
            obtain ⟨rest, hrest, rfl⟩ := Option.map_eq_some_iff.mp hlabels
            obtain ⟨child, hchild, hunfolds⟩ :=
              exists_of_forall₂ (Forest.unfoldsAll_iff.mp hts) htree
            exact ⟨rfl, child, hchild, ih hunfolds hrest⟩
          next => cases hlabels

/-- The labels on a way down from an opcode of a map. -/
def Record.opcodeLabels? (f : Family) (count : Nat) (records : List Record) (map : Nat) (b : UInt8)
    (is : List Nat) : Option (List Node) :=
  match (Record.roots f count records)[map]? with
  | some (.array trees) => (trees[b.toNat]?).bind (·.labelsAlong is)
  | some (.node _) | none => none

theorem Forest.UnfoldsMaps.descends {f : Forest} {family : Family} {count : Nat}
    {records : List Record} {maps : List OpcodeMap}
    (h : f.UnfoldsMaps maps (Record.roots family count records)) {k : Nat} {b : UInt8}
    {is : List Nat} {labels : List Node}
    (hlabels : Record.opcodeLabels? family count records k b is = some labels) :
    ∃ map, maps[k]? = some map ∧ f.Descends (map.node b) is labels := by
  rw [Record.opcodeLabels?] at hlabels
  split at hlabels
  next trees htrees =>
    obtain ⟨tree, htree, hlabels⟩ := Option.bind_eq_some_iff.mp hlabels
    obtain ⟨map, hmap, hunfolds⟩ := exists_of_forall₂ h htrees
    cases hunfolds with
    | array hunfolds =>
        obtain ⟨id, hid, hunfolds⟩ := exists_of_forall₂ hunfolds htree
        refine ⟨map, hmap, ?_⟩
        rw [OpcodeMap.node, List.getD_eq_getElem?_getD, hid]
        exact hunfolds.descends hlabels
  all_goals cases hlabels

end OpcodeForest
