import Mathlib.Data.List.Forall2
import OpcodeForest.Table.Layout

/-!
# Unfolding a forest

A node refers to its children by number, so what a number stands for is found by following the
children down. `Node.label` is a node without the numbers and `Node.children` are the numbers
in order; a `Tree` has a label and trees in place of the numbers, and `Forest.Unfolds f id t`
says that the node `id` of the forest `f` is the tree `t` when all its children are followed.

* `Node.eq_of_label_children`: label and children determine a node, so a tree loses nothing but
  the sharing.
* `Forest.Unfolds.unique`: a number unfolds to one tree at most.
* `Forest.Unfolds.mono`: adding nodes changes no tree.
* `Kind.node_rename`: a node built from a renamed payload is the renamed node.
-/

namespace OpcodeForest

/-! ### Children and labels -/

namespace Node

/-- The numbers a node holds, in the order of its fields. -/
def children : Node → List NodeId
  | invalid _ | null | trailing _ | segment _ _ | operandSize | addressSize | lock | repne | rep
  | leaf _ => []
  | byMode _ other long => [other, long]
  | byForm reg mem => [reg, mem]
  | byOption _ default alternatives => default :: alternatives.map (·.1)
  | escape ids | group ids | mandatory _ ids | mandatoryKept ids _ _ _ | payloadPrefix _ ids
  | byLength _ ids | byLengthRounded ids => ids
  | splitGroup mem reg => mem ++ reg
  | fineGroup coarse fine => coarse ++ fine
  | mandatoryByForm reg mem => reg.map (·.1) ++ mem.map (·.1)
  | byW w0 w1 => [w0, w1]
  | vex2 otherwise | vex3 otherwise | xop otherwise | evex otherwise | rex otherwise _ =>
      [otherwise]

/-- The node with `σ` applied to its numbers. -/
def rename (σ : NodeId → NodeId) : Node → Node
  | byMode modRM other long => byMode modRM (σ other) (σ long)
  | byForm reg mem => byForm (σ reg) (σ mem)
  | byOption modRM default alternatives =>
      byOption modRM (σ default) (alternatives.map fun a => (σ a.1, a.2))
  | escape ids => escape (ids.map σ)
  | group ids => group (ids.map σ)
  | splitGroup mem reg => splitGroup (mem.map σ) (reg.map σ)
  | fineGroup coarse fine => fineGroup (coarse.map σ) (fine.map σ)
  | mandatory modRM ids => mandatory modRM (ids.map σ)
  | mandatoryByForm reg mem =>
      mandatoryByForm (reg.map fun a => (σ a.1, a.2)) (mem.map fun a => (σ a.1, a.2))
  | mandatoryKept ids clearF3 clearF2 readsModRM =>
      mandatoryKept (ids.map σ) clearF3 clearF2 readsModRM
  | payloadPrefix modRM ids => payloadPrefix modRM (ids.map σ)
  | byW w0 w1 => byW (σ w0) (σ w1)
  | byLength modRM ids => byLength modRM (ids.map σ)
  | byLengthRounded ids => byLengthRounded (ids.map σ)
  | vex2 otherwise => vex2 (σ otherwise)
  | vex3 otherwise => vex3 (σ otherwise)
  | xop otherwise => xop (σ otherwise)
  | evex otherwise => evex (σ otherwise)
  | rex otherwise bits => rex (σ otherwise) bits
  | n@(invalid _) | n@null | n@(trailing _) | n@(segment _ _) | n@operandSize | n@addressSize
  | n@lock | n@repne | n@rep | n@(leaf _) => n

/-- The node without its numbers. -/
def label (n : Node) : Node := n.rename fun _ => .invalid

/-- The children of a renamed node are the renamed children. -/
theorem children_rename (σ : NodeId → NodeId) (n : Node) :
    (n.rename σ).children = n.children.map σ := by
  cases n <;> simp [rename, children, Function.comp_def]

/-- A label has no numbers to rename. -/
theorem label_rename (σ : NodeId → NodeId) (n : Node) : (n.rename σ).label = n.label := by
  cases n <;> simp [rename, label, Function.comp_def]

/-- Pairs that agree in their numbers and, with the numbers left out, agree. -/
theorem eq_of_map_label {α : Type} : ∀ {as bs : List (NodeId × α)},
    as.map (fun a => (NodeId.invalid, a.2)) = bs.map (fun b => (NodeId.invalid, b.2)) →
    as.map (·.1) = bs.map (·.1) → as = bs
  | [], [], _, _ => rfl
  | [], _ :: _, _, hc | _ :: _, [], _, hc => by simp at hc
  | a :: as, b :: bs, hl, hc => by
      simp only [List.map_cons, List.cons.injEq, Prod.mk.injEq, true_and] at hl hc
      rw [eq_of_map_label hl.2 hc.2, Prod.ext hc.1 hl.1]

/-- **A node is its label and its children.** -/
theorem eq_of_label_children {a b : Node} (hl : a.label = b.label)
    (hc : a.children = b.children) : a = b := by
  -- nodes of different kinds differ in their labels
  cases a <;> cases b <;> try (cases hl; done)
  all_goals simp only [label, rename, children] at hl hc
  case byOption.byOption =>
    obtain ⟨rfl, -, hl⟩ := byOption.inj hl
    obtain ⟨rfl, hids⟩ := List.cons.inj hc
    rw [eq_of_map_label hl hids]
  case splitGroup.splitGroup =>
    have hlen := congrArg List.length (splitGroup.inj hl).1
    obtain ⟨rfl, rfl⟩ := List.append_inj hc (by simpa using hlen)
    rfl
  case fineGroup.fineGroup =>
    have hlen := congrArg List.length (fineGroup.inj hl).1
    obtain ⟨rfl, rfl⟩ := List.append_inj hc (by simpa using hlen)
    rfl
  case mandatoryByForm.mandatoryByForm =>
    obtain ⟨hreg, hmem⟩ := mandatoryByForm.inj hl
    obtain ⟨hc, hc'⟩ := List.append_inj hc (by simpa using congrArg List.length hreg)
    rw [eq_of_map_label hreg hc, eq_of_map_label hmem hc']
  all_goals simp_all

end Node

/-! ### Renamed payloads -/

namespace Payload

/-- The payload with `σ` applied to its numbers. -/
def rename (σ : NodeId → NodeId) (p : Payload) : Payload :=
  { p with children := p.children.map σ
           tables := p.tables.map (·.map σ)
           alternatives := p.alternatives.map fun a => (σ a.1, a.2) }

/-- A child that is missing is the invalid node, which has to keep its number. -/
theorem child_rename {σ : NodeId → NodeId} (h : σ .invalid = .invalid) (p : Payload) (n : Nat) :
    (p.rename σ).child n = σ (p.child n) := by
  simp only [child, rename, List.getD_eq_getElem?_getD, List.getElem?_map]
  cases p.children[n]? <;> simp [h]

/-- A table that is missing is empty, and so is the renamed one. -/
theorem table_rename (σ : NodeId → NodeId) (p : Payload) (n : Nat) :
    (p.rename σ).table n = (p.table n).map σ := by
  simp only [table, rename, List.getD_eq_getElem?_getD, List.getElem?_map]
  cases p.tables[n]? <;> simp

end Payload

namespace Kind

/-- Whether a child uses the prefix up goes by its place. -/
theorem withUses_map (σ : NodeId → NodeId) (bits first : Nat) (ids : List NodeId) :
    withUses bits first (ids.map σ) = (withUses bits first ids).map fun a => (σ a.1, a.2) := by
  simp [withUses, List.zipIdx_map, Function.comp_def]

/-- **Building a node commutes with renaming**, as long as the sentinels keep their numbers. -/
theorem node_rename {σ : NodeId → NodeId} (h₀ : σ .invalid = .invalid)
    (h₁ : σ .invalidNoModRM = .invalidNoModRM) (p : Payload) (k : Kind) :
    k.node (p.rename σ) = (k.node p).rename σ := by
  cases k with
  | mandatoryByForm =>
      simp only [node, Node.rename, Payload.rename, ← List.map_take, ← List.map_drop, withUses_map]
  | byLength modRM =>
      cases modRM <;> simp [node, Node.rename, Payload.rename, padLengths, h₀, h₁]
  | _ => simp only [node, Node.rename, Payload.child_rename h₀, Payload.table_rename] <;> rfl

end Kind

/-! ### Forests that grow -/

namespace Forest

/-- `g` holds the nodes of `f` under the same numbers. -/
def Extends (g f : Forest) : Prop := f.nodes.toList <+: g.nodes.toList

namespace Extends

theorem refl (f : Forest) : f.Extends f := List.prefix_rfl

theorem trans {f g h : Forest} (hg : h.Extends g) (hf : g.Extends f) : h.Extends f :=
  List.IsPrefix.trans hf hg

/-- Adding a node keeps the nodes that are there. -/
theorem push (f : Forest) (n : Node) : (f.push n).Extends f :=
  ⟨[n], by simp [Forest.push]⟩

/-- A number that leads to a node leads to the same node later on. -/
theorem get? {f g : Forest} (h : g.Extends f) {id : NodeId} {n : Node}
    (hn : f.get? id = some n) : g.get? id = some n := by
  obtain ⟨more, h⟩ := h
  simp only [Forest.get?, ← Array.getElem?_toList, ← h] at hn ⊢
  rw [List.getElem?_append_left (List.getElem?_eq_some_iff.mp hn).1]
  exact hn

/-- A forest never shrinks. -/
theorem size_le {f g : Forest} (h : g.Extends f) : f.size ≤ g.size := by
  simpa [Forest.size] using List.IsPrefix.length_le h

end Extends

/-- `g` holds the nodes of `f` under the same numbers, and after them only nodes with one of the
`labels`. -/
def Adds (g f : Forest) (labels : List Node) : Prop :=
  ∃ more, g.nodes.toList = f.nodes.toList ++ more ∧ ∀ n ∈ more, n.label ∈ labels

namespace Adds

theorem refl (f : Forest) (labels : List Node) : f.Adds f labels := ⟨[], by simp⟩

theorem trans {f g h : Forest} {as bs : List Node} (hg : h.Adds g bs) (hf : g.Adds f as) :
    h.Adds f (as ++ bs) := by
  obtain ⟨more, hf, hlabels⟩ := hf
  obtain ⟨more', hg, hlabels'⟩ := hg
  refine ⟨more ++ more', by rw [hg, hf, List.append_assoc], fun n hn => ?_⟩
  rcases List.mem_append.mp hn with hn | hn
  · exact List.mem_append_left _ (hlabels n hn)
  · exact List.mem_append_right _ (hlabels' n hn)

theorem push (f : Forest) (n : Node) : (f.push n).Adds f [n.label] :=
  ⟨[n], by simp [Forest.push]⟩

/-- The nodes that are added come after the others. -/
theorem extend {f g : Forest} {labels : List Node} (h : g.Adds f labels) : g.Extends f := by
  obtain ⟨more, h, -⟩ := h
  exact ⟨more, h.symm⟩

/-- Labels may be named that no added node has. -/
theorem mono {f g : Forest} {as bs : List Node} (h : g.Adds f as) (hab : as ⊆ bs) :
    g.Adds f bs := by
  obtain ⟨more, h, hlabels⟩ := h
  exact ⟨more, h, fun n hn => hab (hlabels n hn)⟩

end Adds

/-- A new node is found under its number. -/
theorem get?_push (f : Forest) (n : Node) : (f.push n).get? ⟨f.size⟩ = some n := by
  simp [get?, push, size]

end Forest

/-! ### Trees -/

/-- A node with trees for its children. -/
inductive Tree where
  | node (label : Node) (children : List Tree)

namespace Forest

mutual

/-- The node `id` with its children followed down is the tree. -/
inductive Unfolds (f : Forest) : NodeId → Tree → Prop where
  | node {id : NodeId} {n : Node} {ts : List Tree} (hn : f.get? id = some n)
      (hts : UnfoldsAll f n.children ts) : Unfolds f id (.node n.label ts)

@[inherit_doc Unfolds]
inductive UnfoldsAll (f : Forest) : List NodeId → List Tree → Prop where
  | nil : UnfoldsAll f [] []
  | cons {id : NodeId} {t : Tree} {ids : List NodeId} {ts : List Tree} (h : Unfolds f id t)
      (hs : UnfoldsAll f ids ts) : UnfoldsAll f (id :: ids) (t :: ts)

end

mutual

/-- Adding nodes changes no tree. -/
theorem Unfolds.mono {f g : Forest} (hg : g.Extends f) {id : NodeId} {t : Tree} :
    f.Unfolds id t → g.Unfolds id t
  | .node hn hts => .node (hg.get? hn) (hts.mono hg)

/-- Several numbers unfold to the same trees in a larger forest. -/
theorem UnfoldsAll.mono {f g : Forest} (hg : g.Extends f) {ids : List NodeId}
    {ts : List Tree} : f.UnfoldsAll ids ts → g.UnfoldsAll ids ts
  | .nil => .nil
  | .cons h hs => .cons (h.mono hg) (hs.mono hg)

end

mutual

/-- A number unfolds to one tree at most. -/
theorem Unfolds.unique {f : Forest} {id : NodeId} {t t' : Tree} :
    f.Unfolds id t → f.Unfolds id t' → t = t'
  | .node hn hts, .node hn' hts' => by
      obtain rfl := Option.some.inj (hn.symm.trans hn')
      rw [hts.unique hts']

/-- Several numbers unfold to one list of trees at most. -/
theorem UnfoldsAll.unique {f : Forest} {ids : List NodeId} {ts ts' : List Tree} :
    f.UnfoldsAll ids ts → f.UnfoldsAll ids ts' → ts = ts'
  | .nil, .nil => rfl
  | .cons h hs, .cons h' hs' => by rw [h.unique h', hs.unique hs']

end

/-- Several numbers unfold one by one. -/
theorem unfoldsAll_iff {f : Forest} {ids : List NodeId} {ts : List Tree} :
    f.UnfoldsAll ids ts ↔ List.Forall₂ f.Unfolds ids ts := by
  constructor
  · intro h
    induction ids generalizing ts with
    | nil => cases h; exact .nil
    | cons id ids ih => obtain _ | ⟨h, hs⟩ := h; exact .cons h (ih hs)
  · intro h
    induction h with
    | nil => exact .nil
    | cons h _ ih => exact .cons h ih

theorem UnfoldsAll.exists_tree {f : Forest} {ids : List NodeId} {trees : List Tree}
    (h : f.UnfoldsAll ids trees) {id : NodeId} (hid : id ∈ ids) :
    ∃ tree ∈ trees, f.Unfolds id tree := by
  induction ids generalizing trees with
  | nil => cases hid
  | cons a ids ih =>
      obtain _ | @⟨_, tree, _, trees, htree, htrees⟩ := h
      rcases List.mem_cons.mp hid with rfl | hid
      · exact ⟨tree, List.mem_cons_self, htree⟩
      · obtain ⟨tree', hmem, hid⟩ := ih htrees hid
        exact ⟨tree', List.mem_cons_of_mem _ hmem, hid⟩

end Forest

end OpcodeForest
