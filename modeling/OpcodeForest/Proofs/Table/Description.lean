import Mathlib.Algebra.GroupWithZero.Nat
import Mathlib.Data.Nat.Bitwise
import OpcodeForest.Proofs.Forest.Unfolding
import OpcodeForest.Table.Entry
import OpcodeForest.Table.Tag

/-!
# What a table description says

An entry describes a tree without any bytes or node numbers: its tag gives the kind of node, its
fields give the payload, a reference stands for the tree of the record it names.

The payload of a node refers to its children by number. In a *sketch* the numbers are local: the
sentinels keep 0, 1 and 2, and the children described by the fields of the node are numbered from
3 on, in the order of the fields. `Entry.sketch?` is the node so numbered, if the fields are the
ones its tag asks for, and `Entry.tree` puts the trees of the children in place of the numbers.
`Entry.payload_of_sketch?` gets the kind and the fields back from the node.

`Entry.laidOut` says that every node has the fields of its tag. `Record.fitsAll` says that records
can be read back: every entry is laid out and stands for one place at least, and an array has fewer
than `2 ^ 32` places.
-/

namespace OpcodeForest

/-! ### Sketches -/

/-- The places of an array record, by the number of the record; a single node has none. -/
abbrev Spans := List (Option Nat)

/-- The `n` local numbers from `next` on. -/
def localNumbers (next n : Nat) : List NodeId := (List.range' next n).map NodeId.mk

/-- `n` child entries, and the fields after them. -/
def dropChildren? : Nat → List NodeField → Option (List NodeField)
  | 0, fields => some fields
  | n + 1, .child _ :: fields => dropChildren? n fields
  | _, _ => none

/-- `n` child entries with their switches. -/
def alternatives? : Nat → (next : Nat) → List NodeField →
    Option (List (NodeId × Options) × List NodeField)
  | 0, _, fields => some ([], fields)
  | n + 1, next, .child _ :: .number bits :: fields =>
      (alternatives? n (next + 1) fields).map fun (as, fields) =>
        ((⟨next⟩, .ofNat bits.toNat) :: as, fields)
  | _, _, _ => none

/-- `n` bytes with their codes. -/
def trailing? : Nat → List NodeField → Option (List (UInt8 × Code) × List NodeField)
  | 0, fields => some ([], fields)
  | n + 1, .byte b :: .code c :: fields =>
      (trailing? n fields).map fun (as, fields) => ((b, c) :: as, fields)
  | _, _ => none

/-- Adds what one kind of field describes to a payload whose next local number is `next`; gives
the payload, the next number then, and the fields that are left. -/
def FieldKind.sketch? (spans : Spans) (next : Nat) (p : Payload) :
    FieldKind → List NodeField → Option (Payload × Nat × List NodeField)
  | codes n, .code c :: fields =>
      if n = 1 then some ({ p with codes := [c] }, next, fields) else none
  | codes n, .codes cs :: fields =>
      if n = cs.length then some ({ p with codes := cs }, next, fields) else none
  | codesWidened, .codes [c₁₆, c₃₂] :: fields =>
      some ({ p with codes := [c₁₆, c₃₂, c₃₂] }, next, fields)
  | register copies, .register r :: fields =>
      some ({ p with registers := p.registers ++ List.replicate copies r }, next, fields)
  | tuple, .tuple t :: fields => some ({ p with tuple := t }, next, fields)
  | flag, .flag b :: fields => some ({ p with flags := p.flags ++ [b] }, next, fields)
  | number, .number n :: fields => some ({ p with number := n }, next, fields)
  | locks, .number n :: fields => some ({ p with locks := .ofBits n.toNat }, next, fields)
  | children n, fields =>
      (dropChildren? n fields).map fun fields =>
        ({ p with children := p.children ++ localNumbers next n }, next + n, fields)
  | table n, .table slot :: fields =>
      if spans[slot.toNat]? = some (some n) then
        some ({ p with tables := p.tables ++ [localNumbers next n] }, next + n, fields)
      else none
  | alternatives, .number n :: fields =>
      (alternatives? n.toNat next fields).map fun (as, fields) =>
        ({ p with alternatives := as }, next + n.toNat, fields)
  | trailing, .number n :: fields =>
      (trailing? n.toNat fields).map fun (as, fields) => ({ p with trailing := as }, next, fields)
  | _, _ => none

/-- The payload that fields describe, if they are exactly those of the layout. -/
def Payload.sketch? (spans : Spans) :
    List FieldKind → (next : Nat) → Payload → List NodeField → Option Payload
  | [], _, p, [] => some p
  | [], _, _, _ :: _ => none
  | k :: layout, next, p, fields =>
      (k.sketch? spans next p fields).bind fun (p, next, fields) =>
        Payload.sketch? spans layout next p fields

/-- The first local number that is no sentinel's. -/
def firstLocal : Nat := 3

/-- The node that a tag and its fields describe, with local numbers. -/
def Entry.sketch? (f : Family) (spans : Spans) (tag : UInt8) (fields : List NodeField) :
    Option Node :=
  match f.row? tag with
  | some ⟨_, .node kind layout⟩ =>
      (Payload.sketch? spans layout firstLocal {} fields).map kind.node
  | _ => none

/-! ### What a sketched node holds

A node is built from its payload by its kind, in the same way for a reader and for a sketch. The
kind and the payload can be read off the node again, so that a sketch says what its tag and its
fields say. -/

/-- The byte is the tag of the rule. -/
def Family.Spells (f : Family) (tag : UInt8) (rule : TagRule) : Prop :=
  ∃ name, f.row? tag = some ⟨name, rule⟩

/-- A sketch is made by the kind and the layout that the tag announces. -/
theorem Entry.sketch?_eq_some {f : Family} {spans : Spans} {tag : UInt8} {fields : List NodeField}
    {n : Node} (h : Entry.sketch? f spans tag fields = some n) : ∃ kind layout p,
      f.Spells tag (.node kind layout) ∧
      Payload.sketch? spans layout firstLocal {} fields = some p ∧ n = kind.node p := by
  unfold Entry.sketch? at h
  split at h
  · rename_i name kind layout hrow
    obtain ⟨p, hp, rfl⟩ := Option.map_eq_some_iff.mp h
    exact ⟨kind, layout, p, ⟨name, hrow⟩, hp, rfl⟩
  · cases h

/-- `p'` is `p` with a field of the kind added. -/
def FieldKind.Adds (p p' : Payload) : FieldKind → Prop
  | codes _ | codesWidened => ∃ cs, p' = { p with codes := cs }
  | register copies =>
      ∃ r, p' = { p with registers := p.registers ++ List.replicate copies r }
  | tuple => ∃ t, p' = { p with tuple := t }
  | flag => ∃ b, p' = { p with flags := p.flags ++ [b] }
  | number => ∃ n, p' = { p with number := n }
  | locks => ∃ rules, p' = { p with locks := rules }
  | children n => ∃ ids, ids.length = n ∧ p' = { p with children := p.children ++ ids }
  | table n => ∃ ids, ids.length = n ∧ p' = { p with tables := p.tables ++ [ids] }
  | alternatives => ∃ as, p' = { p with alternatives := as }
  | trailing => ∃ as, p' = { p with trailing := as }

/-- `p'` is `p` with the fields of a layout added, one after the other. -/
def Payload.Filled : List FieldKind → (p p' : Payload) → Prop
  | [], p, p' => p' = p
  | k :: layout, p, p' => ∃ p₁, k.Adds p p₁ ∧ Filled layout p₁ p'

theorem length_localNumbers (next n : Nat) : (localNumbers next n).length = n := by
  simp [localNumbers]

/-- What a field describes is added to the payload, and nothing else. -/
theorem FieldKind.adds_of_sketch? {spans : Spans} {k : FieldKind} {next next' : Nat}
    {p p' : Payload} {fields rest : List NodeField}
    (h : k.sketch? spans next p fields = some (p', next', rest)) : k.Adds p p' := by
  match k, fields, h with
  | .codes n, .code _ :: _, h | .codes n, .codes _ :: _, h =>
      rw [FieldKind.sketch?, Option.ite_none_right_eq_some] at h
      obtain ⟨-, ⟨⟩⟩ := h
      exact ⟨_, rfl⟩
  | .codesWidened, .codes [_, _] :: _, h | .register _, .register _ :: _, h
  | .tuple, .tuple _ :: _, h | .flag, .flag _ :: _, h | .number, .number _ :: _, h
  | .locks, .number _ :: _, h => cases h; exact ⟨_, rfl⟩
  | .children n, _, h =>
      rw [FieldKind.sketch?, Option.map_eq_some_iff] at h
      obtain ⟨_, -, ⟨⟩⟩ := h
      exact ⟨_, length_localNumbers next n, rfl⟩
  | .table n, .table _ :: _, h =>
      rw [FieldKind.sketch?, Option.ite_none_right_eq_some] at h
      obtain ⟨-, ⟨⟩⟩ := h
      exact ⟨_, length_localNumbers next n, rfl⟩
  | .alternatives, .number _ :: _, h | .trailing, .number _ :: _, h =>
      rw [FieldKind.sketch?, Option.map_eq_some_iff] at h
      obtain ⟨_, -, ⟨⟩⟩ := h
      exact ⟨_, rfl⟩

/-- So a sketched payload is filled by its layout, from an empty one. -/
theorem Payload.filled_of_sketch? {spans : Spans} {p' : Payload} : ∀ {layout : List FieldKind}
    {next : Nat} {p : Payload} {fields : List NodeField},
    Payload.sketch? spans layout next p fields = some p' → Filled layout p p'
  | [], _, _, [], h => (Option.some.inj h).symm
  | _ :: _, _, _, _, h => by
      rw [Payload.sketch?, Option.bind_eq_some_iff] at h
      obtain ⟨⟨p₁, next₁, rest⟩, hk, h⟩ := h
      exact ⟨p₁, FieldKind.adds_of_sketch? hk, filled_of_sketch? h⟩

/-- A field that an instruction may have. -/
def FieldKind.inLeaf : FieldKind → Bool
  | codes _ | codesWidened | register _ | tuple | flag | number | locks => true
  | children _ | table _ | alternatives | trailing => false

/-- The fields of an instruction leave out those of other nodes. -/
theorem Payload.Filled.leaf : ∀ {layout : List FieldKind} {p p' : Payload},
    Filled layout p p' → layout.all (·.inLeaf) → p'.children = p.children ∧
      p'.tables = p.tables ∧ p'.alternatives = p.alternatives ∧ p'.trailing = p.trailing
  | [], _, _, rfl, _ => ⟨rfl, rfl, rfl, rfl⟩
  | k :: _, _, _, ⟨_, hk, h⟩, hall => by
      rw [List.all_cons, Bool.and_eq_true] at hall
      have ih := h.leaf hall.2
      cases k with
      | children | table | alternatives | trailing => cases hall.1
      | _ =>
          obtain ⟨_, rfl⟩ := hk
          exact ih

/-- The layouts that nodes of a kind have. -/
def Kind.suits : Kind → List FieldKind → Bool
  | byMode _, [.children 2] | byForm, [.children 2] | byW, [.children 2]
  | byOption _, [.children 1, .alternatives]
  | escape, [.table _] | group, [.table _]
  | splitGroup, [.table _, .table _] | fineGroup, [.table _, .table _]
  | mandatory _, [.children _] | mandatoryByForm, [.children 8, .number]
  | mandatoryKept, [.children _, .number] | payloadPrefix _, [.children _]
  | byLength _, [.children _] | byLengthRounded, [.children _]
  | vex2, [.children 1] | vex3, [.children 1] | xop, [.children 1] | evex, [.children 1]
  | trailing, [.trailing] | segment _, [.register 1] | rex, [.children 1, .number]
  | operandSize, [] | addressSize, [] | lock, [] | repne, [] | rep, [] => true
  | leaf _, layout => layout.all (·.inLeaf)
  | _, _ => false

/-- Every tag announces a layout that suits its kind. -/
theorem Family.suits_of_row {f : Family} {tag : UInt8} {name : String} {kind : Kind}
    {layout : List FieldKind} (h : f.row? tag = some ⟨name, .node kind layout⟩) :
    kind.suits layout := by
  have hall : ∀ row ∈ f.rows, (match row.rule with
      | .node kind layout => kind.suits layout
      | _ => true) = true := by
    cases f <;> decide +kernel
  exact hall _ (List.mem_of_getElem? h)

/-- The kind of a node that is no sentinel. -/
def Node.kind? : Node → Option Kind
  | invalid _ | null => none
  | byMode modRM _ _ => some (.byMode modRM)
  | byForm _ _ => some .byForm
  | byOption modRM _ _ => some (.byOption modRM)
  | escape _ => some .escape
  | group _ => some .group
  | splitGroup _ _ => some .splitGroup
  | fineGroup _ _ => some .fineGroup
  | mandatory modRM _ => some (.mandatory modRM)
  | mandatoryByForm _ _ => some .mandatoryByForm
  | mandatoryKept _ _ _ _ => some .mandatoryKept
  | payloadPrefix modRM _ => some (.payloadPrefix modRM)
  | byW _ _ => some .byW
  | byLength modRM _ => some (.byLength modRM)
  | byLengthRounded _ => some .byLengthRounded
  | vex2 _ => some .vex2
  | vex3 _ => some .vex3
  | xop _ => some .xop
  | evex _ => some .evex
  | trailing _ => some .trailing
  | segment strong _ => some (.segment strong)
  | operandSize => some .operandSize
  | addressSize => some .addressSize
  | lock => some .lock
  | repne => some .repne
  | rep => some .rep
  | rex _ _ => some .rex
  | leaf l => some (.leaf l.form)

/-- The kind of a node is the one that built it. -/
theorem Kind.kind?_node (p : Payload) (k : Kind) : (k.node p).kind? = some k := by
  cases k <;> rfl

/-- What a node holds of the fields of its tag. -/
def Node.payload : Node → Payload
  | invalid _ | null | operandSize | addressSize | lock | repne | rep => {}
  | byMode _ a b | byForm a b | byW a b => { children := [a, b] }
  | byOption _ default as => { children := [default], alternatives := as }
  | escape ids | group ids => { tables := [ids] }
  | splitGroup a b | fineGroup a b => { tables := [a, b] }
  | mandatory _ ids | payloadPrefix _ ids | byLength _ ids | byLengthRounded ids =>
      { children := ids }
  | mandatoryByForm reg mem =>
      { children := (reg ++ mem).map (·.1)
        number := .ofNat (.ofBits fun n : Fin 8 =>
          ((if n.val % 2 = 0 then reg else mem).getD (n.val / 2) (.invalid, false)).2) }
  | mandatoryKept ids clearF3 clearF2 readsModRM =>
      { children := ids
        number := .ofNat (.ofBits fun n : Fin 3 => [clearF3, clearF2, readsModRM].get n) }
  | vex2 id | vex3 id | xop id | evex id => { children := [id] }
  | trailing as => { trailing := as }
  | segment _ r => { registers := [r] }
  | rex id bits => { children := [id], number := .ofNat bits }
  | leaf l =>
      { codes := l.codes, registers := l.registers, tuple := l.tuple, flags := l.flags
        number := l.number, locks := l.locks }

/-- The payload as a node of the kind holds it: only so many bits of a number as have a meaning,
and a child for every vector length. -/
def Kind.held (p : Payload) : Kind → Payload
  | mandatoryByForm => { p with number := .ofNat (p.number.toNat % 2 ^ 8) }
  | mandatoryKept => { p with number := .ofNat (p.number.toNat % 2 ^ 3) }
  | byLength modRM => { p with children := padLengths modRM p.children }
  | _ => p

/-- Each of the eight children has a bit of its own, the two forms taking turns. -/
theorem Kind.payload_mandatoryByForm {ids : List NodeId} (hids : ids.length = 8) (n : UInt32) :
    (mandatoryByForm.node { children := ids, number := n }).payload
      = mandatoryByForm.held { children := ids, number := n } := by
  match ids, hids with
  | [a, b, c, d, e, f, g, h], _ =>
    have huses : (fun k : Fin 8 => ((if k.val % 2 = 0 then withUses n.toNat 0 [a, b, c, d]
        else withUses n.toNat 1 [e, f, g, h]).getD (k.val / 2) (.invalid, false)).2)
          = fun k : Fin 8 => n.toNat.testBit k := by
      funext k
      match k with
      | 0 | 1 | 2 | 3 | 4 | 5 | 6 | 7 => rfl
    have hbits := (congrArg Nat.ofBits huses).trans (Nat.ofBits_testBit n.toNat 8)
    exact congrArg (fun bits : Nat =>
      { children := [a, b, c, d, e, f, g, h], number := .ofNat bits : Payload }) hbits

/-- Three bits of the number have a meaning. -/
theorem Kind.payload_mandatoryKept (ids : List NodeId) (n : UInt32) :
    (mandatoryKept.node { children := ids, number := n }).payload
      = mandatoryKept.held { children := ids, number := n } := by
  have huses : (fun k : Fin 3 => [n.toNat.testBit 0, n.toNat.testBit 1, n.toNat.testBit 2].get k)
      = fun k : Fin 3 => n.toNat.testBit k := by
    funext k
    match k with
    | 0 | 1 | 2 => rfl
  have hbits := (congrArg Nat.ofBits huses).trans (Nat.ofBits_testBit n.toNat 3)
  exact congrArg (fun bits : Nat => { children := ids, number := .ofNat bits : Payload }) hbits

/-- A node holds every field of its layout. -/
theorem Kind.payload_node {kind : Kind} {layout : List FieldKind} {p : Payload}
    (hsuits : kind.suits layout) (h : Payload.Filled layout {} p) :
    (kind.node p).payload = kind.held p := by
  match kind, layout, hsuits, h with
  | .byMode _, [.children 2], _, ⟨_, ⟨ids, hids, hp⟩, rfl⟩
  | .byForm, [.children 2], _, ⟨_, ⟨ids, hids, hp⟩, rfl⟩
  | .byW, [.children 2], _, ⟨_, ⟨ids, hids, hp⟩, rfl⟩ =>
      obtain ⟨a, b, rfl⟩ := List.length_eq_two.mp hids
      rw [hp]
      rfl
  | .vex2, [.children 1], _, ⟨_, ⟨ids, hids, hp⟩, rfl⟩
  | .vex3, [.children 1], _, ⟨_, ⟨ids, hids, hp⟩, rfl⟩
  | .xop, [.children 1], _, ⟨_, ⟨ids, hids, hp⟩, rfl⟩
  | .evex, [.children 1], _, ⟨_, ⟨ids, hids, hp⟩, rfl⟩ =>
      obtain ⟨a, rfl⟩ := List.length_eq_one_iff.mp hids
      rw [hp]
      rfl
  | .mandatory _, [.children _], _, ⟨_, ⟨ids, _, hp⟩, rfl⟩
  | .payloadPrefix _, [.children _], _, ⟨_, ⟨ids, _, hp⟩, rfl⟩
  | .byLength _, [.children _], _, ⟨_, ⟨ids, _, hp⟩, rfl⟩
  | .byLengthRounded, [.children _], _, ⟨_, ⟨ids, _, hp⟩, rfl⟩
  | .escape, [.table _], _, ⟨_, ⟨ids, _, hp⟩, rfl⟩
  | .group, [.table _], _, ⟨_, ⟨ids, _, hp⟩, rfl⟩ => rw [hp]; rfl
  | .splitGroup, [.table _, .table _], _, ⟨_, ⟨_, _, hp₁⟩, _, ⟨_, _, hp₂⟩, rfl⟩
  | .fineGroup, [.table _, .table _], _, ⟨_, ⟨_, _, hp₁⟩, _, ⟨_, _, hp₂⟩, rfl⟩ =>
      rw [hp₂, hp₁]
      rfl
  | .byOption _, [.children 1, .alternatives], _, ⟨_, ⟨ids, hids, hp₁⟩, _, ⟨_, hp₂⟩, rfl⟩ =>
      obtain ⟨a, rfl⟩ := List.length_eq_one_iff.mp hids
      rw [hp₂, hp₁]
      rfl
  | .rex, [.children 1, .number], _, ⟨_, ⟨ids, hids, hp₁⟩, _, ⟨n, hp₂⟩, rfl⟩ =>
      obtain ⟨a, rfl⟩ := List.length_eq_one_iff.mp hids
      rw [hp₂, hp₁]
      exact congrArg ({ children := [a], number := · : Payload }) UInt32.ofNat_toNat
  | .mandatoryByForm, [.children 8, .number], _, ⟨_, ⟨ids, hids, hp₁⟩, _, ⟨n, hp₂⟩, rfl⟩ =>
      rw [hp₂, hp₁]
      exact payload_mandatoryByForm hids n
  | .mandatoryKept, [.children _, .number], _, ⟨_, ⟨ids, _, hp₁⟩, _, ⟨n, hp₂⟩, rfl⟩ =>
      rw [hp₂, hp₁]
      exact payload_mandatoryKept ids n
  | .trailing, [.trailing], _, ⟨_, ⟨_, hp⟩, rfl⟩ => rw [hp]; rfl
  | .segment _, [.register 1], _, ⟨_, ⟨_, hp⟩, rfl⟩ => rw [hp]; rfl
  | .operandSize, [], _, rfl | .addressSize, [], _, rfl | .lock, [], _, rfl
  | .repne, [], _, rfl | .rep, [], _, rfl => rfl
  | .leaf _, layout, hsuits, h =>
      obtain ⟨hchildren, htables, halternatives, htrailing⟩ := h.leaf hsuits
      obtain ⟨⟩ := p
      cases hchildren
      cases htables
      cases halternatives
      cases htrailing
      rfl

/-- **A sketched node keeps its kind and its fields**: the kind is the one that the tag announces,
and the payload is the one that the fields describe. -/
theorem Entry.payload_of_sketch? {f : Family} {spans : Spans} {tag : UInt8}
    {fields : List NodeField} {n : Node} (h : Entry.sketch? f spans tag fields = some n) :
    ∃ kind layout p, f.Spells tag (.node kind layout) ∧
      Payload.sketch? spans layout firstLocal {} fields = some p ∧
      n.kind? = some kind ∧ n.payload = kind.held p := by
  obtain ⟨kind, layout, p, ⟨name, hrow⟩, hp, rfl⟩ := Entry.sketch?_eq_some h
  exact ⟨kind, layout, p, ⟨name, hrow⟩, hp, kind.kind?_node p,
    Kind.payload_node (Family.suits_of_row hrow) (Payload.filled_of_sketch? hp)⟩

/-! ### Trees -/

namespace Tree

def invalid : Tree := node (.invalid true) []

def invalidNoModRM : Tree := node (.invalid false) []

def null : Tree := node .null []

/-- The trees of the sentinels, by number. -/
def sentinels : List Tree := [invalid, invalidNoModRM, null]

/-- A sketched node with the trees of its children. -/
def ofSketch (n : Node) (children : List Tree) : Tree :=
  node n.label (n.children.map fun id => (sentinels ++ children).getD id.index invalid)

end Tree

/-- What a record stands for. -/
inductive SlotTree where
  | node (tree : Tree)
  | array (trees : List Tree)

namespace SlotTree

def span : SlotTree → Option Nat
  | node _ => none
  | array trees => some trees.length

def kind : SlotTree → SlotKind
  | node _ => .handler
  | array _ => .array

end SlotTree

mutual

/-- The tree of an entry that stands after the records `slots`; a repeated entry has the tree of
each of its places. -/
def Entry.tree (f : Family) (slots : List SlotTree) : Entry → Tree
  | .invalid | .invalidPair => .invalid
  | .invalidNoModRM => .invalidNoModRM
  | .null => .null
  | .ref slot =>
      match slots[slot.toNat]? with
      | some (.node t) => t
      | _ => .invalid
  | .repeated _ e => e.tree f slots
  | .node tag fields =>
      match Entry.sketch? f (slots.map SlotTree.span) tag fields with
      | some n => .ofSketch n (NodeField.treesAll f slots fields)
      | none => .invalid

/-- The trees of the children that a field describes. -/
def NodeField.trees (f : Family) (slots : List SlotTree) : NodeField → List Tree
  | .child e => [e.tree f slots]
  | .table slot =>
      match slots[slot.toNat]? with
      | some (.array ts) => ts
      | _ => []
  | .code _ | .codes _ | .register _ | .tuple _ | .flag _ | .number _ | .byte _ => []

@[inherit_doc NodeField.trees]
def NodeField.treesAll (f : Family) (slots : List SlotTree) : List NodeField → List Tree
  | [] => []
  | field :: rest => field.trees f slots ++ NodeField.treesAll f slots rest

end

mutual

/-- The labels of the nodes that an entry describes, without those of the records it refers to. -/
def Entry.labels (f : Family) (spans : Spans) : Entry → List Node
  | .invalid | .invalidNoModRM | .null | .invalidPair | .ref _ => []
  | .repeated _ e => e.labels f spans
  | .node tag fields =>
      NodeField.labelsAll f spans fields
        ++ (Entry.sketch? f spans tag fields).toList.map Node.label

@[inherit_doc Entry.labels]
def NodeField.labels (f : Family) (spans : Spans) : NodeField → List Node
  | .child e => e.labels f spans
  | .code _ | .codes _ | .register _ | .tuple _ | .flag _ | .number _ | .byte _ | .table _ => []

@[inherit_doc Entry.labels]
def NodeField.labelsAll (f : Family) (spans : Spans) : List NodeField → List Node
  | [] => []
  | field :: rest => field.labels f spans ++ NodeField.labelsAll f spans rest

end

/-- The places of entries together. -/
def placesOf (entries : List Entry) : Nat := (entries.map (·.width.toNat)).sum

namespace Record

/-- A record after the records `slots`; the tree at a place of an array is that of the entry
which covers the place. -/
def tree (f : Family) (slots : List SlotTree) : Record → SlotTree
  | handler e => .node (e.tree f slots)
  | array entries =>
      .array (entries.flatMap fun e => List.replicate e.width.toNat (e.tree f slots))

/-- The records after `slots`, in order. -/
def treesAfter (f : Family) (slots : List SlotTree) : List Record → List SlotTree
  | [] => slots
  | r :: rest => treesAfter f (slots ++ [r.tree f slots]) rest

/-- What each of the records stands for. -/
def trees (f : Family) (records : List Record) : List SlotTree := treesAfter f [] records

/-- The places of an array. -/
def span : Record → Option Nat
  | handler _ => none
  | array entries => some (placesOf entries)

/-- The labels of the nodes that a record describes. -/
def labels (f : Family) (spans : Spans) : Record → List Node
  | handler e => e.labels f spans
  | array entries => entries.flatMap (·.labels f spans)

@[inherit_doc labels]
def labelsAfter (f : Family) (spans : Spans) : List Record → List Node
  | [] => []
  | r :: rest => r.labels f spans ++ labelsAfter f (spans ++ [r.span]) rest

end Record

/-! ### Descriptions that can be read back -/

mutual

/-- Every node has the fields that its tag asks for. -/
def Entry.laidOut (f : Family) (spans : Spans) : Entry → Bool
  | .invalid | .invalidNoModRM | .null | .invalidPair | .ref _ => true
  | .repeated _ e => e.laidOut f spans
  | .node tag fields =>
      (Entry.sketch? f spans tag fields).isSome && NodeField.laidOutAll f spans fields

@[inherit_doc Entry.laidOut]
def NodeField.laidOut (f : Family) (spans : Spans) : NodeField → Bool
  | .child e => e.laidOut f spans
  | .code _ | .codes _ | .register _ | .tuple _ | .flag _ | .number _ | .byte _ | .table _ => true

@[inherit_doc Entry.laidOut]
def NodeField.laidOutAll (f : Family) (spans : Spans) : List NodeField → Bool
  | [] => true
  | field :: rest => field.laidOut f spans && NodeField.laidOutAll f spans rest

end

/-- Every node has the fields that its tag asks for, and the entry stands for a place at least. -/
def Entry.fits (f : Family) (spans : Spans) (e : Entry) : Bool :=
  e.laidOut f spans && decide (1 ≤ e.width)

theorem Entry.laidOut_of_fits {f : Family} {spans : Spans} {e : Entry} (h : e.fits f spans) :
    e.laidOut f spans :=
  (Bool.and_eq_true_iff.mp h).1

namespace Record

/-- The entries fit, and the places of an array can be counted in 32 bits. -/
def fits (f : Family) (spans : Spans) : Record → Bool
  | handler e => e.fits f spans
  | array entries =>
      entries.all (·.fits f spans) && decide (placesOf entries < 2 ^ 32)

/-- Each record fits after the ones before it. -/
def fitsAfter (f : Family) (spans : Spans) : List Record → Bool
  | [] => true
  | r :: rest => r.fits f spans && fitsAfter f (spans ++ [r.span]) rest

@[inherit_doc fitsAfter]
def fitsAll (f : Family) (records : List Record) : Bool := fitsAfter f [] records

end Record

end OpcodeForest
