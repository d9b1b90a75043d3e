import Mathlib.Logic.Relation
import Mathlib.Order.Nat
import OpcodeForest.Proofs.Forest.Unfolding
import OpcodeForest.Proofs.Table.Traversal
import OpcodeForest.Table.Load

/-!
# Forests that are read

Whatever bytes a table has, reading it only adds nodes to the forest. Each of them is of a kind that
the family has a tag for, and its children are sentinels or nodes that the same table added before.
So a forest has no cycles, and from the maps of a table one does not get to the nodes of another.

`Yields f base w R r` says this of a reader: started on a forest of `w` nodes it adds such nodes
only, and the numbers in its result are among those that the table may use then.

* `sizedCongruence_yields`: all readers.
* `loadMaps_grown`: a table.
* `load_wellFormed`: all tables that load.
-/

namespace OpcodeForest

/-- A sequence that succeeds does so in both parts. -/
theorem bind_eq_ok_iff {ε α β : Type} {x : Except ε α} {g : α → Except ε β} {b : β} :
    x >>= g = .ok b ↔ ∃ a, x = .ok a ∧ g a = .ok b := by
  cases x with
  | error e => exact ⟨nofun, fun ⟨_, h, _⟩ => nomatch h⟩
  | ok a => exact ⟨fun h => ⟨a, rfl, h⟩, fun ⟨_, h, hb⟩ => Except.ok.inj h ▸ hb⟩

/-! ### Numbers that a table may use -/

/-- A sentinel, or a number from `first` up to `bound`. -/
def NodeId.Among (first bound : Nat) (id : NodeId) : Prop :=
  id.index < 3 ∨ first ≤ id.index ∧ id.index < bound

/-- The more nodes there are, the more numbers may be used. -/
theorem NodeId.Among.mono {first bound bound' : Nat} {id : NodeId} (h : id.Among first bound)
    (hle : bound ≤ bound') : id.Among first bound' :=
  h.imp_right fun h => ⟨h.1, Nat.lt_of_lt_of_le h.2 hle⟩

/-- A node that a tag of the family stands for. -/
def Family.Builds (f : Family) (n : Node) : Prop :=
  ∃ row ∈ f.rows, ∃ kind layout p, row.rule = .node kind layout ∧ n = Kind.node p kind

/-- The forest `g` is `base` and nodes that a table of the family `f` added: each has as children
sentinels and nodes that were added before it. -/
structure Forest.Grown (f : Family) (base g : Forest) : Prop where
  extend : g.Extends base
  built : ∀ id n, base.size ≤ id.index → g.get? id = some n → f.Builds n
  children : ∀ id n, base.size ≤ id.index → g.get? id = some n →
    ∀ c ∈ n.children, c.Among base.size id.index

namespace Forest

variable {f : Family} {base g : Forest}

theorem size_push (g : Forest) (n : Node) : (g.push n).size = g.size + 1 := by
  simp [size, push]

theorem index_lt_size {id : NodeId} {n : Node} (h : g.get? id = some n) : id.index < g.size :=
  (Array.getElem?_eq_some_iff.mp h).1

/-- A node of the larger forest is an old one or the new one. -/
theorem get?_push_cases {n n' : Node} {id : NodeId} (h : (g.push n).get? id = some n') :
    g.get? id = some n' ∨ id.index = g.size ∧ n' = n := by
  simp only [get?, push, Array.getElem?_push] at h
  split at h
  · rename_i hid
    exact .inr ⟨hid, (Option.some.inj h).symm⟩
  · exact .inl h

theorem Grown.refl (f : Family) (base : Forest) : base.Grown f base where
  extend := .refl base
  built _ _ hle hn := absurd (index_lt_size hn) (Nat.not_lt.mpr hle)
  children _ _ hle hn := absurd (index_lt_size hn) (Nat.not_lt.mpr hle)

/-- A node whose children are there already may be added. -/
theorem Grown.push (h : Grown f base g) {n : Node} (hn : f.Builds n)
    (hc : ∀ c ∈ n.children, c.Among base.size g.size) : Grown f base (g.push n) where
  extend := (Extends.push g n).trans h.extend
  built id n' hle hid := by
    rcases get?_push_cases hid with hid | ⟨-, rfl⟩
    · exact h.built id n' hle hid
    · exact hn
  children id n' hle hid := by
    rcases get?_push_cases hid with hid | ⟨hindex, rfl⟩
    · exact h.children id n' hle hid
    · rw [hindex]; exact hc

end Forest

/-! ### Numbers in nodes and records -/

/-- The numbers of a record. -/
def Slot.ids : Slot → List NodeId
  | .node id => [id]
  | .array ids => ids

/-- The numbers of a payload. -/
def Payload.ids (p : Payload) : List NodeId :=
  p.children ++ p.tables.flatten ++ p.alternatives.map (·.1)

namespace Payload

variable {p : Payload} {id : NodeId}

theorem mem_ids : id ∈ p.ids ↔
    id ∈ p.children ∨ id ∈ p.tables.flatten ∨ id ∈ p.alternatives.map (·.1) := by
  rw [ids, List.mem_append, List.mem_append, or_assoc]

/-- A child that a payload lacks is read as a sentinel. -/
theorem child_mem (p : Payload) (n : Nat) : p.child n ∈ p.ids ∨ (p.child n).index < 3 := by
  rw [child, List.getD_eq_getElem?_getD]
  cases h : p.children[n]? with
  | none => exact .inr (by decide)
  | some id => exact .inl (mem_ids.mpr (.inl (List.mem_of_getElem? h)))

theorem mem_ids_of_mem_table {n : Nat} (h : id ∈ p.table n) : id ∈ p.ids := by
  rw [table, List.getD_eq_getElem?_getD] at h
  cases hn : p.tables[n]? with
  | none => rw [hn] at h; cases h
  | some ids =>
      rw [hn] at h
      exact mem_ids.mpr (.inr (.inl (List.mem_flatten_of_mem (List.mem_of_getElem? hn) h)))

end Payload

namespace Kind

theorem map_fst_withUses (bits first : Nat) (ids : List NodeId) :
    (withUses bits first ids).map (·.1) = ids := by
  simp [withUses, Function.comp_def]

/-- The children of a node are sentinels and numbers of its payload. -/
theorem mem_children_node {p : Payload} {kind : Kind} {id : NodeId}
    (h : id ∈ (kind.node p).children) : id ∈ p.ids ∨ id.index < 3 := by
  have hchild : ∀ n, id = p.child n → id ∈ p.ids ∨ id.index < 3 := fun n hid => hid ▸ p.child_mem n
  have hchildren : id ∈ p.children → id ∈ p.ids ∨ id.index < 3 :=
    fun h => .inl (Payload.mem_ids.mpr (.inl h))
  have htable : ∀ n, id ∈ p.table n → id ∈ p.ids ∨ id.index < 3 :=
    fun n h => .inl (Payload.mem_ids_of_mem_table h)
  cases kind with
  | byMode | byForm | byW =>
      simp only [node, Node.children, List.mem_cons, List.not_mem_nil, or_false] at h
      exact h.elim (hchild 0) (hchild 1)
  | vex2 | vex3 | xop | evex | rex => exact hchild 0 (List.mem_singleton.mp h)
  | byOption =>
      rcases List.mem_cons.mp h with h | h
      · exact hchild 0 h
      · exact .inl (Payload.mem_ids.mpr (.inr (.inr h)))
  | escape | group => exact htable 0 h
  | splitGroup | fineGroup => exact (List.mem_append.mp h).elim (htable 0) (htable 1)
  | mandatory | mandatoryKept | payloadPrefix | byLengthRounded => exact hchildren h
  | mandatoryByForm =>
      simp only [node, Node.children, map_fst_withUses, List.take_append_drop] at h
      exact hchildren h
  | byLength modRM =>
      rcases List.mem_append.mp h with h | h
      · exact hchildren h
      · rw [List.eq_of_mem_replicate h]
        cases modRM <;> exact .inr (by decide)
  | _ => cases h

end Kind

theorem forall_of_forall₂ {α β : Type} {P : β → Prop} {as : List α} {bs : List β}
    (h : List.Forall₂ (fun _ b => P b) as bs) : ∀ b ∈ bs, P b := by
  induction h with
  | nil => exact nofun
  | cons hb _ ih => exact List.forall_mem_cons.mpr ⟨hb, ih⟩

/-- Related records have related numbers. -/
theorem Slot.Lift.ids {N : NodeId → NodeId → Prop} {s s' : Slot} (h : s.Lift N s') :
    List.Forall₂ N s.ids s'.ids := by
  cases h with
  | node h => exact .cons h .nil
  | array h => exact h

/-- A relation that holds of all its numbers holds of a record. -/
theorem Slot.lift_same {N : NodeId → NodeId → Prop} {s : Slot} (h : ∀ id ∈ s.ids, N id id) :
    s.Lift N s := by
  cases s with
  | node id => exact .node (h id List.mem_cons_self)
  | array ids => exact .array (List.forall₂_same.mpr h)

theorem Payload.Lift.ids {N : NodeId → NodeId → Prop} {p q : Payload} (h : p.Lift N q) :
    List.Forall₂ N p.ids q.ids :=
  List.rel_append (List.rel_append h.children (List.rel_flatten h.tables))
    (List.rel_map (fun _ _ hab => hab.1) h.alternatives)

/-! ### What a reader yields -/

/-- The forest has grown from `base` by the table being read, whose records use its own nodes. -/
structure Cursor.Sound (f : Family) (base : Forest) (c : Cursor) : Prop where
  grown : Forest.Grown f base c.forest
  slots : ∀ s ∈ c.slots, ∀ id ∈ s.ids, id.Among base.size c.forest.size

namespace Reader

variable {α β : Type} {f : Family} {base : Forest} {w : Nat}

/-- On a forest of `w` nodes the reader adds nodes of its table only, and `R` relates something to
its result when it has done so. -/
def Yields (f : Family) (base : Forest) (w : Nat) (R : Nat → α → α → Prop) (r : Reader α) : Prop :=
  ∀ ⦃c b c'⦄, c.Sound f base → c.forest.size = w → Reads r c b c' →
    c'.Sound f base ∧ w ≤ c'.forest.size ∧ ∃ a, R c'.forest.size a b

namespace Yields

variable {R : Nat → α → α → Prop} {S : Nat → β → β → Prop}

theorem pure {a b : α} (h : R w a b) : Yields f base w R (Pure.pure b) := by
  rintro c _ c' hc rfl ⟨⟩
  exact ⟨hc, Nat.le_refl _, a, h⟩

theorem throw (e : TableError) : Yields f base w R (MonadExcept.throw e) := nofun

/-- **One after the other.** -/
theorem bind {r : Reader α} {g : α → Reader β} (h : Yields f base w R r)
    (hg : ∀ w' a b, w ≤ w' → R w' a b → Yields f base w' S (g b)) :
    Yields f base w S (r >>= g) := by
  intro c b' c' hc hw hread
  obtain ⟨b, c₁, hr, hread⟩ := reads_bind_inv hread
  obtain ⟨hc₁, hle₁, a, hab⟩ := h hc hw hr
  obtain ⟨hc', hle', hb'⟩ := hg _ a b hle₁ hab hc₁ rfl hread
  exact ⟨hc', Nat.le_trans hle₁ hle', hb'⟩

/-- The cursor can be looked at. -/
theorem get_bind {g : Cursor → Reader α} (h : ∀ c, Yields f base w R (g c)) :
    Yields f base w R (MonadState.get >>= g) := by
  intro c b c' hc hw hread
  obtain ⟨_, _, ⟨⟩, hread⟩ := reads_bind_inv hread
  exact h c hc hw hread

end Yields

theorem yields_byte : Yields f base w (fun _ => Eq) byte := by
  intro c b c' hc hw hread
  obtain ⟨_, _, ⟨⟩, hread⟩ := reads_bind_inv hread
  cases hrest : c.rest with
  | nil => rw [hrest] at hread; cases hread
  | cons b' rest =>
      rw [hrest] at hread
      cases hread
      exact ⟨⟨hc.grown, hc.slots⟩, hw.ge, b, rfl⟩

/-- The records of the table hold numbers of the same table. -/
theorem yields_slot (n : UInt8) :
    Yields f base w (fun w => Slot.Lift fun _ id => id.Among base.size w) (slot n) := by
  intro c s c' hc hw hread
  rw [Reads, run_slot] at hread
  cases hs : c.slots[n.toNat]? with
  | none => rw [hs] at hread; cases hread
  | some s' =>
      rw [hs] at hread
      cases hread
      exact ⟨hc, hw.ge, s, Slot.lift_same (hc.slots s (List.mem_of_getElem? hs))⟩

/-- The only reader that makes the forest grow. -/
theorem yields_push {n : Node} (hn : f.Builds n)
    (hchildren : ∀ id ∈ n.children, id.Among base.size w) :
    Yields f base w (fun w _ id => id.Among base.size w) (push n) := by
  rintro c id c' hc rfl ⟨⟩
  have hle : c.forest.size ≤ (c.forest.push n).size := by
    rw [Forest.size_push]; exact Nat.le_succ _
  have hlt : c.forest.size < (c.forest.push n).size := by
    rw [Forest.size_push]; exact Nat.lt_succ_self _
  exact ⟨⟨hc.grown.push hn hchildren, fun s hs id hid => (hc.slots s hs id hid).mono hle⟩, hle,
    ⟨c.forest.size⟩, .inr ⟨hc.grown.extend.size_le, hlt⟩⟩

/-- **All readers add nodes of their table only**, and give numbers that it may use. -/
theorem sizedCongruence_yields (f : Family) (base : Forest) :
    SizedCongruence f (fun w _ id => id.Among base.size w)
      (fun _ w R _ r => Yields f base w R r) where
  mono hle hid := hid.mono hle
  sentinel hid := .inl hid
  pure h := .pure h
  throw e := .throw e
  bind h hg := h.bind hg
  byte _ := yields_byte
  position _ := .get_bind fun _ => .pure rfl
  slot _ n := yields_slot n
  misplacedArray _ _ hread := (not_reads_misplacedArray hread).elim
  push {_ row kind layout _ q} hrow hrule hp :=
    yields_push ⟨row, hrow, kind, layout, q, hrule, rfl⟩ fun id hid =>
      (Kind.mem_children_node hid).elim (forall_of_forall₂ hp.ids id) .inl
  look h := .get_bind fun _ => h _

/-- The next record, whose numbers may be used. -/
theorem yields_addSlot {s : Slot} (hs : ∀ id ∈ s.ids, id.Among base.size w) :
    Yields f base w (fun _ => Eq)
      (modify fun c => { c with slots := c.slots ++ [s] } : Reader Unit) := by
  rintro c _ c' hc rfl ⟨⟩
  refine ⟨⟨hc.grown, fun s' hs' => ?_⟩, Nat.le_refl _, (), rfl⟩
  rcases List.mem_append.mp hs' with hs' | hs'
  · exact hc.slots s' hs'
  · rw [List.mem_singleton.mp hs']; exact hs

theorem yields_records : ∀ (fuel w : Nat), Yields f base w (fun _ => Eq) (records f fuel)
  | 0, _ => .pure rfl
  | fuel + 1, w => by
      refine .get_bind fun c => ?_
      split
      · exact .pure rfl
      · split
        · exact .throw _
        · exact ((sizedCongruence_yields f base).slotRecord w).bind fun w _ s _ hs =>
            (yields_addSlot (forall_of_forall₂ hs.ids)).bind fun w _ _ _ _ =>
              yields_records fuel w

/-- Records that are maps. -/
theorem eq_arrays_of_mapM_rootMap {first : Nat} : ∀ {slots : List Slot} {n : Nat}
    {maps : List (List NodeId)},
    (slots.zipIdx n).mapM (fun (s, n) => rootMap (first + n) s) = .ok maps →
    slots = maps.map Slot.array
  | [], _, maps, h => by
      obtain rfl : [] = maps := Except.ok.inj h
      rfl
  | s :: slots, n, maps, h => by
      rw [List.zipIdx_cons, List.mapM_cons] at h
      obtain ⟨ids, hids, h⟩ := bind_eq_ok_iff.mp h
      obtain ⟨maps', hrest, h⟩ := bind_eq_ok_iff.mp h
      obtain rfl : ids :: maps' = maps := Except.ok.inj h
      rw [List.map_cons, ← eq_arrays_of_mapM_rootMap hrest]
      cases s with
      | node id => cases hids
      | array ids' =>
          dsimp only [rootMap] at hids
          split at hids
          · rw [Except.ok.inj hids]
          · cases hids

/-- The maps are arrays among the records. -/
theorem mem_slots_of_rootMaps {count : Nat} {slots : List Slot} {maps : List (List NodeId)}
    (h : rootMaps count slots = .ok maps) {map : List NodeId} (hmap : map ∈ maps) :
    .array map ∈ slots := by
  rw [rootMaps] at h
  split at h
  · cases h
  · have hslots := eq_arrays_of_mapM_rootMap h
    exact List.mem_of_mem_drop (hslots ▸ List.mem_map_of_mem hmap)

end Reader

/-- **A table adds nodes of its own**, and its maps lead to those only. -/
theorem loadMaps_grown {f : Family} {count : Nat} {data : List UInt8} {base g : Forest}
    {maps : List OpcodeMap} (h : Tables.loadMaps f count data base = .ok (maps, g)) :
    Forest.Grown f base g ∧ ∀ map ∈ maps, ∀ id ∈ map, id.Among base.size g.size := by
  have hstart : Cursor.Sound f base { rest := data, forest := base } :=
    ⟨.refl f base, fun _ hs => nomatch hs⟩
  obtain ⟨c, hread, hg⟩ : ∃ c, Reader.Reads (Reader.whole f count) { rest := data, forest := base }
      maps c ∧ c.forest = g := by
    rw [Tables.loadMaps, readTable] at h
    rcases hrun : (Reader.whole f count).run { rest := data, forest := base } with ⟨_ | maps', c⟩
    · rw [hrun] at h; cases h
    · rw [hrun] at h
      cases h
      exact ⟨c, hrun, rfl⟩
  obtain ⟨_, _, ⟨⟩, hread⟩ := Reader.reads_bind_inv hread
  obtain ⟨_, c₁, hrecords, hread⟩ := Reader.reads_bind_inv hread
  obtain ⟨hsound, -, -⟩ := Reader.yields_records _ _ hstart rfl hrecords
  obtain ⟨_, _, ⟨⟩, hread⟩ := Reader.reads_bind_inv hread
  cases hroot : Reader.rootMaps count c₁.slots with
  | error e => rw [hroot] at hread; cases hread
  | ok maps' =>
      rw [hroot] at hread
      cases hread
      subst hg
      exact ⟨hsound.grown, fun map hmap =>
        hsound.slots _ (Reader.mem_slots_of_rootMaps hroot hmap)⟩

/-! ### Order and reach -/

namespace Node

/-- A prefix byte: the one-byte map is looked up again. -/
def isPrefix : Node → Bool
  | segment _ _ | operandSize | addressSize | lock | repne | rep | rex _ _ => true
  | _ => false

/-- A payload, which has maps of its own. -/
def opensPayload : Node → Bool
  | vex2 _ | vex3 _ | xop _ | evex _ => true
  | _ => false

/-- A further opcode byte is looked up. -/
def leavesMap : Node → Bool
  | escape _ => true
  | n => n.isPrefix || n.opensPayload

/-- A node that stays in its map has no prefix and no payload. -/
theorem stays_of_leavesMap {n : Node} (h : n.leavesMap = false) :
    n.isPrefix = false ∧ n.opensPayload = false := by
  cases n with
  | escape => cases h
  | _ => exact Bool.or_eq_false_iff.mp h

end Node

/-- The rule asks for a node that looks up a further opcode byte. -/
def TagRule.leavesMap : TagRule → Bool
  | .node kind _ => (Kind.node {} kind).leavesMap
  | _ => false

/-- No tag of a payload stands for a node that looks up a further opcode byte. -/
theorem Family.Builds.not_leavesMap {f : Family} (hf : f ≠ .legacy) {n : Node} (h : f.Builds n) :
    n.leavesMap = false := by
  obtain ⟨row, hrow, kind, layout, p, hrule, rfl⟩ := h
  have hall : f.rows.all fun row => !row.rule.leavesMap := by
    cases f with
    | legacy => exact absurd rfl hf
    | vex | evex => decide
  have hkind := List.all_eq_true.mp hall row hrow
  rw [hrule, Bool.not_eq_true'] at hkind
  rw [← hkind]
  cases kind <;> rfl

namespace Forest

variable {f : Family} {base g h : Forest}

/-- The numbers that children lead to. -/
def Reaches (g : Forest) : NodeId → NodeId → Prop :=
  Relation.ReflTransGen fun a b => b ∈ (g.get a).children

/-- Children come before their parents. -/
def Ordered (g : Forest) : Prop :=
  ∀ id n, g.get? id = some n → ∀ c ∈ n.children, c.index < id.index

/-- Growing keeps the nodes that are there. -/
theorem get?_of_extends (hg : h.Extends g) {id : NodeId} (hlt : id.index < g.size) :
    h.get? id = g.get? id := by
  obtain ⟨n, hn⟩ : ∃ n, g.get? id = some n := ⟨_, Array.getElem?_eq_getElem hlt⟩
  rw [hn, hg.get? hn]

theorem get_of_extends (hg : h.Extends g) {id : NodeId} (hlt : id.index < g.size) :
    h.get id = g.get id := by
  rw [get, get, get?_of_extends hg hlt]

/-- A sentinel ends the walk. -/
theorem get_sentinel (hg : g.Extends .fresh) {id : NodeId} (hlt : id.index < 3) :
    g.get id = .null ∨ ∃ modRM, g.get id = .invalid modRM := by
  rw [get_of_extends hg hlt]
  obtain ⟨_ | _ | _ | n⟩ := id
  · exact .inr ⟨true, rfl⟩
  · exact .inr ⟨false, rfl⟩
  · exact .inl rfl
  · exact absurd hlt (by simp)

theorem ordered_fresh : Ordered .fresh := by
  intro id n hn
  have hget : fresh.get id = n := by rw [get, hn]; rfl
  rcases get_sentinel (.refl fresh) (index_lt_size hn) with hid | ⟨modRM, hid⟩
  · rw [← hget, hid]; exact nofun
  · rw [← hget, hid]; exact nofun

/-- Children come before their parents in what is added, too. -/
theorem Grown.ordered (hg : Grown f base g) (hbase : base.Ordered) (h3 : 3 ≤ base.size) :
    g.Ordered := by
  intro id n hn c hc
  by_cases hlt : id.index < base.size
  · exact hbase id n (get?_of_extends hg.extend hlt ▸ hn) c hc
  · rcases hg.children id n (Nat.le_of_not_lt hlt) hn c hc with hc | hc
    · omega
    · exact hc.2

/-- From the nodes of a table one gets to no others. -/
theorem Grown.among_of_reaches (hg : Grown f base g) (hh : h.Extends g) (hfresh : h.Extends .fresh)
    {a b : NodeId} (ha : a.Among base.size g.size) (hab : h.Reaches a b) :
    b.Among base.size g.size := by
  induction hab with
  | refl => exact ha
  | @tail b c _ hc ih =>
      rcases ih with hb | ⟨hle, hlt⟩
      · rcases get_sentinel hfresh hb with hb | ⟨modRM, hb⟩ <;> rw [hb] at hc <;> cases hc
      · obtain ⟨n, hn⟩ : ∃ n, g.get? b = some n := ⟨_, Array.getElem?_eq_getElem hlt⟩
        rw [get_of_extends hh hlt, get, hn] at hc
        exact (hg.children b n hle hn c hc).mono (Nat.le_of_lt hlt)

/-- From the maps of a payload no further opcode byte is looked up. -/
theorem Grown.not_leavesMap (hg : Grown f base g) (hf : f ≠ .legacy) (hh : h.Extends g)
    (hfresh : h.Extends .fresh) {a b : NodeId} (ha : a.Among base.size g.size)
    (hab : h.Reaches a b) : (h.get b).leavesMap = false := by
  rcases hg.among_of_reaches hh hfresh ha hab with hb | ⟨hle, hlt⟩
  · rcases get_sentinel hfresh hb with hb | ⟨modRM, hb⟩ <;> rw [hb] <;> rfl
  · obtain ⟨n, hn⟩ : ∃ n, g.get? b = some n := ⟨_, Array.getElem?_eq_getElem hlt⟩
    rw [get_of_extends hh hlt, get, hn]
    exact (hg.built b n hle hn).not_leavesMap hf

end Forest

/-! ### Loaded tables -/

namespace Tables

/-- Tables that the walk can be trusted with: the sentinels are there, children come before their
parents, and from the maps of the payloads no further opcode byte is looked up. -/
structure WellFormed (t : Tables) : Prop where
  sentinels : t.forest.Extends .fresh
  ordered : t.forest.Ordered
  payloads : ∀ map ∈ t.vex ++ t.xop ++ t.evex, ∀ a ∈ map, ∀ b, t.forest.Reaches a b →
    (t.forest.get b).leavesMap = false

/-- Loading is reading four tables, each on top of the ones before. -/
theorem load_eq_ok_iff {b : Blobs} {t : Tables} : load b = .ok t ↔
    ∃ legacy f₁ vex f₂ xop f₃ evex f₄,
    loadMaps .legacy 4 b.legacy .fresh = .ok (legacy, f₁) ∧
    loadMaps .vex 3 b.vex f₁ = .ok (vex, f₂) ∧ loadMaps .vex 3 b.xop f₂ = .ok (xop, f₃) ∧
    loadMaps .evex 3 b.evex f₃ = .ok (evex, f₄) ∧
    t = { forest := f₄, vex, xop, evex
          legacy := { map0F38 := legacy.getD 0 [], map0F3A := legacy.getD 1 [],
                      map0F := legacy.getD 2 [], oneByte := legacy.getD 3 [] } } := by
  constructor
  · intro h
    obtain ⟨⟨legacy, f₁⟩, h₁, h⟩ := bind_eq_ok_iff.mp h
    obtain ⟨⟨vex, f₂⟩, h₂, h⟩ := bind_eq_ok_iff.mp h
    obtain ⟨⟨xop, f₃⟩, h₃, h⟩ := bind_eq_ok_iff.mp h
    obtain ⟨⟨evex, f₄⟩, h₄, h⟩ := bind_eq_ok_iff.mp h
    exact ⟨legacy, f₁, vex, f₂, xop, f₃, evex, f₄, h₁, h₂, h₃, h₄, (Except.ok.inj h).symm⟩
  · rintro ⟨legacy, f₁, vex, f₂, xop, f₃, evex, f₄, h₁, h₂, h₃, h₄, rfl⟩
    exact bind_eq_ok_iff.mpr ⟨_, h₁, bind_eq_ok_iff.mpr ⟨_, h₂,
      bind_eq_ok_iff.mpr ⟨_, h₃, bind_eq_ok_iff.mpr ⟨_, h₄, rfl⟩⟩⟩⟩

/-- **Tables that load are well-formed.** -/
theorem load_wellFormed {b : Blobs} {t : Tables} (h : load b = .ok t) : t.WellFormed := by
  obtain ⟨legacy, f₁, vex, f₂, xop, f₃, evex, f₄, h₁, h₂, h₃, h₄, rfl⟩ := load_eq_ok_iff.mp h
  obtain ⟨hg₁, -⟩ := loadMaps_grown h₁
  obtain ⟨hg₂, hvex⟩ := loadMaps_grown h₂
  obtain ⟨hg₃, hxop⟩ := loadMaps_grown h₃
  obtain ⟨hg₄, hevex⟩ := loadMaps_grown h₄
  have hext₃ : f₄.Extends f₂ := hg₄.extend.trans hg₃.extend
  have hfresh : f₄.Extends .fresh := hext₃.trans (hg₂.extend.trans hg₁.extend)
  have hle₁ : 3 ≤ f₁.size := hg₁.extend.size_le
  have hle₂ := hg₂.extend.size_le
  have hle₃ := hg₃.extend.size_le
  refine ⟨hfresh, ?_, fun map hmap a ha b hab => ?_⟩
  · have hordered := hg₁.ordered Forest.ordered_fresh (Nat.le_refl 3)
    exact hg₄.ordered (hg₃.ordered (hg₂.ordered hordered hle₁) (by omega)) (by omega)
  · rcases List.mem_append.mp hmap with hmap | hmap
    · rcases List.mem_append.mp hmap with hmap | hmap
      · exact hg₂.not_leavesMap nofun hext₃ hfresh (hvex map hmap a ha) hab
      · exact hg₃.not_leavesMap nofun hg₄.extend hfresh (hxop map hmap a ha) hab
    · exact hg₄.not_leavesMap nofun (.refl f₄) hfresh (hevex map hmap a ha) hab

end Tables

end OpcodeForest
