import OpcodeForest.Proofs.Corpus.Trees
import OpcodeForest.Proofs.Decode.ModRMReads

/-!
# The ModRM byte in the built-in tables

How the trees of a table may be entered is found record by record, since a tree that several
records refer to is in many trees. Every map of the built-in tables may be entered from the lookups
that lead to it, so in each walk the ModRM byte is read at most once between two lookups, and before
it is needed.

* `Record.entrancesAfter_eq`: going record by record gives the entrances of the trees.
* `readsOnce_of_allows`: tables whose maps may be entered.
* `builtin_readsOnce`: the built-in tables are such tables.
* `modRM_read_once`: what that means for the trace of a walk.
-/

namespace OpcodeForest

/-! ### Entrances of records -/

namespace Entrance

/-- `k e`, with the fields of `e` evaluated first. -/
def force {α : Type} (e : Entrance) (k : Entrance → α) : α :=
  match e with
  | ⟨true, true, true⟩ => k ⟨true, true, true⟩
  | ⟨true, true, false⟩ => k ⟨true, true, false⟩
  | ⟨true, false, true⟩ => k ⟨true, false, true⟩
  | ⟨true, false, false⟩ => k ⟨true, false, false⟩
  | ⟨false, true, true⟩ => k ⟨false, true, true⟩
  | ⟨false, true, false⟩ => k ⟨false, true, false⟩
  | ⟨false, false, true⟩ => k ⟨false, false, true⟩
  | ⟨false, false, false⟩ => k ⟨false, false, false⟩

/-- Forcing an entrance changes nothing but the time it takes. -/
theorem force_eq {α : Type} (e : Entrance) (k : Entrance → α) : e.force k = k e := by
  obtain ⟨needs, before, after⟩ := e
  cases needs <;> cases before <;> cases after <;> rfl

/-- The entrances of the sentinels, by number. -/
def sentinels : List Entrance := [invalid, atOnce, atOnce]

/-- A sketched node with the entrances of its children. -/
def ofSketch (n : Node) (children : List Entrance) : Entrance :=
  ofNode n (n.children.map fun id => (sentinels ++ children).getD id.index invalid)

end Entrance

/-- The entrances of what a record stands for. -/
inductive SlotEntrance where
  | node (e : Entrance)
  | array (es : List Entrance)

namespace SlotEntrance

def allows (policy : ModRMPolicy) : SlotEntrance → Bool
  | node e => e.allows policy false
  | array es => es.all (·.allows policy false)

end SlotEntrance

def SlotTree.entrance : SlotTree → SlotEntrance
  | node tree => .node tree.entrance
  | array trees => .array (trees.map Tree.entrance)

mutual

/-- The entrance of an entry's tree, from those of the records before it. -/
def Entry.entrance (f : Family) (spans : Spans) (slots : List SlotEntrance) : Entry → Entrance
  | .invalid | .invalidPair => .invalid
  | .invalidNoModRM | .null => .atOnce
  | .ref slot =>
      match slots[slot.toNat]? with
      | some (.node e) => e
      | _ => .invalid
  | .repeated _ e => e.entrance f spans slots
  | .node tag fields =>
      match Entry.sketch? f spans tag fields with
      | some n => .ofSketch n (NodeField.entrancesAll f spans slots fields)
      | none => .invalid

@[inherit_doc Entry.entrance]
def NodeField.entrances (f : Family) (spans : Spans) (slots : List SlotEntrance) :
    NodeField → List Entrance
  | .child e => [e.entrance f spans slots]
  | .table slot =>
      match slots[slot.toNat]? with
      | some (.array es) => es
      | _ => []
  | .code _ | .codes _ | .register _ | .tuple _ | .flag _ | .number _ | .byte _ => []

@[inherit_doc Entry.entrance]
def NodeField.entrancesAll (f : Family) (spans : Spans) (slots : List SlotEntrance) :
    List NodeField → List Entrance
  | [] => []
  | field :: rest => field.entrances f spans slots ++ NodeField.entrancesAll f spans slots rest

end

namespace Record

/-- The entrances at the places of an array, each evaluated once. -/
def places (f : Family) (spans : Spans) (slots : List SlotEntrance) :
    List Entry → (List Entrance → List SlotEntrance) → List SlotEntrance
  | [], k => k []
  | entry :: rest, k =>
      (entry.entrance f spans slots).force fun e =>
        places f spans slots rest fun es => k (List.replicate entry.width.toNat e ++ es)

/-- The entrances of the records after `slots`, in order. -/
def entrancesAfter (f : Family) (spans : Spans) (slots : List SlotEntrance) :
    List Record → List SlotEntrance
  | [] => slots
  | handler entry :: rest =>
      (entry.entrance f spans slots).force fun e =>
        entrancesAfter f (spans ++ [none]) (slots ++ [.node e]) rest
  | array entries :: rest =>
      places f spans slots entries fun es =>
        entrancesAfter f (spans ++ [some (placesOf entries)]) (slots ++ [.array es]) rest

/-- The maps that the records end with may be entered after a lookup. -/
def mapsAllow (f : Family) (count : Nat) (policy : ModRMPolicy) (records : List Record) : Bool :=
  ((entrancesAfter f [] [] records).drop (records.length - count)).all (·.allows policy)

end Record

/-! ### Entrances of trees -/

/-- The entrance of a sketched tree is found from those of its children. -/
theorem Tree.entrance_ofSketch (n : Node) (children : List Tree) :
    (Tree.ofSketch n children).entrance = .ofSketch n (children.map Tree.entrance) := by
  have hchild : ∀ id : NodeId, ((sentinels ++ children).getD id.index invalid).entrance
      = (Entrance.sentinels ++ children.map Tree.entrance).getD id.index .invalid := by
    intro id
    have hmap : Entrance.sentinels ++ children.map Tree.entrance
        = (sentinels ++ children).map Tree.entrance := by
      rw [List.map_append]
      rfl
    rw [hmap, List.getD_eq_getElem?_getD, List.getD_eq_getElem?_getD, List.getElem?_map]
    cases (sentinels ++ children)[id.index]? <;> rfl
  rw [Tree.ofSketch, Tree.entrance, Tree.entranceAll_eq, Entrance.ofNode_label, List.map_map,
    Entrance.ofSketch]
  exact congrArg (Entrance.ofNode n) (List.map_congr_left fun id _ => hchild id)

section

variable (f : Family) (slots : List SlotTree)

mutual

/-- An entry may be entered as its tree may, by recursion over the entry. -/
theorem Entry.entrance_eq : ∀ e : Entry,
    e.entrance f (slots.map SlotTree.span) (slots.map SlotTree.entrance)
      = (e.tree f slots).entrance
  | .invalid | .invalidPair | .invalidNoModRM | .null => by
      simp only [Entry.entrance, Entry.tree]; rfl
  | .ref slot => by
      simp only [Entry.entrance, Entry.tree, List.getElem?_map]
      cases slots[slot.toNat]? with
      | none => rfl
      | some s => cases s <;> rfl
  | .repeated _ e => by
      simp only [Entry.entrance, Entry.tree]
      exact Entry.entrance_eq e
  | .node tag fields => by
      simp only [Entry.entrance, Entry.tree]
      cases Entry.sketch? f (slots.map SlotTree.span) tag fields with
      | none => rfl
      | some n =>
          dsimp only
          rw [NodeField.entrancesAll_eq fields]
          exact (Tree.entrance_ofSketch n _).symm

theorem NodeField.entrances_eq : ∀ field : NodeField,
    field.entrances f (slots.map SlotTree.span) (slots.map SlotTree.entrance)
      = (field.trees f slots).map Tree.entrance
  | .child e => by
      simp only [NodeField.entrances, NodeField.trees, List.map_singleton]
      rw [Entry.entrance_eq e]
  | .table slot => by
      simp only [NodeField.entrances, NodeField.trees, List.getElem?_map]
      cases slots[slot.toNat]? with
      | none => rfl
      | some s => cases s <;> rfl
  | .code _ | .codes _ | .register _ | .tuple _ | .flag _ | .number _ | .byte _ => by
      simp only [NodeField.entrances, NodeField.trees, List.map_nil]

theorem NodeField.entrancesAll_eq : ∀ fields : List NodeField,
    NodeField.entrancesAll f (slots.map SlotTree.span) (slots.map SlotTree.entrance) fields
      = (NodeField.treesAll f slots fields).map Tree.entrance
  | [] => by simp only [NodeField.entrancesAll, NodeField.treesAll, List.map_nil]
  | field :: rest => by
      simp only [NodeField.entrancesAll, NodeField.treesAll, List.map_append]
      rw [NodeField.entrances_eq field, NodeField.entrancesAll_eq rest]

end

end

namespace Record

/-- At each place of an array stands the entrance of the entry that covers it. -/
theorem places_eq (f : Family) (slots : List SlotTree) (entries : List Entry)
    (k : List Entrance → List SlotEntrance) :
    places f (slots.map SlotTree.span) (slots.map SlotTree.entrance) entries k
      = k ((entries.flatMap fun e => List.replicate e.width.toNat (e.tree f slots)).map
          Tree.entrance) := by
  induction entries generalizing k with
  | nil => rfl
  | cons entry entries ih =>
      rw [places, Entrance.force_eq, ih, Entry.entrance_eq, List.flatMap_cons, List.map_append,
        List.map_replicate]

/-- **Going record by record gives the entrances of the trees.** -/
theorem entrancesAfter_eq (f : Family) (slots : List SlotTree) (records : List Record) :
    entrancesAfter f (slots.map SlotTree.span) (slots.map SlotTree.entrance) records
      = (treesAfter f slots records).map SlotTree.entrance := by
  induction records generalizing slots with
  | nil => rfl
  | cons r records ih =>
      have hrest := ih (slots ++ [r.tree f slots])
      rw [List.map_append, List.map_append, List.map_singleton, List.map_singleton,
        span_tree] at hrest
      cases r with
      | handler entry =>
          rw [entrancesAfter, Entrance.force_eq, Entry.entrance_eq]
          exact hrest
      | array entries =>
          rw [entrancesAfter, places_eq]
          exact hrest

/-- The last records of a table are its maps. -/
theorem allows_of_mapsAllow {f : Family} {count : Nat} {policy : ModRMPolicy}
    {records : List Record} (h : mapsAllow f count policy records) :
    (roots f count records).all (·.all (·.entrance.allows policy false)) := by
  have hentrances : entrancesAfter f [] [] records = (trees f records).map SlotTree.entrance :=
    entrancesAfter_eq f [] records
  rw [mapsAllow, hentrances, ← List.map_drop, List.all_map] at h
  rw [roots, List.all_eq_true] at *
  intro root hroot
  have hroot := h root hroot
  cases root with
  | node tree => exact hroot
  | array trees =>
      rw [← hroot]
      show trees.all _ = (trees.map Tree.entrance).all _
      rw [List.all_map]
      rfl

end Record

/-! ### Tables whose maps may be entered -/

/-- A map whose trees allow it may be looked up. -/
theorem Tables.mayLookUp_of_allows {t : Tables} (ht : t.forest.Extends .fresh)
    {policy : ModRMPolicy} (hpolicy : Entrance.invalid.allows policy false) {f : Family}
    {count : Nat} {records : List Record} (hrecords : Record.mapsAllow f count policy records)
    {maps : List OpcodeMap} (hmaps : t.forest.UnfoldsMaps maps (Record.roots f count records)) :
    ∀ map ∈ maps, t.MayLookUp policy map := by
  intro map hmap
  exact mayLookUp_of_forall ht hpolicy fun id hid =>
    hmaps.exists_tree (Record.allows_of_mapsAllow hrecords) hmap hid

/-- **Tables whose maps may be entered** read the ModRM byte at most once between two lookups. -/
theorem readsOnce_of_allows {legacy vex xop evex : List Record}
    (hlegacy : Record.mapsAllow .legacy 4 .ifNeeded legacy)
    (hvex : Record.mapsAllow .vex 3 .ifNeeded vex) (hxop : Record.mapsAllow .vex 3 .ifNeeded xop)
    (hevex : Record.mapsAllow .evex 3 .always evex) {t : Tables}
    (ht : t.DescribedBy legacy vex xop evex) : t.ReadsOnce := by
  have hfresh := ht.labels.extend
  obtain ⟨maps, hmaps, honeByte⟩ := ht.oneByte
  refine ⟨hfresh, ?_, ?_, Tables.mayLookUp_of_allows hfresh rfl hevex ht.evex⟩
  · rw [honeByte, List.getD_eq_getElem?_getD]
    cases hmap : maps[3]? with
    | none => exact Tables.mayLookUp_of_forall hfresh rfl fun _ hid => absurd hid List.not_mem_nil
    | some map =>
        exact Tables.mayLookUp_of_allows hfresh rfl hlegacy hmaps map (List.mem_of_getElem? hmap)
  · intro map hmap
    rcases List.mem_append.mp hmap with hmap | hmap
    · exact Tables.mayLookUp_of_allows hfresh rfl hvex ht.vex map hmap
    · exact Tables.mayLookUp_of_allows hfresh rfl hxop ht.xop map hmap

/-! ### The built-in tables -/

set_option maxRecDepth 100000 in
/-- The built-in records, evaluated. -/
theorem mapsAllow_builtin : Record.mapsAllow .legacy 4 .ifNeeded Corpus.Legacy.records ∧
    Record.mapsAllow .vex 3 .ifNeeded Corpus.Vex.records ∧
    Record.mapsAllow .vex 3 .ifNeeded Corpus.Xop.records ∧
    Record.mapsAllow .evex 3 .always Corpus.Evex.records := by
  simp only [Corpus.Legacy.records, Corpus.Vex.records, Corpus.Xop.records, Corpus.Evex.records,
    Draft.map_eq_halves]
  decide +kernel

/-- **The built-in tables read the ModRM byte once.** -/
theorem builtin_readsOnce : ∃ t, Tables.builtin = .ok t ∧ t.ReadsOnce := by
  obtain ⟨b, t, hbuiltin, -, ht⟩ := builtin_describedBy
  obtain ⟨hlegacy, hvex, hxop, hevex⟩ := mapsAllow_builtin
  exact ⟨t, hbuiltin, readsOnce_of_allows hlegacy hvex hxop hevex ht⟩

/-- A lookup is the first event of its walk. -/
theorem head?_traced (t : Tables) (m : Mode) (fuel : Nat) (map : OpcodeMap) (policy : ModRMPolicy)
    (s : State) : (t.traced m (fuel + 1) (.lookup map policy) s).1.head? = some .lookup := by
  rw [Tables.traced]
  cases s.byte <;> rfl

/-! ### An instruction with a ModRM byte -/

set_option maxRecDepth 100000 in
/-- The addition of bytes has the opcode zero. -/
theorem opcodeLabel?_zero : Record.opcodeLabel? Corpus.Legacy.records 0
    = some (.leaf { form := .ebGb, codes := [.Add_rm8_r8], locks := .ofBits 7 }) := by
  simp only [Corpus.Legacy.records, Draft.map_eq_halves]
  decide +kernel

theorem traced_done (t : Tables) (m : Mode) (fuel : Nat) (s : State) :
    t.traced m fuel .done s = ([], .ok s) := by
  cases fuel <;> rfl

/-- An instruction with a ModRM byte is the only node of its walk. -/
theorem traced_leaf {t : Tables} {l : Leaf} {b : UInt8} (hl : l.form.hasModRM)
    (hnode : t.forest.get (t.legacy.oneByte.node b) = .leaf l) (m : Mode) (x : UInt8)
    (rest : List UInt8) (fuel : Nat) :
    (t.traced m (fuel + 2) t.restart { pending := b :: x :: rest }).1
      = [.lookup, .readModRM, .run (.leaf l)] := by
  have hreads : ModRMPolicy.ifNeeded.reads (.leaf l) = true := hl
  obtain ⟨s, henter⟩ : ∃ s, Tables.enterTraced .ifNeeded (.leaf l)
      { pending := x :: rest, used := 1 } = ([.readModRM], .ok s) := by
    rw [Tables.enterTraced, if_pos hreads]
    exact ⟨_, rfl⟩
  rw [Tables.restart, Tables.traced, State.byte]
  dsimp only
  rw [Tables.traced]
  simp only [hnode, henter, List.cons_append, List.nil_append]
  cases hroute : t.route m (.leaf l) s with
  | error e => rfl
  | ok b =>
      have hdone : b.2 = .done := (runsTo_route rfl hroute).1
      dsimp only
      rw [hdone, traced_done]

/-- **The ModRM byte is read once**, before the nodes that need it. In the built-in tables the trace
of every walk starts with a lookup, and a part of it between two lookups, or between the last one
and the end, has at most one read of a ModRM byte. A node that needs the byte is run after it. -/
theorem modRM_read_once : ∃ t, Tables.builtin = .ok t ∧ ∀ (m : Mode) (window : List UInt8),
    let walk := t.traced m (t.walkBound window.length) t.restart { pending := window }
    walk.2 = t.read m window ∧ walk.1.head? = some .lookup ∧
    ∀ before segment after : Trace, walk.1 = before ++ .lookup :: (segment ++ after) →
      .lookup ∉ segment →
      segment.count .readModRM ≤ 1 ∧
      ∀ (earlier later : Trace) (node : Node), segment = earlier ++ .run node :: later →
        node.hasModRM → .readModRM ∈ earlier := by
  obtain ⟨t, hbuiltin, ht⟩ := builtin_readsOnce
  refine ⟨t, hbuiltin, fun m window => ?_⟩
  intro walk
  have hinOrder : Trace.inOrder false walk.1 :=
    ht.inOrder_traced (t.walkBound window.length) ht.oneByte
  refine ⟨traced_snd t m _ _ _, ?_, fun before segment after hwalk hsegment => ?_⟩
  · obtain ⟨fuel, hfuel⟩ := Nat.exists_eq_succ_of_ne_zero (Nat.mul_ne_zero
      (Nat.succ_ne_zero window.length) (Nat.succ_ne_zero (t.forest.size + 1)))
    show (t.traced m (t.walkBound window.length) _ _).1.head? = _
    rw [Tables.walkBound, hfuel]
    exact head?_traced t m fuel _ _ _
  · rw [hwalk] at hinOrder
    have hpart := Trace.inOrder_left (Trace.inOrder_append hinOrder)
    refine ⟨Trace.count_readModRM_le hpart hsegment, fun earlier later node hsplit hnode => ?_⟩
    rw [hsplit] at hpart hsegment
    have hearlier : .lookup ∉ earlier := fun hmem => hsegment (List.mem_append_left _ hmem)
    exact (Trace.readModRM_mem hnode hpart hearlier).resolve_left Bool.false_ne_true

/-- The sum of a byte register and a byte in memory or a register. -/
theorem modRM_read_once_small : ∃ t l, Tables.builtin = .ok t ∧ l.form = .ebGb ∧
    let m : Mode := { bitness := .bits64, options := {} }
    let walk := t.traced m (t.walkBound 2) t.restart { pending := [0x00, 0xC1] }
    walk.1 = [.lookup, .readModRM, .run (.leaf l)] ∧
      [.readModRM, .run (.leaf l)].count Event.readModRM ≤ 1 ∧
      .readModRM ∈ [Event.readModRM] := by
  obtain ⟨b, t, hbuiltin, -, ht⟩ := builtin_describedBy
  obtain ⟨t', hbuiltin', h⟩ := modRM_read_once
  obtain rfl : t = t' := Except.ok.inj (hbuiltin.symm.trans hbuiltin')
  have hnode := leaf_of_label (ht.label_opcode opcodeLabel?_zero)
  refine ⟨t, { form := .ebGb, codes := [.Add_rm8_r8], locks := .ofBits 7 }, hbuiltin, rfl, ?_⟩
  intro m walk
  obtain ⟨-, -, h⟩ := h m [0x00, 0xC1]
  have hfuel : t.walkBound 2 = 3 * t.forest.size + 4 + 2 := by rw [Tables.walkBound]; omega
  have hwalk := traced_leaf rfl hnode m 0xC1 [] (3 * t.forest.size + 4)
  rw [← hfuel] at hwalk
  have hsegment := h [] [.readModRM, .run _] [] hwalk (by decide)
  exact ⟨hwalk, hsegment.1, hsegment.2 [.readModRM] [] _ rfl rfl⟩

end OpcodeForest
