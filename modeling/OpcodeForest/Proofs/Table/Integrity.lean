import OpcodeForest.Proofs.Corpus.Builtin

/-!
# Integrity of loaded tables

Numbers lead to nodes, and to the right ones. Reading a table never touches the nodes that a forest
already has, also where it fails half-way: `Keeps r` says so of a reader, and every reader is put
together from ones that keep nodes. In tables that load every map is full, no number is dangling,
children come before their parents, and a payload leads to nodes of its own family only.

* `keeps_whole`: whatever bytes a table has, reading it adds nodes only.
* `loadMaps_full`: the maps of a table are as many as asked for, with 256 places each.
* `Forest.Grown.kind_mem_sharedKinds`: what a payload has in common with the other instructions.
* `load_sound`: all tables that load.
-/

namespace OpcodeForest

namespace Reader

variable {α β : Type}

/-! ### Readers that keep nodes -/

/-- Whether the reader succeeds or fails, the nodes that were there are still there. -/
def Keeps (r : Reader α) : Prop := ∀ c : Cursor, (r.run c).2.forest.Extends c.forest

/-- The reader keeps nodes, and gives results that `R` relates to something. -/
structure Keeping (R : α → α → Prop) (r : Reader α) : Prop where
  keeps : Keeps r
  related : ∀ ⦃c b c'⦄, Reads r c b c' → ∃ a, R a b

namespace Keeping

variable {R : α → α → Prop} {S : β → β → Prop}

theorem pure {a b : α} (h : R a b) : Keeping R (Pure.pure b) :=
  ⟨fun c => .refl c.forest, by rintro c _ c' ⟨⟩; exact ⟨a, h⟩⟩

theorem throw (e : TableError) : Keeping R (MonadExcept.throw e) :=
  ⟨fun c => .refl c.forest, fun _ _ _ hread => by cases hread⟩

/-- **One after the other.** -/
theorem bind {r : Reader α} {g : α → Reader β} (h : Keeping R r)
    (hg : ∀ a b, R a b → Keeping S (g b)) : Keeping S (r >>= g) := by
  constructor
  · intro c
    have hr := h.keeps c
    rw [run_bind]
    cases hrun : r.run c with
    | mk outcome c₁ =>
        rw [hrun] at hr
        cases outcome with
        | error e => exact hr
        | ok b =>
            obtain ⟨a, hab⟩ := h.related hrun
            exact ((hg a b hab).keeps c₁).trans hr
  · intro c b' c' hread
    obtain ⟨b, c₁, hr, hread⟩ := reads_bind_inv hread
    obtain ⟨a, hab⟩ := h.related hr
    exact (hg a b hab).related hread

/-- The cursor can be looked at. -/
theorem get_bind {g : Cursor → Reader α} (h : ∀ c, Keeping R (g c)) :
    Keeping R (MonadState.get >>= g) :=
  ⟨fun c => (h c).keeps c, fun c _ _ hread => (h c).related hread⟩

end Keeping

theorem keeps_byte : Keeps byte := by
  rintro ⟨_ | ⟨b, rest⟩, offset, forest, slots⟩
  · exact .refl forest
  · exact .refl forest

theorem keeping_misplacedArray {R : α → α → Prop} : Keeping R (misplacedArray : Reader α) := by
  refine ⟨?_, fun _ _ _ hread => (not_reads_misplacedArray hread).elim⟩
  rintro ⟨_ | ⟨b, rest⟩, offset, forest, slots⟩
  · exact .refl forest
  · exact .refl forest

theorem keeping_push (n : Node) : Keeping Eq (push n) :=
  ⟨fun c => .push c.forest n, fun _ id _ _ => ⟨id, rfl⟩⟩

theorem keeping_slot (n : UInt8) : Keeping (Slot.Lift Eq) (slot n) := by
  refine .get_bind fun c => ?_
  cases c.slots[n.toNat]? with
  | none => exact .throw _
  | some s => exact .pure (Slot.lift_eq.mpr rfl)

/-- All readers keep nodes. -/
theorem sizedCongruence_keeping (f : Family) :
    SizedCongruence f (fun _ : Stage => Eq) (fun _ _ R _ r => Keeping (R .only) r) where
  mono _ h := h
  sentinel _ := rfl
  pure h := .pure h
  throw e := .throw e
  bind h hg := h.bind fun a b => hg .only a b le_rfl
  byte _ := ⟨keeps_byte, fun _ b _ _ => ⟨b, rfl⟩⟩
  position _ := .get_bind fun _ => .pure rfl
  slot _ n := keeping_slot n
  misplacedArray := keeping_misplacedArray
  push _ _ _ := keeping_push _
  look h := .get_bind fun _ => h _

theorem keeps_records (f : Family) (fuel : Nat) : Keeps (records f fuel) := by
  have hkeeping : Keeping Eq (records f fuel) := by
    induction fuel with
    | zero => exact .pure rfl
    | succ fuel ih =>
        refine .get_bind fun c => ?_
        split
        · exact .pure rfl
        · split
          · exact .throw _
          · have hadd (s : Slot) :
                Keeping Eq (modify fun c => { c with slots := c.slots ++ [s] } : Reader Unit) :=
              ⟨fun c => .refl c.forest, fun _ _ _ _ => ⟨(), rfl⟩⟩
            exact ((sizedCongruence_keeping f).slotRecord .only).bind fun _ s _ =>
              (hadd s).bind fun _ _ _ => ih
  exact hkeeping.keeps

/-- **A whole table.** -/
theorem keeps_whole (f : Family) (count : Nat) : Keeps (whole f count) := by
  have hrecords (fuel : Nat) : Keeping Eq (records f fuel) :=
    ⟨keeps_records f fuel, fun _ _ _ _ => ⟨(), rfl⟩⟩
  have hwhole : Keeping Eq (whole f count) := by
    refine .get_bind fun c => (hrecords _).bind fun _ _ _ => .get_bind fun c' => ?_
    cases rootMaps count c'.slots with
    | error e => exact .throw e
    | ok maps => exact .pure rfl
  exact hwhole.keeps

end Reader

/-- **Loading a table leaves the nodes alone** that the forest has, whatever the outcome. -/
theorem readTable_extends (f : Family) (count : Nat) (data : List UInt8) (base : Forest) :
    (readTable f count data base).2.Extends base :=
  Reader.keeps_whole f count { rest := data, forest := base }

/-! ### Maps -/

namespace Reader

/-- Records that are maps have 256 places. -/
theorem length_of_mapM_rootMap {first : Nat} : ∀ {slots : List Slot} {n : Nat}
    {maps : List (List NodeId)},
    (slots.zipIdx n).mapM (fun (s, n) => rootMap (first + n) s) = .ok maps →
    ∀ map ∈ maps, map.length = 256
  | [], _, maps, h => by
      obtain rfl : [] = maps := Except.ok.inj h
      exact nofun
  | s :: slots, n, maps, h => by
      rw [List.zipIdx_cons, List.mapM_cons] at h
      obtain ⟨ids, hids, h⟩ := bind_eq_ok_iff.mp h
      obtain ⟨maps', hrest, h⟩ := bind_eq_ok_iff.mp h
      obtain rfl : ids :: maps' = maps := Except.ok.inj h
      refine List.forall_mem_cons.mpr ⟨?_, length_of_mapM_rootMap hrest⟩
      cases s with
      | node id => cases hids
      | array ids' =>
          dsimp only [rootMap] at hids
          split at hids
          · rename_i hlen
            rwa [← Except.ok.inj hids]
          · cases hids

theorem rootMaps_full {count : Nat} {slots : List Slot} {maps : List (List NodeId)}
    (h : rootMaps count slots = .ok maps) :
    maps.length = count ∧ ∀ map ∈ maps, map.length = 256 := by
  rw [rootMaps] at h
  split at h
  · cases h
  · rename_i hle
    refine ⟨?_, length_of_mapM_rootMap h⟩
    have hslots := congrArg List.length (eq_arrays_of_mapM_rootMap h)
    rw [List.length_drop, List.length_map] at hslots
    omega

end Reader

/-- A table that loads has as many maps as asked for, and they are full. -/
theorem loadMaps_full {f : Family} {count : Nat} {data : List UInt8} {base g : Forest}
    {maps : List OpcodeMap} (h : Tables.loadMaps f count data base = .ok (maps, g)) :
    maps.length = count ∧ ∀ map ∈ maps, map.length = 256 := by
  rw [Tables.loadMaps, readTable] at h
  rcases hrun : (Reader.whole f count).run { rest := data, forest := base } with ⟨_ | maps', c⟩
  · rw [hrun] at h; cases h
  · rw [hrun] at h
    cases h
    obtain ⟨_, _, ⟨⟩, hread⟩ := Reader.reads_bind_inv hrun
    obtain ⟨_, c₁, -, hread⟩ := Reader.reads_bind_inv hread
    obtain ⟨_, _, ⟨⟩, hread⟩ := Reader.reads_bind_inv hread
    cases hroot : Reader.rootMaps count c₁.slots with
    | error e => rw [hroot] at hread; cases hread
    | ok maps' =>
        rw [hroot] at hread
        cases hread
        exact Reader.rootMaps_full hroot

/-! ### Kinds of node -/

/-- The kind that a tag announces. -/
def TagRule.kind? : TagRule → Option Kind
  | .node kind _ => some kind
  | _ => none

/-- The kinds of node that the tags of a family announce. -/
def Family.kinds (f : Family) : List Kind := f.rows.filterMap (·.rule.kind?)

/-- The choices that the tables of instructions with and without a payload share: by processor
mode, by the form of the ModRM byte, and by its register field. -/
def sharedKinds : List Kind := [.byMode false, .byMode true, .byForm, .group, .fineGroup]

theorem Family.Builds.kind? {f : Family} {n : Node} (h : f.Builds n) :
    ∃ k ∈ f.kinds, n.kind? = some k := by
  obtain ⟨row, hrow, kind, layout, p, hrule, rfl⟩ := h
  refine ⟨kind, List.mem_filterMap.mpr ⟨row, hrow, ?_⟩, kind.kind?_node p⟩
  rw [hrule]
  rfl

/-- A kind that a payload and the other instructions both have is a shared one. -/
theorem Family.mem_sharedKinds {f : Family} (hf : f ≠ .legacy) {k : Kind} (hk : k ∈ f.kinds)
    (hlegacy : k ∈ legacy.kinds) : k ∈ sharedKinds := by
  have hall : ∀ k ∈ f.kinds, k ∈ legacy.kinds → k ∈ sharedKinds := by
    cases f with
    | legacy => exact absurd rfl hf
    | vex | evex => decide +kernel
  exact hall k hk hlegacy

namespace Forest

variable {f : Family} {base g h : Forest}

/-- From the maps of a payload, nodes of the other instructions are met only where they are shared
choices. -/
theorem Grown.kind_mem_sharedKinds (hg : Grown f base g) (hf : f ≠ .legacy) (hh : h.Extends g)
    (hfresh : h.Extends .fresh) {a b : NodeId} (ha : a.Among base.size g.size)
    (hab : h.Reaches a b) {k : Kind} (hk : (h.get b).kind? = some k)
    (hlegacy : k ∈ Family.legacy.kinds) : k ∈ sharedKinds := by
  rcases hg.among_of_reaches hh hfresh ha hab with hb | ⟨hle, hlt⟩
  · rcases get_sentinel hfresh hb with hb | ⟨modRM, hb⟩ <;> rw [hb] at hk <;> cases hk
  · obtain ⟨n, hn⟩ : ∃ n, g.get? b = some n := ⟨_, Array.getElem?_eq_getElem hlt⟩
    rw [get_of_extends hh hlt, get, hn] at hk
    obtain ⟨k', hk', hkind⟩ := (hg.built b n hle hn).kind?
    obtain rfl : k' = k := Option.some.inj (hkind.symm.trans hk)
    exact Family.mem_sharedKinds hf hk' hlegacy

/-- Where children come before their parents there is no way back to a node. -/
theorem Ordered.acyclic (hg : g.Ordered) (id : NodeId) :
    ¬ Relation.TransGen (fun a b => b ∈ (g.get a).children) id id := by
  have hlt : ∀ a b, b ∈ (g.get a).children → b.index < a.index := by
    intro a b hb
    rw [get] at hb
    cases hn : g.get? a with
    | none => rw [hn] at hb; cases hb
    | some n => rw [hn] at hb; exact hg a n hn b hb
  have htrans : ∀ {a b}, Relation.TransGen (fun a b => b ∈ (g.get a).children) a b →
      b.index < a.index := by
    intro a b hab
    induction hab with
    | single hb => exact hlt _ _ hb
    | tail _ hb ih => exact Nat.lt_trans (hlt _ _ hb) ih
  exact fun h => Nat.lt_irrefl _ (htrans h)

end Forest

theorem NodeId.Among.lt {first bound : Nat} {id : NodeId} (h : id.Among first bound)
    (h3 : 3 ≤ bound) : id.index < bound := by
  rcases h with h | h
  · omega
  · exact h.2

/-! ### Loaded tables -/

namespace Tables

/-- All maps. -/
def maps (t : Tables) : List OpcodeMap :=
  [t.legacy.oneByte, t.legacy.map0F, t.legacy.map0F38, t.legacy.map0F3A] ++
    (t.vex ++ t.xop ++ t.evex)

/-- Tables whose numbers can be followed. -/
structure Sound (t : Tables) : Prop where
  /-- Each payload has three maps. -/
  payloads : t.vex.length = 3 ∧ t.xop.length = 3 ∧ t.evex.length = 3
  /-- Every map is full. -/
  full : ∀ map ∈ t.maps, map.length = 256
  /-- A number in a map is that of a node. -/
  roots : ∀ map ∈ t.maps, ∀ id ∈ map, id.index < t.forest.size
  /-- A number in a node is that of a node. -/
  children : ∀ id n, t.forest.get? id = some n → ∀ c ∈ n.children, c.index < t.forest.size
  /-- Children come before their parents, so there is no cycle. -/
  ordered : t.forest.Ordered
  acyclic : ∀ id, ¬ Relation.TransGen (fun a b => b ∈ (t.forest.get a).children) id id
  /-- From the maps of a payload no prefix byte and no escape is met. -/
  stays : ∀ map ∈ t.vex ++ t.xop ++ t.evex, ∀ a ∈ map, ∀ b, t.forest.Reaches a b →
    (t.forest.get b).leavesMap = false
  /-- Nor is any node of the instructions without a payload but the shared choices. -/
  family : ∀ map ∈ t.vex ++ t.xop ++ t.evex, ∀ a ∈ map, ∀ b, t.forest.Reaches a b →
    ∀ k ∈ Family.legacy.kinds, (t.forest.get b).kind? = some k → k ∈ sharedKinds

/-- The maps of tables that load, by the table that each is from. -/
theorem forall_mem_maps {legacy vex xop evex : List OpcodeMap} {forest : Forest}
    {P : OpcodeMap → Prop} (hlength : legacy.length = 4) (hlegacy : ∀ map ∈ legacy, P map)
    (hvex : ∀ map ∈ vex, P map) (hxop : ∀ map ∈ xop, P map) (hevex : ∀ map ∈ evex, P map) :
    ∀ map ∈ maps { forest, vex, xop, evex
                   legacy := { map0F38 := legacy.getD 0 [], map0F3A := legacy.getD 1 [],
                               map0F := legacy.getD 2 [], oneByte := legacy.getD 3 [] } },
      P map := by
  obtain ⟨a, b, c, d, rfl⟩ : ∃ a b c d, legacy = [a, b, c, d] := by
    match legacy, hlength with
    | [a, b, c, d], _ => exact ⟨a, b, c, d, rfl⟩
  intro map hmap
  simp only [maps, List.getD_cons_zero, List.getD_cons_succ, List.mem_append, List.mem_cons,
    List.not_mem_nil, or_false] at hmap
  rcases hmap with (rfl | rfl | rfl | rfl) | ((hmap | hmap) | hmap)
  · exact hlegacy map (by simp)
  · exact hlegacy map (by simp)
  · exact hlegacy map (by simp)
  · exact hlegacy map (by simp)
  · exact hvex map hmap
  · exact hxop map hmap
  · exact hevex map hmap

theorem sound_of_load {b : Blobs} {t : Tables} (h : load b = .ok t) : t.Sound := by
  have hwf := load_wellFormed h
  obtain ⟨legacy, f₁, vex, f₂, xop, f₃, evex, f₄, h₁, h₂, h₃, h₄, rfl⟩ := load_eq_ok_iff.mp h
  obtain ⟨hg₁, hlegacy⟩ := loadMaps_grown h₁
  obtain ⟨hg₂, hvex⟩ := loadMaps_grown h₂
  obtain ⟨hg₃, hxop⟩ := loadMaps_grown h₃
  obtain ⟨hg₄, hevex⟩ := loadMaps_grown h₄
  obtain ⟨hcount₁, hfull₁⟩ := loadMaps_full h₁
  obtain ⟨hcount₂, hfull₂⟩ := loadMaps_full h₂
  obtain ⟨hcount₃, hfull₃⟩ := loadMaps_full h₃
  obtain ⟨hcount₄, hfull₄⟩ := loadMaps_full h₄
  have h3 : 3 ≤ f₁.size := hg₁.extend.size_le
  have hle₂ := hg₂.extend.size_le
  have hle₃ := hg₃.extend.size_le
  have hle₄ := hg₄.extend.size_le
  -- a number of one of the tables is a number of the last forest
  have hroots : ∀ {first : Nat} {g : Forest} {maps : List OpcodeMap}, 3 ≤ g.size → g.size ≤ f₄.size →
      (∀ map ∈ maps, ∀ id ∈ map, id.Among first g.size) →
      ∀ map ∈ maps, ∀ id ∈ map, id.index < f₄.size :=
    fun hg hle hmaps map hmap id hid => Nat.lt_of_lt_of_le ((hmaps map hmap id hid).lt hg) hle
  refine
    { payloads := ⟨hcount₂, hcount₃, hcount₄⟩
      full := forall_mem_maps hcount₁ hfull₁ hfull₂ hfull₃ hfull₄
      roots := forall_mem_maps hcount₁ (hroots h3 (by omega) hlegacy)
        (hroots (by omega) (by omega) hvex) (hroots (by omega) hle₄ hxop)
        (hroots (by omega) (Nat.le_refl _) hevex)
      children := fun id n hn c hc => Nat.lt_trans (hwf.ordered id n hn c hc)
        (Forest.index_lt_size hn)
      ordered := hwf.ordered
      acyclic := hwf.ordered.acyclic
      stays := hwf.payloads
      family := fun map hmap a ha b hab k hlegacy hk => ?_ }
  have hext₃ : f₄.Extends f₂ := hg₄.extend.trans hg₃.extend
  rcases List.mem_append.mp hmap with hmap | hmap
  · rcases List.mem_append.mp hmap with hmap | hmap
    · exact hg₂.kind_mem_sharedKinds nofun hext₃ hwf.sentinels (hvex map hmap a ha) hab hk hlegacy
    · exact hg₃.kind_mem_sharedKinds nofun hg₄.extend hwf.sentinels (hxop map hmap a ha) hab hk
        hlegacy
  · exact hg₄.kind_mem_sharedKinds nofun (.refl f₄) hwf.sentinels (hevex map hmap a ha) hab hk
      hlegacy

end Tables

/-- **Tables that load are sound.** Every map is full, every number in a map or a node is that of a
node, children come before their parents, and from the maps of a payload only its own nodes and the
shared choices are met. Whatever the bytes of a table are, and also where reading it fails, the
nodes that were there before stay as they are. -/
theorem load_sound : (∀ b t, Tables.load b = .ok t → t.Sound) ∧
    ∀ (f : Family) (count : Nat) (data : List UInt8) (base : Forest) (id : NodeId),
      id.index < base.size → (readTable f count data base).2.get? id = base.get? id :=
  ⟨fun _ _ h => Tables.sound_of_load h, fun f count data base _ hid =>
    Forest.get?_of_extends (readTable_extends f count data base) hid⟩

/-- The small tables, and the built-in ones. -/
theorem load_sound_small : Tables.load smallBlobs = .ok smallTables ∧ smallTables.Sound ∧
    (∃ t, Tables.builtin = .ok t ∧ t.Sound) ∧
    (readTable .vex 3 [0, 17, 5] smallTables.forest).2.get? ⟨4⟩ = some .lock := by
  obtain ⟨t, ht, -⟩ := builtin_loads
  obtain ⟨b, -, hload⟩ := bind_eq_ok_iff.mp ht
  refine ⟨load_smallBlobs, load_sound.1 _ _ load_smallBlobs, ⟨t, ht, load_sound.1 b t hload⟩, ?_⟩
  rw [load_sound.2 _ _ _ _ _ (by decide)]
  decide

end OpcodeForest
