import OpcodeForest.Code.Evex
import OpcodeForest.Code.Vex
import OpcodeForest.Proofs.Decode.Ending
import OpcodeForest.Proofs.Table.Integrity

/-!
# After a payload

In tables that load, the maps of a payload hold nodes of the payload's own family: choices, which
leave the state as it is, and instructions. So from the payload to the instruction nothing is done
but reading bytes.

* `Family.Holds`, `holds_vex`, `holds_evex`: the nodes that are met.
* `Tables.Within`: a walk that has come to the maps of a payload.
* `within_dispatch`, `leaf_of_meets`: the moves of such a walk, and its last node.
-/

namespace OpcodeForest

/-! ### The nodes of a family -/

namespace Node

/-- A choice among children. -/
def isChoice : Node → Bool
  | byMode _ _ _ | byForm _ _ | byOption _ _ _ | group _ | splitGroup _ _ | fineGroup _ _
  | payloadPrefix _ _ | byW _ _ | byLength _ _ | byLengthRounded _ => true
  | _ => false

theorem fillsOperands_of_isChoice {n : Node} (h : n.isChoice) : n.fillsOperands = false := by
  cases n with
  | leaf | trailing => cases h
  | _ => rfl

theorem leavesMap_of_isChoice {n : Node} (h : n.isChoice) : n.leavesMap = false := by
  cases n with
  | escape | vex2 | vex3 | xop | evex | segment | operandSize | addressSize | lock | repne | rep
  | rex => cases h
  | _ => rfl

end Node

/-- The form of an instruction. -/
def Kind.form? : Kind → Option Form
  | leaf form => some form
  | _ => none

/-- The nodes of a payload's table: they have no meaning, choose, or are instructions. -/
inductive Family.Holds (f : Family) : Node → Prop where
  | null : Holds f .null
  | invalid (modRM : Bool) : Holds f (.invalid modRM)
  | choice {n : Node} (h : n.isChoice) : Holds f n
  | leaf {l : Leaf} (h : .leaf l.form ∈ f.kinds) : Holds f (.leaf l)

/-- The tables of payloads hold choices and leaves only. -/
theorem Family.Builds.holds {f : Family} (hf : f ≠ .legacy) {n : Node} (h : f.Builds n) :
    f.Holds n := by
  have hstays := h.not_leavesMap hf
  obtain ⟨k, hk, hkind⟩ := h.kind?
  -- prefixes take part in the opcode of other instructions only
  have habsent : ∀ k ∈ f.kinds, k ∉ [.mandatory false, .mandatory true, .mandatoryByForm,
      .mandatoryKept, .trailing] := by
    cases f with
    | legacy => exact absurd rfl hf
    | vex | evex => decide +kernel
  have hne := habsent k hk
  cases n with
  | null => exact .null
  | invalid modRM => exact .invalid modRM
  | leaf l => cases hkind; exact .leaf hk
  | byMode | byForm | byOption | group | splitGroup | fineGroup | payloadPrefix | byW | byLength
  | byLengthRounded => exact .choice rfl
  | mandatory modRM => cases hkind; cases modRM <;> simp at hne
  | mandatoryByForm | mandatoryKept | trailing => cases hkind; simp at hne
  | escape | vex2 | vex3 | xop | evex | segment | operandSize | addressSize | lock | repne | rep
  | rex => cases hstays

/-- From the maps of a payload nodes of its family are met. -/
theorem Forest.Grown.holds {f : Family} {base g h : Forest} (hg : Grown f base g)
    (hf : f ≠ .legacy) (hh : h.Extends g) (hfresh : h.Extends .fresh) {a b : NodeId}
    (ha : a.Among base.size g.size) (hab : h.Reaches a b) : f.Holds (h.get b) := by
  rcases hg.among_of_reaches hh hfresh ha hab with hb | ⟨hle, hlt⟩
  · rcases get_sentinel hfresh hb with hb | ⟨modRM, hb⟩
    · rw [hb]; exact .null
    · rw [hb]; exact .invalid modRM
  · obtain ⟨n, hn⟩ : ∃ n, g.get? b = some n := ⟨_, Array.getElem?_eq_getElem hlt⟩
    rw [get_of_extends hh hlt, get, hn]
    exact (hg.built b n hle hn).holds hf

namespace Tables

variable {t : Tables} {f : Family} {maps : List OpcodeMap}

/-- The number is met from one of the maps; where a map is short that is the invalid opcode. -/
def Meets (t : Tables) (maps : List OpcodeMap) (id : NodeId) : Prop :=
  id = .invalid ∨ ∃ map ∈ maps, ∃ a ∈ map, t.forest.Reaches a id

/-- From the maps only nodes of the family are met. -/
structure Holds (t : Tables) (f : Family) (maps : List OpcodeMap) : Prop where
  invalid : t.forest.get .invalid = .invalid true
  reached : ∀ map ∈ maps, ∀ a ∈ map, ∀ id, t.forest.Reaches a id → f.Holds (t.forest.get id)

/-- The sentinels belong to every family. -/
theorem Holds.of_extends (hfresh : t.forest.Extends .fresh)
    (h : ∀ map ∈ maps, ∀ a ∈ map, ∀ id, t.forest.Reaches a id → f.Holds (t.forest.get id)) :
    t.Holds f maps := by
  have hlt : NodeId.invalid.index < Forest.fresh.size := by decide
  exact ⟨Forest.get_of_extends hfresh hlt, h⟩

/-- What is met on the way belongs to the family. -/
theorem Holds.node (h : t.Holds f maps) {id : NodeId} (hid : t.Meets maps id) :
    f.Holds (t.forest.get id) := by
  rcases hid with rfl | ⟨map, hmap, a, ha, hid⟩
  · rw [h.invalid]
    exact .invalid true
  · exact h.reached map hmap a ha id hid

/-- And its children are met next. -/
theorem Holds.child (h : t.Holds f maps) {a id : NodeId} (ha : t.Meets maps a)
    (hid : id ∈ (t.forest.get a).children) : t.Meets maps id := by
  rcases ha with rfl | ⟨map, hmap, a', ha', ha⟩
  · rw [h.invalid] at hid
    cases hid
  · exact .inr ⟨map, hmap, a', ha', ha.tail hid⟩

/-- **From the maps of VEX and XOP their nodes are met.** -/
theorem holds_vex {b : Blobs} (h : load b = .ok t) : t.Holds .vex (t.vex ++ t.xop) := by
  have hfresh := (load_wellFormed h).sentinels
  obtain ⟨legacy, f₁, vex, f₂, xop, f₃, evex, f₄, -, h₂, h₃, h₄, rfl⟩ := load_eq_ok_iff.mp h
  obtain ⟨hg₂, hvex⟩ := loadMaps_grown h₂
  obtain ⟨hg₃, hxop⟩ := loadMaps_grown h₃
  obtain ⟨hg₄, -⟩ := loadMaps_grown h₄
  refine .of_extends hfresh fun map hmap a ha id hid => ?_
  rcases List.mem_append.mp hmap with hmap | hmap
  · exact hg₂.holds Family.noConfusion (hg₄.extend.trans hg₃.extend) hfresh (hvex map hmap a ha) hid
  · exact hg₃.holds Family.noConfusion hg₄.extend hfresh (hxop map hmap a ha) hid

/-- **From the maps of EVEX its nodes are met.** -/
theorem holds_evex {b : Blobs} (h : load b = .ok t) : t.Holds .evex t.evex := by
  have hfresh := (load_wellFormed h).sentinels
  obtain ⟨legacy, f₁, vex, f₂, xop, f₃, evex, f₄, -, -, -, h₄, rfl⟩ := load_eq_ok_iff.mp h
  obtain ⟨hg₄, hevex⟩ := loadMaps_grown h₄
  exact .of_extends hfresh fun map hmap a ha id hid =>
    hg₄.holds Family.noConfusion (.refl f₄) hfresh (hevex map hmap a ha) hid

/-! ### The moves -/

theorem meets_node {map : OpcodeMap} (hmap : map ∈ maps) (x : UInt8) :
    t.Meets maps (map.node x) := by
  rw [OpcodeMap.node, List.getD_eq_getElem?_getD]
  cases hx : map[x.toNat]? with
  | none => exact .inl rfl
  | some id => exact .inr ⟨map, hmap, id, List.mem_of_getElem? hx, .refl⟩

/-- The walk has come to the maps. -/
def Within (t : Tables) (maps : List OpcodeMap) : Next → Prop
  | .done => False
  | .child id _ => t.Meets maps id
  | .lookup map _ => map ∈ maps

end Tables

section

variable {t : Tables} {m : Mode} {f : Family} {maps : List OpcodeMap} {s : State}
  {b : State × Next}

/-- A choice looks at the state and leaves it as it is. -/
theorem state_of_isChoice {n : Node} (hn : n.isChoice) (h : t.route m n s = .ok b) : b.1 = s := by
  cases n with
  | byMode | byForm | byOption | group | splitGroup | payloadPrefix | byW | byLength
  | byLengthRounded => cases h; rfl
  | fineGroup coarse fine =>
      simp only [Tables.route] at h
      split at h <;> cases h <;> rfl
  | _ => cases hn

/-- From a choice the walk goes on in the same map. -/
theorem within_of_isChoice {id : NodeId} (ht : t.Holds f maps) (hid : t.Meets maps id)
    (hn : (t.forest.get id).isChoice) (h : t.route m (t.forest.get id) s = .ok b) :
    t.Within maps b.2 := by
  have hdone : b.2 ≠ .done := (inner_route (Node.fillsOperands_of_isChoice hn) h).ne_done
  obtain ⟨hpasses, hpayload⟩ := Node.stays_of_leavesMap (Node.leavesMap_of_isChoice hn)
  have hgoes := Tables.goes_of_route h
  clear h
  generalize b.2 = next at hdone hgoes
  cases hgoes with
  | done => exact absurd rfl hdone
  | child hchild => exact ht.child hid hchild
  | invalid => exact .inl rfl
  | escape map hmap => rw [hmap] at hn; cases hn
  | restart h => rw [hpasses] at h; cases h
  | payload h => rw [hpayload] at h; cases h

/-- A node that the walk goes on from is a choice. -/
theorem isChoice_of_meets {id : NodeId} (ht : t.Holds f maps) (hid : t.Meets maps id)
    (h : t.route m (t.forest.get id) s = .ok b) (hb : b.2 ≠ .done) :
    (t.forest.get id).isChoice := by
  have hfills : (t.forest.get id).fillsOperands = false := by
    by_contra hfills
    exact hb (runsTo_route (eq_true_of_ne_false hfills) h).1
  have hholds := ht.node hid
  generalize t.forest.get id = n at h hfills hholds
  cases hholds with
  | null | invalid => cases h
  | choice hn => exact hn
  | leaf => cases hfills

/-- **A move after a payload reads bytes, and nothing else.** -/
theorem within_dispatch {next : Next} (ht : t.Holds f maps) (hnext : t.Within maps next)
    (h : t.dispatch m next s = .ok b) (hb : b.2 ≠ .done) :
    t.Within maps b.2 ∧ ∃ p u x, b.1 = { s with pending := p, used := u, modRM := x } := by
  cases next with
  | done => exact absurd hnext id
  | lookup map policy =>
      obtain ⟨a, ha, h⟩ := bind_eq_ok_iff.mp h
      obtain ⟨p, u, hadvances⟩ := advances_byte ha
      cases h
      exact ⟨Tables.meets_node hnext a.1, p, u, s.modRM, hadvances⟩
  | child id policy =>
      rw [dispatch_child] at h
      obtain ⟨s₁, h₁, h⟩ := bind_eq_ok_iff.mp h
      have hchoice := isChoice_of_meets ht hnext h hb
      refine ⟨within_of_isChoice ht hnext hchoice h, ?_⟩
      rw [state_of_isChoice hchoice h]
      exact enter_eq_ok h₁

/-- **The last node after a payload is an instruction of the family.** -/
theorem leaf_of_meets {id : NodeId} (ht : t.Holds f maps) (hid : t.Meets maps id)
    (hfills : (t.forest.get id).fillsOperands) :
    ∃ l, t.forest.get id = .leaf l ∧ .leaf l.form ∈ f.kinds := by
  have hholds := ht.node hid
  generalize t.forest.get id = n at hfills hholds
  cases hholds with
  | null | invalid => cases hfills
  | choice hn => rw [Node.fillsOperands_of_isChoice hn] at hfills; cases hfills
  | leaf hl => exact ⟨_, rfl, hl⟩

end

/-! ### Small tables with payloads -/

/-- Tables with a sum in memory that can be locked, at `80`, and sums of vectors after VEX and EVEX
payloads. The bytes `F0` and `F2` are prefixes. -/
def vectorBlobs : Blobs :=
  let blank (n : UInt32) : Entry := .repeated n .invalid
  let opens (tag : LegacyTag) : Entry := .node tag.byte [.child .invalid]
  let add : Entry := .node LegacyTag.ebIb.byte [.code .Add_rm8_imm8, .number 7]
  let oneByte : Record := .array [blank 98, opens .evex, blank 29, add, blank 67, opens .vex3,
    opens .vex2, blank 42, .node LegacyTag.lock.byte [], blank 1, .node LegacyTag.repne.byte [],
    blank 13]
  let vex : Entry := .node VexTag.vhwShared.byte
    [.code .VEX_Vaddps_xmm_xmm_xmmm128, .register .xmm0]
  let evex : Entry := .node EvexTag.vkHwEr.byte
    [.code (Code.EVEX_Vaddps_xmm_k1z_xmm_xmmm128b32.offset 2), .register .zmm0, .tuple .n64b4,
      .flag false, .flag true]
  let empty : Record := .array [blank 256]
  let bytes (f : Family) (records : List Record) : List UInt8 :=
    (Writer.writeAll { family := f } records).2.bytes
  { legacy := bytes .legacy [empty, empty, empty, oneByte]
    vex := bytes .vex [.array [.repeated 256 vex], empty, empty]
    xop := bytes .vex [empty, empty, empty]
    evex := bytes .evex [.array [.repeated 256 evex], empty, empty] }

@[inherit_doc vectorBlobs]
def vectorTables : Tables :=
  let blank (n : Nat) : OpcodeMap := List.replicate n .invalid
  let add : Node := .leaf { form := .ebIb, codes := [.Add_rm8_imm8], locks := .ofBits 7 }
  let vex : Node := .leaf { form := .vexVHW, codes := [.VEX_Vaddps_xmm_xmm_xmmm128]
                            registers := [.xmm0, .xmm0, .xmm0] }
  let evex : Node := .leaf { form := .evexVkHWEr
                             codes := [Code.EVEX_Vaddps_xmm_k1z_xmm_xmmm128b32.offset 2]
                             registers := [.zmm0], tuple := .n64b4, flags := [false, true] }
  { forest := Forest.fresh.push (.evex .invalid) |>.push add |>.push (.vex3 .invalid)
      |>.push (.vex2 .invalid) |>.push .lock |>.push .repne |>.push vex |>.push evex
    legacy := { map0F38 := blank 256, map0F3A := blank 256, map0F := blank 256
                oneByte := blank 98 ++ [⟨3⟩] ++ blank 29 ++ [⟨4⟩] ++ blank 67 ++ [⟨5⟩, ⟨6⟩]
                  ++ blank 42 ++ [⟨7⟩, .invalid, ⟨8⟩] ++ blank 13 }
    vex := [List.replicate 256 ⟨9⟩, blank 256, blank 256]
    xop := [blank 256, blank 256, blank 256]
    evex := [List.replicate 256 ⟨10⟩, blank 256, blank 256] }

theorem load_vectorBlobs : Tables.load vectorBlobs = .ok vectorTables := by decide +kernel

end OpcodeForest
