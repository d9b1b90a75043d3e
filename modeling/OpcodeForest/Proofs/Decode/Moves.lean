import OpcodeForest.Code.OneByte
import OpcodeForest.Decoder
import OpcodeForest.Proofs.Decode.Bounds
import OpcodeForest.Proofs.Table.WellFormed
import OpcodeForest.Table.Writer

/-!
# Moves of a walk

A node sends the walk to one of its children or to the next opcode byte. In well-formed tables
children come before their parents, so each move leaves fewer nodes or fewer bytes, and a walk is
never cut short.

* `goes_of_route`: where a node sends the walk.
* `WellFormed.movesLeft_lt`: the measure that each move lowers.
* `WellFormed.terminates`: walks are not cut short.
-/

namespace OpcodeForest

namespace Tables

variable {t : Tables} {m : Mode}

/-! ### Where a node sends the walk -/

/-- Where a node can send the walk: to a child, where a table is short to the invalid opcode, or to
the next opcode byte in its own map, the one-byte map or a map of a payload. -/
inductive Goes (t : Tables) (n : Node) : Next → Prop where
  | done : Goes t n .done
  | child {id : NodeId} {policy : ModRMPolicy} (h : id ∈ n.children) : Goes t n (.child id policy)
  | invalid {policy : ModRMPolicy} : Goes t n (.child .invalid policy)
  | escape {policy : ModRMPolicy} (map : OpcodeMap) (h : n = .escape map) :
      Goes t n (.lookup map policy)
  | restart (h : n.isPrefix) : Goes t n t.restart
  | payload {policy : ModRMPolicy} (h : n.opensPayload) (map : OpcodeMap)
      (hmap : map ∈ t.vex ++ t.xop ++ t.evex) : Goes t n (.lookup map policy)

/-- One of the children, or the sentinel that stands for a missing one. -/
theorem Goes.ofMap {n : Node} {ids : List NodeId} {policy : ModRMPolicy} (h : ids ⊆ n.children)
    (k : Nat) : t.Goes n (.child (ids.getD k .invalid) policy) := by
  rw [List.getD_eq_getElem?_getD]
  cases hk : ids[k]? with
  | none => exact .invalid
  | some id => exact .child (h (List.mem_of_getElem? hk))

theorem Goes.ofPairs {n : Node} {policy : ModRMPolicy} (pairs : List (NodeId × Bool))
    (h : pairs.map (·.1) ⊆ n.children) (k : Nat) :
    t.Goes n (.child (pairs.getD k (.invalid, false)).1 policy) := by
  rw [List.getD_eq_getElem?_getD]
  cases hk : pairs[k]? with
  | none => exact .invalid
  | some a => exact .child (h (List.mem_map_of_mem (List.mem_of_getElem? hk)))

/-- A payload leads to the map that it names. -/
theorem Goes.ofPayloadMap {n : Node} {maps : List OpcodeMap} {k : Nat} {policy : ModRMPolicy}
    {s : State} {b : State × Next} (hn : n.opensPayload)
    (hmaps : maps ⊆ t.vex ++ t.xop ++ t.evex) (h : payloadMap maps k policy s = .ok b) :
    t.Goes n b.2 := by
  rw [payloadMap] at h
  cases hk : maps[k]? with
  | none => rw [hk] at h; cases h
  | some map =>
      rw [hk] at h
      cases h
      exact .payload hn map (hmaps (List.mem_of_getElem? hk))

theorem vex_subset : t.vex ⊆ t.vex ++ t.xop ++ t.evex :=
  List.Subset.trans (List.subset_append_left _ _) (List.subset_append_left _ _)

theorem xop_subset : t.xop ⊆ t.vex ++ t.xop ++ t.evex :=
  List.Subset.trans (List.subset_append_right _ _) (List.subset_append_left _ _)

theorem evex_subset : t.evex ⊆ t.vex ++ t.xop ++ t.evex := List.subset_append_right _ _

theorem goes_routeVex3 {n : Node} {s : State} {b : State × Next} (hn : n.opensPayload)
    (h : t.routeVex3 m s = .ok b) : t.Goes n b.2 := by
  obtain ⟨⟨p₂, s₁⟩, -, h⟩ := bind_eq_ok_iff.mp h
  dsimp only at h
  split at h
  · cases h
  · exact .ofPayloadMap hn vex_subset h

theorem goes_routeXop {n : Node} {s : State} {b : State × Next} (hn : n.opensPayload)
    (h : t.routeXop m s = .ok b) : t.Goes n b.2 := by
  obtain ⟨⟨p₂, s₁⟩, -, h⟩ := bind_eq_ok_iff.mp h
  exact .ofPayloadMap hn xop_subset h

theorem goes_routeEvex {n : Node} {s : State} {b : State × Next} (hn : n.opensPayload)
    (h : t.routeEvex m s = .ok b) : t.Goes n b.2 := by
  obtain ⟨⟨p₁, s₁⟩, -, h⟩ := bind_eq_ok_iff.mp h
  obtain ⟨⟨p₂, s₂⟩, -, h⟩ := bind_eq_ok_iff.mp h
  dsimp only at h
  split at h
  · split at h
    · cases h
    · exact .ofPayloadMap hn evex_subset h
  · cases h

/-- **What a node can do to the walk.** -/
theorem goes_of_route {n : Node} {s : State} {b : State × Next} (h : t.route m n s = .ok b) :
    t.Goes n b.2 := by
  cases n with
  | invalid | null => cases h
  | escape map => cases h; exact .escape map rfl
  | segment | operandSize | addressSize | lock | repne | rep => cases h; exact .restart rfl
  | byMode modRM other long =>
      cases h
      exact .child (by cases m.long <;> simp [Node.children])
  | byForm reg mem =>
      cases h
      exact .child (by cases s.registerForm <;> simp [Node.children])
  | byW w0 w1 =>
      cases h
      exact .child (by cases s.w <;> simp [Node.children])
  | byOption modRM default alternatives =>
      cases h
      refine .child ?_
      cases hfind : alternatives.find? (m.options.has ·.2) with
      | none => exact List.mem_cons_self
      | some a =>
          exact List.mem_cons_of_mem _ (List.mem_map_of_mem (List.mem_of_find?_eq_some hfind))
  | group | mandatory | mandatoryKept | payloadPrefix | byLength | byLengthRounded =>
      cases h
      exact .ofMap (List.Subset.refl _) _
  | splitGroup mem reg =>
      cases h
      refine .ofMap ?_ _
      cases s.registerForm
      · exact List.subset_append_left _ _
      · exact List.subset_append_right _ _
  | fineGroup coarse fine =>
      simp only [route] at h
      split at h
      · rename_i hfine
        cases h
        refine .child (List.mem_append_right _ ?_)
        rw [List.getD_eq_getElem?_getD] at hfine ⊢
        cases hk : fine[s.modRM.toNat % 64]? with
        | none => rw [hk, Bool.and_eq_true] at hfine; exact absurd hfine.2 (by decide)
        | some id => exact List.mem_of_getElem? hk
      · cases h
        exact .ofMap (List.subset_append_left _ _) _
  | mandatoryByForm reg mem =>
      cases h
      refine Goes.ofPairs (if s.registerForm then reg else mem) ?_ s.mandatory.rank
      cases s.registerForm
      · exact List.subset_append_right _ _
      · exact List.subset_append_left _ _
  | vex2 otherwise =>
      simp only [route] at h
      split at h
      · exact .ofPayloadMap rfl vex_subset h
      · cases h; exact .child List.mem_cons_self
  | vex3 otherwise =>
      simp only [route] at h
      split at h
      · exact goes_routeVex3 rfl h
      · cases h; exact .child List.mem_cons_self
  | xop otherwise =>
      simp only [route] at h
      split at h
      · cases h; exact .child List.mem_cons_self
      · exact goes_routeXop rfl h
  | evex otherwise =>
      simp only [route] at h
      split at h
      · exact goes_routeEvex rfl h
      · cases h; exact .child List.mem_cons_self
  | rex otherwise bits =>
      simp only [route] at h
      split at h
      · cases h; exact .restart rfl
      · cases h; exact .child List.mem_cons_self
  | trailing codes =>
      obtain ⟨_, -, h⟩ := bind_eq_ok_iff.mp h
      cases h
      exact .done
  | leaf l =>
      obtain ⟨_, -, h⟩ := bind_eq_ok_iff.mp h
      cases h
      exact .done

/-- A move that goes on from a node is one of the node's. -/
theorem goes_of_dispatch {id : NodeId} {policy : ModRMPolicy} {s : State} {b : State × Next}
    (h : t.dispatch m (.child id policy) s = .ok b) :
    ∃ s', t.route m (t.forest.get id) s' = .ok b ∧ t.Goes (t.forest.get id) b.2 := by
  obtain ⟨s', -, h⟩ := bind_eq_ok_iff.mp h
  exact ⟨s', h, goes_of_route h⟩

/-- The walk goes on from nodes of the forest that are no sentinels. -/
theorem WellFormed.index_of_dispatch (ht : t.WellFormed) {id : NodeId} {policy : ModRMPolicy}
    {s : State} {b : State × Next} (h : t.dispatch m (.child id policy) s = .ok b) :
    3 ≤ id.index ∧ id.index < t.forest.size := by
  obtain ⟨s', hroute, -⟩ := goes_of_dispatch h
  constructor
  · by_contra hlt
    rcases Forest.get_sentinel ht.sentinels (Nat.lt_of_not_le hlt) with hid | ⟨modRM, hid⟩ <;>
      rw [hid] at hroute <;> cases hroute
  · by_contra hle
    have hid : t.forest.get id = .invalid true := by
      rw [Forest.get, Forest.get?, Array.getElem?_eq_none (Nat.le_of_not_lt hle)]
      rfl
    rw [hid] at hroute
    cases hroute

/-- Children come before the node that the walk is at. -/
theorem WellFormed.index_lt (ht : t.WellFormed) {a b : NodeId}
    (h : b ∈ (t.forest.get a).children) : b.index < a.index := by
  rw [Forest.get] at h
  cases hn : t.forest.get? a with
  | none => rw [hn] at h; cases h
  | some n =>
      rw [hn] at h
      exact ht.ordered a n hn b h

/-! ### A measure -/

/-- A bound on the moves that are left: after each byte every node once. -/
def movesLeft (t : Tables) : Next → State → Nat
  | .done, _ => 0
  | .child id _, s => s.pending.length * (t.forest.size + 2) + min id.index t.forest.size + 1
  | .lookup _ _, s => s.pending.length * (t.forest.size + 2) + 1

/-- A move takes the bytes `c`, whatever comes after them. -/
theorem dispatch_local {next : Next} {s : State} {b : State × Next}
    (h : t.dispatch m next s = .ok b) : ∃ c, s.pending = c ++ b.1.pending ∧
      ∀ p, t.dispatch m next { s with pending := c ++ p }
        = .ok ({ b.1 with pending := p }, b.2) := by
  have hfollows := follows_dispatch (.refl m) (fun id => Node.selectsAlike_refl m (t.forest.get id))
    next s s.invalid id
  rw [h] at hfollows
  obtain ⟨c, j, hc⟩ := hfollows
  exact ⟨c, hc.pending, hc.follows_self h⟩

/-- A move counts the bytes that it takes. -/
theorem used_of_dispatch {next : Next} {s : State} {b : State × Next}
    (h : t.dispatch m next s = .ok b) :
    ∃ c, s.pending = c ++ b.1.pending ∧ b.1.used = s.used + c.length := by
  have hfollows := follows_dispatch (.refl m) (fun id => Node.selectsAlike_refl m (t.forest.get id))
    next s s.invalid id
  rw [h] at hfollows
  obtain ⟨c, j, hc⟩ := hfollows
  exact ⟨c, hc.pending, hc.used⟩

/-- The state with `n` zeros after the bytes that are left. -/
def padded (n : Nat) (s : State) : State :=
  { s with pending := s.pending ++ List.replicate n 0 }

/-- Zeros after the bytes that a move reads are left. -/
theorem dispatch_padded {next : Next} {s : State} {b : State × Next}
    (h : t.dispatch m next s = .ok b) (n : Nat) :
    t.dispatch m next (padded n s) = .ok (padded n b.1, b.2) := by
  obtain ⟨c, hc, hlocal⟩ := dispatch_local h
  rw [padded, hc, List.append_assoc]
  exact hlocal _

/-- A node is rejected whatever comes after the bytes that were read. -/
theorem dispatch_rejected_padded {next : Next} {s : State} {used : Nat}
    (h : t.dispatch m next s = .error (.rejected used)) (n : Nat) :
    s.used ≤ used ∧ t.dispatch m next (padded n s) = .error (.rejected used) := by
  have hfollows := follows_dispatch (.refl m) (fun id => Node.selectsAlike_refl m (t.forest.get id))
    next s s.invalid id
  rw [h] at hfollows
  obtain ⟨c, hc⟩ := hfollows
  obtain ⟨rest, hrest⟩ := hc.ahead
  refine ⟨hc.used ▸ Nat.le_add_right _ _, ?_⟩
  have hpadded := hc.follows (rest ++ List.replicate n 0)
  rw [← List.append_assoc, hrest] at hpadded
  exact hpadded

/-- Looking up an opcode byte takes the byte. -/
theorem dispatch_lookup {map : OpcodeMap} {policy : ModRMPolicy} {s : State} {b : State × Next}
    (h : t.dispatch m (.lookup map policy) s = .ok b) :
    ∃ x rest, s.pending = x :: rest ∧ b.1.pending = rest ∧ b.2 = .child (map.node x) policy := by
  obtain ⟨a, hbyte, h⟩ := bind_eq_ok_iff.mp h
  obtain rfl := Except.ok.inj h
  rw [State.byte] at hbyte
  cases hp : s.pending with
  | nil => rw [hp] at hbyte; cases hbyte
  | cons x rest =>
      rw [hp] at hbyte
      obtain rfl := Except.ok.inj hbyte
      exact ⟨x, rest, rfl, rfl, rfl⟩

/-- **Every move leaves fewer moves.** -/
theorem WellFormed.movesLeft_lt (ht : t.WellFormed) {next : Next} (hnext : next ≠ .done) {s : State}
    {b : State × Next} (h : t.dispatch m next s = .ok b) :
    t.movesLeft b.2 b.1 < t.movesLeft next s := by
  cases next with
  | done => exact absurd rfl hnext
  | child id policy =>
      obtain ⟨s', next⟩ := b
      obtain ⟨h3, hsize⟩ := ht.index_of_dispatch h
      obtain ⟨c, hc, -⟩ := dispatch_local h
      have hbytes : s'.pending.length * (t.forest.size + 2)
          ≤ s.pending.length * (t.forest.size + 2) := by
        refine Nat.mul_le_mul_right _ ?_
        rw [hc, List.length_append]
        exact Nat.le_add_left _ _
      have hlookup : s'.pending.length * (t.forest.size + 2) + 1
          < s.pending.length * (t.forest.size + 2) + min id.index t.forest.size + 1 := by omega
      obtain ⟨-, -, hgoes⟩ := goes_of_dispatch h
      cases hgoes with
      | done => exact Nat.succ_pos _
      | child hchild =>
          have hlt := ht.index_lt hchild
          simp only [movesLeft]; omega
      | invalid => simp only [movesLeft, NodeId.invalid]; omega
      | escape | restart | payload => exact hlookup
  | lookup map policy =>
      obtain ⟨x, rest, hp, hrest, hnode⟩ := dispatch_lookup h
      rw [hnode]
      simp only [movesLeft, hp, hrest, List.length_cons, Nat.add_mul]
      omega

/-- A walk with enough moves left does not run out of them. -/
theorem WellFormed.walk_ne_circular (ht : t.WellFormed) : ∀ {fuel : Nat} {next : Next} {s : State},
    t.movesLeft next s ≤ fuel → t.walk m fuel next s ≠ .error .circular
  | 0, .done, _, _ => nofun
  | 0, .child _ _, _, hle | 0, .lookup _ _, _, hle => absurd hle (Nat.not_succ_le_zero _)
  | fuel + 1, next, s, hle => by
      by_cases hnext : next = .done
      · rw [hnext, walk_done]
        exact nofun
      · refine walk_succ_ne (dispatch_ne_circular t next s) fun b hb => ?_
        have hlt := ht.movesLeft_lt hnext hb
        exact ht.walk_ne_circular (Nat.le_of_lt_succ (Nat.lt_of_lt_of_le hlt hle))

/-- No walk is cut short. -/
def Terminates (t : Tables) (m : Mode) : Prop := ∀ window, t.read m window ≠ .error .circular

/-- **Walks are not cut short.** -/
theorem WellFormed.terminates (ht : t.WellFormed) (m : Mode) : t.Terminates m := by
  intro window
  refine ht.walk_ne_circular ?_
  show window.length * (t.forest.size + 2) + 1 ≤ (window.length + 1) * (t.forest.size + 2)
  rw [Nat.add_mul]
  omega

end Tables

/-! ### Small tables -/

/-- Tables with one instruction, which takes an immediate byte, and the lock byte `F0`. -/
def smallBlobs : Blobs :=
  let empty : Record := .array [.repeated 256 .invalid]
  let int : Entry := .node LegacyTag.ib.byte [.code .Int_imm8]
  let oneByte : Record := .array [.repeated 240 int, .node LegacyTag.lock.byte [], .repeated 15 int]
  let bytes (f : Family) (records : List Record) : List UInt8 :=
    (Writer.writeAll { family := f } records).2.bytes
  { legacy := bytes .legacy [empty, empty, empty, oneByte], vex := bytes .vex [empty, empty, empty]
    xop := bytes .vex [empty, empty, empty], evex := bytes .evex [empty, empty, empty] }

@[inherit_doc smallBlobs]
def smallTables : Tables :=
  let empty : OpcodeMap := List.replicate 256 .invalid
  let int : Node := .leaf { form := .ib, codes := [.Int_imm8] }
  { forest := Forest.fresh.push int |>.push .lock |>.push int
    legacy := { map0F38 := empty, map0F3A := empty, map0F := empty
                oneByte := List.replicate 240 ⟨3⟩ ++ ⟨4⟩ :: List.replicate 15 ⟨5⟩ }
    vex := [empty, empty, empty], xop := [empty, empty, empty], evex := [empty, empty, empty] }

theorem load_smallBlobs : Tables.load smallBlobs = .ok smallTables := by decide +kernel

end OpcodeForest
