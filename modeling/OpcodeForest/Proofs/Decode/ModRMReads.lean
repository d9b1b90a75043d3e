import OpcodeForest.Proofs.Decode.EvexAttributes
import OpcodeForest.Proofs.Table.Description

/-!
# Reading the ModRM byte once

No state says whether the ModRM byte has been read. What says so is the node that the walk comes
from, by the policy that it passes on to its children. A `Trace` of a walk lists the lookups, the
reads of a ModRM byte and the nodes that are run. It is in order if between two lookups at most one
ModRM byte is read, and this before every node that needs it.

Whether a node passes on the right policy can be seen from its tree, given whether the byte has been
read on the way to it. So tables whose maps hold such trees have only walks in order.

* `traced_snd`: a traced walk is the walk.
* `Tree.entrance`: how a tree can be entered.
* `fits_route`: a node of such a tree sends the walk to such a tree.
* `ReadsOnce.inOrder_traced`: walks in tables of such trees are in order.
* `Trace.inOrder_append`, `count_readModRM_le`, `readModRM_mem`: what that means between lookups.
-/

namespace OpcodeForest

/-! ### Traces -/

/-- What a walk does, as far as the ModRM byte is concerned. -/
inductive Event where
  /-- An opcode byte is looked up in a map. -/
  | lookup
  /-- A ModRM byte is read, or would be if the window had one. -/
  | readModRM
  | run (node : Node)
deriving DecidableEq, Repr

abbrev Trace := List Event

/-- `Tables.enter` with the read that it makes. -/
def Tables.enterTraced (policy : ModRMPolicy) (node : Node) (s : State) :
    Trace × Except Stop State :=
  if policy.reads node then ([.readModRM], s.readModRM) else ([], .ok s)

/-- Tracing does not change what is done. -/
theorem enterTraced_snd (policy : ModRMPolicy) (node : Node) (s : State) :
    (Tables.enterTraced policy node s).2 = Tables.enter policy node s := by
  rw [Tables.enterTraced, Tables.enter]
  split <;> rfl

/-- `Tables.walk` with what it does on the way, up to the end or the failure. -/
def Tables.traced (t : Tables) (m : Mode) :
    (fuel : Nat) → Next → State → Trace × Except Stop State
  | _, .done, s => ([], .ok s)
  | 0, _, _ => ([], .error .circular)
  | fuel + 1, .child id policy, s =>
      let node := t.forest.get id
      let entered := enterTraced policy node s
      match entered.2 with
      | .error e => (entered.1, .error e)
      | .ok s =>
          match t.route m node s with
          | .error e => (entered.1 ++ [.run node], .error e)
          | .ok b =>
              let rest := traced t m fuel b.2 b.1
              (entered.1 ++ .run node :: rest.1, rest.2)
  | fuel + 1, .lookup map policy, s =>
      match s.byte with
      | .error e => ([.lookup], .error e)
      | .ok b =>
          let rest := traced t m fuel (.child (map.node b.1) policy) b.2
          (.lookup :: rest.1, rest.2)

/-- **A traced walk is the walk.** -/
theorem traced_snd (t : Tables) (m : Mode) (fuel : Nat) (next : Next) (s : State) :
    (t.traced m fuel next s).2 = t.walk m fuel next s := by
  induction fuel generalizing next s with
  | zero => cases next <;> rfl
  | succ fuel ih =>
      cases next with
      | done => rfl
      | child id policy =>
          rw [walk_child, Tables.traced, ← enterTraced_snd]
          dsimp only
          cases (Tables.enterTraced policy (t.forest.get id) s).2 with
          | error e => rfl
          | ok s =>
              show _ = t.route m (t.forest.get id) s >>= _
              dsimp only
              cases t.route m (t.forest.get id) s with
              | error e => rfl
              | ok b => exact ih b.2 b.1
      | lookup map policy =>
          rw [walk_lookup, Tables.traced]
          cases s.byte with
          | error e => rfl
          | ok b => exact ih (.child (map.node b.1) policy) b.2

namespace Trace

/-- The trace goes on in order, when the ModRM byte has been read since the last lookup or not. -/
def inOrder : (read : Bool) → Trace → Bool
  | _, [] => true
  | _, .lookup :: rest => inOrder false rest
  | read, .readModRM :: rest => !read && inOrder true rest
  | read, .run node :: rest => (!node.hasModRM || read) && inOrder read rest

variable {read : Bool}

/-- After a lookup nothing is left of what came before. -/
theorem inOrder_append {before rest : Trace} (h : inOrder read (before ++ .lookup :: rest)) :
    inOrder false rest := by
  induction before generalizing read with
  | nil => exact h
  | cons e before ih =>
      cases e with
      | lookup => exact ih h
      | readModRM => exact ih (Bool.and_eq_true_iff.mp h).2
      | run node => exact ih (Bool.and_eq_true_iff.mp h).2

/-- The beginning of a trace that is in order is in order. -/
theorem inOrder_left {segment after : Trace} (h : inOrder read (segment ++ after)) :
    inOrder read segment := by
  induction segment generalizing read with
  | nil => rfl
  | cons e segment ih =>
      cases e with
      | lookup => exact ih h
      | readModRM =>
          obtain ⟨hread, h⟩ := Bool.and_eq_true_iff.mp h
          exact Bool.and_eq_true_iff.mpr ⟨hread, ih h⟩
      | run node =>
          obtain ⟨hnode, h⟩ := Bool.and_eq_true_iff.mp h
          exact Bool.and_eq_true_iff.mpr ⟨hnode, ih h⟩

/-- Between lookups the ModRM byte is read at most once, and not at all where it has been read. -/
theorem count_readModRM_le {segment : Trace} (h : inOrder read segment)
    (hsegment : .lookup ∉ segment) : segment.count .readModRM ≤ if read then 0 else 1 := by
  induction segment generalizing read with
  | nil => exact Nat.zero_le _
  | cons e segment ih =>
      have hrest : .lookup ∉ segment := fun hmem => hsegment (List.mem_cons_of_mem _ hmem)
      cases e with
      | lookup => exact absurd List.mem_cons_self hsegment
      | readModRM =>
          obtain ⟨hread, h⟩ := Bool.and_eq_true_iff.mp h
          cases read with
          | true => cases hread
          | false => rw [List.count_cons_self]; exact Nat.succ_le_succ (ih h hrest)
      | run node =>
          rw [List.count_cons_of_ne Event.noConfusion]
          exact ih (Bool.and_eq_true_iff.mp h).2 hrest

/-- A node that needs the ModRM byte finds it read. -/
theorem readModRM_mem {earlier later : Trace} {node : Node} (hnode : node.hasModRM)
    (h : inOrder read (earlier ++ .run node :: later)) (hearlier : .lookup ∉ earlier) :
    read ∨ .readModRM ∈ earlier := by
  induction earlier generalizing read with
  | nil =>
      have hread := (Bool.and_eq_true_iff.mp h).1
      rw [hnode] at hread
      exact .inl hread
  | cons e earlier ih =>
      have hrest : .lookup ∉ earlier := fun hmem => hearlier (List.mem_cons_of_mem _ hmem)
      cases e with
      | lookup => exact absurd List.mem_cons_self hearlier
      | readModRM => exact .inr List.mem_cons_self
      | run n =>
          exact (ih (Bool.and_eq_true_iff.mp h).2 hrest).imp_right (List.mem_cons_of_mem _)

end Trace

/-! ### Trees that can be entered -/

namespace Node

/-- When the ModRM byte is read on the way into a child, or into the node of the next opcode byte
in the node's own map. -/
def childPolicy : Node → ModRMPolicy
  | byMode modRM _ _ | byOption modRM _ _ | mandatory modRM _ | payloadPrefix modRM _
  | byLength modRM _ => .below modRM
  | mandatoryKept _ _ _ readsModRM => .below !readsModRM
  | rex _ _ | escape _ => .ifNeeded
  | _ => .never

/-- In the place of a child the walk may go to the invalid opcode. -/
def fallsBack : Node → Bool
  | mandatoryKept children _ _ _ => children.length < 4
  | invalid _ | null | trailing _ | segment _ _ | operandSize | addressSize | lock | repne | rep
  | leaf _ => false
  | _ => true

/-- The children are reached by an opcode byte. -/
def isEscape : Node → Bool
  | escape _ => true
  | _ => false

theorem hasModRM_label (n : Node) : n.label.hasModRM = n.hasModRM := by cases n <;> rfl

theorem childPolicy_label (n : Node) : n.label.childPolicy = n.childPolicy := by cases n <;> rfl

theorem isEscape_label (n : Node) : n.label.isEscape = n.isEscape := by cases n <;> rfl

theorem fallsBack_label (n : Node) : n.label.fallsBack = n.fallsBack := by
  cases n with
  | mandatoryKept children clearF3 clearF2 readsModRM =>
      simp only [label, rename, fallsBack, List.length_map]
  | _ => rfl

end Node

namespace ModRMPolicy

/-- The ModRM byte is read on the way into a node that needs it or does not. -/
def readsFor (needs : Bool) : ModRMPolicy → Bool
  | ifNeeded => needs
  | never => false
  | always => true

/-- Whether the byte is read is decided by the policy and by one property of the node. -/
theorem reads_eq (policy : ModRMPolicy) (n : Node) :
    policy.reads n = policy.readsFor n.hasModRM := by
  cases policy <;> rfl

/-- The node may be entered: the ModRM byte is not read again, and it is there if needed. -/
def suits (policy : ModRMPolicy) (read : Bool) (n : Node) : Bool :=
  if policy.reads n then !read else !n.hasModRM || read

end ModRMPolicy

/-- Entering a node that may be entered keeps the order. -/
theorem Trace.inOrder_enter {policy : ModRMPolicy} {read : Bool} {n : Node}
    (h : policy.suits read n) (s : State) {rest : Trace}
    (hrest : inOrder (read || policy.reads n) rest) :
    inOrder read ((Tables.enterTraced policy n s).1 ++ .run n :: rest) := by
  rw [ModRMPolicy.suits] at h
  rw [Tables.enterTraced]
  cases hreads : policy.reads n with
  | true =>
      rw [hreads, if_pos rfl] at h
      rw [hreads, Bool.or_true] at hrest
      show (!read && ((!n.hasModRM || true) && inOrder true rest)) = true
      rw [h, hrest, Bool.or_true]
      rfl
  | false =>
      rw [hreads, if_neg Bool.false_ne_true] at h
      rw [hreads, Bool.or_false] at hrest
      show ((!n.hasModRM || read) && inOrder read rest) = true
      rw [h, hrest]
      rfl

/-- How a tree may be entered. -/
structure Entrance where
  /-- Its root needs the ModRM byte. -/
  needs : Bool
  /-- It may be run while the byte has not been read. -/
  before : Bool
  /-- It may be run once the byte has been read. -/
  after : Bool
deriving DecidableEq, Repr

namespace Entrance

/-- The tree may be entered with a policy, when the ModRM byte has been read or not. -/
def allows (e : Entrance) (policy : ModRMPolicy) (read : Bool) : Bool :=
  if policy.readsFor e.needs then !read && e.after else if read then e.after else e.before

/-- The invalid opcode with a ModRM byte. -/
def invalid : Entrance := { needs := true, before := false, after := true }

/-- A node without a ModRM byte that ends the walk. -/
def atOnce : Entrance := { needs := false, before := true, after := true }

/-- The policy of a node suits all its children, and the invalid opcode in the place of one. -/
def passOn (n : Node) (children : List Entrance) (read : Bool) : Bool :=
  (!n.fallsBack || invalid.allows n.childPolicy read)
    && children.all (·.allows n.childPolicy read)

/-- A node with its children. -/
def ofNode (n : Node) (children : List Entrance) : Entrance :=
  { needs := n.hasModRM
    before := !n.hasModRM && passOn n children false
    after := passOn n children !n.isEscape }

/-- A node may be entered if it suits the policy and its children may be entered after it. -/
theorem allows_ofNode {n : Node} {children : List Entrance} {policy : ModRMPolicy} {read : Bool}
    (h : (ofNode n children).allows policy read) : policy.suits read n ∧
      passOn n children (!n.isEscape && (read || policy.reads n)) := by
  rw [allows, ofNode] at h
  rw [ModRMPolicy.suits, ModRMPolicy.reads_eq]
  cases hreads : policy.readsFor n.hasModRM with
  | true =>
      rw [hreads, if_pos rfl] at h
      obtain ⟨hread, h⟩ := Bool.and_eq_true_iff.mp h
      rw [Bool.or_true, Bool.and_true]
      exact ⟨hread, h⟩
  | false =>
      rw [hreads, if_neg Bool.false_ne_true] at h
      cases read with
      | true => exact ⟨Bool.or_true _, (Bool.and_true _).symm ▸ h⟩
      | false =>
          obtain ⟨hmodRM, h⟩ := Bool.and_eq_true_iff.mp h
          exact ⟨by rw [hmodRM]; rfl, (Bool.and_false _).symm ▸ h⟩

theorem ofNode_label (n : Node) (children : List Entrance) :
    ofNode n.label children = ofNode n children := by
  rw [ofNode, ofNode, passOn, passOn, passOn, passOn, n.hasModRM_label, n.childPolicy_label,
    n.isEscape_label, n.fallsBack_label]

end Entrance

mutual

/-- How the tree may be entered so that each tree in it, whatever the choices on the way down, is
entered as it may be. -/
def Tree.entrance : Tree → Entrance
  | .node n children => .ofNode n (Tree.entranceAll children)

@[inherit_doc Tree.entrance]
def Tree.entranceAll : List Tree → List Entrance
  | [] => []
  | tree :: rest => tree.entrance :: Tree.entranceAll rest

end

theorem Tree.entranceAll_eq (trees : List Tree) : entranceAll trees = trees.map entrance := by
  induction trees with
  | nil => rfl
  | cons tree trees ih => rw [entranceAll, List.map_cons, ih]

/-! ### The moves of a walk -/

namespace Tables

variable {t : Tables} {m : Mode} {read : Bool}

/-- The node `id` unfolds to a tree that may be entered. -/
def MayEnter (t : Tables) (policy : ModRMPolicy) (read : Bool) (id : NodeId) : Prop :=
  ∃ tree, t.forest.Unfolds id tree ∧ tree.entrance.allows policy read

/-- So does whatever an opcode byte leads to in the map. -/
def MayLookUp (t : Tables) (policy : ModRMPolicy) (map : OpcodeMap) : Prop :=
  ∀ b, t.MayEnter policy false (map.node b)

/-- The walk may go on. -/
def Fits (t : Tables) (read : Bool) : Next → Prop
  | .done => True
  | .child id policy => t.MayEnter policy read id
  | .lookup map policy => t.MayLookUp policy map

/-- Each map of the tables may be used by those who look opcode bytes up in it. -/
structure ReadsOnce (t : Tables) : Prop where
  sentinels : t.forest.Extends .fresh
  oneByte : t.MayLookUp .ifNeeded t.legacy.oneByte
  vex : ∀ map ∈ t.vex ++ t.xop, t.MayLookUp .ifNeeded map
  evex : ∀ map ∈ t.evex, t.MayLookUp .always map

variable {n : Node} {s : State} {b : State × Next} {id : NodeId} {policy : ModRMPolicy}

/-- The policies with which a node sends the walk on. They do not depend on the state. -/
inductive Sends (t : Tables) (n : Node) : Next → Prop where
  | done : Sends t n .done
  | child (id : NodeId) (h : n.isEscape = false) : Sends t n (.child id n.childPolicy)
  | escape {map : OpcodeMap} (h : n = .escape map) : Sends t n (.lookup map .ifNeeded)
  | restart : Sends t n t.restart
  | vex {map : OpcodeMap} (h : map ∈ t.vex ++ t.xop) : Sends t n (.lookup map .ifNeeded)
  | evex {map : OpcodeMap} (h : map ∈ t.evex) : Sends t n (.lookup map .always)

theorem sends_routeVex3 (h : t.routeVex3 m s = .ok b) : t.Sends n b.2 := by
  obtain ⟨⟨p₂, s₁⟩, -, h⟩ := bind_eq_ok_iff.mp h
  dsimp only at h
  split at h
  · cases h
  · obtain ⟨-, map, hmap, hnext⟩ := lookup_of_payloadMap h
    exact hnext ▸ .vex (List.mem_append_left _ hmap)

theorem sends_routeXop (h : t.routeXop m s = .ok b) : t.Sends n b.2 := by
  obtain ⟨⟨p₂, s₁⟩, -, h⟩ := bind_eq_ok_iff.mp h
  obtain ⟨-, map, hmap, hnext⟩ := lookup_of_payloadMap h
  exact hnext ▸ .vex (List.mem_append_right _ hmap)

theorem sends_routeEvex (h : t.routeEvex m s = .ok b) : t.Sends n b.2 := by
  obtain ⟨⟨p₁, s₁⟩, -, h⟩ := bind_eq_ok_iff.mp h
  obtain ⟨⟨p₂, s₂⟩, -, h⟩ := bind_eq_ok_iff.mp h
  dsimp only at h
  split at h
  · split at h
    · cases h
    · obtain ⟨-, map, hmap, hnext⟩ := lookup_of_payloadMap h
      exact hnext ▸ .evex hmap
  · cases h

/-- **One move of a walk** hands its target on with the policy of the node. -/
theorem sends_of_route (h : t.route m n s = .ok b) : t.Sends n b.2 := by
  cases n with
  | invalid | null => cases h
  | byMode | byForm | byOption | group | splitGroup | mandatory | mandatoryByForm | mandatoryKept
  | payloadPrefix | byW | byLength | byLengthRounded => cases h; exact .child _ rfl
  | escape map => cases h; exact .escape rfl
  | segment | operandSize | addressSize | lock | repne | rep => cases h; exact .restart
  | fineGroup coarse fine =>
      simp only [route] at h
      split at h <;> cases h <;> exact .child _ rfl
  | vex2 otherwise =>
      simp only [route] at h
      split at h
      · obtain ⟨-, map, hmap, hnext⟩ := lookup_of_payloadMap h
        exact hnext ▸ .vex (List.mem_append_left _ hmap)
      · cases h; exact .child _ rfl
  | vex3 otherwise =>
      simp only [route] at h
      split at h
      · exact sends_routeVex3 h
      · cases h; exact .child _ rfl
  | xop otherwise =>
      simp only [route] at h
      split at h
      · cases h; exact .child _ rfl
      · exact sends_routeXop h
  | evex otherwise =>
      simp only [route] at h
      split at h
      · exact sends_routeEvex h
      · cases h; exact .child _ rfl
  | rex otherwise bits =>
      simp only [route] at h
      split at h
      · cases h; exact .restart
      · cases h; exact .child _ rfl
  | trailing | leaf => obtain ⟨_, -, h⟩ := bind_eq_ok_iff.mp h; cases h; exact .done

/-- The walk goes to a child, or to the invalid opcode in the place of one. -/
theorem child_of_route (h : t.route m n s = .ok b) (hb : b.2 = .child id policy) :
    id ∈ n.children ∨ id = .invalid ∧ n.fallsBack := by
  by_cases hfalls : n.fallsBack
  · have hgoes := goes_of_route h
    rw [hb] at hgoes
    cases hgoes with
    | child hid => exact .inl hid
    | invalid => exact .inr ⟨rfl, hfalls⟩
  · cases n with
    | mandatoryKept children clearF3 clearF2 readsModRM =>
        cases h
        cases hb
        have hrank : s.mandatory.rank < children.length := by
          have hle : ¬ children.length < 4 := fun hlt => hfalls (decide_eq_true hlt)
          have hlt : s.mandatory.rank < 4 := by cases s.mandatory <;> decide
          omega
        rw [List.getD_eq_getElem?_getD, List.getElem?_eq_getElem hrank]
        exact .inl (List.getElem_mem hrank)
    | invalid | null => cases h
    | segment | operandSize | addressSize | lock | repne | rep => cases h; cases hb
    | trailing | leaf => obtain ⟨_, -, h⟩ := bind_eq_ok_iff.mp h; cases h; cases hb
    | _ => exact absurd rfl hfalls

/-- The invalid opcode is a tree of its own. -/
theorem mayEnter_invalid (ht : t.forest.Extends .fresh)
    (h : Entrance.invalid.allows policy read) : t.MayEnter policy read .invalid :=
  have hget : t.forest.get? .invalid = some (.invalid true) := ht.get? rfl
  ⟨.invalid, .node hget .nil, h⟩

/-- In a map that holds trees which may be entered, nothing else can be looked up. -/
theorem mayLookUp_of_forall (ht : t.forest.Extends .fresh) {map : OpcodeMap}
    (hpolicy : Entrance.invalid.allows policy false)
    (h : ∀ id ∈ map, t.MayEnter policy false id) : t.MayLookUp policy map := by
  intro b
  rw [OpcodeMap.node, List.getD_eq_getElem?_getD]
  cases hb : map[b.toNat]? with
  | none => exact mayEnter_invalid ht hpolicy
  | some id => exact h id (List.mem_of_getElem? hb)

/-- What a node that may be entered passes on. -/
theorem MayEnter.below (h : t.MayEnter policy read id) :
    policy.suits read (t.forest.get id) ∧
    let read' := !(t.forest.get id).isEscape && (read || policy.reads (t.forest.get id))
    ((t.forest.get id).fallsBack →
      Entrance.invalid.allows (t.forest.get id).childPolicy read') ∧
    ∀ c ∈ (t.forest.get id).children, t.MayEnter (t.forest.get id).childPolicy read' c := by
  obtain ⟨_, hunfolds, hallows⟩ := h
  cases hunfolds with
  | @node _ n trees hn htrees =>
      have hget : t.forest.get id = n := by rw [Forest.get, hn]; rfl
      rw [hget]
      rw [Tree.entrance, Entrance.ofNode_label, Tree.entranceAll_eq] at hallows
      obtain ⟨hsuits, hpass⟩ := Entrance.allows_ofNode hallows
      obtain ⟨hinvalid, hall⟩ := Bool.and_eq_true_iff.mp hpass
      refine ⟨hsuits, fun hfalls => ?_, fun c hc => ?_⟩
      · rw [hfalls] at hinvalid
        exact hinvalid
      · obtain ⟨tree, htree, hc⟩ := htrees.exists_tree hc
        exact ⟨tree, hc, List.all_eq_true.mp hall _ (List.mem_map_of_mem htree)⟩

/-- **A move of a walk that may go on.** -/
theorem fits_route (ht : t.ReadsOnce) (h : t.MayEnter policy read id)
    (hroute : t.route m (t.forest.get id) s = .ok b) :
    t.Fits (read || policy.reads (t.forest.get id)) b.2 := by
  obtain ⟨-, hinvalid, hchildren⟩ := h.below
  have hsends := sends_of_route hroute
  have hchild : ∀ c policy', b.2 = .child c policy' → c ∈ (t.forest.get id).children ∨
      c = .invalid ∧ (t.forest.get id).fallsBack := fun _ _ => child_of_route hroute
  generalize hn : t.forest.get id = n at *
  generalize b.2 = next at *
  cases hsends with
  | done => trivial
  | child c hescape =>
      rw [hescape] at hinvalid hchildren
      rcases hchild c _ rfl with hc | ⟨rfl, hfalls⟩
      · exact hchildren c hc
      · exact mayEnter_invalid ht.sentinels (hinvalid hfalls)
  | @escape map hmap =>
      rw [hmap] at hchildren
      exact mayLookUp_of_forall ht.sentinels rfl hchildren
  | restart => exact ht.oneByte
  | vex hmap => exact ht.vex _ hmap
  | evex hmap => exact ht.evex _ hmap

/-- **The ModRM byte is read once**, before the nodes that need it. -/
theorem ReadsOnce.inOrder_traced (ht : t.ReadsOnce) (fuel : Nat) {next : Next} {s : State}
    (hnext : t.Fits read next) : Trace.inOrder read (t.traced m fuel next s).1 := by
  induction fuel generalizing read next s with
  | zero => cases next <;> rfl
  | succ fuel ih =>
      cases next with
      | done => rfl
      | lookup map policy =>
          rw [traced]
          cases s.byte with
          | error e => rfl
          | ok b => exact ih (hnext b.1)
      | child id policy =>
          obtain ⟨hsuits, -⟩ := hnext.below
          have hnil : Trace.inOrder (read || policy.reads (t.forest.get id)) [] := rfl
          rw [traced]
          dsimp only
          cases (enterTraced policy (t.forest.get id) s).2 with
          | error e => exact Trace.inOrder_left (Trace.inOrder_enter hsuits s hnil)
          | ok s' =>
              dsimp only
              cases hroute : t.route m (t.forest.get id) s' with
              | error e => exact Trace.inOrder_enter hsuits s hnil
              | ok b => exact Trace.inOrder_enter hsuits s (ih (fits_route ht hnext hroute))

end Tables

end OpcodeForest
