import Mathlib.Order.Basic
import OpcodeForest.Proofs.Table.Reads

/-!
# What holds of all readers

The readers of a table are put together from a few: a byte, the position, an earlier record, a new
node. What holds of these, and of two readers in sequence when it holds of each, holds of all. The
way through the readers is the same for every such property; it is taken here, once.

A property compares two readers, whose results may differ in the numbers of nodes. `L w R r r'` is
the comparison of `r` with `r'`, with results that `R` relates. What may be said of numbers can
depend on how far the run has come: `w` is the stage before the readers, and `R` is asked at the
stage behind them. A property of one reader is a comparison that leaves the other one out.

* `Congruence f N L`: what has to be shown of `L`, where `N` relates numbers.
* `Congruence.announced`: what a tag announces, given its children.
* `Congruence.slotRecord`: a record, given entries and arrays.
* `SizedCongruence.slotRecord`: a record, where both runs have the same bytes before them.
-/

namespace OpcodeForest

/-! ### Results with numbers in them -/

section

variable (N : NodeId → NodeId → Prop)

/-- Records of one shape with related numbers. -/
inductive Slot.Lift : Slot → Slot → Prop
  | node {a b : NodeId} (h : N a b) : Lift (.node a) (.node b)
  | array {as bs : List NodeId} (h : List.Forall₂ N as bs) : Lift (.array as) (.array bs)

/-- Entries that stand equally often for related numbers. -/
inductive Constructed.Lift : Constructed → Constructed → Prop
  | single {a b : NodeId} (h : N a b) : Lift (.single a) (.single b)
  | repeated (count : Nat) {a b : NodeId} (h : N a b) :
      Lift (.repeated a count) (.repeated b count)

/-- A payload without its numbers. -/
def Payload.plain (p : Payload) : Payload :=
  { p with children := [], tables := [], alternatives := [] }

/-- Payloads that differ in related numbers only. -/
structure Payload.Lift (p q : Payload) : Prop where
  children : List.Forall₂ N p.children q.children
  tables : List.Forall₂ (List.Forall₂ N) p.tables q.tables
  alternatives : List.Forall₂ (fun a b => N a.1 b.1 ∧ a.2 = b.2) p.alternatives q.alternatives
  plain : p.plain = q.plain

end

/-- Records with equal numbers are equal. -/
theorem Slot.lift_eq {s s' : Slot} : s.Lift Eq s' ↔ s = s' := by
  constructor
  · rintro (h | h)
    · rw [h]
    · rw [List.forall₂_eq_eq_eq] at h
      rw [h]
  · rintro rfl
    cases s with
    | node id => exact .node rfl
    | array ids => exact .array (List.forall₂_eq_eq_eq ▸ rfl)

theorem forall₂_replicate {α β : Type} {R : α → β → Prop} {a : α} {b : β} (n : Nat) (h : R a b) :
    List.Forall₂ R (List.replicate n a) (List.replicate n b) := by
  induction n with
  | zero => exact .nil
  | succ n ih => exact .cons h ih

/-- A relation on numbers may be weakened. -/
theorem Payload.Lift.mono {M N : NodeId → NodeId → Prop} {p q : Payload} (hp : p.Lift M q)
    (h : ∀ a b, M a b → N a b) : p.Lift N q where
  children := hp.children.imp h
  tables := hp.tables.imp fun _ _ hids => hids.imp h
  alternatives := hp.alternatives.imp fun a b hab => ⟨h a.1 b.1 hab.1, hab.2⟩
  plain := hp.plain

/-- Payloads with equal numbers are equal. -/
theorem Payload.eq_of_lift {p q : Payload} (h : p.Lift Eq q) : p = q := by
  obtain ⟨hchildren, htables, halternatives, hplain⟩ := h
  have halternatives := halternatives.imp fun _ _ hab => Prod.ext hab.1 hab.2
  rw [List.forall₂_eq_eq_eq] at hchildren htables halternatives
  rw [List.forall₂_eq_eq_eq] at htables
  calc p = { p.plain with children := p.children, tables := p.tables
                          alternatives := p.alternatives } := rfl
    _ = { q.plain with children := q.children, tables := q.tables
                       alternatives := q.alternatives } := by
      rw [hplain, hchildren, htables, halternatives]
    _ = q := rfl

/-- What is done to both payloads without a look at their numbers. -/
theorem Payload.Lift.of_plain {N : NodeId → NodeId → Prop} {p q : Payload} {g : Payload → Payload}
    (hp : p.Lift N q) (hg : ∀ p : Payload, g p = { g p.plain with
      children := p.children, tables := p.tables, alternatives := p.alternatives }) :
    (g p).Lift N (g q) := by
  rw [hg p, hg q, hp.plain]
  exact ⟨hp.children, hp.tables, hp.alternatives, rfl⟩

/-- The sentinels that tags stand for are the three of the fresh forest. -/
theorem Family.index_lt_of_sentinel {f : Family} {row : TagRow} {id : NodeId} (hrow : row ∈ f.rows)
    (hrule : row.rule = .sentinel id) : id.index < 3 := by
  have hall : f.rows.all fun row =>
      match row.rule with | .sentinel id => decide (id.index < 3) | _ => true := by
    cases f <;> decide
  have h := List.all_eq_true.mp hall row hrow
  rw [hrule] at h
  exact of_decide_eq_true h

namespace Reader

/-- A misplaced array is always a fault. -/
theorem not_reads_misplacedArray {α : Type} {c c' : Cursor} {a : α} :
    ¬ Reads misplacedArray c a c' := by
  intro hread
  obtain ⟨_, _, -, hread⟩ := reads_bind_inv hread
  cases hread

/-- What follows the tag of an entry. -/
def tagged (f : Family) (child : Reader NodeId) (tag : UInt8) : Reader Constructed :=
  match f.row? tag with
  | some row => announced f child row.rule
  | none => unknownTag f tag

/-- What follows the kind byte of a record. -/
def kindRecord (f : Family) (offset : Nat) (kind : UInt8) : Reader Slot :=
  if kind = 0 then return .node (← handler f)
  else if kind = 1 then return .array (← array f)
  else throw (.unknownRecordKind kind offset)

/-- The only stage of a comparison that is the same throughout. -/
inductive Stage where
  | only

instance : Preorder Stage where
  le _ _ := True
  le_refl _ := trivial
  le_trans _ _ _ _ _ := trivial

/-- The comparison `L` is kept when readers of the family `f` are put together. `N` relates numbers,
and keeps relating them at later stages. -/
structure Congruence (f : Family) {W : Type} [Preorder W] (N : W → NodeId → NodeId → Prop)
    (L : ∀ α : Type, W → (W → α → α → Prop) → Reader α → Reader α → Prop) : Prop where
  mono {w w' : W} {a b : NodeId} : w ≤ w' → N w a b → N w' a b
  sentinel {w : W} {id : NodeId} : id.index < 3 → N w id id
  pure {α : Type} {w : W} {R : W → α → α → Prop} {a b : α} :
    R w a b → L α w R (Pure.pure a) (Pure.pure b)
  throw {α : Type} {w : W} {R : W → α → α → Prop} (e : TableError) :
    L α w R (MonadExcept.throw e) (MonadExcept.throw e)
  bind {α β : Type} {w : W} {R : W → α → α → Prop} {S : W → β → β → Prop} {r r' : Reader α}
    {g g' : α → Reader β} : L α w R r r' →
    (∀ w' a b, w ≤ w' → R w' a b → L β w' S (g a) (g' b)) → L β w S (r >>= g) (r' >>= g')
  byte (w : W) : L _ w (fun _ => Eq) byte byte
  position (w : W) : L _ w (fun _ => Eq) position position
  slot (w : W) (n : UInt8) : L _ w (fun w => Slot.Lift (N w)) (slot n) (slot n)
  misplacedArray {α : Type} {w : W} {R : W → α → α → Prop} : L α w R misplacedArray misplacedArray
  push {w : W} {row : TagRow} {kind : Kind} {layout : List FieldKind} {p q : Payload} :
    row ∈ f.rows → row.rule = .node kind layout → p.Lift (N w) q →
    L _ w N (push (kind.node p)) (push (kind.node q))

namespace Congruence

variable {f : Family} {W : Type} [Preorder W] {N : W → NodeId → NodeId → Prop}
  {L : ∀ α : Type, W → (W → α → α → Prop) → Reader α → Reader α → Prop} (h : Congruence f N L)
include h

section

variable {α β : Type} {w : W} {R : W → α → α → Prop} {S : W → β → β → Prop} {r r' : Reader α}

/-- After a reader with the same result in both runs. -/
theorem bind_eq {g g' : α → Reader β} (hr : L α w (fun _ => Eq) r r')
    (hg : ∀ w' a, L β w' S (g a) (g' a)) : L β w S (r >>= g) (r' >>= g') :=
  h.bind hr fun w' a _ _ hab => hab ▸ hg w' a

/-- What is made of the results is related if the results are. -/
theorem map {g g' : α → β} (hr : L α w R r r')
    (hg : ∀ w' a b, w ≤ w' → R w' a b → S w' (g a) (g' b)) :
    L β w S (do return g (← r)) (do return g' (← r')) :=
  h.bind hr fun w' a b hle hab => h.pure (hg w' a b hle hab)

theorem map_eq (g : α → β) (hr : L α w (fun _ => Eq) r r') :
    L β w (fun _ => Eq) (do return g (← r)) (do return g (← r')) :=
  h.map hr fun _ _ _ _ hab => congrArg g hab

/-- Readings in a row. The relation has to persist to the end of the row. -/
theorem times (hr : ∀ w, L α w R r r')
    (hmono : ∀ {w w' : W} {a b : α}, w ≤ w' → R w a b → R w' a b) : ∀ (n : Nat) (w : W),
    L _ w (fun w => List.Forall₂ (R w)) (Reader.times r n) (Reader.times r' n)
  | 0, _ => h.pure .nil
  | n + 1, w => h.bind (hr w) fun w' _ _ _ hab =>
      h.map (times hr hmono n w') fun _ _ _ hle hrest => .cons (hmono hle hab) hrest

theorem times_eq (hr : ∀ w, L α w (fun _ => Eq) r r') (n : Nat) (w : W) :
    L _ w (fun _ => Eq) (Reader.times r n) (Reader.times r' n) := by
  have htimes := h.times hr (fun _ hab => hab) n w
  rwa [List.forall₂_eq_eq_eq] at htimes

end

/-! ### Fields without numbers -/

/-- The groups of a number, by induction on how many there may be. -/
theorem groups (start : Nat) : ∀ (n : Nat) (w : W),
    L _ w (fun _ => Eq) (Reader.groups start n) (Reader.groups start n)
  | 0, _ => h.throw _
  | n + 1, w => h.bind_eq (h.byte w) fun w b => by
      split
      · exact h.throw _
      · split
        · exact h.pure rfl
        · exact h.map_eq _ (groups start n w)

theorem number (w : W) : L _ w (fun _ => Eq) number number :=
  h.bind_eq (h.position w) fun w start => h.groups start _ w

/-- A byte with a meaning, or the fault of a byte that has none. -/
theorem byteAs {α : Type} (g : UInt8 → Option α) (fault : UInt8 → Nat → TableError) (w : W) :
    L _ w (fun _ => Eq) (byteAs g fault) (byteAs g fault) :=
  h.bind_eq (h.position w) fun w _ => h.bind_eq (h.byte w) fun w b => by
    cases g b with
    | some a => exact h.pure rfl
    | none => exact h.throw _

theorem codeAt (base offset n : Nat) (w : W) :
    L _ w (fun _ => Eq) (codeAt base offset n) (codeAt base offset n) := by
  unfold Reader.codeAt
  split
  · exact h.pure rfl
  · exact h.throw _

/-- Codes in a row are counted from the first. -/
theorem codes (n : Nat) (w : W) : L _ w (fun _ => Eq) (codes n) (codes n) := by
  have hmapM (base offset : Nat) (ns : List Nat) : ∀ w, L _ w (fun _ => Eq)
      (ns.mapM (Reader.codeAt base offset)) (ns.mapM (Reader.codeAt base offset)) := by
    induction ns with
    | nil => exact fun w => h.pure rfl
    | cons n ns ih =>
        intro w
        rw [List.mapM_cons]
        exact h.bind_eq (h.codeAt base offset n w) fun w _ => h.map_eq _ (ih w)
  exact h.bind_eq (h.position w) fun w _ => h.bind_eq (h.number w) fun w _ => hmapM _ _ _ w

theorem code (w : W) : L _ w (fun _ => Eq) code code :=
  h.bind_eq (h.position w) fun w _ => h.bind_eq (h.number w) fun w _ => h.codeAt _ _ _ w

theorem codesWidened (w : W) : L _ w (fun _ => Eq) codesWidened codesWidened :=
  h.bind_eq (h.codes 2 w) fun _ cs => by split <;> exact h.pure rfl

theorem trailingCode (w : W) : L _ w (fun _ => Eq) trailingCode trailingCode :=
  h.bind_eq (h.byte w) fun w _ => h.map_eq _ (h.code w)

/-! ### References -/

/-- The node of an earlier record. A record of another kind is a fault in both runs. -/
theorem handlerReference (w : W) : L _ w N handlerReference handlerReference :=
  h.bind_eq (h.byte w) fun w n => h.bind (h.slot w n) fun _ _ _ _ hs => by
    cases hs with
    | node hid => exact h.pure hid
    | array => exact h.throw _

/-- The array of an earlier record, which has the same length in both runs. -/
theorem table (length : Nat) (w : W) :
    L _ w (fun w => List.Forall₂ (N w)) (table f length) (table f length) :=
  h.bind_eq (h.byte w) fun w tag => by
    split
    · exact h.throw _
    · refine h.bind_eq (h.byte w) fun w n => h.bind (h.slot w n) fun _ _ _ _ hs => ?_
      cases hs with
      | node => exact h.throw _
      | array hids =>
          dsimp only
          rw [hids.length_eq]
          split
          · exact h.pure hids
          · exact h.throw _

/-! ### Nodes -/

/-- An entry that has to stand for one node does so in both runs or in none. -/
theorem single (w : W) {r r' : Reader Constructed}
    (hr : L _ w (fun w => Constructed.Lift (N w)) r r') : L _ w N (single r) (single r') :=
  h.bind hr fun _ _ _ _ hab => by
    cases hab with
    | single hid => exact h.pure hid
    | repeated => exact h.throw _

section

variable {child child' : Reader NodeId} (hchild : ∀ w, L _ w N child child') {w : W}
include hchild

theorem alternative (w : W) : L _ w (fun w a b => N w a.1 b.1 ∧ a.2 = b.2)
    (Reader.alternative child) (Reader.alternative child') :=
  h.bind (hchild w) fun w _ _ _ hid => h.map (h.number w) fun _ _ _ hle hbits =>
    ⟨h.mono hle hid, congrArg Options.ofNat hbits⟩

omit hchild in
/-- A field without numbers. -/
theorem plainField {α : Type} {r : Reader α} {p q : Payload} (hp : p.Lift (N w) q)
    (hr : L _ w (fun _ => Eq) r r) (g : α → Payload → Payload)
    (hg : ∀ a (p : Payload), g a p = { g a p.plain with
      children := p.children, tables := p.tables, alternatives := p.alternatives }) :
    L _ w (fun w => Payload.Lift (N w)) (do return g (← r) p) (do return g (← r) q) :=
  h.map hr fun _ a _ hle hab => hab ▸ (hp.mono fun _ _ => h.mono hle).of_plain (hg a)

/-- A field is added to payloads that differ in related numbers. -/
theorem field {p q : Payload} (hp : p.Lift (N w) q) (k : FieldKind) :
    L _ w (fun w => Payload.Lift (N w)) (field f child p k) (field f child' q k) := by
  have hlater {w' : W} (hle : w ≤ w') : p.Lift (N w') q := hp.mono fun _ _ => h.mono hle
  cases k with
  | codes n =>
      exact h.plainField hp (h.codes n w) (fun cs p => { p with codes := cs }) fun _ _ => rfl
  | codesWidened =>
      exact h.plainField hp (h.codesWidened w) (fun cs p => { p with codes := cs }) fun _ _ => rfl
  | register copies =>
      exact h.plainField hp (h.byteAs _ _ w)
        (fun r p => { p with registers := p.registers ++ List.replicate copies r }) fun _ _ => rfl
  | tuple =>
      exact h.plainField hp (h.byteAs _ _ w) (fun t p => { p with tuple := t }) fun _ _ => rfl
  | flag =>
      exact h.plainField hp (h.byteAs _ _ w) (fun b p => { p with flags := p.flags ++ [b] })
        fun _ _ => rfl
  | number =>
      exact h.plainField hp (h.number w) (fun n p => { p with number := .ofNat n }) fun _ _ => rfl
  | locks =>
      exact h.plainField hp (h.number w) (fun n p => { p with locks := .ofBits n }) fun _ _ => rfl
  | trailing =>
      refine h.bind (h.number w) fun w n _ hle hn => hn ▸ ?_
      exact h.plainField (hlater hle) (h.times_eq h.trailingCode n w)
        (fun as p => { p with trailing := as }) fun _ _ => rfl
  | children n =>
      refine h.map (h.times hchild h.mono n w) fun _ _ _ hle hids => ?_
      obtain ⟨hchildren, htables, halternatives, hplain⟩ := hlater hle
      exact ⟨List.rel_append hchildren hids, htables, halternatives, hplain⟩
  | table n =>
      refine h.map (h.table n w) fun _ _ _ hle hids => ?_
      obtain ⟨hchildren, htables, halternatives, hplain⟩ := hlater hle
      exact ⟨hchildren, List.rel_append htables (.cons hids .nil), halternatives, hplain⟩
  | alternatives =>
      refine h.bind (h.number w) fun w n _ hle hn => hn ▸ ?_
      have halternatives := h.times (h.alternative hchild)
        (fun hle hab => ⟨h.mono hle hab.1, hab.2⟩) n w
      refine h.map halternatives fun _ _ _ hle' has => ?_
      obtain ⟨hchildren, htables, -, hplain⟩ := hlater (hle.trans hle')
      exact ⟨hchildren, htables, has, hplain⟩

/-- **The fields of a layout**, by induction on the layout. -/
theorem payload : ∀ (layout : List FieldKind) {p q : Payload} {w : W}, p.Lift (N w) q →
    L _ w (fun w => Payload.Lift (N w)) (payload f child layout p) (payload f child' layout q)
  | [], _, _, _, hp => h.pure hp
  | k :: rest, _, _, _, hp => h.bind (h.field hchild hp k) fun _ _ _ _ hp => payload rest hp

/-- **What a tag announces**, given its children. -/
theorem announced {row : TagRow} (hrow : row ∈ f.rows) :
    L _ w (fun w => Constructed.Lift (N w)) (announced f child row.rule)
      (announced f child' row.rule) := by
  cases hrule : row.rule with
  | sentinel id => exact h.pure (.single (h.sentinel (Family.index_lt_of_sentinel hrow hrule)))
  | invalidPair => exact h.pure (.repeated 2 (h.sentinel (by decide)))
  | repeated =>
      exact h.bind_eq (h.number w) fun w count =>
        h.map (hchild w) fun _ _ _ _ hid => .repeated count hid
  | handlerReference => exact h.map (h.handlerReference w) fun _ _ _ _ hid => .single hid
  | arrayReference => exact h.misplacedArray
  | node kind layout =>
      have hempty : Payload.Lift (N w) {} {} := ⟨.nil, .nil, .nil, rfl⟩
      exact h.bind (h.payload hchild layout hempty) fun _ _ _ _ hp =>
        h.map (h.push hrow hrule hp) fun _ _ _ _ hid => .single hid

/-- A tag that the family lacks is a fault in both runs. -/
theorem tagged (tag : UInt8) (w : W) : L _ w (fun w => Constructed.Lift (N w))
    (tagged f child tag) (tagged f child' tag) := by
  unfold Reader.tagged
  cases hrow : f.row? tag with
  | none => exact h.bind_eq (h.position w) fun _ _ => h.throw _
  | some row => exact h.announced hchild (List.mem_of_getElem? hrow)

end

/-- **An entry**, in runs that allow the same depth. -/
theorem entryWithin : ∀ (depth : Nat) (w : W),
    L _ w (fun w => Constructed.Lift (N w)) (entryWithin f depth) (entryWithin f depth)
  | 0, w => h.bind_eq (h.position w) fun _ _ => h.throw _
  | depth + 1, w => h.bind_eq (h.byte w) fun w tag =>
      h.tagged (fun w => h.single w (entryWithin depth w)) tag w

/-! ### Records -/

section

variable (hentry : ∀ w, L _ w (fun w => Constructed.Lift (N w)) (entry f) (entry f))
include hentry

/-- The entries of an array, in runs that allow equally many. -/
theorem fill (declared : Nat) : ∀ (fuel filled : Nat) (w : W),
    L _ w (fun w => List.Forall₂ (N w)) (fill f declared fuel filled)
      (fill f declared fuel filled)
  | 0, _, w => h.bind_eq (h.position w) fun _ _ => h.throw _
  | fuel + 1, filled, w => by
      rw [Reader.fill]
      split
      · exact h.pure .nil
      · refine h.bind (hentry w) fun w _ _ _ hab => ?_
        cases hab with
        | single hid =>
            exact h.map (fill declared fuel _ w) fun _ _ _ hle hids => .cons (h.mono hle hid) hids
        | repeated count hid =>
            dsimp only
            split
            · exact h.throw _
            · refine h.map (fill declared fuel _ w) fun _ _ _ hle hids => ?_
              exact List.rel_append (forall₂_replicate count (h.mono hle hid)) hids

theorem kindRecord (harray : ∀ w, L _ w (fun w => List.Forall₂ (N w)) (array f) (array f))
    (offset : Nat) (kind : UInt8) (w : W) :
    L _ w (fun w => Slot.Lift (N w)) (kindRecord f offset kind) (kindRecord f offset kind) := by
  unfold Reader.kindRecord
  split
  · exact h.map (h.single w (hentry w)) fun _ _ _ _ hid => .node hid
  · split
    · exact h.map (harray w) fun _ _ _ _ hids => .array hids
    · exact h.throw _

/-- **A record**, given entries and arrays. -/
theorem slotRecord (harray : ∀ w, L _ w (fun w => List.Forall₂ (N w)) (array f) (array f))
    (w : W) : L _ w (fun w => Slot.Lift (N w)) (slotRecord f) (slotRecord f) :=
  h.bind_eq (h.position w) fun w offset => h.bind_eq (h.byte w) fun w kind =>
    h.kindRecord hentry harray offset kind w

end

end Congruence

/-- Moreover, the two runs have the same number of bytes before them. -/
structure SizedCongruence (f : Family) {W : Type} [Preorder W] (N : W → NodeId → NodeId → Prop)
    (L : ∀ α : Type, W → (W → α → α → Prop) → Reader α → Reader α → Prop) : Prop
    extends Congruence f N L where
  look {α : Type} {w : W} {R : W → α → α → Prop} {g : Nat → Reader α} :
    (∀ n, L α w R (g n) (g n)) → L α w R (do g (← get).rest.length) (do g (← get).rest.length)

namespace SizedCongruence

variable {f : Family} {W : Type} [Preorder W] {N : W → NodeId → NodeId → Prop}
  {L : ∀ α : Type, W → (W → α → α → Prop) → Reader α → Reader α → Prop}
  (h : SizedCongruence f N L) (w : W)
include h

theorem entry : L _ w (fun w => Constructed.Lift (N w)) (entry f) (entry f) :=
  h.look fun n => h.entryWithin (n + 1) w

theorem array : L _ w (fun w => List.Forall₂ (N w)) (array f) (array f) :=
  h.bind_eq (h.number w) fun w declared => h.look fun n => h.fill h.entry declared (n + 2) 0 w

/-- **A record.** -/
theorem slotRecord : L _ w (fun w => Slot.Lift (N w)) (slotRecord f) (slotRecord f) :=
  h.toCongruence.slotRecord h.entry h.array w

end SizedCongruence

end Reader

end OpcodeForest
