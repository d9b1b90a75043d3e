import OpcodeForest.Proofs.Table.Traversal

/-!
# Readers see the shape of the records only

What a reader takes from the bytes depends on the records before it only by their kinds and lengths:
which nodes they hold, and which nodes the forest has, decides what is added but not how far the
reader gets. Two runs are compared, at cursors before the same bytes whose records have the same
shape.

* `Mirrors R r r'`: where `r` reads, so does `r'`, the same bytes and with a result related by `R`.
* `sizedCongruence_mirrors`: all readers mirror themselves.
* `mirrors_slotRecord`: records.
-/

namespace OpcodeForest

namespace Slot

/-- The length of an array; a single node has none. -/
def span : Slot → Option Nat
  | node _ => none
  | array ids => some ids.length

/-- Records of the same shape, with no condition on the numbers. -/
theorem lift_true {s s' : Slot} : s.Lift (fun _ _ => True) s' ↔ s.span = s'.span := by
  constructor
  · rintro (_ | h)
    · rfl
    · exact congrArg some h.length_eq
  · intro h
    cases s with
    | node id =>
        cases s' with
        | node id' => exact .node trivial
        | array ids' => cases h
    | array ids =>
        cases s' with
        | node id' => cases h
        | array ids' =>
            exact .array (List.forall₂_iff_zip.mpr ⟨Option.some.inj h, fun _ => trivial⟩)

end Slot

/-- The cursors stand before the same bytes, with records of the same shape behind them. -/
structure Cursor.Alike (c d : Cursor) : Prop where
  rest : c.rest = d.rest
  offset : c.offset = d.offset
  spans : c.slots.map Slot.span = d.slots.map Slot.span

namespace Reader

variable {α β : Type}

/-- Where `r` reads, `r'` reads the same bytes at any cursor alike, and leaves its records as they
are; the results are related by `R`. -/
def Mirrors (R : α → α → Prop) (r r' : Reader α) : Prop :=
  ∀ ⦃c d a c'⦄, c.Alike d → Reads r c a c' →
    ∃ b d', Reads r' d b d' ∧ R a b ∧ c'.Alike d' ∧ d'.slots = d.slots

namespace Mirrors

variable {R : α → α → Prop} {S : β → β → Prop} {r r' : Reader α} {g g' : α → Reader β}

theorem pure {a b : α} (h : R a b) : Mirrors R (Pure.pure a) (Pure.pure b) := by
  rintro c d a' c' hcd ⟨⟩
  exact ⟨b, d, .pure b d, h, hcd, rfl⟩

theorem throw (e : TableError) (r' : Reader α) : Mirrors R (MonadExcept.throw e) r' := by
  intro c d a c' _ hread
  cases hread

/-- **One after the other.** -/
theorem bind (h : Mirrors R r r') (hg : ∀ a b, R a b → Mirrors S (g a) (g' b)) :
    Mirrors S (r >>= g) (r' >>= g') := by
  intro c d b c' hcd hread
  obtain ⟨a, c₁, hr, hread⟩ := reads_bind_inv hread
  obtain ⟨a', d₁, hr', ha, hcd₁, hslots₁⟩ := h hcd hr
  obtain ⟨b', d₂, hread', hb, hcd₂, hslots₂⟩ := hg a a' ha hcd₁ hread
  exact ⟨b', d₂, hr'.bind hread', hb, hcd₂, hslots₂.trans hslots₁⟩

/-- The cursor can be looked at. -/
theorem get_bind {g g' : Cursor → Reader β} (h : ∀ c d, c.Alike d → Mirrors S (g c) (g' d)) :
    Mirrors S (MonadState.get >>= g) (MonadState.get >>= g') := by
  intro c d b c' hcd hread
  obtain ⟨_, _, ⟨⟩, hread⟩ := reads_bind_inv hread
  obtain ⟨b', d', hread', h'⟩ := h c d hcd hcd hread
  exact ⟨b', d', (Reads.get d).bind hread', h'⟩

end Mirrors

theorem mirrors_byte : Mirrors Eq byte byte := by
  rintro ⟨_ | ⟨b, rest⟩, offset, forest, slots⟩ ⟨rest', offset', forest', slots'⟩ a c'
    ⟨hrest, hoffset, hspans⟩ hread
  · cases hread
  · obtain rfl : b :: rest = rest' := hrest
    obtain rfl : offset = offset' := hoffset
    cases hread
    exact ⟨b, _, rfl, rfl, ⟨rfl, rfl, hspans⟩, rfl⟩

/-- Equal numbers name records of the same shape. -/
theorem mirrors_slot (n : UInt8) : Mirrors (Slot.Lift fun _ _ => True) (slot n) (slot n) :=
  .get_bind fun c d hcd => by
    have hspan := congrArg (·[n.toNat]?) hcd.spans
    simp only [List.getElem?_map] at hspan
    cases hs : c.slots[n.toNat]? with
    | none => exact .throw _ _
    | some s =>
        rw [hs] at hspan
        cases hs' : d.slots[n.toNat]? with
        | none => rw [hs'] at hspan; cases hspan
        | some s' =>
            rw [hs'] at hspan
            exact .pure (Slot.lift_true.mpr (Option.some.inj hspan))

/-- The nodes need not have anything in common. -/
theorem mirrors_push (n n' : Node) : Mirrors (fun _ _ => True) (push n) (push n') := by
  intro c d a c' hcd hread
  cases hread
  exact ⟨_, _, reads_push n' d, trivial, ⟨hcd.rest, hcd.offset, hcd.spans⟩, rfl⟩

/-- All readers see the shape of records only. -/
theorem sizedCongruence_mirrors (f : Family) :
    SizedCongruence f (fun (_ : Stage) _ _ => True) (fun _ _ R r r' => Mirrors (R .only) r r') where
  mono _ h := h
  sentinel _ := trivial
  pure h := .pure h
  throw e := .throw e _
  bind h hg := h.bind fun a b => hg .only a b le_rfl
  byte _ := mirrors_byte
  position _ := .get_bind fun _ _ hcd => .pure hcd.offset
  slot _ n := mirrors_slot n
  misplacedArray _ hread := (not_reads_misplacedArray hread).elim
  push _ _ _ := mirrors_push _ _
  look h := .get_bind fun _ _ hcd => hcd.rest ▸ h _

/-- **A record has the same shape in both runs.** -/
theorem mirrors_slotRecord (f : Family) :
    Mirrors (fun s s' => s.span = s'.span) (slotRecord f) (slotRecord f) := by
  intro c d s c' hcd hread
  obtain ⟨s', d', hread', hs, hcd', hslots⟩ :=
    (sizedCongruence_mirrors f).slotRecord .only hcd hread
  exact ⟨s', d', hread', Slot.lift_true.mp hs, hcd', hslots⟩

end Reader

end OpcodeForest
