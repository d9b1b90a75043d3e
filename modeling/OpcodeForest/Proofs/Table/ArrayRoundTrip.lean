import Mathlib.Data.List.Chain
import OpcodeForest.Proofs.Table.EntryRoundTrip

/-!
# Written arrays read back

An array is written with runs of equal entries contracted, so what is read is a shorter list of
entries that stands for the same places. `runEntry` is the entry that is written for a run, and
`spread` puts the node of each entry at all the places of the entry.

* `reads_fill`: entries written one after the other fill the places they stand for.
* `shareInRow_runOwners`: equal entries in a row get one node.
* `reads_array`: an array is read as the nodes of its places.

The reader stops once the places are filled. It gets to the last byte where the last entry fills a
place (`EndsFilled`).
-/

namespace OpcodeForest

/-! ### Places -/

/-- Each of the nodes `owners` at all the places of its entry. -/
def spread (entries : List Entry) (owners : List NodeId) : List NodeId :=
  (entries.zip owners).flatMap fun a => List.replicate a.1.width.toNat a.2

@[simp] theorem spread_cons (e : Entry) (entries : List Entry) (id : NodeId)
    (owners : List NodeId) : spread (e :: entries) (id :: owners)
      = List.replicate e.width.toNat id ++ spread entries owners := rfl

/-- The places of an array are counted entry by entry. -/
theorem placesOf_cons (e : Entry) (entries : List Entry) :
    placesOf (e :: entries) = e.width.toNat + placesOf entries := by
  simp [placesOf]

/-- The writer counts places in 32 bits, which is enough for arrays that fit. -/
theorem toNat_places : ∀ {entries : List Entry}, placesOf entries < 2 ^ 32 →
    (Entry.places entries).toNat = placesOf entries
  | [], _ => rfl
  | e :: entries, h => by
      rw [placesOf_cons] at h ⊢
      rw [Entry.places, UInt32.toNat_add, toNat_places (by omega), Nat.mod_eq_of_lt h]

/-- An entry that fits stands for a place. -/
theorem Entry.width_pos {f : Family} {spans : Spans} {e : Entry} (h : e.fits f spans) :
    0 < e.width.toNat :=
  UInt32.le_iff_toNat_le.mp (of_decide_eq_true (Bool.and_eq_true_iff.mp h).2)

/-- The last of the entries fills a place. -/
def EndsFilled (entries : List Entry) : Prop := ∀ e ∈ entries.getLast?, 0 < e.width.toNat

/-- In a list of entries that fit, also the last one fills a place. -/
theorem endsFilled_of_fits {f : Family} {spans : Spans} {entries : List Entry}
    (h : ∀ e ∈ entries, e.fits f spans) : EndsFilled entries :=
  fun e he => Entry.width_pos (h e (List.mem_of_mem_getLast? he))

/-- Entries can be taken off the front. -/
theorem EndsFilled.tail {e : Entry} {entries : List Entry} (h : EndsFilled (e :: entries)) :
    EndsFilled entries := by
  intro e' he'
  refine h e' ?_
  rw [List.getLast?_cons, he']
  rfl

/-- Entries that end so stand for a place at least. -/
theorem EndsFilled.placesOf_pos : ∀ {entries : List Entry}, EndsFilled entries → entries ≠ [] →
    0 < placesOf entries
  | [e], h, _ => by
      rw [placesOf_cons]
      exact Nat.add_pos_left (h e rfl) _
  | e :: e' :: entries, h, _ => by
      rw [placesOf_cons]
      exact Nat.add_pos_right _ (h.tail.placesOf_pos (List.cons_ne_nil _ _))

/-- Every place has an owner. -/
theorem length_spread : ∀ {entries : List Entry} {owners : List NodeId},
    entries.length = owners.length → (spread entries owners).length = placesOf entries
  | [], _, _ => rfl
  | e :: entries, id :: owners, h => by
      simp only [spread_cons, List.length_append, List.length_replicate, placesOf, List.map_cons,
        List.sum_cons]
      rw [length_spread (Nat.succ.inj h), placesOf]

/-- Trees of the places from trees of the entries. -/
theorem forall₂_spread {R : NodeId → Tree → Prop} {tree : Entry → Tree} :
    ∀ {entries : List Entry} {owners : List NodeId},
    List.Forall₂ (fun e id => R id (tree e)) entries owners →
    List.Forall₂ R (spread entries owners)
      (entries.flatMap fun e => List.replicate e.width.toNat (tree e))
  | _, _, .nil => .nil
  | _, _, .cons h hs => by
      rw [spread_cons, List.flatMap_cons]
      refine List.rel_append ?_ (forall₂_spread hs)
      exact List.forall₂_iff_get.mpr ⟨by simp, fun _ _ _ => by simpa using h⟩

/-! ### Runs -/

/-- The entry that is written for a run. -/
def runEntry : Entry × Nat → Entry
  | (e, 1) => e
  | (.invalid, 2) => .invalidPair
  | (e, n) => .repeated (UInt32.ofNat n) e

/-- A run is written as an entry: the entry itself, or a repetition of it. -/
theorem run_eq_entry (w : WriteContext) : w.run = w.entry ∘ runEntry := by
  funext r
  rw [Function.comp_apply]
  unfold runEntry
  split
  · rfl
  · simp only [WriteContext.run, WriteContext.entry]
  · rename_i e n hn hpair
    rw [WriteContext.run, WriteContext.entry, WriteContext.scalar]
    · exact hn
    · exact hpair

/-- A run has the tree of its entry at every place. -/
theorem tree_runEntry (f : Family) (slots : List SlotTree) (r : Entry × Nat) :
    (runEntry r).tree f slots = r.1.tree f slots := by
  unfold runEntry
  split <;> simp only [Entry.tree]

/-- A run adds the nodes of its entry once. -/
theorem labels_runEntry (f : Family) (spans : Spans) (r : Entry × Nat) :
    (runEntry r).labels f spans = r.1.labels f spans := by
  unfold runEntry
  split <;> simp only [Entry.labels]

/-- Only repetitions stand for other than one place. -/
theorem Entry.width_of_not_isRepeat {e : Entry} (h : ¬ e.isRepeat) : e.width.toNat = 1 := by
  cases e with
  | repeated | invalidPair => exact absurd rfl h
  | _ => rfl

/-- What grouping guarantees of a run. -/
structure IsRun (entries : List Entry) (r : Entry × Nat) : Prop where
  mem : r.1 ∈ entries
  pos : 1 ≤ r.2
  le : ¬ r.1.isRepeat → r.2 ≤ placesOf entries
  alone : r.1.isRepeat → r.2 = 1

/-- The length of a run can be counted in 32 bits. -/
theorem IsRun.lt {entries : List Entry} {r : Entry × Nat} (h : IsRun entries r)
    (hplaces : placesOf entries < 2 ^ 32) : r.2 < 2 ^ 32 := by
  by_cases hrep : r.1.isRepeat
  · rw [h.alone hrep]
    exact Nat.one_lt_two_pow (by decide)
  · exact Nat.lt_of_le_of_lt (h.le hrep) hplaces

/-- A run of an entry with the right fields has the right fields. -/
theorem IsRun.laidOut {f : Family} {spans : Spans} {entries : List Entry} {r : Entry × Nat}
    (h : IsRun entries r) (hlaid : ∀ e ∈ entries, e.laidOut f spans) :
    (runEntry r).laidOut f spans := by
  have hr := hlaid _ h.mem
  unfold runEntry
  split
  · exact hr
  · rw [Entry.laidOut]
  · rw [Entry.laidOut]
    exact hr

/-- A run stands for the places of its entry as often as it is long. -/
theorem IsRun.width {entries : List Entry} {r : Entry × Nat} (h : IsRun entries r)
    (hplaces : placesOf entries < 2 ^ 32) :
    (runEntry r).width.toNat = r.2 * r.1.width.toNat := by
  have hlt := h.lt hplaces
  have halone := h.alone
  unfold runEntry
  split
  · exact (Nat.one_mul _).symm
  · rfl
  · rename_i e n hn _
    rw [Entry.width, UInt32.toNat_ofNat_of_lt' hlt]
    -- an entry that is repeated of its own accord makes no longer run
    rw [Entry.width_of_not_isRepeat fun hrep => hn (halone hrep), Nat.mul_one]

/-- The next entry makes the first run longer, or starts one. Repetitions are never grouped. -/
theorem groupRuns_cons (e : Entry) (rest : List Entry) :
    (∃ n runs, groupRuns rest = (e, n) :: runs ∧ ¬ e.isRepeat ∧
        groupRuns (e :: rest) = (e, n + 1) :: runs) ∨
      groupRuns (e :: rest) = (e, 1) :: groupRuns rest ∧
        ∀ n runs, groupRuns rest = (e, n) :: runs → e.isRepeat := by
  rw [groupRuns]
  cases groupRuns rest with
  | nil => exact .inr ⟨rfl, by simp⟩
  | cons r runs =>
      obtain ⟨e', n⟩ := r
      by_cases h : e = e' ∧ !e.isRepeat
      · obtain ⟨rfl, hrep⟩ := h
        exact .inl ⟨n, runs, rfl, by simpa using hrep, if_pos ⟨rfl, hrep⟩⟩
      · refine .inr ⟨if_neg h, fun m runs' heq => ?_⟩
        obtain ⟨⟨rfl, rfl⟩, rfl⟩ := by simpa using heq
        simpa using h

/-- Grouping makes runs of entries that are there. -/
theorem isRun_of_mem_groupRuns : ∀ {entries : List Entry} {r : Entry × Nat},
    r ∈ groupRuns entries → IsRun entries r
  | [], _, h => by simp [groupRuns] at h
  | e :: rest, r, h => by
      have hplaces := placesOf_cons e rest
      have hgrow : r ∈ groupRuns rest → IsRun (e :: rest) r := fun h =>
        have hr := isRun_of_mem_groupRuns h
        ⟨List.mem_cons_of_mem _ hr.mem, hr.pos, fun hrep => by have := hr.le hrep; omega, hr.alone⟩
      rcases groupRuns_cons e rest with ⟨n, runs, hrest, hrep, heq⟩ | ⟨heq, -⟩
      · rw [heq] at h
        rcases List.mem_cons.mp h with rfl | h
        · have hr : IsRun rest (e, n) := isRun_of_mem_groupRuns (by simp [hrest])
          have hle := hr.le hrep
          have hwidth := Entry.width_of_not_isRepeat hrep
          exact ⟨List.mem_cons_self, by simp, fun _ => by dsimp only at hle ⊢; omega,
            fun h => absurd h hrep⟩
        · exact hgrow (by rw [hrest]; exact List.mem_cons_of_mem _ h)
      · rw [heq] at h
        rcases List.mem_cons.mp h with rfl | h
        · refine ⟨List.mem_cons_self, Nat.le_refl 1, fun hrep => ?_, fun _ => rfl⟩
          have hwidth := Entry.width_of_not_isRepeat hrep
          dsimp only at hwidth ⊢
          omega
        · exact hgrow h

/-- Grouping loses nothing: written out, the runs are the entries again. -/
theorem flatMap_groupRuns : ∀ (entries : List Entry),
    (groupRuns entries).flatMap (fun r => List.replicate r.2 r.1) = entries
  | [] => rfl
  | e :: rest => by
      have ih := flatMap_groupRuns rest
      rcases groupRuns_cons e rest with ⟨n, runs, hrest, -, heq⟩ | ⟨heq, -⟩
      · rw [hrest, List.flatMap_cons] at ih
        rw [heq, List.flatMap_cons, List.replicate_succ, List.cons_append, ih]
      · rw [heq, List.flatMap_cons, ih]
        rfl

/-- The node of each run, once for each entry of the run. -/
def runOwners (runs : List (Entry × Nat)) (ids : List NodeId) : List NodeId :=
  (runs.zip ids).flatMap fun a => List.replicate a.1.2 a.2

/-- The places of the written entries are those of the entries that the runs stand for. -/
theorem spread_map_runEntry : ∀ {runs : List (Entry × Nat)} {ids : List NodeId},
    runs.length = ids.length →
    (∀ r ∈ runs, (runEntry r).width.toNat = r.2 * r.1.width.toNat) →
    spread (runs.map runEntry) ids
      = spread (runs.flatMap fun r => List.replicate r.2 r.1) (runOwners runs ids)
  | [], [], _, _ => rfl
  | r :: runs, id :: ids, hlen, hwidth => by
      have ih := spread_map_runEntry (Nat.succ.inj hlen)
        fun r hr => hwidth r (List.mem_cons_of_mem _ hr)
      have hrun : spread (List.replicate r.2 r.1) (List.replicate r.2 id)
          = List.replicate (r.2 * r.1.width.toNat) id := by
        simp [spread, List.flatMap_replicate]
      rw [List.map_cons, spread_cons, hwidth r List.mem_cons_self, ih, ← hrun]
      simp only [spread, runOwners, List.flatMap_cons, List.zip_cons_cons]
      rw [List.zip_append (by simp), List.flatMap_append]

/-- Runs fill the places of the entries they are made of. -/
theorem placesOf_map_runEntry : ∀ {runs : List (Entry × Nat)},
    (∀ r ∈ runs, (runEntry r).width.toNat = r.2 * r.1.width.toNat) →
    placesOf (runs.map runEntry) = placesOf (runs.flatMap fun r => List.replicate r.2 r.1)
  | [], _ => rfl
  | r :: runs, hwidth => by
      have ih := placesOf_map_runEntry fun r hr => hwidth r (List.mem_cons_of_mem _ hr)
      simp only [placesOf, List.map_cons, List.sum_cons, List.flatMap_cons, List.map_append,
        List.sum_append_nat, List.map_replicate, List.sum_replicate_nat] at ih ⊢
      rw [hwidth r List.mem_cons_self, ih]

/-- The owner of a run owns each of its entries. -/
theorem forall₂_runOwners {R : Entry → NodeId → Prop} : ∀ {runs : List (Entry × Nat)}
    {ids : List NodeId}, List.Forall₂ (fun r id => R r.1 id) runs ids →
    List.Forall₂ R (runs.flatMap fun r => List.replicate r.2 r.1) (runOwners runs ids)
  | _, _, .nil => .nil
  | _, _, .cons h hs => by
      simp only [runOwners, List.flatMap_cons, List.zip_cons_cons]
      refine List.rel_append ?_ (forall₂_runOwners hs)
      exact List.forall₂_iff_get.mpr ⟨by simp, fun _ _ _ => by simpa using h⟩

/-- Equal entries in a row, unless repeated of their own accord, have one node. -/
def ShareInRow (entries : List Entry) (owners : List NodeId) : Prop :=
  (entries.zip owners).IsChain fun a b => a.1 = b.1 → ¬ a.1.isRepeat → a.2 = b.2

theorem head?_groupRuns (entries : List Entry) :
    entries.head? = (groupRuns entries).head?.map (·.1) := by
  cases entries with
  | nil => rfl
  | cons e rest =>
      rcases groupRuns_cons e rest with ⟨_, _, _, _, heq⟩ | ⟨heq, _⟩ <;> rw [heq] <;> rfl

/-- The last run is made of the last entry. -/
theorem getLast?_groupRuns : ∀ (entries : List Entry),
    entries.getLast? = (groupRuns entries).getLast?.map (·.1)
  | [] => rfl
  | e :: rest => by
      have ih := getLast?_groupRuns rest
      rcases groupRuns_cons e rest with ⟨n, runs, hrest, -, heq⟩ | ⟨heq, -⟩
      · rw [hrest, List.getLast?_cons] at ih
        rw [heq, List.getLast?_cons, List.getLast?_cons, ih]
        cases runs.getLast? <;> rfl
      · rw [heq, List.getLast?_cons, List.getLast?_cons, ih]
        cases (groupRuns rest).getLast? <;> rfl

/-- If the last entry fills a place, then so does the last run. -/
theorem endsFilled_runs {entries : List Entry} (h : EndsFilled entries)
    (hplaces : placesOf entries < 2 ^ 32) : EndsFilled ((groupRuns entries).map runEntry) := by
  intro e he
  rw [List.getLast?_map, Option.mem_def, Option.map_eq_some_iff] at he
  obtain ⟨r, hr, rfl⟩ := he
  have hrun := isRun_of_mem_groupRuns (List.mem_of_mem_getLast? hr)
  have hlast : r.1 ∈ entries.getLast? := by rw [getLast?_groupRuns, hr]; rfl
  rw [hrun.width hplaces]
  exact Nat.mul_pos hrun.pos (h r.1 hlast)

theorem head?_of_head?_zip {α β : Type} {as : List α} {bs : List β} {p : α × β}
    (h : p ∈ (as.zip bs).head?) : as.head? = some p.1 ∧ bs.head? = some p.2 := by
  match as, bs, h with
  | a :: _, b :: _, h => obtain rfl := Option.some.inj h; exact ⟨rfl, rfl⟩

/-- **Equal neighbours share a node**, unless they are repetitions. -/
theorem shareInRow_runOwners : ∀ (entries : List Entry) (ids : List NodeId),
    (groupRuns entries).length = ids.length →
    ShareInRow entries (runOwners (groupRuns entries) ids)
  | [], _, _ => .nil
  | e :: rest, ids, hlen => by
      rcases groupRuns_cons e rest with ⟨n, runs, hrest, -, heq⟩ | ⟨heq, hapart⟩
      · rw [heq] at hlen ⊢
        obtain ⟨id, ids, rfl⟩ := List.exists_cons_of_length_eq_add_one hlen.symm
        have ih := shareInRow_runOwners rest (id :: ids) (by rw [hrest]; exact hlen)
        rw [hrest] at ih
        refine List.isChain_cons.mpr ⟨fun a ha _ _ => ?_, ih⟩
        -- the run goes on, so the next entry has the same node
        obtain ⟨m, rfl⟩ : ∃ m, n = m + 1 :=
          ⟨n - 1, by have := (isRun_of_mem_groupRuns (hrest ▸ List.mem_cons_self)).pos; omega⟩
        exact Option.some.inj (head?_of_head?_zip ha).2
      · rw [heq] at hlen ⊢
        obtain ⟨id, ids, rfl⟩ := List.exists_cons_of_length_eq_add_one hlen.symm
        have ih := shareInRow_runOwners rest ids (Nat.succ.inj hlen)
        refine List.isChain_cons.mpr ⟨fun a ha heq' hrep => ?_, ih⟩
        -- an equal entry would have joined the run
        have hhead := (head?_of_head?_zip ha).1
        rw [head?_groupRuns, Option.map_eq_some_iff] at hhead
        obtain ⟨⟨e', n⟩, hrest, he'⟩ := hhead
        obtain rfl : e = e' := heq'.trans he'.symm
        obtain ⟨runs, hruns⟩ := List.head?_eq_some_iff.mp hrest
        exact absurd (hapart n runs hruns) hrep

/-- One node stands at all the places of an entry, and at those of equal entries in a row. -/
def Shared (entries : List Entry) (ids : List NodeId) : Prop :=
  ∃ owners, owners.length = entries.length ∧ ids = spread entries owners ∧
    ShareInRow entries owners

/-! ### Reading arrays -/

namespace Constructed

/-- The places that are filled. -/
def ids : Constructed → List NodeId
  | single id => [id]
  | repeated id count => List.replicate count id

end Constructed

theorem Entry.ids_constructed (e : Entry) (id : NodeId) :
    (e.constructed id).ids = List.replicate e.width.toNat id := by
  cases e <;> rfl

/-- One entry of an array that has room for it. -/
theorem reads_fill_step {f : Family} {declared fuel filled : Nat} {x : Constructed}
    {ids : List NodeId} {c c' c'' : Cursor} (hdeclared : declared < UInt32.size)
    (hlt : filled < declared) (hx : Reader.Reads (Reader.entry f) c x c')
    (hle : filled + x.ids.length ≤ declared)
    (hrest : Reader.Reads (Reader.fill f declared fuel (filled + x.ids.length)) c' ids c'') :
    Reader.Reads (Reader.fill f declared (fuel + 1) filled) c (x.ids ++ ids) c'' := by
  rw [Reader.fill, if_neg (by omega)]
  refine hx.bind ?_
  cases x with
  | single id => exact hrest.map (id :: ·)
  | repeated id count =>
      rw [Constructed.ids, List.length_replicate] at hle hrest
      show Reader.Reads (if declared < min (filled + count) (UInt32.size - 1) then _ else _) _ _ _
      rw [if_neg (by omega)]
      rw [← Nat.mod_eq_of_lt (show filled + count < UInt32.size by omega)] at hrest
      exact hrest.map (List.replicate count id ++ ·)

/-- Every entry has a tag, so it takes a byte. -/
theorem WriteContext.entry_length_pos {w : WriteContext} {e : Entry} {bs : List UInt8}
    (h : w.entry e = .ofBytes bs) : 0 < bs.length := by
  cases e with
  | invalid | invalidPair =>
      rw [entry] at h
      rw [← Emission.ofBytes_inj h]
      exact Nat.one_pos
  | invalidNoModRM | null =>
      rw [entry] at h
      obtain ⟨b, -, rfl⟩ := optional_eq_ofBytes h
      exact Nat.one_pos
  | ref slot =>
      rw [entry, reference] at h
      split at h
      · exact absurd h Emission.fail_ne_ofBytes
      · split at h
        · rw [← Emission.ofBytes_inj h]; exact Nat.two_pos
        · exact absurd h Emission.fail_ne_ofBytes
  | repeated | node =>
      rw [entry] at h
      obtain ⟨bs', -, rfl⟩ := Emission.ofBytes_append_eq h
      simp

section Arrays

variable {w : WriteContext} {slots : List SlotTree} {c : Cursor} {bs : List UInt8}

/-- The round trip of an entry with the depth that the reader allows by itself. -/
theorem reads_entry {e : Entry} (hc : c.Agrees w slots)
    (hlaid : e.laidOut w.family (slots.map SlotTree.span)) (hw : w.entry e = .ofBytes bs)
    (hahead : c.Ahead bs) : ∃ id forest,
      Reader.Reads (Reader.entry w.family) c (e.constructed id)
        { c.skip bs.length with forest } ∧
      forest.Adds c.forest (e.labels w.family (slots.map SlotTree.span)) ∧
      forest.Unfolds id (e.tree w.family slots) := by
  obtain ⟨id, forest, hreads, hadds, ht⟩ :=
    readsBack_entry e hlaid (c.rest.length + 1) hc hw (Nat.le_succ_of_le hahead.length_le) hahead
  exact ⟨id, forest, (Reader.Reads.get c).bind hreads, hadds, ht⟩

/-- **Entries written one after the other fill the places they stand for.** -/
theorem reads_fill {declared : Nat} : ∀ {es : List Entry} {c : Cursor} {bs : List UInt8}
    {fuel filled : Nat}, declared < UInt32.size → c.Agrees w slots →
    (∀ e ∈ es, e.laidOut w.family (slots.map SlotTree.span)) → EndsFilled es →
    .concat (es.map w.entry) = Emission.ofBytes bs → c.Ahead bs → bs.length < fuel →
    declared = filled + placesOf es → ∃ owners forest,
      Reader.Reads (Reader.fill w.family declared fuel filled) c (spread es owners)
        { c.skip bs.length with forest } ∧
      forest.Adds c.forest (es.flatMap (·.labels w.family (slots.map SlotTree.span))) ∧
      List.Forall₂ (fun e id => forest.Unfolds id (e.tree w.family slots)) es owners
  | [], c, bs, fuel + 1, filled, _, hc, _, _, hw, _, _, hdeclared => by
      obtain rfl : [] = bs := Emission.ofBytes_inj hw
      refine ⟨[], c.forest, ?_, .refl _ _, .nil⟩
      rw [Reader.fill, if_pos (by rw [hdeclared]; exact Nat.le_refl _)]
      exact .pure _ _
  | e :: es, c, bs, fuel + 1, filled, hsize, hc, hlaid, hends, hw, hahead, hfuel, hdeclared => by
      obtain ⟨bs₁, bs₂, hw₁, hw₂, rfl⟩ := Emission.append_eq_ofBytes hw
      obtain ⟨hahead₁, hahead₂⟩ := Cursor.ahead_append.mp hahead
      obtain ⟨id, g, hread, hadds, ht⟩ := reads_entry hc (hlaid e List.mem_cons_self) hw₁ hahead₁
      have hagrees : ({ c.skip bs₁.length with forest := g } : Cursor).Agrees w slots :=
        hc.grow hadds.extend rfl
      have hpos := w.entry_length_pos hw₁
      have hplaces := placesOf_cons e es
      have hfilled := hends.placesOf_pos (List.cons_ne_nil e es)
      have hfuel₂ : bs₂.length < fuel := by rw [List.length_append] at hfuel; omega
      have hdeclared₂ : declared = filled + (e.constructed id).ids.length + placesOf es := by
        rw [hdeclared, hplaces, e.ids_constructed, List.length_replicate, Nat.add_assoc]
      obtain ⟨owners, g', hread', hadds', hts⟩ := reads_fill hsize hagrees
        (fun e he => hlaid e (List.mem_cons_of_mem _ he)) hends.tail hw₂ hahead₂ hfuel₂ hdeclared₂
      refine ⟨id :: owners, g', ?_, hadds'.trans hadds, .cons (ht.mono hadds'.extend) hts⟩
      have hstep := reads_fill_step hsize (by omega) hread (by omega) hread'
      rw [e.ids_constructed] at hstep
      rw [spread_cons, List.length_append, ← Cursor.skip_skip]
      exact hstep

/-- **An array is read as the nodes of its places.** -/
theorem reads_array {entries : List Entry} (hc : c.Agrees w slots)
    (hlaid : ∀ e ∈ entries, e.laidOut w.family (slots.map SlotTree.span))
    (hends : EndsFilled entries) (hplaces : placesOf entries < 2 ^ 32)
    (hw : .ofBytes (Compressed.encode (Entry.places entries))
      ++ .concat ((groupRuns entries).map w.run) = Emission.ofBytes bs)
    (hahead : c.Ahead bs) : ∃ ids forest,
      Reader.Reads (Reader.array w.family) c ids { c.skip bs.length with forest } ∧
      forest.Adds c.forest (entries.flatMap (·.labels w.family (slots.map SlotTree.span))) ∧
      List.Forall₂ forest.Unfolds ids (entries.flatMap fun e =>
        List.replicate e.width.toNat (e.tree w.family slots)) ∧
      Shared entries ids := by
  obtain ⟨bs', hruns, rfl⟩ := Emission.ofBytes_append_eq hw
  obtain ⟨hcount, hahead⟩ := Cursor.ahead_append.mp hahead
  have hrun : ∀ r ∈ groupRuns entries, IsRun entries r := fun _ => isRun_of_mem_groupRuns
  have hwidth : ∀ r ∈ groupRuns entries, (runEntry r).width.toNat = r.2 * r.1.width.toNat :=
    fun r hr => (hrun r hr).width hplaces
  have hagrees : (c.skip (Compressed.encode (Entry.places entries)).length).Agrees w slots :=
    hc.grow (.refl _) rfl
  have hwritten : .concat (((groupRuns entries).map runEntry).map w.entry)
      = Emission.ofBytes bs' := by
    rw [← hruns, List.map_map, run_eq_entry]
  have hdeclared : placesOf ((groupRuns entries).map runEntry) < UInt32.size := by
    rw [placesOf_map_runEntry hwidth, flatMap_groupRuns]
    exact hplaces
  obtain ⟨owners, forest, hread, hadds, hts⟩ := reads_fill hdeclared hagrees
    (List.forall_mem_map.mpr fun r hr => (hrun r hr).laidOut hlaid) (endsFilled_runs hends hplaces)
    hwritten hahead
    (Nat.lt_of_le_of_lt hahead.length_le (Nat.lt_add_of_pos_right Nat.two_pos))
    (Nat.zero_add _).symm
  have howners : (groupRuns entries).length = owners.length := by
    rw [← hts.length_eq, List.length_map]
  have hentries : List.Forall₂ (fun e id => forest.Unfolds id (e.tree w.family slots)) entries
      (runOwners (groupRuns entries) owners) := by
    simp only [List.forall₂_map_left_iff, tree_runEntry] at hts
    have h := forall₂_runOwners (R := fun e id => forest.Unfolds id (e.tree w.family slots)) hts
    rwa [flatMap_groupRuns] at h
  have hids : spread ((groupRuns entries).map runEntry) owners
      = spread entries (runOwners (groupRuns entries) owners) := by
    rw [spread_map_runEntry howners hwidth, flatMap_groupRuns]
  rw [placesOf_map_runEntry hwidth, flatMap_groupRuns, hids] at hread
  refine ⟨_, forest, ?_, ?_, forall₂_spread hentries,
    _, hentries.length_eq.symm, rfl, shareInRow_runOwners entries owners howners⟩
  · refine (Reader.reads_number hcount).bind ((Reader.Reads.get _).bind ?_)
    rw [toNat_places hplaces, List.length_append, ← Cursor.skip_skip]
    exact hread
  · refine hadds.mono fun n hn => ?_
    obtain ⟨e, he, hn⟩ := List.mem_flatMap.mp hn
    obtain ⟨r, hr, rfl⟩ := List.mem_map.mp he
    exact List.mem_flatMap.mpr ⟨r.1, (hrun r hr).mem, labels_runEntry _ _ r ▸ hn⟩

/-- **An array record is read to its last byte**, and each of its places gets a node. -/
theorem reads_arrayRecord {entries : List Entry} (hc : c.Agrees w slots)
    (hlaid : ∀ e ∈ entries, e.laidOut w.family (slots.map SlotTree.span))
    (hends : EndsFilled entries) (hplaces : placesOf entries < 2 ^ 32)
    (hw : w.record (.array entries) = .ofBytes bs) (hahead : c.Ahead bs) : ∃ ids forest,
      Reader.Reads (Reader.slotRecord w.family) c (.array ids) { c.skip bs.length with forest } ∧
      forest.Adds c.forest (entries.flatMap (·.labels w.family (slots.map SlotTree.span))) ∧
      List.Forall₂ forest.Unfolds ids (entries.flatMap fun e =>
        List.replicate e.width.toNat (e.tree w.family slots)) ∧
      Shared entries ids := by
  have hagrees : (c.skip 1).Agrees w slots := hc.grow (.refl _) rfl
  rw [WriteContext.record, ← List.singleton_append, ← Emission.ofBytes_append,
    Emission.append_assoc] at hw
  obtain ⟨bs', hes, rfl⟩ := Emission.ofBytes_append_eq hw
  obtain ⟨hkind, hahead⟩ := Cursor.ahead_cons.mp hahead
  obtain ⟨ids, forest, hread, hadds, ht, hshared⟩ :=
    reads_array hagrees hlaid hends hplaces hes hahead
  rw [Cursor.skip_skip] at hread
  refine ⟨ids, forest, ?_, hadds, ht, hshared⟩
  rw [List.length_append]
  exact (Reader.reads_position c).bind ((Reader.reads_byte hkind).bind (hread.map Slot.array))

end Arrays

end OpcodeForest
