import Mathlib.Algebra.GroupWithZero.Nat
import Mathlib.Data.List.Forall2
import OpcodeForest.Table.Reader

/-!
# Readers on bytes that are known

`Reads r c a c'` says that the reader `r`, started at the cursor `c`, gives `a` and stops at
`c'`. The bytes that come next are described by `Cursor.Ahead`, and passing over them is
`Cursor.skip`; a reader of one field is then a statement "if the bytes of the field lie ahead,
the field is read and the cursor skips them".

* `reads_number`: the compressed form of a number is read as the number.
* `reads_codes`: consecutive codes are read from the number of the first.
-/

namespace OpcodeForest

namespace Cursor

/-- `n` bytes further on. -/
def skip (n : Nat) (c : Cursor) : Cursor :=
  { c with rest := c.rest.drop n, offset := c.offset + n }

/-- The next bytes are `bytes`. -/
def Ahead (c : Cursor) (bytes : List UInt8) : Prop := bytes <+: c.rest

@[simp] theorem skip_forest (n : Nat) (c : Cursor) : (c.skip n).forest = c.forest := rfl

@[simp] theorem skip_rest (n : Nat) (c : Cursor) : (c.skip n).rest = c.rest.drop n := rfl

theorem skip_skip (m n : Nat) (c : Cursor) : (c.skip m).skip n = c.skip (m + n) := by
  simp [skip, Nat.add_assoc]

/-- Bytes lie ahead when their first part does, and the second part behind it. -/
theorem ahead_append {c : Cursor} {as bs : List UInt8} :
    c.Ahead (as ++ bs) ↔ c.Ahead as ∧ (c.skip as.length).Ahead bs := by
  constructor
  · rintro ⟨tail, h⟩
    refine ⟨⟨bs ++ tail, by rw [← h, List.append_assoc]⟩, tail, ?_⟩
    rw [skip_rest, ← h, List.append_assoc, List.drop_left]
  · rintro ⟨⟨tail, h⟩, tail', h'⟩
    refine ⟨tail', ?_⟩
    rw [skip_rest, ← h, List.drop_left] at h'
    rw [List.append_assoc, h', h]

theorem ahead_cons {c : Cursor} {b : UInt8} {bs : List UInt8} :
    c.Ahead (b :: bs) ↔ c.Ahead [b] ∧ (c.skip 1).Ahead bs := by
  rw [← List.singleton_append, ahead_append, List.length_singleton]

theorem Ahead.length_le {c : Cursor} {bs : List UInt8} (h : c.Ahead bs) :
    bs.length ≤ c.rest.length := List.IsPrefix.length_le h

end Cursor

namespace Reader

variable {α β : Type}

/-- A reader in sequence goes on where the first one stopped, unless that failed. -/
theorem run_bind (r : Reader α) (g : α → Reader β) (c : Cursor) :
    (r >>= g).run c = match r.run c with
      | (.ok a, c') => (g a).run c'
      | (.error e, c') => (.error e, c') := by
  show (match r c with | (a, c') => ExceptT.bindCont g a c') = match r c with
    | (.ok a, c') => (g a).run c'
    | (.error e, c') => (.error e, c')
  rcases r c with ⟨_ | _, _⟩ <;> rfl

/-- Started at `c`, the reader gives `a` and stops at `c'`. -/
def Reads (r : Reader α) (c : Cursor) (a : α) (c' : Cursor) : Prop := r.run c = (.ok a, c')

namespace Reads

theorem pure (a : α) (c : Cursor) : Reads (Pure.pure a) c a c := rfl

theorem get (c : Cursor) : Reads MonadState.get c c c := rfl

theorem set (c c' : Cursor) : Reads (MonadStateOf.set c') c () c' := rfl

/-- **One after the other.** -/
theorem bind {r : Reader α} {g : α → Reader β} {c c' c'' : Cursor} {a : α} {b : β}
    (h : Reads r c a c') (h' : Reads (g a) c' b c'') : Reads (r >>= g) c b c'' := by
  unfold Reads at h h' ⊢
  rw [run_bind, h]
  exact h'

theorem map {r : Reader α} {c c' : Cursor} {a : α} (g : α → β) (h : Reads r c a c') :
    Reads (do return g (← r)) c (g a) c' :=
  h.bind (.pure _ _)

end Reads

/-- What a successful reader leaves to the next one. -/
theorem run_bind_of_reads {r : Reader α} {g : α → Reader β} {c c' : Cursor} {a : α}
    (h : Reads r c a c') : (r >>= g).run c = (g a).run c' := by
  rw [run_bind, h]

theorem run_map (f : α → β) {r : Reader α} {c c' : Cursor} {x : Except TableError α}
    (h : r.run c = (x, c')) : (do return f (← r) : Reader β).run c = (x.map f, c') := by
  rw [run_bind, h]
  cases x <;> rfl

/-- A sequence that reads is made of two readers that read. -/
theorem reads_bind_inv {r : Reader α} {g : α → Reader β} {c c' : Cursor} {b : β}
    (h : Reads (r >>= g) c b c') : ∃ a c₁, Reads r c a c₁ ∧ Reads (g a) c₁ b c' := by
  unfold Reads at h
  rw [run_bind] at h
  split at h
  · rename_i a c₁ hr
    exact ⟨a, c₁, hr, h⟩
  · cases h

/-! ### Bytes and numbers -/

/-- The next byte. -/
theorem reads_byte {c : Cursor} {b : UInt8} (h : c.Ahead [b]) : Reads byte c b (c.skip 1) := by
  obtain ⟨tail, h⟩ := h
  have hskip : c.skip 1 = { c with rest := tail, offset := c.offset + 1 } := by
    rw [Cursor.skip, ← h]; rfl
  rw [hskip]
  refine (Reads.get c).bind ?_
  rw [← h]
  exact (Reads.set _ _).bind (.pure _ _)

theorem reads_position (c : Cursor) : Reads position c c.offset c := rfl

/-- The last byte of a number. A fifth one holds four bits only. -/
theorem run_groups_last {start n : Nat} {c : Cursor} {b : UInt8} (h : c.Ahead [b]) (hb : b < 128)
    (hlast : n = 0 → b ≤ 15) :
    (groups start (n + 1)).run c = (.ok b.toNat, c.skip 1) := by
  have hfits : ¬ (n = 0 ∧ 15 < b) := fun hover => UInt8.not_lt.mpr (hlast hover.1) hover.2
  rw [groups, run_bind_of_reads (reads_byte h), if_neg hfits, if_pos hb]
  rfl

/-- A byte that announces another: its digit comes below what is read then. -/
theorem run_groups_more {start n : Nat} {c c' : Cursor} {b : UInt8} {x : Except TableError Nat}
    (h : c.Ahead [b]) (hb : 128 ≤ b) (hx : (groups start (n + 1)).run (c.skip 1) = (x, c')) :
    (groups start (n + 2)).run c = (x.map (b.toNat % 128 + 128 * ·), c') := by
  rw [groups, run_bind_of_reads (reads_byte h), if_neg (by omega), if_neg (UInt8.not_lt.mpr hb)]
  exact run_map _ hx

/-- The groups of a number that fits into `k + 1` of them, the last of four bits. -/
theorem reads_groups {start : Nat} : ∀ (k : Nat) {v : Nat} {c : Cursor}, v < 16 * 128 ^ k →
    c.Ahead (Compressed.encodeGroups (k + 1) v) →
    Reads (groups start (k + 1)) c v (c.skip (Compressed.encodeGroups (k + 1) v).length)
  | k, v, c, hv, h => by
      by_cases hsmall : v < 128
      · have hbytes : Compressed.encodeGroups (k + 1) v = [UInt8.ofNat v] := by
          simp [Compressed.encodeGroups, hsmall]
        have hb : (UInt8.ofNat v).toNat = v := by simp; omega
        have hlt : UInt8.ofNat v < 128 := by simpa [UInt8.lt_iff_toNat_lt, hb] using hsmall
        have hlast (hk : k = 0) : UInt8.ofNat v ≤ 15 := by
          rw [hk] at hv
          rw [UInt8.le_iff_toNat_le, hb]
          exact Nat.le_of_lt_succ hv
        rw [hbytes] at h ⊢
        rw [Reads, run_groups_last h hlt hlast, hb]
        rfl
      · obtain ⟨k, rfl⟩ : ∃ j, k = j + 1 := ⟨k - 1, by
          have : k ≠ 0 := by rintro rfl; omega
          omega⟩
        have hbytes : Compressed.encodeGroups (k + 1 + 1) v
            = UInt8.ofNat (v % 128 + 128) :: Compressed.encodeGroups (k + 1) (v / 128) := by
          simp [Compressed.encodeGroups, hsmall]
        rw [hbytes, Cursor.ahead_cons] at h
        have hb : (UInt8.ofNat (v % 128 + 128)).toNat = v % 128 + 128 := by simp; omega
        have hle : 128 ≤ UInt8.ofNat (v % 128 + 128) := by
          rw [UInt8.le_iff_toNat_le, hb]
          exact Nat.le_add_left _ _
        have hhigh : v / 128 < 16 * 128 ^ k := by
          rw [Nat.div_lt_iff_lt_mul (by omega)]
          rw [Nat.pow_succ] at hv; omega
        have hval : (UInt8.ofNat (v % 128 + 128)).toNat % 128 + 128 * (v / 128) = v := by
          rw [hb]; omega
        rw [Reads, run_groups_more h.1 hle (reads_groups k hhigh h.2), Except.map, hval, hbytes,
          Cursor.skip_skip, List.length_cons, Nat.add_comm 1]

/-- **A compressed number is read as the number.** -/
theorem reads_number {n : UInt32} {c : Cursor} (h : c.Ahead (Compressed.encode n)) :
    Reads number c n.toNat (c.skip (Compressed.encode n).length) :=
  (reads_position c).bind (reads_groups 4 (by have := n.toNat_lt; omega) h)

/-! ### Bytes with a meaning -/

/-- A byte that has a meaning. -/
theorem reads_byteAs {f : UInt8 → Option α} {fault : UInt8 → Nat → TableError} {c : Cursor}
    {b : UInt8} {a : α} (h : c.Ahead [b]) (ha : f b = some a) :
    Reads (byteAs f fault) c a (c.skip 1) := by
  refine (reads_position c).bind ((reads_byte h).bind ?_)
  rw [ha]
  exact .pure _ _

/-- Registers are numbered below 256, so the byte spells the register. -/
theorem reads_register {r : Register} {c : Cursor} (h : c.Ahead [UInt8.ofNat r.index]) :
    Reads register c r (c.skip 1) := by
  refine reads_byteAs h ?_
  have hr : (UInt8.ofNat r.index).toNat = r.index := by
    have := r.index.isLt; simp; omega
  rw [hr, Register.ofIndex?, dif_pos r.index.isLt]

theorem reads_tuple {t : TupleType} {c : Cursor} (h : c.Ahead [UInt8.ofNat t.number]) :
    Reads tuple c t (c.skip 1) :=
  reads_byteAs h (by cases t <;> rfl)

theorem reads_flag {b : Bool} {c : Cursor} (h : c.Ahead [if b then 1 else 0]) :
    Reads flag c b (c.skip 1) :=
  reads_byteAs h (by cases b <;> rfl)

/-- An earlier record is looked up, and the cursor stays where it is. -/
theorem run_slot (n : UInt8) (c : Cursor) : (slot n).run c
    = ((c.slots[n.toNat]?).elim (.error (.badSlot n.toNat c.slots.length)) .ok, c) := by
  refine (run_bind_of_reads (Reads.get c)).trans ?_
  cases c.slots[n.toNat]? <;> rfl

theorem reads_slot {c : Cursor} {n : UInt8} {s : Slot} (h : c.slots[n.toNat]? = some s) :
    Reads (slot n) c s c := by
  rw [Reads, run_slot, h]
  rfl

theorem reads_single {entry : Reader Constructed} {c c' : Cursor} {id : NodeId}
    (h : Reads entry c (.single id) c') : Reads (single entry) c id c' :=
  h.bind (.pure _ _)

/-- A new node gets the number that is next. -/
theorem reads_push (n : Node) (c : Cursor) :
    Reads (push n) c ⟨c.forest.size⟩ { c with forest := c.forest.push n } :=
  (Reads.get c).bind ((Reads.set _ _).bind (.pure _ _))

/-! ### Codes -/

/-- A code by its distance from the first of its group. -/
theorem reads_codeAt {base offset n : Nat} {code : Code} (h : base + n = code.number)
    (c : Cursor) : Reads (codeAt base offset n) c code c := by
  unfold codeAt
  rw [h, Code.ofNumber?, dif_pos code.number.isLt]
  exact .pure _ _

theorem reads_mapM_codeAt {base offset : Nat} {c : Cursor} : ∀ {ns : List Nat} {cs : List Code},
    List.Forall₂ (fun n (code : Code) => base + n = code.number) ns cs →
    Reads (ns.mapM (codeAt base offset)) c cs c
  | _, _, .nil => .pure _ _
  | _, _, .cons h t => by
      rw [List.mapM_cons]
      exact (reads_codeAt h c).bind ((reads_mapM_codeAt t).bind (.pure _ _))

/-- The number of a code fits into the word that is written for it. -/
theorem toNat_ofNat_number (code : Code) : (UInt32.ofNat code.number).toNat = code.number := by
  have := code.number.isLt
  simp; omega

/-- **Consecutive codes are read from the number of the first.** -/
theorem reads_codes {base : Code} {cs : List Code} {c : Cursor}
    (hcs : List.Forall₂ (fun n (code : Code) => base.number.val + n = code.number)
      (List.range cs.length) cs)
    (h : c.Ahead (Compressed.encode (UInt32.ofNat base.number))) :
    Reads (codes cs.length) c cs
      (c.skip (Compressed.encode (UInt32.ofNat base.number)).length) := by
  refine (reads_position c).bind ((reads_number h).bind ?_)
  rw [toNat_ofNat_number]
  exact reads_mapM_codeAt hcs

/-- A single code is a group of one. -/
theorem reads_code {code : Code} {c : Cursor}
    (h : c.Ahead (Compressed.encode (UInt32.ofNat code.number))) :
    Reads Reader.code c code (c.skip (Compressed.encode (UInt32.ofNat code.number)).length) := by
  refine (reads_position c).bind ((reads_number h).bind ?_)
  rw [toNat_ofNat_number]
  exact reads_codeAt rfl _

end Reader

end OpcodeForest
