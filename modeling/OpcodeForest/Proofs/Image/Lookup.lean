import Mathlib.Algebra.GroupWithZero.Nat
import Mathlib.Data.List.Find
import OpcodeForest.Image

/-!
# Addresses of an image

The limit of a segment is a 64-bit number, so it is the address after the last byte only where the
segment ends below the top of the address space. The limit of any other segment lies at or below its
base, and the segment then holds no address at all.

* `Segment.contains_iff_covers`: which addresses a segment holds.
* `Image.segmentAt?_eq_some_iff`: the segment that is asked for an address is the first one of them.
* `address_lookup`: what the lookups of an image give for each address.
-/

namespace OpcodeForest

/-! ### Addresses of a segment -/

namespace Segment

variable {s : Segment} {a : UInt64} {n : Nat}

/-- The segment ends below the highest address there is, so that its limit is an address. -/
def Fits (s : Segment) : Prop := s.base.toNat + s.bytes.length < UInt64.size

instance (s : Segment) : Decidable s.Fits := inferInstanceAs (Decidable (_ < _))

/-- The limit of a segment that ends below the top of the address space. -/
theorem toNat_limit (h : s.Fits) : s.limit.toNat = s.base.toNat + s.bytes.length := by
  have hlength : s.bytes.length < UInt64.size := Nat.lt_of_le_of_lt (Nat.le_add_left _ _) h
  rw [limit, UInt64.toNat_add, UInt64.toNat_ofNat_of_lt' hlength]
  exact Nat.mod_eq_of_lt h

/-- Its addresses form an interval. -/
theorem contains_iff (h : s.Fits) : s.contains a ↔
    s.base.toNat ≤ a.toNat ∧ a.toNat < s.base.toNat + s.bytes.length := by
  rw [contains, Bool.and_eq_true, decide_eq_true_eq, decide_eq_true_eq, UInt64.le_iff_toNat_le,
    UInt64.lt_iff_toNat_lt, toNat_limit h]

/-- The address is that of one of the bytes, in exact arithmetic. -/
def Covers (s : Segment) (a : UInt64) : Prop :=
  s.base.toNat ≤ a.toNat ∧ a.toNat < s.base.toNat + s.bytes.length

instance (s : Segment) (a : UInt64) : Decidable (s.Covers a) := inferInstanceAs (Decidable (_ ∧ _))

/-- The limit of a segment that reaches the top of the address space, or goes past it, comes round
to the base or below. -/
theorem limit_le_base (h : ¬ s.Fits) (hlength : s.bytes.length < UInt64.size) :
    s.limit.toNat ≤ s.base.toNat := by
  have hpast : UInt64.size ≤ s.base.toNat + s.bytes.length := Nat.le_of_not_lt h
  have hbase : s.base.toNat < UInt64.size := s.base.toNat_lt_size
  rw [limit, UInt64.toNat_add, UInt64.toNat_ofNat_of_lt' hlength,
    show (2 : Nat) ^ 64 = UInt64.size from rfl, Nat.mod_eq_sub_mod hpast,
    Nat.mod_eq_of_lt (by omega)]
  omega

/-- **A segment holds the addresses of its bytes if it ends below the top of the address space, and
none otherwise.** -/
theorem contains_iff_covers (hlength : s.bytes.length < UInt64.size) :
    s.contains a ↔ s.Fits ∧ s.Covers a := by
  by_cases h : s.Fits
  · rw [contains_iff h, and_iff_right h]
    exact Iff.rfl
  · refine iff_of_false (fun ha => ?_) fun ha => h ha.1
    have hlimit := limit_le_base h hlength
    rw [contains, Bool.and_eq_true, decide_eq_true_eq, decide_eq_true_eq, UInt64.le_iff_toNat_le,
      UInt64.lt_iff_toNat_lt] at ha
    omega

theorem covers_add (h : s.Fits) (hn : n < s.bytes.length) : s.Covers (s.base + UInt64.ofNat n) := by
  have hend : s.base.toNat + s.bytes.length < UInt64.size := h
  have hadd : (s.base + UInt64.ofNat n).toNat = s.base.toNat + n := by
    rw [UInt64.toNat_add, UInt64.toNat_ofNat_of_lt' (by omega)]
    exact Nat.mod_eq_of_lt (by rw [show (2 : Nat) ^ 64 = UInt64.size from rfl]; omega)
  rw [Covers, hadd]
  omega

/-- The address `a` is in the segment or at its end. -/
structure Spans (s : Segment) (a : UInt64) : Prop where
  lower : s.base.toNat ≤ a.toNat
  upper : a.toNat ≤ s.base.toNat + s.bytes.length

theorem spans_of_contains (h : s.Fits) (ha : s.contains a) : s.Spans a := by
  obtain ⟨hlower, hupper⟩ := (contains_iff h).mp ha
  exact ⟨hlower, Nat.le_of_lt hupper⟩

/-- The limit is the only other address that a listing can reach. -/
theorem contains_or_eq_limit (h : s.Fits) (ha : s.Spans a) : s.contains a ∨ a = s.limit := by
  rcases Nat.lt_or_eq_of_le ha.upper with hlt | heq
  · exact .inl ((contains_iff h).mpr ⟨ha.lower, hlt⟩)
  · exact .inr (UInt64.toNat.inj (heq.trans (toNat_limit h).symm))

/-- The bytes from an address on. -/
theorem Spans.bytesFrom_eq (ha : s.Spans a) :
    s.bytesFrom a = s.bytes.drop (a.toNat - s.base.toNat) := by
  rw [bytesFrom, UInt64.toNat_sub_of_le _ _ (UInt64.le_iff_toNat_le.mpr ha.lower)]

theorem Spans.length_bytesFrom (ha : s.Spans a) :
    (s.bytesFrom a).length = s.base.toNat + s.bytes.length - a.toNat := by
  have hlower := ha.lower
  rw [ha.bytesFrom_eq, List.length_drop]
  omega

/-- As many bytes further on, an address is still in the segment or at its end. -/
theorem Spans.toNat_add (h : s.Fits) (ha : s.Spans a) (hn : n ≤ (s.bytesFrom a).length) :
    (a + UInt64.ofNat n).toNat = a.toNat + n := by
  have hupper := ha.upper
  rw [ha.length_bytesFrom] at hn
  have hfits : a.toNat + n < UInt64.size := by
    have hsize : s.base.toNat + s.bytes.length < UInt64.size := h
    omega
  rw [UInt64.toNat_add, UInt64.toNat_ofNat_of_lt' (Nat.lt_of_le_of_lt (Nat.le_add_left _ _) hfits)]
  exact Nat.mod_eq_of_lt hfits

/-- Going forward over bytes that are there. -/
theorem Spans.add (h : s.Fits) (ha : s.Spans a) (hn : n ≤ (s.bytesFrom a).length) :
    s.Spans (a + UInt64.ofNat n) := by
  have hsum := ha.toNat_add h hn
  have hlower := ha.lower
  have hupper := ha.upper
  rw [ha.length_bytesFrom] at hn
  constructor <;> omega

/-- What is left after going forward. -/
theorem Spans.bytesFrom_add (h : s.Fits) (ha : s.Spans a) (hn : n ≤ (s.bytesFrom a).length) :
    s.bytesFrom (a + UInt64.ofNat n) = (s.bytesFrom a).drop n := by
  have hlower := ha.lower
  rw [(ha.add h hn).bytesFrom_eq, ha.toNat_add h hn, ha.bytesFrom_eq, List.drop_drop]
  congr 1
  omega

/-- Bytes are left exactly at the addresses that the segment holds. -/
theorem Spans.bytesFrom_ne_nil (h : s.Fits) (ha : s.Spans a) :
    s.bytesFrom a ≠ [] ↔ s.contains a := by
  have hlower := ha.lower
  rw [← List.length_pos_iff, ha.length_bytesFrom, contains_iff h]
  omega

end Segment

/-! ### Lookups -/

namespace Image

variable {image : Image} {s : Segment} {a : UInt64}

/-- The first segment, in the order of the list, that ends below the top of the address space and
covers the address. -/
def First (image : Image) (a : UInt64) (s : Segment) : Prop :=
  ∃ before after, image.segments = before ++ s :: after ∧ s.Fits ∧ s.Covers a ∧
    ∀ s' ∈ before, s'.Fits → ¬ s'.Covers a

/-- The length of each segment is a 64-bit number. -/
def Sized (image : Image) : Prop := ∀ s ∈ image.segments, s.bytes.length < UInt64.size

instance (image : Image) : Decidable image.Sized := inferInstanceAs (Decidable (∀ s ∈ _, _))

/-- **The segment of an address is the first that covers it.** -/
theorem segmentAt?_eq_some_iff (h : image.Sized) :
    image.segmentAt? a = some s ↔ image.First a s := by
  have hcontains : ∀ s ∈ image.segments, s.contains a ↔ s.Fits ∧ s.Covers a :=
    fun s hs => Segment.contains_iff_covers (h s hs)
  rw [segmentAt?, List.find?_eq_some_iff_append]
  constructor
  · rintro ⟨hs, before, after, heq, hbefore⟩
    obtain ⟨hfits, hcovers⟩ := (hcontains s (by simp [heq])).mp hs
    refine ⟨before, after, heq, hfits, hcovers, fun s' hs' hfits' hcovers' => ?_⟩
    have hnot := hbefore s' hs'
    rw [(hcontains s' (by simp [heq, hs'])).mpr ⟨hfits', hcovers'⟩] at hnot
    cases hnot
  · rintro ⟨before, after, heq, hfits, hcovers, hbefore⟩
    refine ⟨(hcontains s (by simp [heq])).mpr ⟨hfits, hcovers⟩, before, after, heq,
      fun s' hs' => ?_⟩
    rw [Bool.not_eq_true', ← Bool.not_eq_true, hcontains s' (by simp [heq, hs']), not_and]
    exact hbefore s' hs'

/-- No segment is asked exactly where none covers the address. -/
theorem segmentAt?_eq_none_iff (h : image.Sized) :
    image.segmentAt? a = none ↔ ∀ s ∈ image.segments, s.Fits → ¬ s.Covers a := by
  rw [segmentAt?, List.find?_eq_none]
  refine forall₂_congr fun s hs => ?_
  rw [Segment.contains_iff_covers (h s hs), not_and]

theorem isMapped_eq_isSome (image : Image) (a : UInt64) :
    image.isMapped a = (image.segmentAt? a).isSome := by
  rw [segmentAt?, List.isSome_find?]
  rfl

/-- An address of a segment is served by that segment or by one before it. -/
theorem exists_first (h : image.Sized) (hs : s ∈ image.segments) (hfits : s.Fits)
    (hcovers : s.Covers a) : ∃ s', image.First a s' := by
  have hsome : image.segmentAt? a ≠ none := fun hnone =>
    (segmentAt?_eq_none_iff h).mp hnone s hs hfits hcovers
  obtain ⟨s', hs'⟩ := Option.ne_none_iff_exists'.mp hsome
  exact ⟨s', (segmentAt?_eq_some_iff h).mp hs'⟩

end Image

/-- **The lookups of an image agree, and serve the addresses of every segment that ends below the
top of the address space.** Each address of such a segment is mapped, and the byte there is that
of the first such segment which covers the address; the bytes up to an end are those of that
segment, from the address to the end or to the last byte, and none where the end is not behind the
address. Any other address is not mapped: also the addresses of a segment whose last byte has the
highest address. -/
theorem address_lookup {image : Image} (h : image.Sized) :
    (∀ s ∈ image.segments, s.Fits → ∀ i < s.bytes.length,
      image.isMapped (s.base + UInt64.ofNat i) ∧
        ∃ s', image.First (s.base + UInt64.ofNat i) s') ∧
    (∀ a s, image.First a s → image.isMapped a ∧
      ∃ i, a.toNat = s.base.toNat + i ∧ i < s.bytes.length ∧ image.byteAt? a = s.bytes[i]? ∧
        ∀ stop : UInt64, let n := min stop.toNat (s.base.toNat + s.bytes.length) - a.toNat
          i + n ≤ s.bytes.length ∧ image.bytesAt? a stop = some ((s.bytes.drop i).take n) ∧
            (stop ≤ a → image.bytesAt? a stop = some [])) ∧
    (∀ a, (∀ s ∈ image.segments, s.Fits → ¬ s.Covers a) →
      image.isMapped a = false ∧ image.byteAt? a = none ∧
        ∀ stop, image.bytesAt? a stop = none) := by
  refine ⟨fun s hs hfits i hi => ?_, fun a s hfirst => ?_, fun a hnone => ?_⟩
  · obtain ⟨s', hfirst⟩ := Image.exists_first h hs hfits (Segment.covers_add hfits hi)
    refine ⟨?_, s', hfirst⟩
    rw [Image.isMapped_eq_isSome, (Image.segmentAt?_eq_some_iff h).mpr hfirst]
    rfl
  · have hat := (Image.segmentAt?_eq_some_iff h).mpr hfirst
    obtain ⟨-, -, -, hfits, ⟨hlower, hupper⟩, -⟩ := hfirst
    have hspans : s.Spans a := ⟨hlower, Nat.le_of_lt hupper⟩
    refine ⟨by rw [Image.isMapped_eq_isSome, hat]; rfl, a.toNat - s.base.toNat, by omega, by omega,
      ?_, fun stop => ?_⟩
    · rw [Image.byteAt?, hat, ← List.head?_drop, ← hspans.bytesFrom_eq]
      rfl
    · have hbytes : image.bytesAt? a stop = some ((s.bytes.drop (a.toNat - s.base.toNat)).take
          (min stop.toNat (s.base.toNat + s.bytes.length) - a.toNat)) := by
        rw [Image.bytesAt?, hat, Option.map_some, hspans.bytesFrom_eq, UInt64.toNat_min,
          Segment.toNat_limit hfits]
      refine ⟨by omega, hbytes, fun hstop => ?_⟩
      rw [UInt64.le_iff_toNat_le] at hstop
      rw [hbytes, show min stop.toNat _ - a.toNat = 0 by omega, List.take_zero]
  · have hat := (Image.segmentAt?_eq_none_iff h).mpr hnone
    refine ⟨by rw [Image.isMapped_eq_isSome, hat]; rfl, by rw [Image.byteAt?, hat]; rfl,
      fun stop => ?_⟩
    rw [Image.bytesAt?, hat]
    rfl

/-- Two segments that overlap, behind one that reaches the top of the address space. The byte at the
overlap and the bytes from there on are those of the first of the two, and the last address, though
a byte stands there, is not mapped. -/
theorem address_lookup_small :
    let first : Segment := { base := 16, bytes := [1, 2, 3] }
    let second : Segment := { base := 18, bytes := [9, 8] }
    let top : Segment := { base := 0xFFFFFFFFFFFFFFFE, bytes := [5, 6] }
    let image : Image := ⟨[top, first, second]⟩
    image.Sized ∧ image.isMapped 19 ∧ image.byteAt? 18 = some 3 ∧
      image.bytesAt? 18 64 = some [3] ∧ image.bytesAt? 18 18 = some [] ∧
      top.Covers 0xFFFFFFFFFFFFFFFF ∧ image.isMapped 0xFFFFFFFFFFFFFFFF = false := by
  intro first second top image
  have hsized : image.Sized := by decide
  obtain ⟨hsegments, hfirst, hnone⟩ := address_lookup hsized
  obtain ⟨-, i, hi, -, hbyte, hbytes⟩ :=
    hfirst 18 first ⟨[top], [second], rfl, by decide, by decide, by decide⟩
  obtain rfl : 2 = i := Nat.add_left_cancel (n := 16) hi
  exact ⟨hsized, (hsegments second (by decide) (by decide) 1 (by decide)).1, hbyte,
    (hbytes 64).2.1, (hbytes 18).2.2 (by decide), by decide,
    (hnone 0xFFFFFFFFFFFFFFFF (by decide)).1⟩

end OpcodeForest
