import Mathlib.Data.Nat.Bitwise
import Mathlib.Data.Nat.Digits.Defs
import OpcodeForest.Proofs.Table.Reads

/-!
# Compressed integers, exactly

A number is spelled by bytes of which all but the last announce another one; its digits to the base
128 are the low seven bits of the bytes, the least significant first. A spelling need not be the
shortest. The reader takes the spellings of at most five bytes whose number has 32 bits, and these
only. The bound of five bytes follows from one check: the fifth byte may hold four bits and announce
nothing.

* `run_groups_front`: bytes that announce another add their digits to what is read after them.
* `fits_iff`: a spelling fits if a fifth byte holds four bits.
* `spelling_or_overflow_or_cut`: every sequence of bytes begins in one of three ways.
* `assemble_of_groups`: the same number put together in a word, which no digit is shifted out of.
* `number_exact`: what is read from every sequence of bytes.
-/

namespace OpcodeForest

namespace Compressed

/-! ### Spellings -/

/-- The number whose digits to the base 128 the bytes hold, the least significant first. -/
def value (bytes : List UInt8) : Nat := Nat.ofDigits 128 (bytes.map fun b => b.toNat % 128)

@[simp] theorem value_nil : value [] = 0 := rfl

@[simp] theorem value_cons (b : UInt8) (bytes : List UInt8) :
    value (b :: bytes) = b.toNat % 128 + 128 * value bytes := rfl

/-- Digits in a row, the lower ones first. -/
theorem value_append (front bytes : List UInt8) :
    value (front ++ bytes) = value front + 128 ^ front.length * value bytes := by
  rw [value, List.map_append, Nat.ofDigits_append, List.length_map]
  rfl

/-- Each byte has one digit to the base 128. -/
theorem value_lt (bytes : List UInt8) : value bytes < 128 ^ bytes.length := by
  rw [← List.length_map (fun b : UInt8 => b.toNat % 128)]
  refine Nat.ofDigits_lt_base_pow_length (by omega) fun d hd => ?_
  obtain ⟨b, -, rfl⟩ := List.mem_map.mp hd
  exact Nat.mod_lt _ (by omega)

theorem toNat_mod_of_lt {b : UInt8} (h : b < 128) : b.toNat % 128 = b.toNat :=
  Nat.mod_eq_of_lt (UInt8.lt_iff_toNat_lt.mp h)

/-- The bytes of one number: all but the last have the top bit set. -/
structure Spelling where
  front : List UInt8
  last : UInt8
  announces : ∀ b ∈ front, 128 ≤ b
  ends : last < 128

namespace Spelling

def bytes (s : Spelling) : List UInt8 := s.front ++ [s.last]

def number (s : Spelling) : Nat := value s.bytes

/-- At most five bytes, for a number of 32 bits. -/
def Fits (s : Spelling) : Prop := s.bytes.length ≤ 5 ∧ s.number < 2 ^ 32

instance (s : Spelling) : Decidable s.Fits := inferInstanceAs (Decidable (_ ∧ _))

theorem length_bytes (s : Spelling) : s.bytes.length = s.front.length + 1 :=
  List.length_append

/-- The number of a spelling, whose last byte is a digit as it stands. -/
theorem number_eq (s : Spelling) :
    s.number = value s.front + 128 ^ s.front.length * s.last.toNat := by
  rw [number, bytes, value_append, value_cons, toNat_mod_of_lt s.ends, value_nil, Nat.mul_zero,
    Nat.add_zero]

/-- **A spelling fits if a fifth byte holds four bits.** -/
theorem fits_iff (s : Spelling) :
    s.Fits ↔ s.front.length ≤ 4 ∧ (s.front.length = 4 → s.last ≤ 15) := by
  rw [Fits, length_bytes, Nat.succ_le_succ_iff]
  refine and_congr_right fun hfront => ?_
  by_cases hfour : s.front.length = 4
  · have hlow := value_lt s.front
    rw [number_eq, imp_iff_right hfour, UInt8.le_iff_toNat_le]
    rw [hfour] at hlow ⊢
    show _ ↔ s.last.toNat ≤ 15
    omega
  · refine iff_of_true ?_ fun h => absurd h hfour
    calc s.number < 128 ^ s.bytes.length := value_lt _
      _ ≤ 128 ^ 4 := Nat.pow_le_pow_right (by omega) (by rw [length_bytes]; omega)
      _ < 2 ^ 32 := by decide

end Spelling

/-- Four bytes announce another, and the fifth exceeds the four bits that are left for it. -/
def Overflows (bytes : List UInt8) : Prop :=
  ∃ front fifth, front ++ [fifth] <+: bytes ∧ front.length = 4 ∧ (∀ b ∈ front, 128 ≤ b) ∧
    15 < fifth

/-- The bytes up to the one that ends a number, `n` at most. -/
theorem exists_front : ∀ (n : Nat) (bytes : List UInt8), ∃ front rest, bytes = front ++ rest ∧
    (∀ b ∈ front, 128 ≤ b) ∧ front.length ≤ n ∧
    (rest = [] ∨ ∃ b tail, rest = b :: tail ∧ (b < 128 ∨ front.length = n))
  | _, [] => ⟨[], [], rfl, by simp, Nat.zero_le _, .inl rfl⟩
  | 0, b :: bytes => ⟨[], b :: bytes, rfl, by simp, Nat.le_refl _, .inr ⟨b, bytes, rfl, .inr rfl⟩⟩
  | n + 1, b :: bytes => by
      by_cases hb : b < 128
      · exact ⟨[], b :: bytes, rfl, by simp, Nat.zero_le _, .inr ⟨b, bytes, rfl, .inl hb⟩⟩
      · obtain ⟨front, rest, rfl, hfront, hlength, hrest⟩ := exists_front n bytes
        refine ⟨b :: front, rest, rfl, List.forall_mem_cons.mpr ⟨UInt8.not_lt.mp hb, hfront⟩,
          Nat.succ_le_succ hlength, hrest.imp_right ?_⟩
        rintro ⟨b', tail, rfl, hb'⟩
        exact ⟨b', tail, rfl, hb'.imp_right (congrArg Nat.succ)⟩

/-- **Every sequence of bytes begins with a number that fits, or with one that does not, or ends
before its number does.** -/
theorem spelling_or_overflow_or_cut (bytes : List UInt8) :
    (∃ s : Spelling, s.Fits ∧ s.bytes <+: bytes) ∨ Overflows bytes ∨
      bytes.length ≤ 4 ∧ ∀ b ∈ bytes, 128 ≤ b := by
  obtain ⟨front, rest, rfl, hfront, hlength, rfl | ⟨b, tail, rfl, hb⟩⟩ := exists_front 4 bytes
  · rw [List.append_nil]
    exact .inr (.inr ⟨hlength, hfront⟩)
  · have hahead : front ++ [b] <+: front ++ b :: tail := ⟨tail, by simp⟩
    by_cases hover : front.length = 4 ∧ 15 < b
    · exact .inr (.inl ⟨front, b, hahead, hover.1, hfront, hover.2⟩)
    · have hlast (hfour : front.length = 4) : b ≤ 15 := UInt8.not_lt.mp fun h => hover ⟨hfour, h⟩
      have hends : b < 128 := hb.elim id fun hfour => UInt8.lt_of_le_of_lt (hlast hfour) (by decide)
      exact .inl ⟨⟨front, b, hfront, hends⟩, (Spelling.fits_iff _).mpr ⟨hlength, hlast⟩, hahead⟩

/-! ### Numbers in a word -/

/-- The digit of a byte, moved to its place in a word, if the place lies inside the word. -/
def digitAt? (shift : Nat) (b : UInt8) : Option UInt32 :=
  if shift < 32 then some ((b &&& 0x7F).toUInt32 <<< UInt32.ofNat shift) else none

/-- Goes on with a number that starts at `start`: `word` holds its digits so far, and that of the
byte at `offset` has the place `shift`. Gives the number or the fault, and where it stops; gives
nothing if a digit has no place. Only the check at the place 28 ends a number that goes on. -/
def assemble (start : Nat) : (bytes : List UInt8) → (offset shift : Nat) → (word : UInt32) →
    Option (Except TableError UInt32 × Nat)
  | [], offset, _, _ => some (.error (.unexpectedEnd offset), offset)
  | b :: bytes, offset, shift, word =>
      if shift = 28 ∧ 15 < b then some (.error (.integerOverflow start), offset + 1)
      else do
        let digit ← digitAt? shift b
        if b &&& 0x80 = 0 then return (.ok (word ||| digit), offset + 1)
        else assemble start bytes (offset + 1) (shift + 7) (word ||| digit)

theorem and_topBit_eq_zero_iff (b : UInt8) : b &&& 0x80 = 0 ↔ b < 128 := by
  have hb := b.toNat_lt
  have hbit : (b &&& 0x80).toNat = (b.toNat.testBit 7).toNat * 2 ^ 7 := by
    rw [UInt8.toNat_and]
    exact Nat.and_two_pow _ 7
  rw [← UInt8.toNat_inj, hbit, UInt8.lt_iff_toNat_lt, Nat.testBit_eq_decide_div_mod_eq]
  show _ = 0 ↔ b.toNat < 128
  by_cases h : b.toNat / 2 ^ 7 % 2 = 1
  · rw [decide_eq_true h]
    exact iff_of_false (by decide) (by omega)
  · rw [decide_eq_false h]
    exact iff_of_true rfl (by omega)

section

variable {start offset shift : Nat} {word digit : UInt32} {b : UInt8} {bytes : List UInt8}

/-- A byte that announces nothing ends the word. -/
theorem assemble_last (hfits : ¬ (shift = 28 ∧ 15 < b)) (hdigit : digitAt? shift b = some digit)
    (hb : b < 128) :
    assemble start (b :: bytes) offset shift word = some (.ok (word ||| digit), offset + 1) := by
  rw [assemble, if_neg hfits, hdigit]
  exact if_pos ((and_topBit_eq_zero_iff b).mpr hb)

/-- The next digit is seven bits higher. -/
theorem assemble_more (hfits : ¬ (shift = 28 ∧ 15 < b)) (hdigit : digitAt? shift b = some digit)
    (hb : 128 ≤ b) :
    assemble start (b :: bytes) offset shift word
      = assemble start bytes (offset + 1) (shift + 7) (word ||| digit) := by
  rw [assemble, if_neg hfits, hdigit]
  exact if_neg fun h => UInt8.not_lt.mpr hb ((and_topBit_eq_zero_iff b).mp h)

/-- A digit above those of a word adds its value at its place. -/
theorem exists_digitAt? (hshift : shift < 32) (hword : word.toNat < 2 ^ shift)
    (hfits : 2 ^ shift * (b.toNat % 128) < 2 ^ 32) :
    ∃ digit, digitAt? shift b = some digit ∧
      (word ||| digit).toNat = word.toNat + 2 ^ shift * (b.toNat % 128) := by
  refine ⟨_, if_pos hshift, ?_⟩
  have hlow : (b &&& 0x7F).toNat = b.toNat % 128 := by
    rw [UInt8.toNat_and]
    exact Nat.and_two_pow_sub_one_eq_mod b.toNat 7
  have hplace : (UInt32.ofNat shift).toNat % 32 = shift := by
    rw [UInt32.toNat_ofNat']
    omega
  rw [UInt32.toNat_or, UInt32.toNat_shiftLeft, UInt8.toNat_toUInt32, hlow, hplace,
    Nat.shiftLeft_eq, Nat.mul_comm, Nat.mod_eq_of_lt hfits, Nat.or_comm,
    ← Nat.two_pow_add_eq_or_of_lt hword, Nat.add_comm]

/-- A digit that passes the check lies inside the word. -/
theorem place_lt {n : Nat} (hshift : shift + 7 * n = 28) (hfits : ¬ (shift = 28 ∧ 15 < b)) :
    2 ^ shift * (b.toNat % 128) < 2 ^ 32 := by
  by_cases hlast : shift = 28
  · have hb : b ≤ 15 := UInt8.not_lt.mp fun h => hfits ⟨hlast, h⟩
    have hb : b.toNat ≤ 15 := UInt8.le_iff_toNat_le.mp hb
    rw [hlast]
    omega
  · calc 2 ^ shift * (b.toNat % 128) ≤ 2 ^ 21 * 127 :=
          Nat.mul_le_mul (Nat.pow_le_pow_right (by omega) (by omega)) (by omega)
      _ < 2 ^ 32 := by decide

end

end Compressed

namespace Reader

open Compressed

variable {start n : Nat} {c c' : Cursor} {b : UInt8}

/-! ### The bytes of a number -/

/-- The table ends where a byte was announced. -/
theorem run_groups_end (h : c.rest = []) :
    (groups start (n + 1)).run c = (.error (.unexpectedEnd c.offset), c) := by
  have hbyte : byte.run c = (.error (.unexpectedEnd c.offset), c) := by
    rw [byte, run_bind_of_reads (.get c), h]
    rfl
  rw [groups, run_bind, hbyte]

/-- The check of the fifth byte comes before its digit is used. -/
theorem run_groups_overflow (h : c.Ahead [b]) (hb : 15 < b) :
    (groups start 1).run c = (.error (.integerOverflow start), c.skip 1) := by
  rw [groups, run_bind_of_reads (reads_byte h), if_pos ⟨rfl, hb⟩]
  rfl

/-- **Bytes that announce another add their digits to what is read after them.** -/
theorem run_groups_front {x : Except TableError Nat} : ∀ {front : List UInt8} {c : Cursor},
    (∀ b ∈ front, 128 ≤ b) → c.Ahead front →
    (groups start (n + 1)).run (c.skip front.length) = (x, c') →
    (groups start (n + 1 + front.length)).run c
      = (x.map (value front + 128 ^ front.length * ·), c')
  | [], c, _, _, hx => by
      have hid : x.map (value [] + 128 ^ 0 * ·) = x := by cases x <;> simp [Except.map]
      rw [List.length_nil, hid]
      exact hx
  | b :: front, c, hfront, h, hx => by
      obtain ⟨hb, hfront⟩ := List.forall_mem_cons.mp hfront
      obtain ⟨h, hahead⟩ := Cursor.ahead_cons.mp h
      rw [List.length_cons, Nat.add_comm front.length, ← Cursor.skip_skip] at hx
      have hrest := run_groups_front hfront hahead hx
      rw [Nat.add_right_comm] at hrest
      rw [List.length_cons, ← Nat.add_assoc, Nat.add_right_comm n, run_groups_more h hb hrest]
      cases x with
      | error e => rfl
      | ok high =>
          simp only [Except.map, value_cons, Nat.pow_succ]
          congr 2
          ring

/-! ### A whole number -/

theorem run_number (c : Cursor) : number.run c = (groups c.offset 5).run c := by
  rw [number, run_bind_of_reads (reads_position c), maxGroups]

/-- A spelling that fits is read. -/
theorem number_of_fits {s : Spelling} (hs : s.Fits) (h : c.Ahead s.bytes) :
    Reads number c s.number (c.skip s.bytes.length) := by
  obtain ⟨hlength, hlast⟩ := s.fits_iff.mp hs
  obtain ⟨hfront, h⟩ := Cursor.ahead_append.mp h
  obtain ⟨n, hn⟩ := Nat.exists_eq_add_of_le hlength
  have hend : (groups c.offset (n + 1)).run _ = _ :=
    run_groups_last h s.ends fun hn => hlast (by omega)
  have hrun := run_groups_front s.announces hfront hend
  have hfive : n + 1 + s.front.length = 5 := by omega
  rw [Cursor.skip_skip, hfive, ← run_number] at hrun
  rw [Reads, hrun, s.number_eq, s.length_bytes]
  rfl

/-- The fault is noted where the number begins, five bytes back. -/
theorem number_of_overflows (h : Overflows c.rest) :
    number.run c = (.error (.integerOverflow c.offset), c.skip 5) := by
  obtain ⟨front, fifth, h, hfour, hfront, hfifth⟩ := h
  obtain ⟨hahead, h⟩ := Cursor.ahead_append.mp h
  have hend : (groups c.offset 1).run _ = _ := run_groups_overflow h hfifth
  have hrun := run_groups_front hfront hahead hend
  rw [Cursor.skip_skip, hfour, ← run_number] at hrun
  exact hrun

/-- And this one where the bytes end. -/
theorem number_of_cut (hlength : c.rest.length ≤ 4) (h : ∀ b ∈ c.rest, 128 ≤ b) :
    number.run c
      = (.error (.unexpectedEnd (c.offset + c.rest.length)), c.skip c.rest.length) := by
  obtain ⟨n, hn⟩ := Nat.exists_eq_add_of_le hlength
  have hend : (groups c.offset (n + 1)).run (c.skip c.rest.length) = _ :=
    run_groups_end List.drop_length
  have hrun := run_groups_front h (List.prefix_refl _) hend
  have hfive : n + 1 + c.rest.length = 5 := by omega
  rw [hfive, ← run_number] at hrun
  exact hrun

/-- **A number put together in a word.** With `n + 1` bytes to go at most, the next place is
`28 - 7 n` and the word lies below it, so both go on and end alike. -/
theorem assemble_of_groups : ∀ (n : Nat) (c : Cursor) {shift : Nat} {word : UInt32},
    shift + 7 * n = 28 → word.toNat < 2 ^ shift →
    ∃ x y k, (groups start (n + 1)).run c = (x, c.skip k) ∧
      assemble start c.rest c.offset shift word = some (y, c.offset + k) ∧
      y.map UInt32.toNat = x.map (word.toNat + 2 ^ shift * ·)
  | n, c, shift, word, hshift, hword => by
      cases hrest : c.rest with
      | nil => exact ⟨_, _, 0, run_groups_end hrest, rfl, rfl⟩
      | cons b bytes =>
          have hahead : c.Ahead [b] := ⟨bytes, hrest.symm⟩
          by_cases hover : shift = 28 ∧ 15 < b
          · obtain rfl : n = 0 := by omega
            exact ⟨_, _, 1, run_groups_overflow hahead hover.2, if_pos hover, rfl⟩
          have hinside := place_lt hshift hover
          obtain ⟨digit, hdigit, hvalue⟩ := exists_digitAt? (by omega) hword hinside
          by_cases hb : b < 128
          · have hlast (hn : n = 0) : b ≤ 15 := UInt8.not_lt.mp fun h => hover ⟨by omega, h⟩
            refine ⟨_, _, 1, run_groups_last hahead hb hlast, assemble_last hover hdigit hb, ?_⟩
            rw [toNat_mod_of_lt hb] at hvalue
            exact congrArg Except.ok hvalue
          · replace hb := UInt8.not_lt.mp hb
            -- a fifth byte that announces another has failed the check
            have hn : n ≠ 0 := fun hn =>
              hover ⟨by omega, UInt8.lt_of_lt_of_le (by decide) hb⟩
            obtain ⟨n, rfl⟩ := Nat.exists_eq_succ_of_ne_zero hn
            have hgrown : (word ||| digit).toNat < 2 ^ (shift + 7) := by
              have hdigit := Nat.mul_le_mul_left (2 ^ shift) (show b.toNat % 128 ≤ 127 by omega)
              rw [hvalue, Nat.pow_add]
              omega
            obtain ⟨x, y, k, hx, hy, hxy⟩ :=
              assemble_of_groups n (c.skip 1) (by omega : shift + 7 + 7 * n = 28) hgrown
            have hbytes : (c.skip 1).rest = bytes := by rw [Cursor.skip_rest, hrest]; rfl
            have hstop : (c.skip 1).offset + k = c.offset + (1 + k) := Nat.add_assoc _ _ _
            rw [hbytes, hstop] at hy
            rw [Cursor.skip_skip] at hx
            refine ⟨_, y, 1 + k, run_groups_more hahead hb hx,
              (assemble_more hover hdigit hb).trans hy, hxy.trans ?_⟩
            cases x with
            | error e => rfl
            | ok high =>
                simp only [Except.map, hvalue, Nat.pow_add]
                congr 1
                ring

/-! ### Every number -/

theorem reads_number_encode (v : UInt32) (rest : List UInt8) (c : Cursor) :
    Reads number { c with rest := encode v ++ rest } v.toNat
      { c with rest := rest, offset := c.offset + (encode v).length } := by
  have hahead : Cursor.Ahead { c with rest := encode v ++ rest } (encode v) :=
    List.prefix_append _ _
  have hread := reads_number hahead
  rw [Cursor.skip, List.drop_left] at hread
  exact hread

/-- **The three outcomes**, each with the bytes that it takes. -/
theorem run_number_cases (c : Cursor) :
    (∃ s : Spelling, (s.Fits ∧ c.Ahead s.bytes) ∧
      number.run c = (.ok s.number, c.skip s.bytes.length)) ∨
    (Overflows c.rest ∧ number.run c = (.error (.integerOverflow c.offset), c.skip 5)) ∨
    number.run c
      = (.error (.unexpectedEnd (c.offset + c.rest.length)), c.skip c.rest.length) := by
  obtain ⟨s, hs, h⟩ | h | ⟨hlength, h⟩ := spelling_or_overflow_or_cut c.rest
  · exact .inl ⟨s, ⟨hs, h⟩, number_of_fits hs h⟩
  · exact .inr (.inl ⟨h, number_of_overflows h⟩)
  · exact .inr (.inr (number_of_cut hlength h))

/-- A number is read exactly where a spelling of it that fits is ahead. -/
theorem reads_number_iff {v : Nat} : Reads number c v c' ↔
    ∃ s : Spelling, s.Fits ∧ s.number = v ∧ c.Ahead s.bytes ∧ c' = c.skip s.bytes.length := by
  constructor
  · intro hread
    obtain ⟨s, ⟨hs, h⟩, hrun⟩ | ⟨-, hrun⟩ | hrun := run_number_cases c
    · cases hread.symm.trans hrun
      exact ⟨s, hs, rfl, h, rfl⟩
    · cases hread.symm.trans hrun
    · cases hread.symm.trans hrun
  · rintro ⟨s, hs, rfl, h, rfl⟩
    exact number_of_fits hs h

/-- Nothing else gives this fault. -/
theorem number_overflows_iff : number.run c = (.error (.integerOverflow start), c') ↔
    Overflows c.rest ∧ start = c.offset ∧ c' = c.skip 5 := by
  constructor
  · intro hfault
    obtain ⟨s, -, hrun⟩ | ⟨h, hrun⟩ | hrun := run_number_cases c
    · cases hfault.symm.trans hrun
    · cases hfault.symm.trans hrun
      exact ⟨h, rfl, rfl⟩
    · cases hfault.symm.trans hrun
  · rintro ⟨h, rfl, rfl⟩
    exact number_of_overflows h

theorem number_ends_iff {offset : Nat} :
    number.run c = (.error (.unexpectedEnd offset), c') ↔
      (¬ ∃ s : Spelling, s.Fits ∧ c.Ahead s.bytes) ∧ ¬ Overflows c.rest ∧
        offset = c.offset + c.rest.length ∧ c' = c.skip c.rest.length := by
  constructor
  · intro hfault
    have hspelling : ¬ ∃ s : Spelling, s.Fits ∧ c.Ahead s.bytes := by
      rintro ⟨s, hs, h⟩
      cases hfault.symm.trans (number_of_fits hs h)
    have hoverflow : ¬ Overflows c.rest := fun h => by
      cases hfault.symm.trans (number_of_overflows h)
    obtain ⟨s, h, -⟩ | ⟨h, -⟩ | hrun := run_number_cases c
    · exact absurd ⟨s, h⟩ hspelling
    · exact absurd h hoverflow
    · cases hfault.symm.trans hrun
      exact ⟨hspelling, hoverflow, rfl, rfl⟩
  · rintro ⟨hspelling, hoverflow, rfl, rfl⟩
    obtain ⟨s, h, -⟩ | ⟨h, -⟩ | hrun := run_number_cases c
    · exact absurd ⟨s, h⟩ hspelling
    · exact absurd h hoverflow
    · exact hrun

/-- **Every digit has a place in the word.** Put together in a word, the number is the same, and so
is the byte at which it stops. -/
theorem assemble_eq_number (c : Cursor) :
    ∃ y k, assemble c.offset c.rest c.offset 0 0 = some (y, c.offset + k) ∧
      number.run c = (y.map UInt32.toNat, c.skip k) := by
  have hempty : (0 : UInt32).toNat < 2 ^ 0 := by decide
  obtain ⟨x, y, k, hx, hy, hxy⟩ := assemble_of_groups 4 c rfl hempty
  have hid : x.map ((0 : UInt32).toNat + 2 ^ 0 * ·) = x := by cases x <;> simp [Except.map]
  refine ⟨y, k, hy, ?_⟩
  rw [run_number, hx, hxy, hid]

/-- **Compressed integers are exact.** What is written for a number of 32 bits is read as the
number, and the reader stops right before the bytes that follow. Whatever the bytes are, a number is
read exactly if they begin with a spelling of it that fits, and the reader passes that spelling. The
number is too large, a fault at its first byte, exactly if four bytes announce another and the fifth
exceeds `0x0F`. In all other cases the fault is that the data ends. Put together in a word of 32
bits, the number never has a digit shifted by 32 places or more. -/
theorem number_exact :
    (∀ (v : UInt32) (rest : List UInt8) (c : Cursor),
      Reads number { c with rest := encode v ++ rest } v.toNat
        { c with rest := rest, offset := c.offset + (encode v).length }) ∧
    ∀ c : Cursor,
      (∀ v c', Reads number c v c' ↔
        ∃ s : Spelling, s.Fits ∧ s.number = v ∧ c.Ahead s.bytes ∧ c' = c.skip s.bytes.length) ∧
      (∀ start c', number.run c = (.error (.integerOverflow start), c') ↔
        Overflows c.rest ∧ start = c.offset ∧ c' = c.skip 5) ∧
      (∀ offset c', number.run c = (.error (.unexpectedEnd offset), c') ↔
        (¬ ∃ s : Spelling, s.Fits ∧ c.Ahead s.bytes) ∧ ¬ Overflows c.rest ∧
          offset = c.offset + c.rest.length ∧ c' = c.skip c.rest.length) ∧
      ∃ y k, assemble c.offset c.rest c.offset 0 0 = some (y, c.offset + k) ∧
        number.run c = (y.map UInt32.toNat, c.skip k) :=
  ⟨reads_number_encode, fun c => ⟨fun _ _ => reads_number_iff, fun _ _ => number_overflows_iff,
    fun _ _ => number_ends_iff, assemble_eq_number c⟩⟩

/-- Five bytes for a zero, the largest number, the next one, and a number cut off. -/
theorem number_exact_small :
    let c (rest : List UInt8) (offset : Nat) : Cursor := { rest, offset, forest := .fresh }
    Reads number (c [0x80, 0x80, 0x80, 0x80, 0x00, 0x07] 3) 0 (c [0x07] 8) ∧
      Reads number (c [0xFF, 0xFF, 0xFF, 0xFF, 0x0F] 3) (2 ^ 32 - 1) (c [] 8) ∧
      number.run (c [0x80, 0x80, 0x80, 0x80, 0x10] 3) = (.error (.integerOverflow 3), c [] 8) ∧
      number.run (c [0x80, 0x80] 3) = (.error (.unexpectedEnd 5), c [] 5) := by
  intro c
  obtain ⟨-, hnumber⟩ := number_exact
  refine ⟨((hnumber _).1 _ _).mpr ?_, ((hnumber _).1 _ _).mpr ?_, ((hnumber _).2.1 _ _).mpr ?_,
    ((hnumber _).2.2.1 _ _).mpr ?_⟩
  · exact ⟨⟨[0x80, 0x80, 0x80, 0x80], 0x00, by simp, by decide⟩, by decide, by decide,
      ⟨[0x07], rfl⟩, rfl⟩
  · exact ⟨⟨[0xFF, 0xFF, 0xFF, 0xFF], 0x0F, by simp, by decide⟩, by decide, by decide,
      ⟨[], rfl⟩, rfl⟩
  · exact ⟨⟨[0x80, 0x80, 0x80, 0x80], 0x10, ⟨[], rfl⟩, rfl, by simp, by decide⟩, rfl, rfl⟩
  · refine ⟨?_, ?_, rfl, rfl⟩
    · rintro ⟨s, -, h⟩
      have hmem : s.last ∈ [0x80, 0x80] :=
        h.subset (List.mem_append_right _ (List.mem_singleton_self _))
      have hlast : s.last = 0x80 := by simpa using hmem
      exact absurd s.ends (by rw [hlast]; decide)
    · rintro ⟨front, fifth, h, hfour, -⟩
      have hlength : (front ++ [fifth]).length ≤ 2 := h.length_le
      rw [List.length_append, hfour, List.length_singleton] at hlength
      omega

end Reader

end OpcodeForest
