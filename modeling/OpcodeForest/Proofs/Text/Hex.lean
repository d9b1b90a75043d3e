import Mathlib.Data.List.Forall2
import Mathlib.Tactic.IntervalCases
import OpcodeForest.Text.Hex

/-!
# Hexadecimal text read back

Reading takes the characters of all pieces together, leaves out the white space and turns each
digit into its value; two values make a byte. Writing gives the two digits of each byte in lower
case. The text of some bytes is any text whose characters, white space left out, are those digits,
each in one case or the other.

* `digit?_eq_some_iff`: the characters that stand for a value.
* `ofPairs_flatMap_halves`, `flatMap_halves_ofPairs`: bytes and the values of their digits.
* `parse_eq_ok_iff`: what is read as given bytes is a text of these bytes.
* `hex_text_read`: every text, read as bytes or refused.
-/

namespace OpcodeForest.Hex

/-! ### Digits -/

/-- The digits of hexadecimal numbers, in both cases. -/
def IsDigit (c : Char) : Prop :=
  ('0' ≤ c ∧ c ≤ '9') ∨ ('a' ≤ c ∧ c ≤ 'f') ∨ ('A' ≤ c ∧ c ≤ 'F')

instance (c : Char) : Decidable (IsDigit c) := inferInstanceAs (Decidable (_ ∨ _))

/-- The character `c` is the digit `d` in one case or the other. -/
def EitherCase (d c : Char) : Prop := c = d ∨ c = d.toUpper

/-- The characters that have a value are the digits. -/
theorem isSome_digit?_iff {c : Char} : (digit? c).isSome ↔ IsDigit c := by
  unfold digit? IsDigit
  split
  · rename_i h
    exact iff_of_true rfl (.inl h)
  · rename_i h
    rw [or_iff_right h]
    split
    · rename_i h
      exact iff_of_true rfl (.inl h)
    · rename_i h
      rw [or_iff_right h]
      split
      · rename_i h
        exact iff_of_true rfl h
      · rename_i h
        exact iff_of_false (fun h => Bool.false_ne_true h) h

theorem digit?_eq_none_iff {c : Char} : digit? c = none ↔ ¬ IsDigit c := by
  rw [← isSome_digit?_iff, Bool.not_eq_true, Option.isSome_eq_false_iff, Option.isNone_iff_eq_none]

/-- Both cases of a digit have its value. -/
theorem digit?_of_eitherCase {v : Nat} {c : Char} (hv : v < 16)
    (h : EitherCase (Nat.digitChar v) c) : digit? c = some v := by
  obtain rfl | rfl := h <;> interval_cases v <;> rfl

/-- What holds of all characters of a range, shown by their numbers. -/
theorem of_between (P : Char → Prop) {low high : Nat}
    (h : ∀ n, low ≤ n → n ≤ high → P (Char.ofNat n)) {c : Char}
    (hc : low ≤ c.toNat ∧ c.toNat ≤ high) : P c := by
  have hp := h c.toNat hc.1 hc.2
  rwa [Char.ofNat_toNat] at hp

/-- Each digit is the digit of a value, in one case or the other. -/
theorem exists_eitherCase {c : Char} (h : IsDigit c) :
    ∃ v < 16, EitherCase (Nat.digitChar v) c := by
  let Read (c : Char) : Prop := ∃ v < 16, EitherCase (Nat.digitChar v) c
  have hdecimal (n : Nat) (hlow : 48 ≤ n) (hhigh : n ≤ 57) : Read (Char.ofNat n) :=
    ⟨n - 48, by omega, .inl (by interval_cases n <;> rfl)⟩
  have hlower (n : Nat) (hlow : 97 ≤ n) (hhigh : n ≤ 102) : Read (Char.ofNat n) :=
    ⟨n - 87, by omega, .inl (by interval_cases n <;> rfl)⟩
  have hupper (n : Nat) (hlow : 65 ≤ n) (hhigh : n ≤ 70) : Read (Char.ofNat n) :=
    ⟨n - 55, by omega, .inr (by interval_cases n <;> rfl)⟩
  rcases h with h | h | h
  · exact of_between Read hdecimal h
  · exact of_between Read hlower h
  · exact of_between Read hupper h

/-- **The characters that stand for a value.** -/
theorem digit?_eq_some_iff {v : Nat} {c : Char} :
    digit? c = some v ↔ v < 16 ∧ EitherCase (Nat.digitChar v) c := by
  refine ⟨fun h => ?_, fun h => digit?_of_eitherCase h.1 h.2⟩
  obtain ⟨w, hw, hc⟩ := exists_eitherCase (isSome_digit?_iff.mp (by rw [h]; rfl))
  obtain rfl : v = w := Option.some.inj (h.symm.trans (digit?_of_eitherCase hw hc))
  exact ⟨hw, hc⟩

/-! ### Values of digits -/

/-- The characters `cs` are digits, and `vs` are their values. -/
def AreValues (vs : List Nat) (cs : List Char) : Prop :=
  List.Forall₂ (fun v c => digit? c = some v) vs cs

theorem areValues_iff {vs : List Nat} {cs : List Char} : AreValues vs cs ↔
    (∀ v ∈ vs, v < 16) ∧ List.Forall₂ EitherCase (vs.map Nat.digitChar) cs := by
  simp only [AreValues, digit?_eq_some_iff, List.forall₂_and_left, List.forall₂_map_left_iff]

/-- Only digits have values. -/
theorem exists_areValues_iff {cs : List Char} : (∃ vs, AreValues vs cs) ↔ ∀ c ∈ cs, IsDigit c := by
  induction cs with
  | nil => exact iff_of_true ⟨[], .nil⟩ (by simp)
  | cons c cs ih =>
      rw [List.forall_mem_cons, ← ih]
      constructor
      · rintro ⟨_, _ | ⟨hv, hvs⟩⟩
        exact ⟨isSome_digit?_iff.mp (by rw [hv]; rfl), _, hvs⟩
      · rintro ⟨hc, vs, hvs⟩
        obtain ⟨v, hv⟩ := Option.isSome_iff_exists.mp (isSome_digit?_iff.mpr hc)
        exact ⟨v :: vs, .cons hv hvs⟩

/-- **Digits are read as their values.** -/
theorem values_of_areValues {vs : List Nat} {cs : List Char} (h : AreValues vs cs) :
    values cs = .ok vs := by
  induction h with
  | nil => rfl
  | cons hv _ ih => rw [values, hv, ih]; rfl

/-- **The first character that is no digit is named.** -/
theorem values_of_not_isDigit {front rest : List Char} {c : Char} (hfront : ∀ d ∈ front, IsDigit d)
    (hc : ¬ IsDigit c) : values (front ++ c :: rest) = .error (.badDigit c) := by
  induction front with
  | nil => rw [List.nil_append, values, digit?_eq_none_iff.mpr hc]
  | cons d front ih =>
      obtain ⟨hd, hfront⟩ := List.forall_mem_cons.mp hfront
      obtain ⟨v, hv⟩ := Option.isSome_iff_exists.mp (isSome_digit?_iff.mpr hd)
      rw [List.cons_append, values, hv, ih hfront]
      rfl

/-- The values of the two digits of a byte, the high one first. -/
def halves (b : UInt8) : List Nat := [b.toNat / 16, b.toNat % 16]

/-- A byte is the pair of its halves. -/
theorem ofPairs_flatMap_halves (bs : List UInt8) : ofPairs (bs.flatMap halves) = bs := by
  induction bs with
  | nil => rfl
  | cons b bs ih =>
      rw [List.flatMap_cons, halves, List.cons_append, List.cons_append, List.nil_append, ofPairs,
        ih, Nat.div_add_mod, UInt8.ofNat_toNat]

/-- And an even number of values are the halves of bytes. -/
theorem flatMap_halves_ofPairs : ∀ {vs : List Nat}, (∀ v ∈ vs, v < 16) → vs.length % 2 = 0 →
    (ofPairs vs).flatMap halves = vs
  | [], _, _ => rfl
  | [_], _, hlength => by cases hlength
  | high :: low :: vs, hvs, hlength => by
      simp only [List.forall_mem_cons] at hvs
      obtain ⟨hhigh, hlow, hvs⟩ := hvs
      have hlength' : vs.length % 2 = 0 := by rwa [← Nat.add_mod_right vs.length 2]
      have hbyte : (UInt8.ofNat (16 * high + low)).toNat = 16 * high + low := by
        rw [UInt8.toNat_ofNat']
        omega
      have hhalves : halves (UInt8.ofNat (16 * high + low)) = [high, low] := by
        rw [halves, hbyte]
        congr 1
        · omega
        · congr 1
          omega
      rw [ofPairs, List.flatMap_cons, hhalves, flatMap_halves_ofPairs hvs hlength']
      rfl

theorem halves_lt {bs : List UInt8} : ∀ v ∈ bs.flatMap halves, v < 16 := by
  intro v hv
  obtain ⟨b, -, hv⟩ := List.mem_flatMap.mp hv
  have hb := b.toNat_lt
  rw [halves, List.mem_pair] at hv
  omega

/-! ### Text -/

/-- The characters of all pieces together, without the white space. -/
def nonBlank (pieces : List String) : List Char :=
  (pieces.flatMap String.toList).filter (!Text.isBlank ·)

/-- The pieces are a text of the bytes: white space left out, they have the digits of the bytes,
each in one case or the other. -/
def Spells (pieces : List String) (bs : List UInt8) : Prop :=
  List.Forall₂ EitherCase (bs.flatMap byteDigits) (nonBlank pieces)

theorem spells_iff {pieces : List String} {bs : List UInt8} :
    Spells pieces bs ↔ AreValues (bs.flatMap halves) (nonBlank pieces) := by
  rw [areValues_iff, and_iff_right halves_lt, List.map_flatMap]
  rfl

/-- The first character that is no digit is reported. -/
theorem parse_of_not_isDigit {pieces : List String} {front rest : List Char} {c : Char}
    (h : nonBlank pieces = front ++ c :: rest) (hfront : ∀ d ∈ front, IsDigit d)
    (hc : ¬ IsDigit c) : parse pieces = .error (.badDigit c) := by
  show values (nonBlank pieces) >>= _ = _
  rw [h, values_of_not_isDigit hfront hc]
  rfl

/-- Digits only are parsed if their number is even. -/
theorem parse_of_areValues {pieces : List String} {vs : List Nat}
    (h : AreValues vs (nonBlank pieces)) :
    parse pieces = if vs.length % 2 = 1 then .error .oddLength else .ok (ofPairs vs) := by
  show values (nonBlank pieces) >>= _ = _
  rw [values_of_areValues h]
  show (if vs.length % 2 = 1 then _ else _) = _
  split <;> rfl

theorem length_flatMap_halves (bs : List UInt8) : (bs.flatMap halves).length = 2 * bs.length := by
  induction bs with
  | nil => rfl
  | cons b bs ih =>
      have hbyte : (halves b).length = 2 := rfl
      rw [List.flatMap_cons, List.length_append, ih, hbyte, List.length_cons]
      omega

/-- **A text of some bytes is read as these bytes.** -/
theorem parse_of_spells {pieces : List String} {bs : List UInt8} (h : Spells pieces bs) :
    parse pieces = .ok bs := by
  rw [parse_of_areValues (spells_iff.mp h), length_flatMap_halves, Nat.mul_mod_right,
    ofPairs_flatMap_halves]
  rfl

/-- Digits in an even number are a text of some bytes. -/
theorem exists_spells {pieces : List String} (h : ∀ c ∈ nonBlank pieces, IsDigit c)
    (heven : (nonBlank pieces).length % 2 = 0) : ∃ bs, Spells pieces bs := by
  obtain ⟨vs, hvs⟩ := exists_areValues_iff.mpr h
  refine ⟨ofPairs vs, spells_iff.mpr ?_⟩
  rw [flatMap_halves_ofPairs (areValues_iff.mp hvs).1 (by rw [hvs.length_eq, heven])]
  exact hvs

theorem parse_of_odd {pieces : List String} (h : ∀ c ∈ nonBlank pieces, IsDigit c)
    (hodd : (nonBlank pieces).length % 2 = 1) : parse pieces = .error .oddLength := by
  obtain ⟨vs, hvs⟩ := exists_areValues_iff.mpr h
  rw [parse_of_areValues hvs, if_pos (by rw [hvs.length_eq, hodd])]

theorem exists_first_not_isDigit {cs : List Char} (h : ¬ ∀ c ∈ cs, IsDigit c) :
    ∃ front c rest, cs = front ++ c :: rest ∧ (∀ d ∈ front, IsDigit d) ∧ ¬ IsDigit c := by
  have hsome : cs.find? (fun c => ¬ IsDigit c) ≠ none := fun hnone =>
    h fun c hc => by simpa using List.find?_eq_none.mp hnone c hc
  obtain ⟨c, hc⟩ := Option.ne_none_iff_exists'.mp hsome
  obtain ⟨hbad, front, rest, hcs, hfront⟩ := List.find?_eq_some_iff_append.mp hc
  exact ⟨front, c, rest, hcs, by simpa using hfront, by simpa using hbad⟩

/-- **What is read as given bytes is a text of these bytes.** -/
theorem parse_eq_ok_iff {pieces : List String} {bs : List UInt8} :
    parse pieces = .ok bs ↔ Spells pieces bs := by
  refine ⟨fun h => ?_, parse_of_spells⟩
  by_cases hdigits : ∀ c ∈ nonBlank pieces, IsDigit c
  · rcases Nat.mod_two_eq_zero_or_one (nonBlank pieces).length with heven | hodd
    · obtain ⟨bs', hbs'⟩ := exists_spells hdigits heven
      obtain rfl : bs = bs' := Except.ok.inj (h.symm.trans (parse_of_spells hbs'))
      exact hbs'
    · cases h.symm.trans (parse_of_odd hdigits hodd)
  · obtain ⟨front, c, rest, hcs, hfront, hc⟩ := exists_first_not_isDigit hdigits
    cases h.symm.trans (parse_of_not_isDigit hcs hfront hc)

/-! ### The byte column -/

theorem isBlank_digitChar {v : Nat} (hv : v < 16) : Text.isBlank (Nat.digitChar v) = false := by
  interval_cases v <;> rfl

/-- What stands between the parts of a text does not count if it is left out. -/
theorem filter_intercalate {p : Char → Bool} {sep : List Char} (hsep : sep.filter p = []) :
    ∀ parts : List (List Char),
      (sep.intercalate parts).filter p = parts.flatMap (List.filter p)
  | [] => rfl
  | [part] => by simp
  | part :: part' :: parts => by
      rw [List.intercalate_cons_cons, List.filter_append, List.filter_append, hsep, List.append_nil,
        filter_intercalate hsep (part' :: parts)]
      rfl

theorem filter_byteDigits (b : UInt8) :
    (byteDigits b).filter (!Text.isBlank ·) = byteDigits b := by
  have hb := b.toNat_lt
  refine List.filter_eq_self.mpr fun c hc => ?_
  rw [byteDigits, List.mem_pair] at hc
  obtain rfl | rfl := hc
  · rw [isBlank_digitChar (by omega)]; rfl
  · rw [isBlank_digitChar (by omega)]; rfl

/-- The bytes of a line are a text of themselves, whatever the width of their column. -/
theorem spells_column (width : Nat) (bs : List UInt8) :
    Spells [Text.column width (bytes " " bs)] bs := by
  have htext : nonBlank [Text.column width (bytes " " bs)] = bs.flatMap byteDigits := by
    have hblank : (List.replicate (width - (bytes " " bs).length) ' ').filter
        (!Text.isBlank ·) = [] := List.filter_replicate_of_neg (by decide)
    rw [nonBlank, List.flatMap_singleton, Text.column, String.toList_append, List.filter_append,
      String.toList_ofList, hblank, List.append_nil, bytes, String.toList_intercalate,
      filter_intercalate (by decide), List.map_map, List.flatMap_map]
    refine List.flatMap_congr fun b _ => ?_
    rw [Function.comp_apply, byte, String.toList_ofList, filter_byteDigits]
  rw [Spells, htext]
  exact List.forall₂_same.mpr fun _ _ => .inl rfl

/-- **Every text is read as the bytes it spells, or refused.** Let the white space of all pieces
together be left out. If a character is no digit, the first such character is named; if all are
digits in an odd number, that is the fault; if all are digits in an even number, they are read as
the bytes that they spell, the high digit of each first. So a text of some bytes is read as these
bytes, in digits of either case, with any white space and in any pieces, and so is the byte column
of a listing. -/
theorem hex_text_read :
    (∀ pieces : List String,
      (∀ front c rest, nonBlank pieces = front ++ c :: rest → (∀ d ∈ front, IsDigit d) →
        ¬ IsDigit c → parse pieces = .error (.badDigit c)) ∧
      ((∀ c ∈ nonBlank pieces, IsDigit c) →
        ((nonBlank pieces).length % 2 = 1 → parse pieces = .error .oddLength) ∧
        ((nonBlank pieces).length % 2 = 0 → ∃ bs, parse pieces = .ok bs ∧ Spells pieces bs)) ∧
      ∀ bs, parse pieces = .ok bs ↔ Spells pieces bs) ∧
    ∀ width bs, parse [Text.column width (bytes " " bs)] = .ok bs := by
  refine ⟨fun pieces => ⟨fun front c rest => parse_of_not_isDigit,
    fun hdigits => ⟨parse_of_odd hdigits, fun heven => ?_⟩, fun bs => parse_eq_ok_iff⟩,
    fun width bs => parse_of_spells (spells_column width bs)⟩
  obtain ⟨bs, hbs⟩ := exists_spells hdigits heven
  exact ⟨bs, parse_of_spells hbs, hbs⟩

/-- Digits of both cases with a byte cut between two pieces and white space of two kinds; a digit
too few; and a character that is no digit, though it stands in an odd number of characters. -/
theorem hex_text_read_small :
    parse ["4 8\u3000A", "f"] = .ok [0x48, 0xAF] ∧ parse ["4 8", "A"] = .error .oddLength ∧
      parse ["4 8", "é"] = .error (.badDigit 'é') ∧
      parse [Text.column 30 (bytes " " [0x48, 0xAF])] = .ok [0x48, 0xAF] := by
  obtain ⟨hpieces, hcolumn⟩ := hex_text_read
  have hwhole : nonBlank ["4 8\u3000A", "f"] = ['4', '8', 'A', 'f'] := by decide
  have hodd : nonBlank ["4 8", "A"] = ['4', '8', 'A'] := by decide
  have hbad : nonBlank ["4 8", "é"] = ['4', '8'] ++ 'é' :: [] := by decide
  refine ⟨((hpieces _).2.2 _).mpr ?_, ((hpieces _).2.1 ?_).1 (by rw [hodd]; rfl),
    (hpieces _).1 _ _ _ hbad (by simp [IsDigit]) (by decide), hcolumn 30 _⟩
  · rw [Spells, hwhole]
    exact .cons (.inl rfl) (.cons (.inl rfl) (.cons (.inr rfl) (.cons (.inl rfl) .nil)))
  · rw [hodd]
    simp [IsDigit]

end OpcodeForest.Hex
