/-!
# Hexadecimal text

Numbers and bytes are written with lower-case digits. Bytes are read from digits of either case,
two for each byte, wherever white space stands between them.
-/

namespace OpcodeForest.Text

/-- The characters with the Unicode property `White_Space`. -/
def isBlank (c : Char) : Bool :=
  let n := c.toNat
  (0x09 ≤ n && n ≤ 0x0D) || n == 0x20 || n == 0x85 || n == 0xA0 || n == 0x1680
    || (0x2000 ≤ n && n ≤ 0x200A) || n == 0x2028 || n == 0x2029 || n == 0x202F || n == 0x205F
    || n == 0x3000

/-- The text without the white space around it. -/
def trim (cs : List Char) : List Char :=
  ((cs.dropWhile isBlank).reverse.dropWhile isBlank).reverse

/-- `s` with blanks after it up to `width` characters. -/
def column (width : Nat) (s : String) : String :=
  s ++ String.ofList (List.replicate (width - s.length) ' ')

end OpcodeForest.Text

namespace OpcodeForest.Hex

/-! ### Writing -/

/-- The digits of `n`, without leading zeros. -/
def digits (n : Nat) : List Char := Nat.toDigits 16 n

/-- `n` behind the marker `0x`, with at least `width` digits. -/
def padded (width n : Nat) : String :=
  "0x" ++ String.ofList (List.replicate (width - (digits n).length) '0' ++ digits n)

/-- `n` behind the marker `0x`. -/
def marked (n : Nat) : String := padded 0 n

/-- The two digits of a byte, the high one first. -/
def byteDigits (b : UInt8) : List Char :=
  [Nat.digitChar (b.toNat / 16), Nat.digitChar (b.toNat % 16)]

def byte (b : UInt8) : String := String.ofList (byteDigits b)

/-- Bytes with `separator` between them. -/
def bytes (separator : String) (bs : List UInt8) : String :=
  separator.intercalate (bs.map byte)

/-! ### Reading -/

/-- The value of a digit. -/
def digit? (c : Char) : Option Nat :=
  if '0' ≤ c ∧ c ≤ '9' then some (c.toNat - '0'.toNat)
  else if 'a' ≤ c ∧ c ≤ 'f' then some (c.toNat - 'a'.toNat + 10)
  else if 'A' ≤ c ∧ c ≤ 'F' then some (c.toNat - 'A'.toNat + 10)
  else none

inductive Fault where
  | badDigit (c : Char)
  | oddLength
deriving DecidableEq, Repr

namespace Fault

def message : Fault → String
  | badDigit c => s!"bad hex digit `{c}`"
  | oddLength => "odd number of hex digits"

end Fault

/-- The values of digits, up to the first character that is none. -/
def values : List Char → Except Fault (List Nat)
  | [] => .ok []
  | c :: cs =>
      match digit? c with
      | none => .error (.badDigit c)
      | some d => (values cs).map (d :: ·)

/-- The bytes that pairs of digit values spell, the high one first. -/
def ofPairs : List Nat → List UInt8
  | high :: low :: rest => UInt8.ofNat (16 * high + low) :: ofPairs rest
  | _ => []

/-- Reads bytes from several pieces of text. A byte may be cut between two pieces. -/
def parse (pieces : List String) : Except Fault (List UInt8) := do
  let ds ← values ((pieces.flatMap String.toList).filter (!Text.isBlank ·))
  if ds.length % 2 = 1 then throw .oddLength
  return ofPairs ds

end OpcodeForest.Hex
