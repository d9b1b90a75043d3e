import OpcodeForest.Text.Hex

/-!
# Numerals

Reading 64-bit numbers, decimal or hexadecimal behind `0x`.
-/

namespace OpcodeForest.Numeral

inductive Fault where
  | empty
  | invalidDigit
  | tooLarge
deriving DecidableEq, Repr

namespace Fault

def message : Fault → String
  | empty => "cannot parse integer from empty string"
  | invalidDigit => "invalid digit found in string"
  | tooLarge => "number too large to fit in target type"

end Fault

/-- Reads digits after a number `acc`, from left to right up to the first fault. -/
def digits (base : Nat) : (acc : Nat) → List Char → Except Fault Nat
  | acc, [] => .ok acc
  | acc, c :: cs =>
      match (Hex.digit? c).filter (· < base) with
      | none => .error .invalidDigit
      | some d =>
          let next := acc * base + d
          if UInt64.size ≤ next then .error .tooLarge else digits base next cs

/-- A number with an optional plus sign. -/
def unsigned (base : Nat) : List Char → Except Fault Nat
  | [] => .error .empty
  | ['+'] => .error .invalidDigit
  | '+' :: cs => digits base 0 cs
  | cs => digits base 0 cs

/-- A number in the base that its marker says. -/
def based : List Char → Except Fault Nat
  | '0' :: 'x' :: cs | '0' :: 'X' :: cs => unsigned 16 cs
  | cs => unsigned 10 cs

/-- Reads a 64-bit number with white space around it. -/
def parse (s : String) : Except Fault UInt64 :=
  (based (Text.trim s.toList)).map UInt64.ofNat

end OpcodeForest.Numeral
