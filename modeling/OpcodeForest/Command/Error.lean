import OpcodeForest.Mode
import OpcodeForest.Table.Error
import OpcodeForest.Text.Numeral

/-!
# Command errors
-/

namespace OpcodeForest

/-- Why a command gives no output. -/
inductive CommandError where
  | unsupportedBitness (bits : Nat)
  | hex (fault : Hex.Fault)
  | numeral (fault : Numeral.Fault)
  | skipExceedsFile
  | lengthExceedsFile
  | rangeReversed
  | tables (error : TableError)
deriving DecidableEq, Repr

namespace CommandError

def message : CommandError → String
  | unsupportedBitness bits => s!"unsupported bitness {bits}"
  | hex fault => fault.message
  | numeral fault => fault.message
  | skipExceedsFile => "--skip exceeds file size"
  | lengthExceedsFile => "--len exceeds remaining file size after skip"
  | rangeReversed => "end must be >= start"
  | tables error => error.message

end CommandError

/-- The steps of a command, up to the first error. -/
abbrev Outcome := Except CommandError

namespace Outcome

def bitness (bits : Nat) : Outcome Bitness :=
  match Bitness.ofBits? bits with
  | some b => .ok b
  | none => .error (.unsupportedBitness bits)

def address (s : String) : Outcome UInt64 := (Numeral.parse s).mapError .numeral

def bytes (pieces : List String) : Outcome (List UInt8) := (Hex.parse pieces).mapError .hex

end Outcome

end OpcodeForest
