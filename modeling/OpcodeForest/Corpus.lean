import OpcodeForest.Corpus.Evex
import OpcodeForest.Corpus.Legacy
import OpcodeForest.Corpus.Vex
import OpcodeForest.Corpus.Xop
import OpcodeForest.Table.Load
import OpcodeForest.Table.Writer

/-!
# The built-in tables

The drafted records are written and read back like any other table, so that the decoder knows
tables in one shape only.
-/

namespace OpcodeForest

namespace Writer

/-- The bytes of `records`, unless one of them cannot be written. -/
def serialize (f : Family) (records : List Record) : Except TableError (List UInt8) := do
  let w ← records.foldlM
    (fun (w : Writer) r => match w.write r with
      | (.ok _, w) => .ok w
      | (.error e, _) => .error e)
    { family := f }
  return w.bytes

end Writer

namespace Blobs

/-- The built-in tables in serialized form. -/
def builtin : Except TableError Blobs := do
  let legacy ← Writer.serialize .legacy Corpus.Legacy.records
  let vex ← Writer.serialize .vex Corpus.Vex.records
  let xop ← Writer.serialize .vex Corpus.Xop.records
  let evex ← Writer.serialize .evex Corpus.Evex.records
  return { legacy, vex, xop, evex }

end Blobs

namespace Tables

/-- The built-in tables. -/
def builtin : Except TableError Tables := Blobs.builtin >>= load

end Tables

end OpcodeForest
