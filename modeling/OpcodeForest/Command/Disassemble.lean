import OpcodeForest.Command.Error
import OpcodeForest.Listing

/-!
# The disassemble command

Loads a file as an image of one segment, and shows its segments or a range of its code.
-/

namespace OpcodeForest

inductive ListingFormat where
  | text | json
deriving DecidableEq, Repr

/-- A range of addresses to list, `stop` excluded. -/
structure RangeRequest where
  start : String
  stop : String
  showBytes : Bool := false
  format : ListingFormat := .text
  /-- The file to write to, in place of standard output. -/
  out : Option String := none
deriving DecidableEq, Repr

inductive DisassembleTask where
  | sections
  | range (request : RangeRequest)
deriving DecidableEq, Repr

structure DisassembleCommand where
  /-- Address of the first byte. -/
  base : String := "0"
  /-- Bytes of the file to leave out. -/
  skip : Nat := 0
  /-- Bytes to load, all that are left if not given. -/
  length : Option Nat := none
  bitness : Nat := 64
  lenient : Bool := false
  amd : Bool := false
  mpx : Bool := false
  task : DisassembleTask := .sections
deriving DecidableEq, Repr

/-- Where output goes. -/
inductive Output where
  | print (text : String)
  | save (path text : String)
deriving DecidableEq, Repr

namespace Image

/-- The part of a file that is loaded, as an image of one segment. -/
def ofFile (file : List UInt8) (base : UInt64) (skip : Nat) (length : Option Nat) :
    Outcome Image := do
  if file.length < skip then throw .skipExceedsFile
  let payload := file.drop skip
  let count := length.getD payload.length
  if payload.length < count then throw .lengthExceedsFile
  return ⟨[{ name := "segment0", base, bytes := payload.take count }]⟩

/-- A table of the segments. -/
def sectionsText (image : Image) : String :=
  let row (name start stop permissions kind : String) :=
    " ".intercalate
      [Text.column 10 name, Text.column 18 start, Text.column 18 stop,
       Text.column 6 permissions, Text.column 6 kind] ++ "\n"
  row "name" "start" "end" "perms" "kind"
    ++ String.join (image.segments.map fun s =>
        row s.name (Hex.padded 16 s.base.toNat) (Hex.padded 16 s.limit.toNat) s.permissions
          s.kind)

end Image

namespace RangeRequest

def render (r : RangeRequest) (lines : List Line) : String :=
  match r.format with
  | .text => String.join (lines.map (·.text r.showBytes))
  | .json => (Json.list (lines.map (·.json))).pretty 0

/-- What is put out for a listing; on standard output a JSON document ends its line. -/
def output (r : RangeRequest) (lines : List Line) : Output :=
  let text := r.render lines
  match r.out, r.format with
  | some path, _ => .save path text
  | none, .text => .print text
  | none, .json => .print (text ++ "\n")

end RangeRequest

namespace DisassembleCommand

def options (c : DisassembleCommand) : Options :=
  let on (flag : Bool) (o : Options) := if flag then o else {}
  ((on c.lenient .noInvalidCheck).union (on c.amd .amd)).union (on c.mpx .mpx)

def run (c : DisassembleCommand) (t : Tables) (file : List UInt8) : Outcome Output := do
  let bitness ← Outcome.bitness c.bitness
  let base ← Outcome.address c.base
  let image ← Image.ofFile file base c.skip c.length
  match c.task with
  | .sections => return .print image.sectionsText
  | .range r =>
      let start ← Outcome.address r.start
      let stop ← Outcome.address r.stop
      if stop < start then throw .rangeReversed
      return r.output (image.listing t ⟨bitness, c.options⟩ start stop)

end DisassembleCommand

end OpcodeForest
