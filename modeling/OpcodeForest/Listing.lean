import OpcodeForest.Decoder
import OpcodeForest.Image
import OpcodeForest.Instruction.Json
import OpcodeForest.Instruction.Text

/-!
# Listings

A listing has a line for each instruction of a linear sweep.
-/

namespace OpcodeForest

structure Line where
  address : UInt64
  bytes : List UInt8
  instruction : Instruction
deriving DecidableEq, Repr

namespace Line

/-- The width of the byte column. -/
def byteColumn : Nat := 30

/-- Address, bytes where asked for, and the instruction. -/
def text (showBytes : Bool) (l : Line) : String :=
  Hex.padded 8 l.address.toNat ++ ": "
    ++ (if showBytes then Text.column byteColumn (Hex.bytes " " l.bytes) ++ " " else "")
    ++ l.instruction.text ++ "\n"

def json (l : Line) : Json :=
  .object
    [⟨"addr", .number l.address.toNat⟩,
     ⟨"bytes", .list (l.bytes.map fun b => .number b.toNat)⟩,
     ⟨"text", .text l.instruction.text⟩,
     ⟨"instruction", l.instruction.json⟩]

end Line

namespace Decoder

/-- The bytes from the position on. -/
def ahead (d : Decoder) : List UInt8 := d.data.drop d.position

/-- At most `n` lines, of instructions up to the first address that `keep` refuses. -/
def linesWhile (keep : UInt64 → Bool) : Nat → Decoder → List Line
  | 0, _ => []
  | n + 1, d =>
      if d.canDecode && keep d.ip then
        let (i, rest) := d.decode
        ⟨i.ip, d.ahead.take i.length, i⟩ :: linesWhile keep n rest
      else []

/-- The lines of the instructions that start before `limit`. -/
def linesBelow (limit : UInt64) (d : Decoder) : List Line :=
  d.linesWhile (· < limit) d.ahead.length

/-- The lines of all instructions to the end of the buffer. -/
def lines (d : Decoder) : List Line := d.linesWhile (fun _ => true) d.ahead.length

end Decoder

namespace Image

/-- A linear sweep over the addresses from `start` to below `stop`. The last instruction may run
past `stop`. Nothing is listed where `start` is not mapped. -/
def listing (image : Image) (t : Tables) (m : Mode) (start stop : UInt64) : List Line :=
  match image.segmentAt? start with
  | none => []
  | some s =>
      Decoder.linesBelow stop
        { tables := t, mode := m, data := s.bytesFrom start, ip := start }

end Image

end OpcodeForest
