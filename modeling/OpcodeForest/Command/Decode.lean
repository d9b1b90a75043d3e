import OpcodeForest.Command.Error
import OpcodeForest.Listing

/-!
# The decode command

Decodes bytes that are given as hexadecimal text.
-/

namespace OpcodeForest

structure DecodeCommand where
  bitness : Nat := 64
  /-- Address of the first byte. -/
  ip : String := "0"
  /-- Skip the checks of reserved bits. -/
  lenient : Bool := false
  json : Bool := false
  /-- The bytes, in one piece or several. -/
  pieces : List String := []
deriving DecidableEq, Repr

namespace DecodeCommand

def mode (c : DecodeCommand) (b : Bitness) : Mode :=
  ⟨b, if c.lenient then .noInvalidCheck else {}⟩

/-- What is printed for the instructions of a buffer. -/
def render (c : DecodeCommand) (d : Decoder) : String :=
  if c.json then (Json.list (d.sweep.map (·.json))).pretty 0 ++ "\n"
  else String.join (d.lines.map (·.text true))

/-- The printed output. The mode is checked first, then the bytes, then the address. -/
def run (c : DecodeCommand) (t : Tables) : Outcome String := do
  let b ← Outcome.bitness c.bitness
  let data ← Outcome.bytes c.pieces
  let ip ← Outcome.address c.ip
  return c.render { tables := t, mode := c.mode b, data, ip }

end DecodeCommand

end OpcodeForest
