import OpcodeForest.Corpus.Legacy.FloatingPoint
import OpcodeForest.Corpus.Legacy.OneByte
import OpcodeForest.Corpus.Legacy.ThreeByte
import OpcodeForest.Corpus.Legacy.TwoByte

/-!
# The table of instructions without a payload

Its last four records are the maps, each after those that it refers to.
-/

namespace OpcodeForest.Corpus.Legacy

/-- The opcode byte after which `map` goes on. -/
def escape (map : UInt8) : Entry := node .escape [.table map]

def twoByte : Draft Rows := do
  let system ← TwoByte.systemGroups
  let hints ← TwoByte.hintGroups
  let shifts ← TwoByte.shiftGroups
  let state ← TwoByte.stateGroups
  return TwoByte.direct ++ system ++ hints ++ shifts ++ state

def oneByte : Draft Rows := do
  let immediates ← OneByte.immediateGroups
  let shifts ← OneByte.shiftGroups
  let stores ← OneByte.storeGroups
  let floats ← FloatingPoint.groups
  let unary ← OneByte.unaryGroups
  return OneByte.direct ++ immediates ++ shifts ++ stores ++ floats ++ unary

def records : List Record := Draft.records do
  let rows0F ← twoByte
  let rows ← oneByte
  let map0F38 ← Draft.map ThreeByte.map0F38
  let map0F3A ← Draft.map ThreeByte.map0F3A
  let map0F ← Draft.map (rows0F ++ [(0x38, escape map0F38), (0x3A, escape map0F3A)])
  let _ ← Draft.map (rows ++ [(0x0F, escape map0F)])

end OpcodeForest.Corpus.Legacy
