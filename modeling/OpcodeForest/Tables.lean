import OpcodeForest.Node

/-!
# Decode tables

The maps from opcode bytes to nodes, over one shared forest.
-/

namespace OpcodeForest

/-- A node for each of the 256 opcode bytes. -/
abbrev OpcodeMap := List NodeId

namespace OpcodeMap

/-- The node at opcode `b`. -/
def node (map : OpcodeMap) (b : UInt8) : NodeId := map.getD b.toNat .invalid

end OpcodeMap

/-- The maps of instructions without a payload. Only the one-byte map is looked up directly;
it refers to the others through its escape nodes. -/
structure LegacyMaps where
  oneByte : OpcodeMap
  map0F : OpcodeMap
  map0F38 : OpcodeMap
  map0F3A : OpcodeMap
deriving DecidableEq, Repr

/-- Decode tables. The VEX, XOP and EVEX payloads each select among three maps. -/
structure Tables where
  forest : Forest
  legacy : LegacyMaps
  vex : List OpcodeMap
  xop : List OpcodeMap
  evex : List OpcodeMap
deriving DecidableEq, Repr

namespace Tables

def nodeCount (t : Tables) : Nat := t.forest.size

end Tables

end OpcodeForest
