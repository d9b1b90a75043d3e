import OpcodeForest.Table.Reader
import OpcodeForest.Tables

/-!
# Loading tables

Four serialized tables make up the decode tables. They share one forest, so the nodes of each
come after those of the ones before.
-/

namespace OpcodeForest

/-- Serialized tables. -/
structure Blobs where
  legacy : List UInt8 := []
  vex : List UInt8 := []
  xop : List UInt8 := []
  evex : List UInt8 := []
deriving DecidableEq, Repr

/-- Reads a table with `count` maps into `forest`; the forest is given also if that fails. -/
def readTable (f : Family) (count : Nat) (data : List UInt8) (forest : Forest) :
    Except TableError (List OpcodeMap) × Forest :=
  let (maps, cursor) := (Reader.whole f count).run { rest := data, forest }
  (maps, cursor.forest)

namespace Tables

/-- Reads a table whose success is needed to go on. -/
def loadMaps (f : Family) (count : Nat) (data : List UInt8) (forest : Forest) :
    Except TableError (List OpcodeMap × Forest) :=
  match readTable f count data forest with
  | (.ok maps, forest) => .ok (maps, forest)
  | (.error e, _) => .error e

/-- Loads serialized tables. The legacy table ends with its maps in the order in which they
refer to each other: `0F38`, `0F3A`, `0F`, one-byte. -/
def load (b : Blobs) : Except TableError Tables := do
  let (legacy, forest) ← loadMaps .legacy 4 b.legacy .fresh
  let (vex, forest) ← loadMaps .vex 3 b.vex forest
  let (xop, forest) ← loadMaps .vex 3 b.xop forest
  let (evex, forest) ← loadMaps .evex 3 b.evex forest
  return {
    forest, vex, xop, evex
    legacy := { map0F38 := legacy.getD 0 [], map0F3A := legacy.getD 1 [],
                map0F := legacy.getD 2 [], oneByte := legacy.getD 3 [] } }

end Tables

end OpcodeForest
