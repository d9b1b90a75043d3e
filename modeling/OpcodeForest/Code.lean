import OpcodeForest.Code.Evex
import OpcodeForest.Code.FloatingPoint
import OpcodeForest.Code.OneByte
import OpcodeForest.Code.TwoByte
import OpcodeForest.Code.Vex
import OpcodeForest.Code.Xop

/-!
# Names of codes
-/

namespace OpcodeForest.Code

/-- All names, by code number. -/
def names : Array String :=
  (oneByteNames ++ floatingPointNames ++ twoByteNames ++ vexNames ++ xopNames ++ evexNames
    ++ ["Pause", "Nopw", "Nopd", "Nopq"]).toArray

def name (c : Code) : String := names.getD c.number ""

def ofName? (s : String) : Option Code := names.findIdx? (· == s) |>.bind ofNumber?

end OpcodeForest.Code
