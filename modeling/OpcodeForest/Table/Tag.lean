import OpcodeForest.Table.Error
import OpcodeForest.Table.Tag.Evex
import OpcodeForest.Table.Tag.Legacy
import OpcodeForest.Table.Tag.Vex

/-!
# Tags by family

The rows of each tag space in numbering order, and the bytes of the entries that all families
share.
-/

namespace OpcodeForest

namespace Family

def rows : Family → List TagRow
  | legacy => LegacyTag.all.map (·.row)
  | vex => VexTag.all.map (·.row)
  | evex => EvexTag.all.map (·.row)

/-- The tag that a byte spells. -/
def row? (f : Family) (tag : UInt8) : Option TagRow := f.rows[tag.toNat]?

/-- The byte of the tag named `name`. -/
def byteOfName? (f : Family) (name : String) : Option UInt8 :=
  (f.rows.findIdx? (·.name == name)).map UInt8.ofNat

end Family

/-- The bytes of the shared entries. -/
structure SharedTags where
  invalid : UInt8
  invalidNoModRM : Option UInt8
  invalidPair : UInt8
  repeated : UInt8
  null : Option UInt8
  handlerReference : UInt8
  arrayReference : UInt8
deriving DecidableEq, Repr

namespace Family

def shared : Family → SharedTags
  | legacy =>
      { invalid := LegacyTag.invalid.byte
        invalidNoModRM := some LegacyTag.invalidNoModRM.byte
        invalidPair := LegacyTag.invalidPair.byte
        repeated := LegacyTag.repeated.byte
        null := some LegacyTag.null.byte
        handlerReference := LegacyTag.handlerReference.byte
        arrayReference := LegacyTag.arrayReference.byte }
  | vex =>
      { invalid := VexTag.invalid.byte
        invalidNoModRM := some VexTag.invalidNoModRM.byte
        invalidPair := VexTag.invalidPair.byte
        repeated := VexTag.repeated.byte
        null := some VexTag.null.byte
        handlerReference := VexTag.handlerReference.byte
        arrayReference := VexTag.arrayReference.byte }
  | evex =>
      { invalid := EvexTag.invalid.byte
        invalidNoModRM := none
        invalidPair := EvexTag.invalidPair.byte
        repeated := EvexTag.repeated.byte
        null := none
        handlerReference := EvexTag.handlerReference.byte
        arrayReference := EvexTag.arrayReference.byte }

end Family

end OpcodeForest
