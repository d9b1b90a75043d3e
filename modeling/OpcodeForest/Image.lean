/-!
# Memory images

An image is a list of segments, each a run of bytes at an address. Where segments overlap the
first one counts.
-/

namespace OpcodeForest

structure Segment where
  name : String := ""
  base : UInt64
  bytes : List UInt8
  permissions : String := "r-x"
  kind : String := "raw"
deriving DecidableEq, Repr

namespace Segment

/-- The address after the last byte, as a 64-bit number. -/
def limit (s : Segment) : UInt64 := s.base + UInt64.ofNat s.bytes.length

def contains (s : Segment) (address : UInt64) : Bool := s.base ≤ address && address < s.limit

/-- The bytes from `address` on. -/
def bytesFrom (s : Segment) (address : UInt64) : List UInt8 :=
  s.bytes.drop (address - s.base).toNat

end Segment

structure Image where
  segments : List Segment
deriving DecidableEq, Repr

namespace Image

/-- The segment that holds `address`. -/
def segmentAt? (image : Image) (address : UInt64) : Option Segment :=
  image.segments.find? (·.contains address)

def isMapped (image : Image) (address : UInt64) : Bool := image.segments.any (·.contains address)

def byteAt? (image : Image) (address : UInt64) : Option UInt8 :=
  (image.segmentAt? address).bind fun s => (s.bytesFrom address).head?

/-- The bytes from `address` up to `stop` or to the end of the segment. -/
def bytesAt? (image : Image) (address stop : UInt64) : Option (List UInt8) :=
  (image.segmentAt? address).map fun s =>
    (s.bytesFrom address).take ((min stop s.limit).toNat - address.toNat)

end Image

end OpcodeForest
