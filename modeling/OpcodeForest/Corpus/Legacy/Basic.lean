import OpcodeForest.Corpus.Draft
import OpcodeForest.Mode
import OpcodeForest.Table.Tag.Legacy

/-!
# Entries of the one-byte and two-byte maps
-/

namespace OpcodeForest.Corpus.Legacy

open NodeField

def node (tag : LegacyTag) (fields : List NodeField) : Entry := .node tag.byte fields

def simple (c : Code) : Entry := node .simple [.code c]

/-! ### Choices -/

def byMode (other long : Entry) : Entry := node .byMode [.child other, .child long]

/-- Invalid in 64-bit mode, without a ModRM byte. -/
def not64 (e : Entry) : Entry := byMode e .invalidNoModRM

/-- The fields of a default and of what takes its place when a switch is on. -/
def alternatives (usual : Entry) (others : List (Entry × Options)) : List NodeField :=
  .child usual :: .number (UInt32.ofNat others.length) ::
    others.flatMap fun (e, o) => [.child e, .number o.bits.toUInt32]

def options (usual : Entry) (others : List (Entry × Options)) : Entry :=
  node .byOption (alternatives usual others)

/-- As `options`, where the ModRM byte is read before. -/
def optionsModRM (usual : Entry) (others : List (Entry × Options)) : Entry :=
  node .byOptionModRM (alternatives usual others)

/-- By mandatory prefix: none, `66`, `F3`, `F2`. -/
def mandatory (bare p66 pF3 pF2 : Entry) : Entry :=
  node .mandatory [.child bare, .child p66, .child pF3, .child pF2]

def only66 (e : Entry) : Entry := mandatory .invalid e .invalid .invalid

/-- By mandatory prefix where `F3` tells two instructions apart and is used up. -/
def keptButF3 (bare p66 pF3 pF2 : Entry) : Entry :=
  node .mandatoryKept [.child bare, .child p66, .child pF3, .child pF2, .number 5]

/-- By mandatory prefix where `F2` tells two instructions apart and is used up. -/
def keptButF2 (bare p66 pF3 pF2 : Entry) : Entry :=
  node .mandatoryKept [.child bare, .child p66, .child pF3, .child pF2, .number 6]

/-- By mandatory prefix, apart for registers and memory; every prefix is used up. -/
def mandatoryByForm (reg mem : List Entry) : Entry :=
  node .mandatoryByForm ((reg ++ mem).map NodeField.child ++ [.number 255])

/-! ### Groups -/

def group (table : List Entry) : Draft Entry :=
  return node .group [.table (← Draft.array table)]

/-- A group with one table for memory and one for registers. -/
def splitGroup (memory registers : List Entry) : Draft Entry := do
  let low ← Draft.array memory
  let high ← Draft.array registers
  return node .splitGroup [.table low, .table high]

/-- A group whose register forms are told apart by all six low bits of the ModRM byte. -/
def fineGroup (coarse fine : List Entry) : Draft Entry := do
  let low ← Draft.array coarse
  let high ← Draft.array fine
  return node .fineGroup [.table low, .table high]

/-- A fine table that leaves the places it does not name to the coarse one. -/
def overlay (rows : Rows) : List Entry := tabulate 64 .null rows

/-- All eight places of one `reg` value in a fine table. -/
def fineRow (reg : Nat) (e : Entry) : Rows := span (8 * reg) 8 fun _ => e

/-! ### Vector instructions -/

def vw (c : Code) : Entry := node .vw [.code c]

/-- On `mm` registers without a prefix, on `xmm` registers with `66`. -/
def mmxSse (first : Code) : Entry :=
  mandatory (node .pq [.code first]) (vw (first.offset 1)) .invalid .invalid

/-- Instructions on `mm` and `xmm` registers with consecutive codes, from `opcode` on. -/
def mmxSpan (opcode n : Nat) (first : Code) : Rows :=
  span opcode n fun k => mmxSse (first.offset (2 * k))

/-- Packed single, packed double, scalar single, scalar double. -/
def ssePackedScalar (first : Code) : Entry :=
  mandatory (vw first) (vw (first.offset 1)) (vw (first.offset 2)) (vw (first.offset 3))

/-- Packed single and packed double. -/
def ssePacked (first : Code) : Entry :=
  mandatory (vw first) (vw (first.offset 1)) .invalid .invalid

/-- A mask of signs, packed single and packed double, into a general register. -/
def sseMask (first : Code) : Entry :=
  mandatory (node .gvW [two first]) (node .gvW [two (first.offset 2)]) .invalid .invalid

/-- A shift by an immediate, on `mm` registers and on `xmm` registers. -/
def shiftBy (first : Code) : Entry :=
  mandatory (node .nIb [.code first]) (node .rIb [.code (first.offset 1)]) .invalid .invalid

end OpcodeForest.Corpus.Legacy
