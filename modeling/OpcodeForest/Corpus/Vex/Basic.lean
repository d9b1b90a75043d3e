import OpcodeForest.Corpus.Draft
import OpcodeForest.Table.Tag.Vex

/-!
# Entries of the VEX and XOP maps
-/

namespace OpcodeForest.Corpus.Vex

open NodeField

def node (tag : VexTag) (fields : List NodeField) : Entry := .node tag.byte fields

/-! ### Choices -/

/-- By the prefix of the payload: none, `66`, `F3`, `F2`. -/
def mandatory (bare p66 pF3 pF2 : Entry) : Entry :=
  node .payloadPrefix [.child bare, .child p66, .child pF3, .child pF2]

def noPrefix (e : Entry) : Entry := mandatory e .invalid .invalid .invalid

def only66 (e : Entry) : Entry := mandatory .invalid e .invalid .invalid

def byLength (l128 l256 : Entry) : Entry := node .byLength [.child l128, .child l256]

def length0 (e : Entry) : Entry := byLength e .invalid

def byW (w0 w1 : Entry) : Entry := node .byW [.child w0, .child w1]

def w0 (e : Entry) : Entry := byW e .invalid

def byForm (reg mem : Entry) : Entry := node .byForm [.child reg, .child mem]

def group (table : List Entry) : Draft Entry :=
  return node .group [.table (← Draft.array table)]

/-! ### Instructions -/

def vhw (c : Code) (base : Register) : Entry := node .vhwShared [.code c, .register base]

def vw (c : Code) (base : Register) : Entry := node .vwShared [.code c, .register base]

def wv (c : Code) (base : Register) : Entry :=
  node .wv [.code c, .register base, .register base]

/-- A form by length: on `xmm` registers, then with the next code on `ymm` registers. -/
def eachLength (first : Code) (form : Code → Register → Entry) : Entry :=
  byLength (form first .xmm0) (form (first.offset 1) .ymm0)

def packed3 (first : Code) : Entry := eachLength first vhw

def packed2 (first : Code) : Entry := eachLength first vw

def stores (first : Code) : Entry := eachLength first wv

/-- Packed single, packed double, scalar single, scalar double. The scalar forms ignore the
length. -/
def arithmetic (first : Code) : Entry :=
  mandatory (packed3 first) (packed3 (first.offset 2)) (vhw (first.offset 4) .xmm0)
    (vhw (first.offset 5) .xmm0)

end OpcodeForest.Corpus.Vex
