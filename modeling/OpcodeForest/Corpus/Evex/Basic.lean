import OpcodeForest.Corpus.Draft
import OpcodeForest.Table.Tag.Evex

/-!
# Entries of the EVEX maps

Most instructions have one form per vector length, with consecutive codes, the registers of
that length and a tuple type of that length.
-/

namespace OpcodeForest.Corpus.Evex

open NodeField

def node (tag : EvexTag) (fields : List NodeField) : Entry := .node tag.byte fields

/-! ### Choices -/

/-- By the prefix of the payload: none, `66`, `F3`, `F2`. -/
def mandatory (bare p66 pF3 pF2 : Entry) : Entry :=
  node .payloadPrefix [.child bare, .child p66, .child pF3, .child pF2]

def only66 (e : Entry) : Entry := mandatory .invalid e .invalid .invalid

def byW (w0 w1 : Entry) : Entry := node .byW [.child w0, .child w1]

def w0 (e : Entry) : Entry := byW e .invalid

def w1 (e : Entry) : Entry := byW .invalid e

/-- By the lengths 128, 256 and 512; the fourth is reserved. -/
def byLength (l128 l256 l512 : Entry) : Entry :=
  node .byLength [.child l128, .child l256, .child l512, .child .invalid]

/-- As `byLength`, but a register form with the `b` bit set has length 512. -/
def byLengthRounded (l128 l256 l512 : Entry) : Entry :=
  node .byLengthRounded [.child l128, .child l256, .child l512, .child .invalid]

def length0 (e : Entry) : Entry := byLength e .invalid .invalid

def byForm (reg mem : Entry) : Entry := node .byForm [.child reg, .child mem]

def group (table : List Entry) : Draft Entry :=
  return node .group [.table (← Draft.array table)]

/-! ### Forms by length -/

/-- The tuple types of an instruction at the three lengths. -/
structure Tuples where
  l128 : TupleType
  l256 : TupleType
  l512 : TupleType

namespace Tuples

/-- A whole vector. -/
def full : Tuples := ⟨.n16, .n32, .n64⟩

/-- A whole vector, or one element of four bytes for all. -/
def broadcast32 : Tuples := ⟨.n16b4, .n32b4, .n64b4⟩

/-- A whole vector, or one element of eight bytes for all. -/
def broadcast64 : Tuples := ⟨.n16b8, .n32b8, .n64b8⟩

end Tuples

/-- One form per length, put together by `choose`. -/
def perLength (choose : Entry → Entry → Entry → Entry) (first : Code) (t : Tuples)
    (form : Code → Register → TupleType → Entry) : Entry :=
  choose (form first .xmm0 t.l128) (form (first.offset 1) .ymm0 t.l256)
    (form (first.offset 2) .zmm0 t.l512)

/-- Forms of `tag` with one register class, given once. -/
def shared (tag : EvexTag) (first : Code) (t : Tuples) (flags : List NodeField) : Entry :=
  perLength byLength first t fun c base tuple =>
    node tag ([.code c, .register base, .tuple tuple] ++ flags)

/-- Forms of `tag` with one register class, given for each of the two operands. -/
def doubled (tag : EvexTag) (first : Code) (t : Tuples) (flags : List NodeField) : Entry :=
  perLength byLength first t fun c base tuple =>
    node tag ([.code c, .register base, .register base, .tuple tuple] ++ flags)

/-- As `shared`, with rounding control. -/
def sharedRounded (tag : EvexTag) (first : Code) (t : Tuples) (flags : List NodeField) : Entry :=
  perLength byLengthRounded first t fun c base tuple =>
    node tag ([.code c, .register base, .tuple tuple] ++ flags)

/-- As `doubled`, with rounding control. -/
def doubledRounded (tag : EvexTag) (first : Code) (t : Tuples) (flags : List NodeField) : Entry :=
  perLength byLengthRounded first t fun c base tuple =>
    node tag ([.code c, .register base, .register base, .tuple tuple] ++ flags)

/-! ### Instructions

The first flag of a form with rounding control says that it suppresses exceptions only; the
last one says that it takes a broadcast operand. -/

def vkHw (first : Code) (t : Tuples) (broadcast : Bool) : Entry :=
  shared .vkHwShared first t [.flag broadcast]

def vkHwEr (first : Code) (t : Tuples) (onlySae : Bool) : Entry :=
  sharedRounded .vkHwEr first t [.flag onlySae, .flag true]

def vkHwIb (first : Code) (t : Tuples) : Entry := shared .vkHwIbShared first t [.flag true]

def vkHwIbEr (first : Code) (t : Tuples) : Entry := sharedRounded .vkHwIbEr first t []

def vkW (first : Code) (t : Tuples) (broadcast : Bool) : Entry :=
  doubled .vkW first t [.flag broadcast]

def vkWEr (first : Code) (t : Tuples) (onlySae : Bool) : Entry :=
  doubledRounded .vkWEr first t [.flag onlySae, .flag true]

def vkWIb (first : Code) (t : Tuples) : Entry := doubled .vkWIb first t [.flag true]

def vkWIbEr (first : Code) (t : Tuples) : Entry := doubledRounded .vkWIbEr first t []

/-- A masked store of a whole vector. -/
def wkV (first : Code) : Entry := doubled .wkV first .full [.flag true]

def hkWIb (first : Code) (t : Tuples) : Entry := doubled .hkWIb first t [.flag true]

def kkHw (first : Code) (t : Tuples) : Entry := shared .kkHw first t [.flag true]

def kkHwIb (first : Code) (t : Tuples) : Entry := shared .kkHwIb first t [.flag true]

def kkHwIbSae (first : Code) (t : Tuples) : Entry := sharedRounded .kkHwIbSae first t [.flag true]

def kkWIb (first : Code) (t : Tuples) : Entry := shared .kkWIb first t [.flag true]

def kp1Hw (first : Code) (t : Tuples) : Entry := shared .kp1Hw first t [.flag true]

/-- A mask register spread over a vector. -/
def vrk (first : Code) : Entry :=
  perLength byLength first .full fun c base _ => node .vrk [.code c, .register base]

/-- The signs of a vector in a mask register. -/
def kr (first : Code) : Entry :=
  perLength byLength first .full fun c base _ => node .kr [.code c, .register base]

/-- A load or store that takes no mask. -/
def moved (tag : EvexTag) (first : Code) : Entry := shared tag first .full []

/-- A scalar operation, with rounding control on its register form. -/
def scalarEr (c : Code) (t : TupleType) (onlySae : Bool) : Entry :=
  node .vkHwEr [.code c, .register .xmm0, .tuple t, .flag onlySae, .flag false]

/-- Packed single, packed double, scalar single, scalar double. -/
def arithmetic (first : Code) (onlySae : Bool) : Entry :=
  mandatory (w0 (vkHwEr first .broadcast32 onlySae))
    (w1 (vkHwEr (first.offset 3) .broadcast64 onlySae))
    (w0 (scalarEr (first.offset 6) .n4 onlySae)) (w1 (scalarEr (first.offset 7) .n8 onlySae))

end OpcodeForest.Corpus.Evex
