import OpcodeForest.Table.Entry
import OpcodeForest.Table.Tag

/-!
# Writing tables

Records are written one after the other and numbered; an entry can refer to a record by its
number once the record is written. An array writes a run of equal entries once, so that all
places of the run share one node.
-/

namespace OpcodeForest

/-- Bytes put out, up to the first fault if there is one. -/
structure Emission where
  bytes : List UInt8 := []
  fault : Option TableError := none
deriving DecidableEq, Repr

namespace Emission

def fail (e : TableError) : Emission := ⟨[], some e⟩

def ofBytes (bytes : List UInt8) : Emission := ⟨bytes, none⟩

/-- `a`, then `b` unless `a` failed. -/
def andThen (a b : Emission) : Emission :=
  match a.fault with
  | some _ => a
  | none => ⟨a.bytes ++ b.bytes, b.fault⟩

instance : Append Emission := ⟨andThen⟩

/-- One after the other up to the first fault. -/
def concat (es : List Emission) : Emission := es.foldr andThen {}

end Emission

/-- The codes follow each other in numbering order. -/
def consecutive (codes : List Code) : Bool :=
  match codes with
  | [] => true
  | base :: _ => codes.zipIdx.all fun (c, n) => c.number.val == base.number.val + n

/-- What entries are written against: the family and the kinds of the records so far. -/
structure WriteContext where
  family : Family
  slots : List SlotKind
deriving DecidableEq, Repr

namespace WriteContext

/-- A reference to a record of kind `expected`. -/
def reference (c : WriteContext) (tag slot : UInt8) (expected : SlotKind) : Emission :=
  match c.slots[slot.toNat]? with
  | none => .fail (.badSlot slot.toNat c.slots.length)
  | some found =>
      if found = expected then .ofBytes [tag, slot]
      else .fail (.slotKindMismatch slot.toNat expected found)

/-- An entry that some families lack. -/
def optional (c : WriteContext) (name : String) : Option UInt8 → Emission
  | some tag => .ofBytes [tag]
  | none => .fail (.unsupportedEntry c.family name)

mutual

def entry (c : WriteContext) : Entry → Emission
  | .invalid => .ofBytes [c.family.shared.invalid]
  | .invalidNoModRM => c.optional "Invalid_NoModRM" c.family.shared.invalidNoModRM
  | .null => c.optional "Null" c.family.shared.null
  | .invalidPair => .ofBytes [c.family.shared.invalidPair]
  | .ref slot => c.reference c.family.shared.handlerReference slot .handler
  | .repeated count e =>
      .ofBytes (c.family.shared.repeated :: Compressed.encode count)
        ++ (if e.isRepeat then .fail .repeatInScalar else c.entry e)
  | .node tag fields => .ofBytes [tag] ++ c.fields fields

def field (c : WriteContext) : NodeField → Emission
  | .code code => .ofBytes (Compressed.encode (UInt32.ofNat code.number))
  | .codes codes =>
      let base := (codes.headD .Invalid).number.val
      if consecutive codes then .ofBytes (Compressed.encode (UInt32.ofNat base))
      else .fail (.codesNotAdjacent base)
  | .register r => .ofBytes [UInt8.ofNat r.index]
  | .tuple t => .ofBytes [UInt8.ofNat t.number]
  | .flag b => .ofBytes [if b then 1 else 0]
  | .number n => .ofBytes (Compressed.encode n)
  | .byte b => .ofBytes [b]
  | .child e => if e.isRepeat then .fail .repeatInScalar else c.entry e
  | .table slot => c.reference c.family.shared.arrayReference slot .array

def fields (c : WriteContext) : List NodeField → Emission
  | [] => {}
  | f :: rest => c.field f ++ c.fields rest

end

/-- An entry that stands for one place. -/
def scalar (c : WriteContext) (e : Entry) : Emission :=
  if e.isRepeat then .fail .repeatInScalar else c.entry e

end WriteContext

/-- Groups equal neighbours. Entries that are repeated of their own accord stay alone. -/
def groupRuns : List Entry → List (Entry × Nat)
  | [] => []
  | e :: rest =>
      match groupRuns rest with
      | (e', n) :: runs =>
          if e = e' ∧ !e.isRepeat then (e, n + 1) :: runs else (e, 1) :: (e', n) :: runs
      | [] => [(e, 1)]

namespace WriteContext

/-- A run of `n` equal entries. -/
def run (c : WriteContext) : Entry × Nat → Emission
  | (e, 1) => c.entry e
  | (.invalid, 2) => .ofBytes [c.family.shared.invalidPair]
  | (e, n) =>
      .ofBytes (c.family.shared.repeated :: Compressed.encode (UInt32.ofNat n)) ++ c.scalar e

/-- A record with its kind byte. An array starts with the number of its places. -/
def record (c : WriteContext) : Record → Emission
  | .handler e => .ofBytes [0] ++ c.scalar e
  | .array entries =>
      .ofBytes (1 :: Compressed.encode (Entry.places entries))
        ++ .concat ((groupRuns entries).map c.run)

end WriteContext

namespace Record

def kind : Record → SlotKind
  | handler _ => .handler
  | array _ => .array

end Record

/-- A table as far as it is written. -/
structure Writer where
  family : Family
  bytes : List UInt8 := []
  /-- The kinds of the records, by number. -/
  slots : List SlotKind := []
deriving DecidableEq, Repr

namespace Writer

def context (w : Writer) : WriteContext := ⟨w.family, w.slots⟩

/-- Writes a record and gives its number. A record that fails takes no number, but what it has
put out stays. -/
def write (w : Writer) (r : Record) : Except TableError UInt8 × Writer :=
  if 256 ≤ w.slots.length then (.error .tooManySlots, w)
  else
    let e := w.context.record r
    let w' := { w with bytes := w.bytes ++ e.bytes }
    match e.fault with
    | some fault => (.error fault, w')
    | none => (.ok (UInt8.ofNat w.slots.length), { w' with slots := w.slots ++ [r.kind] })

/-- Writes records in order, failing or not, and gives the outcome of each. -/
def writeAll (w : Writer) : List Record → List (Except TableError UInt8) × Writer
  | [] => ([], w)
  | r :: rest =>
      let (outcome, w) := w.write r
      let (outcomes, w) := w.writeAll rest
      (outcome :: outcomes, w)

end Writer

end OpcodeForest
