import OpcodeForest.Table.Tag

/-!
# Reading tables

A reader goes through the bytes of a table, adds the nodes it finds to a forest and keeps the
records that later entries refer to. When it fails it stays where it is: the position and the
nodes added so far remain.
-/

namespace OpcodeForest

/-- A record that has been read. -/
inductive Slot where
  | node (id : NodeId)
  | array (ids : List NodeId)
deriving DecidableEq, Repr

namespace Slot

def kind : Slot → SlotKind
  | node _ => .handler
  | array _ => .array

end Slot

/-- Where a reader stands. -/
structure Cursor where
  rest : List UInt8
  /-- Bytes read. -/
  offset : Nat := 0
  forest : Forest
  slots : List Slot := []
deriving DecidableEq, Repr

/-- A computation that reads on from a cursor. -/
abbrev Reader := ExceptT TableError (StateM Cursor)

/-- What an entry stands for. -/
inductive Constructed where
  | single (id : NodeId)
  | repeated (id : NodeId) (count : Nat)
deriving DecidableEq, Repr

namespace Reader

/-! ### Primitives -/

def byte : Reader UInt8 := do
  let c ← get
  match c.rest with
  | [] => throw (.unexpectedEnd c.offset)
  | b :: rest =>
      set { c with rest, offset := c.offset + 1 }
      return b

def position : Reader Nat := return (← get).offset

/-- Reads the groups of a compressed integer that starts at `start`. The last group that fits
holds four bits and announces no other. -/
def groups (start : Nat) : Nat → Reader Nat
  | 0 => throw (.integerOverflow start)
  | n + 1 => do
      let b ← byte
      if n = 0 ∧ 15 < b then throw (.integerOverflow start)
      else if b < 128 then return b.toNat
      else
        let high ← groups start n
        return b.toNat % 128 + 128 * high

/-- A compressed integer. -/
def number : Reader Nat := do
  let start ← position
  groups start Compressed.maxGroups

/-- Reads a byte and interprets it, or fails with it and its offset. -/
def byteAs (f : UInt8 → Option α) (fault : UInt8 → Nat → TableError) : Reader α := do
  let offset ← position
  let b ← byte
  match f b with
  | some a => return a
  | none => throw (fault b offset)

def register : Reader Register := byteAs (Register.ofIndex? ·.toNat) .unknownRegister

def tuple : Reader TupleType := byteAs (TupleType.ofNumber? ·.toNat) .unknownTupleType

def flag : Reader Bool :=
  byteAs (fun b => if b = 0 then some false else if b = 1 then some true else none) .invalidBool

/-- The code `base + n`, for a code that was spelled at `offset`. -/
def codeAt (base offset n : Nat) : Reader Code :=
  match Code.ofNumber? (base + n) with
  | some c => return c
  | none => throw (.unknownCode (base + n) offset)

/-- A code and the `n - 1` codes after it. -/
def codes (n : Nat) : Reader (List Code) := do
  let offset ← position
  let base ← number
  (List.range n).mapM (codeAt base offset)

def code : Reader Code := do
  let offset ← position
  let base ← number
  codeAt base offset 0

/-- Two codes, the second of which serves 32 and 64 bits alike. -/
def codesWidened : Reader (List Code) := do
  match ← codes 2 with
  | [c₁₆, c₃₂] => return [c₁₆, c₃₂, c₃₂]
  | cs => return cs

/-- Reads `n` times. -/
def times (read : Reader α) : Nat → Reader (List α)
  | 0 => return []
  | n + 1 => do
      let a ← read
      let as ← times read n
      return a :: as

/-! ### References -/

def slot (n : UInt8) : Reader Slot := do
  let c ← get
  match c.slots[n.toNat]? with
  | some s => return s
  | none => throw (.badSlot n.toNat c.slots.length)

/-- The node of an earlier record. -/
def handlerReference : Reader NodeId := do
  let n ← byte
  match ← slot n with
  | .node id => return id
  | s => throw (.slotKindMismatch n.toNat .handler s.kind)

/-- The array of an earlier record, `length` nodes long. -/
def table (f : Family) (length : Nat) : Reader (List NodeId) := do
  let tag ← byte
  if tag ≠ f.shared.arrayReference then
    throw (.arrayKindMismatch f.shared.arrayReference tag)
  let n ← byte
  match ← slot n with
  | .array ids =>
      if ids.length = length then return ids else throw (.arrayLength length ids.length)
  | s => throw (.slotKindMismatch n.toNat .array s.kind)

/-- The fault of an array reference where a node has to stand; a number that is missing is
reported as the largest one. -/
def misplacedArray : Reader α := do
  let n ← (UInt8.toNat <$> byte) <|> pure (UInt32.size - 1)
  throw (.slotKindMismatch n .handler .array)

/-- The fault of a tag that the family lacks. -/
def unknownTag (f : Family) (tag : UInt8) : Reader α := do
  throw (.unknownTag f tag ((← position) - 1))

/-! ### Nodes -/

/-- Adds a node to the forest. -/
def push (node : Node) : Reader NodeId := do
  let c ← get
  set { c with forest := c.forest.push node }
  return ⟨c.forest.size⟩

/-- An entry that stands for one node. -/
def single (entry : Reader Constructed) : Reader NodeId := do
  match ← entry with
  | .single id => return id
  | .repeated _ _ => throw .repeatInScalar

/-- A child entry and the switches that select it. -/
def alternative (child : Reader NodeId) : Reader (NodeId × Options) := do
  let id ← child
  let bits ← number
  return (id, .ofNat bits)

/-- A byte and its code. -/
def trailingCode : Reader (UInt8 × Code) := do
  let b ← byte
  let c ← code
  return (b, c)

/-- Reads one field into a payload. -/
def field (f : Family) (child : Reader NodeId) (p : Payload) : FieldKind → Reader Payload
  | .codes n => return { p with codes := ← codes n }
  | .codesWidened => return { p with codes := ← codesWidened }
  | .register copies => do
      let r ← register
      return { p with registers := p.registers ++ List.replicate copies r }
  | .tuple => return { p with tuple := ← tuple }
  | .flag => return { p with flags := p.flags ++ [← flag] }
  | .number => return { p with number := .ofNat (← number) }
  | .locks => return { p with locks := .ofBits (← number) }
  | .children n => return { p with children := p.children ++ (← times child n) }
  | .table n => return { p with tables := p.tables ++ [← table f n] }
  | .alternatives => do
      let n ← number
      return { p with alternatives := ← times (alternative child) n }
  | .trailing => do
      let n ← number
      return { p with trailing := ← times trailingCode n }

/-- Reads the fields of a layout. -/
def payload (f : Family) (child : Reader NodeId) : List FieldKind → Payload → Reader Payload
  | [], p => return p
  | k :: rest, p => do
      let p ← field f child p k
      payload f child rest p

/-- Reads what a tag announces, given how to read a child. -/
def announced (f : Family) (child : Reader NodeId) : TagRule → Reader Constructed
  | .sentinel id => return .single id
  | .invalidPair => return .repeated .invalid 2
  | .repeated => do
      let count ← number
      let id ← child
      return .repeated id count
  | .handlerReference => return .single (← handlerReference)
  | .arrayReference => misplacedArray
  | .node kind layout => do
      let p ← payload f child layout {}
      return .single (← push (kind.node p))

/-- Reads an entry whose children nest at most `depth` deep. -/
def entryWithin (f : Family) : (depth : Nat) → Reader Constructed
  | 0 => do throw (.unexpectedEnd (← position))
  | depth + 1 => do
      let tag ← byte
      match f.row? tag with
      | some row => announced f (single (entryWithin f depth)) row.rule
      | none => unknownTag f tag

/-- Reads an entry. Each nested entry takes a byte, so the bytes that are left bound the
depth. -/
def entry (f : Family) : Reader Constructed := do
  let c ← get
  entryWithin f (c.rest.length + 1)

/-- Reads an entry that stands for one node. -/
def handler (f : Family) : Reader NodeId := single (entry f)

/-- A count, and the entry that stands so many times. -/
def repeated (f : Family) : Reader Constructed := do
  let count ← number
  let id ← handler f
  return .repeated id count

/-! ### Records -/

/-- Reads entries until `declared` places are filled, `filled` of which are already. The places are
counted in 32 bits, and a run that goes past them counts up to the largest such number. -/
def fill (f : Family) (declared : Nat) : (fuel filled : Nat) → Reader (List NodeId)
  | 0, _ => do throw (.unexpectedEnd (← position))
  | fuel + 1, filled =>
      if declared ≤ filled then return []
      else do
        match ← entry f with
        | .single id =>
            let ids ← fill f declared fuel (filled + 1)
            return id :: ids
        | .repeated id count =>
            let places := min (filled + count) (UInt32.size - 1)
            if declared < places then throw (.arrayOverflow declared places)
            let ids ← fill f declared fuel ((filled + count) % UInt32.size)
            return List.replicate count id ++ ids

/-- An array: the number of its places, and entries that fill them. -/
def array (f : Family) : Reader (List NodeId) := do
  let declared ← number
  let c ← get
  fill f declared (c.rest.length + 2) 0

/-- A record by its kind byte. -/
def slotRecord (f : Family) : Reader Slot := do
  let offset ← position
  let kind ← byte
  if kind = 0 then return .node (← handler f)
  else if kind = 1 then return .array (← array f)
  else throw (.unknownRecordKind kind offset)

/-- Reads records to the end of the data; a reference has room for 256 of them. -/
def records (f : Family) : (fuel : Nat) → Reader Unit
  | 0 => return ()
  | fuel + 1 => do
      let c ← get
      if c.rest.isEmpty then return ()
      if 256 ≤ c.slots.length then throw .tooManySlots
      let s ← slotRecord f
      modify fun c => { c with slots := c.slots ++ [s] }
      records f fuel

/-- The map that record `n` has to be. -/
def rootMap (n : Nat) : Slot → Except TableError (List NodeId)
  | .array ids => if ids.length = 256 then .ok ids else .error (.arrayLength 256 ids.length)
  | .node _ => .error (.slotKindMismatch n .array .handler)

/-- The last `count` records as maps. -/
def rootMaps (count : Nat) (slots : List Slot) : Except TableError (List (List NodeId)) :=
  if slots.length < count then .error (.missingRoots count slots.length)
  else
    let first := slots.length - count
    (slots.drop first).zipIdx.mapM fun (s, n) => rootMap (first + n) s

/-- Reads a whole table whose last `count` records are its maps. -/
def whole (f : Family) (count : Nat) : Reader (List (List NodeId)) := do
  let c ← get
  records f c.rest.length
  let c ← get
  liftExcept (rootMaps count c.slots)

end Reader

end OpcodeForest
