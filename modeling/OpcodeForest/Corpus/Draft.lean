import OpcodeForest.Table.Entry

/-!
# Drafting tables

A table is drafted record by record. What is added is numbered in order of addition, and an
entry refers to it by that number.
-/

namespace OpcodeForest

/-- Opcodes, or other numbers that select a place, with their entries. -/
abbrev Rows := List (Nat × Entry)

/-- `n` places that hold `rest` where `rows` say nothing else. -/
def tabulate (n : Nat) (rest : Entry) (rows : Rows) : List Entry :=
  (List.range n).map fun k => (rows.lookup k).getD rest

/-- The `n` places from `first` on. -/
def span (first n : Nat) (entry : Nat → Entry) : Rows :=
  (List.range n).map fun k => (first + k, entry k)

/-- The eight places of the ModRM `reg` field. -/
def byReg (rows : Rows) : List Entry := tabulate 8 .invalid rows

/-- A table under construction: the records so far. -/
abbrev Draft := StateM (List Record)

namespace Draft

/-- Adds a record and gives its number. -/
def add (r : Record) : Draft UInt8 := fun records =>
  (UInt8.ofNat records.length, records ++ [r])

def array (entries : List Entry) : Draft UInt8 := add (.array entries)

/-- Adds an opcode map. -/
def map (rows : Rows) : Draft UInt8 := array (tabulate 256 .invalid rows)

/-- Adds a node that several entries share. -/
def shared (e : Entry) : Draft Entry := return .ref (← add (.handler e))

/-- The finished records. -/
def records (d : Draft Unit) : List Record := (d.run []).2

end Draft

namespace NodeField

/-- Two codes, for two operand sizes. -/
def two (first : Code) : NodeField := .codes (first.run 2)

/-- Three codes, one per operand size. -/
def three (first : Code) : NodeField := .codes (first.run 3)

/-- No lock byte and no hints. -/
def plain : NodeField := .number 0

/-- Read and written back: a lock byte and, with it, both hints. -/
def lockable : NodeField := .number 7

/-- As `lockable`, but the hints need no lock byte. -/
def exchanging : NodeField := .number 15

/-- A store: the release hint, without a lock byte. -/
def storing : NodeField := .number 12

end NodeField

end OpcodeForest
