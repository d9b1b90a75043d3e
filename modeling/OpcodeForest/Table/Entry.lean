import OpcodeForest.Code.Basic
import OpcodeForest.Register
import OpcodeForest.TupleType

/-!
# Table descriptions

Decode tables as a writer is given them: records of entries, where an entry is a node with its
fields, a reference to an earlier record, or one of a few fixed entries.
-/

namespace OpcodeForest

mutual

/-- What stands at one place of a table, or at several. -/
inductive Entry where
  | invalid
  | invalidNoModRM
  | null
  /-- Two invalid places. -/
  | invalidPair
  /-- The node of an earlier record. -/
  | ref (slot : UInt8)
  /-- `count` places that share one node. -/
  | repeated (count : UInt32) (entry : Entry)
  /-- A node of its own. -/
  | node (tag : UInt8) (fields : List NodeField)

/-- A field of a node. -/
inductive NodeField where
  | code (code : Code)
  /-- Consecutive codes, of which the first is written. -/
  | codes (codes : List Code)
  | register (register : Register)
  | tuple (tuple : TupleType)
  | flag (value : Bool)
  | number (value : UInt32)
  | byte (value : UInt8)
  | child (entry : Entry)
  /-- The array of an earlier record. -/
  | table (slot : UInt8)

end

/-! ### Equality -/

mutual

def Entry.same : Entry → Entry → Bool
  | .invalid, .invalid | .invalidNoModRM, .invalidNoModRM | .null, .null
  | .invalidPair, .invalidPair => true
  | .ref s, .ref s' => s == s'
  | .repeated n e, .repeated n' e' => n == n' && e.same e'
  | .node t fs, .node t' fs' => t == t' && NodeField.sameAll fs fs'
  | _, _ => false

def NodeField.same : NodeField → NodeField → Bool
  | .code c, .code c' => c == c'
  | .codes cs, .codes cs' => cs == cs'
  | .register r, .register r' => r == r'
  | .tuple t, .tuple t' => t == t'
  | .flag b, .flag b' => b == b'
  | .number n, .number n' => n == n'
  | .byte b, .byte b' => b == b'
  | .child e, .child e' => e.same e'
  | .table s, .table s' => s == s'
  | _, _ => false

def NodeField.sameAll : List NodeField → List NodeField → Bool
  | [], [] => true
  | f :: fs, f' :: fs' => f.same f' && NodeField.sameAll fs fs'
  | _, _ => false

end

mutual

theorem Entry.same_iff : ∀ (a b : Entry), a.same b = true ↔ a = b
  | .invalid, b | .invalidNoModRM, b | .null, b | .invalidPair, b | .ref _, b => by
      cases b <;> simp [Entry.same]
  | .repeated _ e, b => by cases b <;> simp [Entry.same, Entry.same_iff e]
  | .node _ fs, b => by cases b <;> simp [Entry.same, NodeField.sameAll_iff fs]

theorem NodeField.same_iff : ∀ (a b : NodeField), a.same b = true ↔ a = b
  | .code _, b | .codes _, b | .register _, b | .tuple _, b | .flag _, b | .number _, b
  | .byte _, b | .table _, b => by cases b <;> simp [NodeField.same]
  | .child e, b => by cases b <;> simp [NodeField.same, Entry.same_iff e]

theorem NodeField.sameAll_iff : ∀ (a b : List NodeField), NodeField.sameAll a b = true ↔ a = b
  | [], b => by cases b <;> simp [NodeField.sameAll]
  | f :: fs, b => by
      cases b <;> simp [NodeField.sameAll, NodeField.same_iff f, NodeField.sameAll_iff fs]

end

instance : DecidableEq Entry := fun a b => decidable_of_iff _ (Entry.same_iff a b)

instance : DecidableEq NodeField := fun a b => decidable_of_iff _ (NodeField.same_iff a b)

instance : Inhabited Entry := ⟨.invalid⟩

namespace Entry

/-- The places that an entry takes in an array. -/
def width : Entry → UInt32
  | repeated count _ => count
  | invalidPair => 2
  | _ => 1

/-- The places that entries take together. -/
def places : List Entry → UInt32
  | [] => 0
  | e :: rest => e.width + places rest

/-- The entry stands for several places of its own accord. -/
def isRepeat : Entry → Bool
  | repeated _ _ | invalidPair => true
  | _ => false

end Entry

/-- One numbered part of a table: a node, or an array of nodes. -/
inductive Record where
  | handler (entry : Entry)
  | array (entries : List Entry)
deriving DecidableEq

end OpcodeForest
