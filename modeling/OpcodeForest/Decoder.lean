import OpcodeForest.Decode.Walk

/-!
# Decoding

`Tables.decode` decodes the instruction at the start of a byte list. `Decoder` walks a buffer,
one instruction after the other.
-/

namespace OpcodeForest

/-- The longest instruction in bytes. -/
def maxLength : Nat := 15

namespace Instruction

/-- The record of `length` bytes that are no instruction. -/
def bad (length : Nat) (ip : UInt64) : Instruction := { length, ip }

end Instruction

namespace State

/-- A lock byte stands where none is allowed. -/
def strayLock (s : State) : Bool := s.draft.prefixes.lock && !s.allowLock

/-- The target of the near branch, counted from the end of the instruction. -/
def branchTarget (nextIp : UInt64) (s : State) : UInt64 :=
  match s.branch with
  | some (size, d) => wrap size.bits (nextIp.toNat + d)
  | none => 0

/-- The displacement of the memory operand with the instruction pointer added where it is
relative to it. -/
def displacement (nextIp : UInt64) (s : State) : UInt64 :=
  let d := s.draft.memory.displacement
  match s.ipRelative with
  | some size => wrap size.bits (d.toNat + nextIp.toNat)
  | none => d

/-- The record of a decoded instruction at `ip`. -/
def finish (m : Mode) (ip : UInt64) (s : State) : Instruction :=
  if s.invalid || m.strict && s.strayLock then .bad s.used ip
  else
    let nextIp := ip + UInt64.ofNat s.used
    { s.draft with
        length := s.used
        ip := ip
        nearBranch := s.branchTarget nextIp
        memory := { s.draft.memory with displacement := s.displacement nextIp } }

end State

namespace Tables

/-- Reads one instruction from a window. -/
def read (t : Tables) (m : Mode) (window : List UInt8) : Except Stop State :=
  t.walk m (t.walkBound window.length) t.restart { pending := window }

/-- Decodes the instruction that starts `bytes`. -/
def decode (t : Tables) (m : Mode) (ip : UInt64) (bytes : List UInt8) : Instruction :=
  let window := bytes.take maxLength
  match t.read m window with
  | .ok s => s.finish m ip
  | .error (.rejected used) => .bad used ip
  | .error .starved | .error .circular => .bad window.length ip

end Tables

/-- A position in a buffer of code. -/
structure Decoder where
  tables : Tables
  mode : Mode
  data : List UInt8
  position : Nat := 0
  /-- Address of the byte at `position`. -/
  ip : UInt64 := 0

namespace Decoder

/-- Bytes are left. -/
def canDecode (d : Decoder) : Bool := d.position < d.data.length

/-- Moves to `n`, at most to the end of the buffer; the address stays. -/
def setPosition (n : Nat) (d : Decoder) : Decoder :=
  { d with position := min n d.data.length }

def setIp (ip : UInt64) (d : Decoder) : Decoder := { d with ip }

/-- Decodes one instruction and moves past it. At the end of the buffer that is an invalid one
of length 0. -/
def decode (d : Decoder) : Instruction × Decoder :=
  let i := d.tables.decode d.mode d.ip (d.data.drop d.position)
  (i, { d with position := d.position + i.length, ip := i.nextIp })

/-- Decodes one instruction if bytes are left. -/
def next? (d : Decoder) : Option (Instruction × Decoder) :=
  if d.canDecode then some d.decode else none

/-- At most `n` instructions from here on. -/
def take : Nat → Decoder → List Instruction
  | 0, _ => []
  | n + 1, d =>
      match d.next? with
      | none => []
      | some (i, d) => i :: take n d

/-- All instructions from here to the end of the buffer. Each takes a byte at least, so there
are no more than bytes. -/
def sweep (d : Decoder) : List Instruction := d.take (d.data.length - d.position)

end Decoder

end OpcodeForest
