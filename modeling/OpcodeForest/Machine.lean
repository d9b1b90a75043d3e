import OpcodeForest.Decoder

/-!
# Decoding with a working state

A `Decoder` decodes each instruction from the bytes ahead alone. The decoder here is a machine. It
keeps what it works on from one call to the next: where the instruction starts, where its window
ends, whether a byte was asked for after that, and what is known of the instruction, with the
record that is written. After the end of the window zeros are read and the walk goes on.

A sum of register numbers with more than 32 bits wraps, or the call fails, as the machine is
built.
-/

namespace OpcodeForest

/-- What becomes of a sum of register numbers with more than 32 bits. -/
inductive Sums where
  /-- It wraps. -/
  | wrapping
  /-- The call fails. -/
  | checked
deriving DecidableEq, Repr

/-- Why a call does not return. -/
inductive Fault where
  /-- A sum of register numbers has more than 32 bits. -/
  | overflow
  /-- The walk does not end. -/
  | endless
deriving DecidableEq, Repr

/-- A move makes a sum of register numbers with more than 32 bits. Only leaves add numbers of the
table. -/
def Tables.overflows (t : Tables) (m : Mode) : Next → State → Bool
  | .child id policy, s =>
      match t.forest.get id, enter policy (t.forest.get id) s with
      | .leaf l, .ok s => l.overflows m s
      | _, _ => false
  | .done, _ | .lookup _ _, _ => false

/-- One move from a state with enough bytes ahead. Where a node has no meaning the walk ends, and
the state is marked. -/
def Tables.move (t : Tables) (m : Mode) (sums : Sums) (next : Next) (s : State) :
    Except Fault (State × Next) :=
  if sums = .checked ∧ t.overflows m next s then .error .overflow
  else
    match t.dispatch m next s with
    | .ok b => .ok b
    | .error (.rejected used) => .ok ({ s with used, invalid := true }, .done)
    -- a move ends, and does not ask for more bytes than `moveBytes`
    | .error .starved | .error .circular => .error .endless

/-- A decoder with all that it keeps between its calls. -/
structure Machine where
  tables : Tables
  mode : Mode
  sums : Sums := .wrapping
  data : List UInt8
  position : Nat := 0
  /-- Address of the instruction. -/
  ip : UInt64 := 0
  /-- Where the instruction starts. -/
  start : Nat := 0
  /-- Where its window ends. -/
  limit : Nat := 0
  /-- A byte was asked for after the end of the window. -/
  ended : Bool := false
  /-- What is known of the instruction; the draft is the record that is written. -/
  state : State := { pending := [] }
  position_le : position ≤ data.length := by omega
  limit_le : limit ≤ data.length := by omega

namespace Machine

/-- Bytes are left. -/
def canDecode (x : Machine) : Bool := x.position < x.data.length

/-- Moves to `n`, at most to the end of the buffer; the address stays. -/
def setPosition (n : Nat) (x : Machine) : Machine :=
  { x with position := min n x.data.length, position_le := Nat.min_le_right _ _ }

def setIp (ip : UInt64) (x : Machine) : Machine := { x with ip }

/-- The bytes of the window that have not been read. -/
def window (x : Machine) : List UInt8 := (x.data.take x.limit).drop x.position

/-- What a move starts from when `n` zeros can be read after the window. -/
def look (n : Nat) (x : Machine) : State :=
  { x.state with pending := x.window ++ List.replicate n 0 }

/-- Starts an instruction. Nothing of what is known, or of the record, is left. -/
def restart (x : Machine) : Machine :=
  { x with
      start := x.position
      limit := min x.data.length (x.position + maxLength)
      ended := false
      state := { pending := [] }
      limit_le := Nat.min_le_left _ _ }

/-- Takes over what a move found out. A byte after the end of the window is not there to be
passed. -/
def advance (s : State) (x : Machine) : Machine :=
  let reached := x.position + (s.used - x.state.used)
  { x with
      position := min reached x.limit
      ended := x.ended || x.limit < reached
      state := s
      position_le := Nat.le_trans (Nat.min_le_right _ _) x.limit_le }

/-- One move of the walk. -/
def move (next : Next) (x : Machine) : Except Fault (Machine × Next) := do
  let (s, next) ← x.tables.move x.mode x.sums next (x.look Tables.moveBytes)
  return (x.advance s, next)

/-- Walks on from `next`, with at most `fuel` moves. -/
def run : (fuel : Nat) → Next → Machine → Except Fault Machine
  | _, .done, x => .ok x
  | 0, _, _ => .error .endless
  | fuel + 1, next, x => do
      let (x, next) ← x.move next
      run fuel next x

/-- Ends an instruction. It is as long as the part of its window that was read. -/
def finish (x : Machine) : Instruction × Machine :=
  let length := x.position - x.start
  let i := if x.ended then .bad length x.ip else { x.state with used := length }.finish x.mode x.ip
  (i, { x with ip := i.nextIp })

/-- Decodes one instruction into the record of the caller. Where only zeros are ahead every node is
passed six times at most, as it would be with six bytes more. -/
def decodeOut (record : Instruction) (x : Machine) : Except Fault (Instruction × Machine) := do
  let x := { x with state := { x.state with draft := record } }.restart
  let x ← x.run (x.tables.walkBound (maxLength + 6)) x.tables.restart
  return x.finish

/-- Decodes one instruction into a new record. -/
def decode (x : Machine) : Except Fault (Instruction × Machine) := x.decodeOut {}

/-- Decodes one instruction if bytes are left. -/
def next? (x : Machine) : Except Fault (Option (Instruction × Machine)) :=
  if x.canDecode then some <$> x.decode else return none

end Machine

end OpcodeForest
