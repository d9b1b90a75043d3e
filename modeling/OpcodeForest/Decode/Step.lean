import OpcodeForest.Decode.Memory

/-!
# Running a plan

Each step of a plan turns a state into the next one. A rule of the encoding that is broken
marks the state and reading goes on, so that the length is found all the same; a form that has
no meaning at all stops the decoding.
-/

namespace OpcodeForest

namespace OperandKind

def immediateOf : Size → OperandKind
  | .w16 => immediate16
  | .w32 => immediate32
  | .w64 => immediate64

/-- A sign-extended immediate byte. -/
def extendedOf : Size → OperandKind
  | .w16 => immediate8to16
  | .w32 => immediate8to32
  | .w64 => immediate8to64

def nearBranchOf : Size → OperandKind
  | .w16 => nearBranch16
  | .w32 => nearBranch32
  | .w64 => nearBranch64

/-- A far pointer, whose offset has 16 or 32 bits. -/
def farBranchOf : Size → OperandKind
  | .w16 => farBranch16
  | .w32 | .w64 => farBranch32

def stringSourceOf : Size → OperandKind
  | .w16 => memorySegSI
  | .w32 => memorySegESI
  | .w64 => memorySegRSI

def stringDestinationOf : Size → OperandKind
  | .w16 => memoryESDI
  | .w32 => memoryESEDI
  | .w64 => memoryESRDI

end OperandKind

namespace State

/-! ### Operands named by the ModRM byte -/

/-- A register of `bank`, or memory. -/
def readRm (m : Mode) (bank : Bank) (s : State) : Except Stop State :=
  if s.registerForm then .ok (s.addRegister (bank.register m s (bank.rmNumber s)))
  else s.readMemory m .n1 none

def readBoundRm (m : Mode) (s : State) : Except Stop State :=
  let number := s.rm + 8 * s.b.toNat
  if s.registerForm then
    .ok ((s.forbid m (3 < number)).addRegister (Register.bnd0.offset (number % 4)))
  else s.readMemory m .n1 none

/-- A vector register, or memory. The `b` bit asks for a broadcast of a memory operand, which
has to be known before the displacement is scaled. -/
def readVectorRm (m : Mode) (base : Register) (tuple : TupleType) (broadcast : Bool)
    (s : State) : Except Stop State :=
  let bank : Bank := .vector base
  if s.registerForm then .ok (s.addRegister (bank.register m s (bank.rmNumber s)))
  else
    let s := s.forbid m (s.evexB && !broadcast)
    { s with draft := { s.draft with broadcast := s.evexB && broadcast } }.readMemory m tuple none

/-- A general-purpose register, or memory of its width. -/
def readScalarRm (m : Mode) (s : State) : Except Stop State :=
  let bank : Bank := .gpr .longW
  if s.registerForm then .ok (s.addRegister (bank.register m s (bank.rmNumber s)))
  else s.readMemory m (if Sizing.longW.size m s = .w64 then .n8 else .n4) none

/-- Memory; the register form has no meaning. -/
def readMem (m : Mode) (tuple : TupleType) (vectors : Option Register) (s : State) :
    Except Stop State :=
  if s.registerForm then s.reject else s.readMemory m tuple vectors

/-- An index byte has to follow the ModRM byte. -/
def lacksIndex (m : Mode) (s : State) : Bool := s.addressSize m == .w16 || s.rm != 4

/-! ### Special registers -/

/-- The register field as a control or debug register. A lock byte on `CR0` names `CR8` where
no extension bit can. -/
def addControlRegister (m : Mode) (base : Register) (s : State) : State :=
  let number := s.reg + 8 * s.r.toNat
  if base = .cr0 then
    if !m.long && number == 0 && s.draft.prefixes.lock then
      { s.setPrefixes { s.draft.prefixes with lock := false } with allowLock := true }.addRegister
        (base.offset 8)
    else (s.forbid m (number ∉ [0, 2, 3, 4, 8])).addRegister (base.offset number)
  else (s.forbid m (7 < number)).addRegister (base.offset number)

/-- The register number of an opcode with its extension, in 32 bits. -/
def opcodeNumber (number : UInt32) (s : State) : UInt32 := number + UInt32.ofNat (8 * s.b.toNat)

theorem toNat_opcodeNumber {number : UInt32} {s : State}
    (h : number.toNat + 8 * s.b.toNat < UInt32.size) :
    (s.opcodeNumber number).toNat = number.toNat + 8 * s.b.toNat := by
  rw [opcodeNumber, ← UInt32.ofNat_toNat (x := number), ← UInt32.ofNat_add,
    UInt32.toNat_ofNat_of_lt' h, UInt32.toNat_ofNat_of_lt' number.toNat_lt]

/-- The exchange of the accumulator with itself stands for a `pause`. -/
def pauses (m : Mode) (number : UInt32) (s : State) : Bool :=
  number == 0 && s.mandatory == .pF3 && !m.options.has .noPause

/-- An exchange of register `number` with the accumulator. With itself it is a `nop`, and after
`F3` a `pause`. -/
def exchange (m : Mode) (number : UInt32) (s : State) : State :=
  let size := s.operandSize m
  let n := s.opcodeNumber number
  if s.pauses m number then s.dropRep.setCode .Pause
  else if n = 0 then s.setCode (Code.Nopw.offset size.rank)
  else (s.addRegister ((Register.gpr size).offset n.toNat)).addRegister (Register.gpr size)

/-! ### Immediates and branches -/

/-- Reads an immediate of `n` bytes. -/
def readImmediate (k : OperandKind) (n : Nat) (s : State) : Except Stop State := do
  let (v, s) ← s.word n
  return s.addImmediate k v

/-- Reads a register number from the high half of a byte. -/
def readIs4 (m : Mode) (base : Register) (s : State) : Except Stop (Register × State) := do
  let (b, s) ← s.byte
  let n := b.toNat / 16
  return (base.offset (if m.long then n else n % 8), s)

/-- Reads a branch displacement of `n` bytes to a target of width `size`. -/
def readBranch (n : Nat) (size : Size) (s : State) : Except Stop State := do
  let (d, s) ← s.word n
  return { s with branch := some (size, signed (8 * n) d) }.addKind (.nearBranchOf size)

def readFar (size : Size) (s : State) : Except Stop State := do
  let (offset, s) ← s.word (if size = .w16 then 2 else 4)
  let (selector, s) ← s.word 2
  let draft := { s.draft with
    farBranch := UInt32.ofNat offset, farSelector := UInt16.ofNat selector }
  return { s with draft }.addKind (.farBranchOf size)

/-- Reads an absolute address of the address size. -/
def readOffset (m : Mode) (s : State) : Except Stop State := do
  let n := (s.addressSize m).bits / 8
  let (d, s) ← s.word n
  let memory : MemoryOperand :=
    { scale := 1, displacement := UInt64.ofNat d, displacementSize := n }
  return { s with draft := { s.draft with memory } }.addKind .memory

/-- The byte that the accumulator selects from the table at the base register. -/
def addTableMemory (m : Mode) (s : State) : State :=
  let memory : MemoryOperand :=
    { base := (Register.gpr (s.addressSize m)).offset 3, index := .al, scale := 1 }
  { s with draft := { s.draft with memory } }.addKind .memory

/-! ### Effects -/

/-- On a memory operand a lock byte is allowed as `rules` say, and the repeat bytes become lock
elision hints. -/
def applyLock (rules : LockRules) (s : State) : State :=
  if s.registerForm then s
  else
    let p := s.draft.prefixes
    let hinted := p.lock || rules.hintAlone
    let s :=
      if hinted && s.mandatory == .pF2 && rules.xacquire then
        s.setPrefixes { p with repne := false, xacquire := true }
      else if hinted && s.mandatory == .pF3 && rules.xrelease then
        s.setPrefixes { p with rep := false, xrelease := true }
      else s
    { s with allowLock := s.allowLock || rules.lock }

/-- The `b` bit of a register form. -/
def applyRounding (onlySuppress : Bool) (s : State) : State :=
  if s.registerForm && s.evexB then
    if onlySuppress then { s with draft := { s.draft with suppressExceptions := true } }
    else { s with draft := { s.draft with rounding := .ofLength s.length } }
  else s

/-- The index register of the memory operand is number `n` of the file that starts at `base`. -/
def indexIs (base : Register) (n : Nat) (s : State) : Bool :=
  s.draft.memory.index.index.val == base.index + n

end State

namespace Step

/-- Runs one step. -/
def run (m : Mode) (step : Step) (s : State) : Except Stop State :=
  match step with
  | reg bank => .ok (s.addRegister (bank.register m s (bank.regNumber s)))
  | narrowReg base => .ok ((s.forbid m (s.r || s.rHigh)).addRegister (base.offset s.reg))
  | boundReg =>
      let number := s.reg + 8 * s.r.toNat
      .ok ((s.forbid m (3 < number)).addRegister (Register.bnd0.offset (number % 4)))
  | segmentReg load =>
      .ok ((s.mark (5 < s.reg || load && s.reg == 1)).addRegister (Register.es.offset s.reg))
  | controlReg base => .ok (s.addControlRegister m base)
  | rm bank => s.readRm m bank
  | rmBound => s.readBoundRm m
  | rmVector base tuple broadcast => s.readVectorRm m base tuple broadcast
  | rmScalar => s.readScalarRm m
  | rmRegister bank =>
      if s.registerForm then .ok (s.addRegister (bank.register m s (bank.rmNumber s)))
      else s.reject
  | rmNumber bank => .ok (s.addRegister (bank.register m s (bank.rmNumber s)))
  | mem => s.readMem m .n1 none
  | memVector tuple => (s.forbid m s.evexB).readMem m tuple none
  | memVsib base tuple => (s.mark (s.lacksIndex m)).readMem m tuple (some base)
  | memSib => (s.forbid m (s.lacksIndex m)).readMem m .n1 none
  | memBound => do
      let s ← (s.forbid m (s.addressSize m == .w16)).readMem m .n1 none
      return s.forbid m s.ipRelative.isSome
  | vvvv bank => .ok (s.addRegister (bank.register m s (s.vvvv m)))
  | narrowVvvv base =>
      .ok ((s.forbid m (7 < s.vvvvField)).addRegister (base.offset (s.vvvvField % 8)))
  | imm8 => s.readImmediate .immediate8 1
  | imm8Second => do
      let (b, s) ← s.byte
      return { s with draft := { s.draft with immediate2 := b } }.addKind .immediate8Second
  | imm16 => s.readImmediate .immediate16 2
  | imm32 => s.readImmediate .immediate32 4
  | immZ sizing =>
      match sizing.size m s with
      | .w16 => s.readImmediate .immediate16 2
      | .w32 => s.readImmediate .immediate32 4
      | .w64 => s.readImmediate .immediate32to64 4
  | imm8Signed sizing => s.readImmediate (.extendedOf (sizing.size m s)) 1
  | immFull sizing =>
      let size := sizing.size m s
      s.readImmediate (.immediateOf size) (size.bits / 8)
  | one => .ok (s.addImmediate .immediate8 1)
  | is4 base => do
      let (r, s) ← s.readIs4 m base
      return s.addRegister r
  | is4BeforeRm base => do
      let before := s.draft.operands
      let s ← s.readRm m (.file base)
      let (r, s) ← s.readIs4 m base
      let after := s.draft.operands.drop before.length
      return { s with draft := { s.draft with operands := before ++ ⟨.register, r⟩ :: after } }
  | rel8 target => s.readBranch 1 (target.size m s)
  | relZ width target =>
      s.readBranch (if width.size m s = .w16 then 2 else 4) (target.size m s)
  | far sizing => s.readFar (sizing.size m s)
  | fixed register => .ok (s.addRegister register)
  | accumulator sizing => .ok (s.addRegister (Register.gpr (sizing.size m s)))
  | opcodeReg bank number =>
      .ok (s.addRegister (bank.register m s (s.opcodeNumber number).toNat))
  | stringSource => .ok (s.addKind (.stringSourceOf (s.addressSize m)))
  | stringDestination => .ok (s.addKind (.stringDestinationOf (s.addressSize m)))
  | offsetMemory => s.readOffset m
  | tableMemory => .ok (s.addTableMemory m)
  | exchange number => .ok (s.exchange m number)
  | requireRegister => if s.registerForm then .ok s else s.reject
  | noVvvv => .ok (s.forbid m (s.vvvvField != 0))
  | noMask => .ok (s.forbid m (s.mask != 0 || s.z))
  | noZeroing => .ok (s.forbid m s.z)
  | noB => .ok (s.forbid m s.evexB)
  | noRegisterB => .ok (s.forbid m (s.registerForm && s.evexB))
  | noMemoryB => .ok (s.forbid m (!s.registerForm && s.evexB))
  | storeZeroing allowed => .ok (s.forbid m (s.z && (!s.registerForm || !allowed)))
  | gatherMask => .ok (s.forbid m (s.mask == 0 || s.z || s.evexB))
  | distinctGather base =>
      let dest := s.reg + 8 * s.r.toNat
      let mask := s.vvvv m
      .ok (s.forbid m (s.indexIs base dest || dest == mask || s.indexIs base mask))
  | distinctIndex base =>
      .ok (s.forbid m (s.indexIs base (s.reg + 8 * s.r.toNat + 16 * s.rHigh.toNat)))
  | distinctTiles =>
      .ok (s.forbid m (s.r || s.b || s.reg == s.rm || s.reg == s.vvvvField
        || s.rm == s.vvvvField))
  | lockable rules => .ok (s.applyLock rules)
  | rounding onlySuppress => .ok (s.applyRounding onlySuppress)

/-- A sum of register numbers that the step makes leaves 32 bits. A field of the encoding is too
short for that: it takes a number of the table. -/
def overflows (m : Mode) (s : State) : Step → Bool
  | opcodeReg bank number => bank.overflows m s (number.toNat + 8 * s.b.toNat)
  | exchange number =>
      !s.pauses m number && (Bank.gpr .operand).overflows m s (number.toNat + 8 * s.b.toNat)
  | _ => false

end Step

/-- Runs steps in order. -/
def runSteps (m : Mode) : List Step → State → Except Stop State
  | [], s => .ok s
  | step :: rest, s => do
      let s ← step.run m s
      runSteps m rest s

/-- One of the steps that are run makes a sum that leaves 32 bits. -/
def stepsOverflow (m : Mode) : List Step → State → Bool
  | [], _ => false
  | step :: rest, s =>
      step.overflows m s || match step.run m s with
        | .ok s => stepsOverflow m rest s
        | .error _ => false

namespace Leaf

/-- Decodes an instruction of this leaf: its code, then its operands. -/
def run (m : Mode) (l : Leaf) (s : State) : Except Stop State :=
  runSteps m l.plan.steps (s.setCode (l.plan.code.pick m s l))

/-- A register number of the instruction leaves 32 bits. -/
def overflows (m : Mode) (l : Leaf) (s : State) : Bool :=
  stepsOverflow m l.plan.steps (s.setCode (l.plan.code.pick m s l))

end Leaf

end OpcodeForest
