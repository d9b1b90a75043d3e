import OpcodeForest.Code
import OpcodeForest.Instruction
import OpcodeForest.Text.Hex

/-!
# Instructions as text

An instruction is written as its prefixes, its code and its operands. An address shows its
registers and behind them the displacement with its sign.
-/

namespace OpcodeForest

/-- A decoration between braces. -/
def braced (s : String) : String := "\x7b" ++ s ++ "\x7d"

namespace MemoryOperand

/-- The registers of an address, the index with its factor. -/
def terms (m : MemoryOperand) : List String :=
  (if m.base = .none then [] else [m.base.text])
    ++ (if m.index = .none then []
        else if 1 < m.scale then [m.index.text ++ "*" ++ toString m.scale]
        else [m.index.text])

/-- The displacement behind the registers. -/
def offsetText (m : MemoryOperand) : String :=
  let d := signed 64 m.displacement.toNat
  if m.displacementSize = 0 ∨ d = 0 then ""
  else if d < 0 then "-" ++ Hex.marked d.natAbs
  else "+" ++ Hex.marked d.natAbs

/-- The displacement alone. -/
def absoluteText (m : MemoryOperand) : String := Hex.marked m.displacement.toNat

/-- What stands between the brackets. An address relative to the instruction pointer shows its
target. -/
def addressText (m : MemoryOperand) : String :=
  if m.base = .rip ∨ m.base = .eip ∨ m.terms = [] then m.absoluteText
  else "+".intercalate m.terms ++ m.offsetText

end MemoryOperand

namespace Rounding

def text? : Rounding → Option String
  | none => .none
  | toNearest => some "rn-sae"
  | down => some "rd-sae"
  | up => some "ru-sae"
  | towardZero => some "rz-sae"

end Rounding

namespace PrefixSet

/-- The prefixes that are written out. -/
def texts (p : PrefixSet) : List String :=
  ([(p.lock, "lock"), (p.xacquire, "xacquire"), (p.xrelease, "xrelease"), (p.rep, "rep"),
    (p.repne, "repne")].filter (·.1)).map (·.2)

end PrefixSet

namespace Instruction

/-- A string operand, in `ds` unless a segment is given. -/
def stringText (i : Instruction) (pointer : String) : String :=
  (if i.segment = .none then "ds" else i.segment.text) ++ ":[" ++ pointer ++ "]"

def memoryText (i : Instruction) : String :=
  (if i.segment = .none then "" else i.segment.text ++ ":")
    ++ "[" ++ i.memory.addressText ++ "]"
    ++ (if i.broadcast then braced "bcst" else "")

def operandText (i : Instruction) (o : Operand) : String :=
  match o.kind with
  | .register => o.register.text
  | .nearBranch16 | .nearBranch32 | .nearBranch64 => Hex.marked i.nearBranch.toNat
  | .farBranch16 | .farBranch32 =>
      Hex.marked i.farSelector.toNat ++ ":" ++ Hex.marked i.farBranch.toNat
  | .memorySegSI => i.stringText "si"
  | .memorySegESI => i.stringText "esi"
  | .memorySegRSI => i.stringText "rsi"
  | .memorySegDI => i.stringText "di"
  | .memorySegEDI => i.stringText "edi"
  | .memorySegRDI => i.stringText "rdi"
  | .memoryESDI => "es:[di]"
  | .memoryESEDI => "es:[edi]"
  | .memoryESRDI => "es:[rdi]"
  | .memory => i.memoryText
  | kind => Hex.marked ((i.immediateValue? kind).getD 0).toNat

/-- What follows the first operand. -/
def maskText (i : Instruction) : String :=
  (if i.opMask = .none then "" else braced i.opMask.text)
    ++ (if i.zeroing then braced "z" else "")

/-- The operands, the first one with its mask. -/
def operandTexts (i : Instruction) : List String :=
  match i.operands with
  | [] => []
  | o :: os => (i.operandText o ++ i.maskText) :: os.map i.operandText

/-- What follows the last operand. -/
def roundingText (i : Instruction) : String :=
  match i.rounding.text? with
  | some mode => ", " ++ braced mode
  | none => if i.suppressExceptions then ", " ++ braced "sae" else ""

/-- The instruction as text; bytes that are none give `(bad)`. -/
def text (i : Instruction) : String :=
  if i.isInvalid then "(bad)"
  else
    " ".intercalate (i.prefixes.texts ++ [i.code.name])
      ++ (if i.operands = [] then "" else " " ++ ", ".intercalate i.operandTexts)
      ++ i.roundingText

end Instruction

end OpcodeForest
