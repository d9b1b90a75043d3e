import OpcodeForest.Command.Arguments
import OpcodeForest.Corpus

/-!
# The program

`decode HEX...` lists the instructions that hexadecimal text spells, and
`disassemble FILE sections` or `disassemble FILE range START END` shows a file.
-/

namespace OpcodeForest

/-- Puts output where it goes. -/
def Output.emit : Output → IO Unit
  | print text => IO.print text
  | save path text => IO.FS.writeFile path text

/-- The bytes of a file. -/
def fileBytes (path : String) : IO (List UInt8) := return (← IO.FS.readBinFile path).toList

namespace Command

/-- Runs a command with the built-in tables. -/
def execute (c : Command) : IO (Outcome Output) := do
  match Tables.builtin, c with
  | .error e, _ => return .error (.tables e)
  | .ok t, decode command => return (command.run t).map .print
  | .ok t, disassemble path command => return command.run t (← fileBytes path)

end Command

end OpcodeForest

open OpcodeForest in
def main (args : List String) : IO UInt32 := do
  match Arguments.command args with
  | .error e =>
      IO.eprintln s!"Error: {e.message}"
      return 2
  | .ok command =>
      match ← command.execute with
      | .ok output =>
          output.emit
          return 0
      | .error e =>
          IO.eprintln s!"Error: {e.message}"
          return 1
