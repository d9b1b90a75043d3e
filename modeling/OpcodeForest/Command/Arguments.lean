import OpcodeForest.Command.Decode
import OpcodeForest.Command.Disassemble

/-!
# Command lines

A command line names a command, its switches and its operands, in any order after the name.
-/

namespace OpcodeForest

/-- A command with what it works on. -/
inductive Command where
  | decode (command : DecodeCommand)
  | disassemble (path : String) (command : DisassembleCommand)
deriving DecidableEq, Repr

inductive UsageError where
  | noCommand
  | unknownCommand (name : String)
  | unknownSwitch (name : String)
  | badNumber (text : String)
  | missingOperand (name : String)
deriving DecidableEq, Repr

namespace UsageError

def message : UsageError → String
  | noCommand => "a command is required: decode or disassemble"
  | unknownCommand name => s!"unknown command {name}"
  | unknownSwitch name => s!"unknown switch {name}"
  | badNumber text => s!"not a number: {text}"
  | missingOperand name => s!"missing operand: {name}"

end UsageError

namespace Arguments

/-- A plain decimal number. -/
def number (s : String) : Except UsageError Nat :=
  match Numeral.unsigned 10 s.toList with
  | .ok n => .ok n
  | .error _ => .error (.badNumber s)

/-- Reads switches and pieces of text into a decode command. -/
def decode (c : DecodeCommand) : List String → Except UsageError DecodeCommand
  | [] => if c.pieces.isEmpty then .error (.missingOperand "HEX") else .ok c
  | "--bitness" :: n :: rest | "-b" :: n :: rest => do
      let bitness ← number n
      decode { c with bitness } rest
  | "--ip" :: ip :: rest => decode { c with ip } rest
  | "--lenient" :: rest => decode { c with lenient := true } rest
  | "--json" :: rest => decode { c with json := true } rest
  | piece :: rest =>
      if piece.startsWith "--" then .error (.unknownSwitch piece)
      else decode { c with pieces := c.pieces ++ [piece] } rest

/-- A disassemble command as far as it is read: the operands, and what switches say of a
range. -/
structure Disassembly where
  command : DisassembleCommand := {}
  operands : List String := []
  showBytes : Bool := false
  format : ListingFormat := .text
  out : Option String := none

namespace Disassembly

/-- The command that the operands and switches make up. -/
def finish (d : Disassembly) : Except UsageError Command :=
  match d.operands with
  | [] => .error (.missingOperand "FILE")
  | [_] => .error (.missingOperand "sections or range")
  | [path, "sections"] => .ok (.disassemble path { d.command with task := .sections })
  | [path, "range", start, stop] =>
      let range :=
        { start, stop, showBytes := d.showBytes, format := d.format, out := d.out }
      .ok (.disassemble path { d.command with task := .range range })
  | [_, "range"] => .error (.missingOperand "START")
  | [_, "range", _] => .error (.missingOperand "END")
  | _ :: name :: _ => .error (.unknownCommand name)

/-- Reads switches and operands. -/
def read (d : Disassembly) : List String → Except UsageError Command
  | [] => d.finish
  | "--base" :: base :: rest => read { d with command := { d.command with base } } rest
  | "--skip" :: n :: rest => do
      let skip ← number n
      read { d with command := { d.command with skip } } rest
  | "--len" :: n :: rest => do
      let length ← number n
      read { d with command := { d.command with length := some length } } rest
  | "--bitness" :: n :: rest => do
      let bitness ← number n
      read { d with command := { d.command with bitness } } rest
  | "--lenient" :: rest => read { d with command := { d.command with lenient := true } } rest
  | "--amd" :: rest => read { d with command := { d.command with amd := true } } rest
  | "--mpx" :: rest => read { d with command := { d.command with mpx := true } } rest
  | "--show-bytes" :: rest => read { d with showBytes := true } rest
  | "--format" :: "text" :: rest => read { d with format := .text } rest
  | "--format" :: "json" :: rest => read { d with format := .json } rest
  | "--out" :: path :: rest => read { d with out := some path } rest
  | operand :: rest =>
      if operand.startsWith "--" then .error (.unknownSwitch operand)
      else read { d with operands := d.operands ++ [operand] } rest

end Disassembly

/-- Reads a whole command line. -/
def command : List String → Except UsageError Command
  | [] => .error .noCommand
  | "decode" :: rest => (decode {} rest).map .decode
  | "disassemble" :: rest => Disassembly.read {} rest
  | name :: _ => .error (.unknownCommand name)

end Arguments

end OpcodeForest
