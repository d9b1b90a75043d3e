/-!
# Instruction codes

A code is a mnemonic with its operand form. Codes are numbered, and forms that differ only in
width follow each other, so that the first code of such a run stands for all of them.
-/

namespace OpcodeForest

/-- An instruction code by its number; number 0 is the code of no instruction. -/
structure Code where
  number : Fin 2165
deriving DecidableEq, Repr

namespace Code

def Invalid : Code := ⟨0⟩

def ofNumber? (n : Nat) : Option Code :=
  if h : n < 2165 then some ⟨⟨n, h⟩⟩ else none

/-- The code numbered `n`, or `Invalid` past the last code. -/
def ofNumber (n : Nat) : Code := (ofNumber? n).getD Invalid

def Pause : Code := ofNumber 2161
/-- The first of the three `nop` forms, one per operand size. -/
def Nopw : Code := ofNumber 2162

/-- The code `n` places after `c`. -/
def offset? (c : Code) (n : Nat) : Option Code := ofNumber? (c.number + n)

/-- The code `n` places after `c`, or `Invalid` past the last code. -/
def offset (c : Code) (n : Nat) : Code := ofNumber (c.number + n)

/-- The run of `n` codes that starts at `c`. -/
def run (c : Code) (n : Nat) : List Code := (List.range n).map c.offset

def isInvalid (c : Code) : Bool := c == Invalid

end Code

instance : Inhabited Code := ⟨.Invalid⟩

end OpcodeForest
