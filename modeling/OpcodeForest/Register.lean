import OpcodeForest.Mode

/-!
# Registers

Registers are numbered so that every class is one run of consecutive numbers: an operand is
the first register of a class plus the number that the encoding spells. A number past the last
register names no register. The sum is one of 32 bits: a number that a table spells can be so large
that it leaves them.
-/

namespace OpcodeForest

/-- A register by its number; number 0 is the absent register. -/
structure Register where
  index : Fin 249
deriving DecidableEq, Repr

namespace Register

protected def none : Register := ⟨0⟩
def al : Register := ⟨1⟩
def cl : Register := ⟨2⟩
def ax : Register := ⟨21⟩
def dx : Register := ⟨23⟩
def bx : Register := ⟨24⟩
def bp : Register := ⟨26⟩
def si : Register := ⟨27⟩
def di : Register := ⟨28⟩
def eax : Register := ⟨37⟩
def rax : Register := ⟨53⟩
def eip : Register := ⟨69⟩
def rip : Register := ⟨70⟩
def es : Register := ⟨71⟩
def cs : Register := ⟨72⟩
def ss : Register := ⟨73⟩
def ds : Register := ⟨74⟩
def fs : Register := ⟨75⟩
def gs : Register := ⟨76⟩
def xmm0 : Register := ⟨77⟩
def ymm0 : Register := ⟨109⟩
def zmm0 : Register := ⟨141⟩
def k0 : Register := ⟨173⟩
def bnd0 : Register := ⟨181⟩
def cr0 : Register := ⟨185⟩
def dr0 : Register := ⟨201⟩
def st0 : Register := ⟨217⟩
def mm0 : Register := ⟨225⟩
def tmm0 : Register := ⟨241⟩

/-- The register numbered `n`. -/
def ofIndex? (n : Nat) : Option Register :=
  if h : n < 249 then some ⟨⟨n, h⟩⟩ else none

/-- The register numbered `n`, the absent one when there is none. -/
def ofIndex (n : Nat) : Register := (ofIndex? n).getD .none

/-- The register `n` places after `r`, in numbers of 32 bits. -/
def offset (r : Register) (n : Nat) : Register :=
  ofIndex (UInt32.ofNat r.index + UInt32.ofNat n).toNat

/-- The number `n` places after that of `r` has more than 32 bits. -/
def overflows (r : Register) (n : Nat) : Bool := UInt32.size ≤ r.index + n

/-- As long as the sum has 32 bits it is the sum. -/
theorem offset_of_not_overflows {r : Register} {n : Nat} (h : r.overflows n = false) :
    r.offset n = ofIndex (r.index + n) := by
  have hlt : r.index.val + n < UInt32.size := Nat.lt_of_not_le (of_decide_eq_false h)
  rw [offset, ← UInt32.ofNat_add, UInt32.toNat_ofNat_of_lt' hlt]

/-- The register whose number is the sum, if there is one. -/
theorem offset_of_lt {r : Register} {n : Nat} (h : r.index.val + n < 249) :
    r.offset n = ⟨⟨r.index + n, h⟩⟩ := by
  have hfits : r.overflows n = false :=
    decide_eq_false (Nat.not_le_of_lt (Nat.lt_trans h (by decide)))
  rw [offset_of_not_overflows hfits, ofIndex, ofIndex?, dif_pos h]
  rfl

/-- The number of `r` lies in the run of `count` registers that starts at `first`. -/
def isAmong (r first : Register) (count : Nat) : Bool :=
  first.index ≤ r.index && r.index.val < first.index + count

def isGpr8 (r : Register) : Bool := r.isAmong al 20
def isGpr16 (r : Register) : Bool := r.isAmong ax 16
def isGpr32 (r : Register) : Bool := r.isAmong eax 16
def isGpr64 (r : Register) : Bool := r.isAmong rax 16
def isSegment (r : Register) : Bool := r.isAmong es 6
def isXmm (r : Register) : Bool := r.isAmong xmm0 32
def isYmm (r : Register) : Bool := r.isAmong ymm0 32
def isZmm (r : Register) : Bool := r.isAmong zmm0 32
def isMask (r : Register) : Bool := r.isAmong k0 8

/-- The names of a class whose registers are told apart by a number. -/
def numbered (stem : String) (count : Nat) : List String :=
  (List.range count).map fun n => stem ++ toString n

/-- The names of `R8` to `R15` at a width marked by `mark`. -/
def extended (mark : String) : List String :=
  (List.range 8).map fun n => "R" ++ toString (n + 8) ++ mark

/-- All names, by register number. -/
def names : Array String := (
  ["None", "AL", "CL", "DL", "BL", "AH", "CH", "DH", "BH", "SPL", "BPL", "SIL", "DIL"]
    ++ extended "L"
    ++ ["AX", "CX", "DX", "BX", "SP", "BP", "SI", "DI"] ++ extended "W"
    ++ ["EAX", "ECX", "EDX", "EBX", "ESP", "EBP", "ESI", "EDI"] ++ extended "D"
    ++ ["RAX", "RCX", "RDX", "RBX", "RSP", "RBP", "RSI", "RDI"] ++ extended ""
    ++ ["EIP", "RIP", "ES", "CS", "SS", "DS", "FS", "GS"]
    ++ numbered "XMM" 32 ++ numbered "YMM" 32 ++ numbered "ZMM" 32
    ++ numbered "K" 8 ++ numbered "BND" 4 ++ numbered "CR" 16 ++ numbered "DR" 16
    ++ numbered "ST" 8 ++ numbered "MM" 8 ++ numbered "TR" 8 ++ numbered "TMM" 8).toArray

def name (r : Register) : String := names.getD r.index ""

def ofName? (s : String) : Option Register := names.findIdx? (· == s) |>.bind ofIndex?

/-- Assembler spelling. -/
def text (r : Register) : String := r.name.toLower

/-- First general-purpose register of a width. -/
def gpr : Size → Register
  | .w16 => ax
  | .w32 => eax
  | .w64 => rax

end Register

instance : Inhabited Register := ⟨.none⟩

end OpcodeForest
