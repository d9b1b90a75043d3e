import OpcodeForest.Node

/-!
# Decoding plans

The meaning of an operand form is a plan: a rule that picks the code and a list of steps, each
of which reads an operand, checks a rule of the encoding or notes an effect. Steps that add an
operand stand in operand order; bytes are read in the order of the steps.
-/

namespace OpcodeForest

/-- What decides a width. -/
inductive Sizing where
  /-- The operand size in force. -/
  | operand
  /-- The operand size, at most 32 bits. -/
  | operandCapped
  /-- The operand size, at least 32 bits. -/
  | operandFloored
  /-- The operand size outside 64-bit mode; there always 64 bits. -/
  | operandOrLong
  /-- The width of a push or pop: 64 bits in 64-bit mode, 16 with an operand-size byte. -/
  | stack
  /-- The width of a near branch: 64 bits in 64-bit mode, unless the `amd` switch lets an
  operand-size byte count. -/
  | branch
  /-- The address size in force. -/
  | address
  /-- 64 bits with the `W` bit, else 32. -/
  | w
  /-- 64 bits with the `W` bit in 64-bit mode, else 32. -/
  | longW
  /-- 64 bits in 64-bit mode, else 32. -/
  | mode
deriving DecidableEq, Repr

/-- A register file and how an encoding spells a register of it. -/
inductive Bank where
  /-- General-purpose registers. -/
  | gpr (sizing : Sizing)
  /-- One-byte registers. -/
  | byte
  /-- Sixteen registers: three bits and an extension bit. -/
  | file (base : Register)
  /-- Thirty-two registers: three bits and two extension bits. -/
  | vector (base : Register)
  /-- Eight registers: three bits, extension bits have no effect. -/
  | low (base : Register)
deriving DecidableEq, Repr

/-- How the code is picked among those of the leaf. -/
inductive CodeRule where
  | only
  /-- Three codes: 16, 32, 64 bits. -/
  | bySize (sizing : Sizing)
  /-- Two codes: narrower than 64 bits, 64 bits. -/
  | wide (sizing : Sizing)
  /-- Two codes: 16 bits, wider than 16 bits. -/
  | word (sizing : Sizing)
deriving DecidableEq, Repr

/-- One step of a plan. -/
inductive Step where
  /-- The register field. -/
  | reg (bank : Bank)
  /-- The register field, of a file of eight; extension bits must be clear. -/
  | narrowReg (base : Register)
  /-- The register field as a bounds register. -/
  | boundReg
  /-- The register field as a segment register; the code segment cannot be loaded. -/
  | segmentReg (load : Bool)
  /-- The register field as a control or debug register. -/
  | controlReg (base : Register)
  /-- A register, or memory. -/
  | rm (bank : Bank)
  /-- A bounds register, or memory. -/
  | rmBound
  /-- A vector register, or memory that may be broadcast. -/
  | rmVector (base : Register) (tuple : TupleType) (broadcast : Bool)
  /-- A general-purpose register of 32 or 64 bits by `W`, or memory of that width. -/
  | rmScalar
  /-- A register; memory is not allowed. -/
  | rmRegister (bank : Bank)
  /-- A register whatever the form bits say. -/
  | rmNumber (bank : Bank)
  /-- Memory; a register is not allowed. -/
  | mem
  /-- Memory that cannot be broadcast. -/
  | memVector (tuple : TupleType)
  /-- Memory with a vector of indices. -/
  | memVsib (base : Register) (tuple : TupleType)
  /-- Memory that must have an index byte. -/
  | memSib
  /-- Memory of a bounds table. -/
  | memBound
  /-- The register that `vvvv` names. -/
  | vvvv (bank : Bank)
  /-- The register that `vvvv` names, of a file of eight. -/
  | narrowVvvv (base : Register)
  | imm8
  /-- The second immediate byte. -/
  | imm8Second
  | imm16
  | imm32
  /-- An immediate of the given width, of 32 bits sign-extended for 64. -/
  | immZ (sizing : Sizing)
  /-- An immediate byte sign-extended to the given width. -/
  | imm8Signed (sizing : Sizing)
  /-- An immediate of the given width, 64 bits included. -/
  | immFull (sizing : Sizing)
  /-- The constant one, which takes no byte. -/
  | one
  /-- The register that the high half of a byte names. -/
  | is4 (base : Register)
  /-- As `is4`, placed before a register or memory operand that is read first. -/
  | is4BeforeRm (base : Register)
  /-- A branch displacement of one byte. -/
  | rel8 (target : Sizing)
  /-- A branch displacement of two bytes for a width of 16 bits, else of four. -/
  | relZ (width target : Sizing)
  /-- A far pointer: offset and selector. -/
  | far (sizing : Sizing)
  | fixed (register : Register)
  /-- The accumulator. -/
  | accumulator (sizing : Sizing)
  /-- The register that the opcode spells. -/
  | opcodeReg (bank : Bank) (number : UInt32)
  | stringSource
  | stringDestination
  /-- Memory at an absolute offset. -/
  | offsetMemory
  /-- The byte of a table that the accumulator selects. -/
  | tableMemory
  /-- An exchange with the accumulator, which of itself is `nop`, or `pause` after `F3`. -/
  | exchange (number : UInt32)
  /-- Memory is not allowed. -/
  | requireRegister
  /-- `vvvv` is reserved. -/
  | noVvvv
  /-- The mask bits are reserved. -/
  | noMask
  /-- Zeroing is reserved. -/
  | noZeroing
  /-- The `b` bit is reserved. -/
  | noB
  /-- The `b` bit is reserved in register form. -/
  | noRegisterB
  /-- The `b` bit is reserved in memory form. -/
  | noMemoryB
  /-- Zeroing is reserved for memory, and for registers unless allowed. -/
  | storeZeroing (allowed : Bool)
  /-- A mask is needed, and neither zeroing nor `b` is allowed. -/
  | gatherMask
  /-- Destination, index and mask vectors must differ. -/
  | distinctGather (indexBase : Register)
  /-- Destination and index vectors must differ. -/
  | distinctIndex (indexBase : Register)
  /-- The three tiles must differ, without extension bits. -/
  | distinctTiles
  /-- The lock and repeat prefixes act on a memory operand. -/
  | lockable (rules : LockRules)
  /-- The `b` bit of a register form suppresses exceptions, or fixes the rounding mode. -/
  | rounding (onlySuppress : Bool)
deriving DecidableEq, Repr

/-- How a leaf is decoded. -/
structure Plan where
  code : CodeRule
  steps : List Step
deriving DecidableEq, Repr

open Step in
/-- The plan of a leaf. -/
def Leaf.plan (l : Leaf) : Plan :=
  let gv : Bank := .gpr .operand
  let gw : Bank := .gpr .w
  let gy : Bank := .gpr .longW
  let gm : Bank := .gpr .mode
  let xmm : Bank := .file .xmm0
  let mm : Bank := .low .mm0
  let st : Bank := .low .st0
  let k : Bank := .low .k0
  let r (n : Nat) : Register := l.register n
  let f (n : Nat) : Bank := .file (r n)
  let v (n : Nat) : Bank := .vector (r n)
  let w (n : Nat) (broadcast : Bool) : Step := .rmVector (r n) l.tuple broadcast
  let lk : Step := .lockable l.locks
  match l.form with
  | .simple | .simpleModRM => ⟨.only, []⟩
  -- one register or memory operand
  | .eb => ⟨.only, [rm .byte, lk]⟩
  | .ev => ⟨.bySize .operand, [rm gv, lk]⟩
  | .ew => ⟨.bySize .operand, [rm gv]⟩
  | .ed => ⟨.only, [rm (.file .eax)]⟩
  | .ms => ⟨.bySize .operandOrLong, [mem]⟩
  | .m | .mf => ⟨.only, [mem]⟩
  | .mRexW => ⟨.wide .w, [mem, lk]⟩
  | .rv => ⟨.bySize .operand, [rmRegister gv]⟩
  | .rvW => ⟨.wide .w, [rmRegister gw]⟩
  -- register and memory operands
  | .ebGb => ⟨.only, [rm .byte, reg .byte, lk]⟩
  | .evGv => ⟨.bySize .operand, [rm gv, reg gv, lk]⟩
  | .gbEb => ⟨.only, [reg .byte, rm .byte]⟩
  | .gvEv => ⟨.bySize .operand, [reg gv, rm gv]⟩
  | .gvEb => ⟨.bySize .operand, [reg gv, rm .byte]⟩
  | .gvEw => ⟨.bySize .operand, [reg gv, rm (.file .ax)]⟩
  | .gvM | .gvMp | .gvMv => ⟨.bySize .operand, [reg gv, mem]⟩
  | .gvMa => ⟨.word .operand, [reg (.gpr .operandCapped), mem]⟩
  | .mvGv => ⟨.bySize .operand, [mem, reg gv]⟩
  | .gdEb => ⟨.wide .w, [reg gw, rm .byte]⟩
  | .gdEv => ⟨.bySize .operand, [reg (.gpr .operandFloored), rm gv]⟩
  -- with an immediate or a count
  | .ebIb => ⟨.only, [rm .byte, imm8, lk]⟩
  | .evIz => ⟨.bySize .operand, [rm gv, immZ .operand, lk]⟩
  | .evIb => ⟨.bySize .operand, [rm gv, imm8Signed .operand, lk]⟩
  | .evIb2 => ⟨.bySize .operand, [rm gv, imm8, lk]⟩
  | .eb1 => ⟨.only, [rm .byte, one]⟩
  | .ev1 => ⟨.bySize .operand, [rm gv, one]⟩
  | .ebCL => ⟨.only, [rm .byte, fixed .cl]⟩
  | .evCL => ⟨.bySize .operand, [rm gv, fixed .cl]⟩
  | .evGvIb => ⟨.bySize .operand, [rm gv, reg gv, imm8]⟩
  | .evGvCL => ⟨.bySize .operand, [rm gv, reg gv, fixed .cl]⟩
  | .gvEvIb => ⟨.bySize .operand, [reg gv, rm gv, imm8Signed .operand]⟩
  | .gvEvIz => ⟨.bySize .operand, [reg gv, rm gv, immZ .operand]⟩
  | .evSw => ⟨.bySize .operand, [rm gv, segmentReg false]⟩
  | .swEw => ⟨.only, [segmentReg true, rm (.file .ax)]⟩
  -- registers that the opcode fixes
  | .regIb => ⟨.only, [fixed (r 0), imm8]⟩
  | .ibReg => ⟨.only, [imm8, fixed (r 0)]⟩
  | .regIz => ⟨.bySize .operand, [accumulator .operand, immZ .operand]⟩
  | .regIb3 => ⟨.only, [opcodeReg .byte l.number, imm8]⟩
  | .regIz2 => ⟨.bySize .operand, [opcodeReg gv l.number, immFull .operand]⟩
  | .regReg => ⟨.only, [fixed (r 0), fixed (r 1)]⟩
  | .eaxDx => ⟨.bySize .operand, [accumulator .operandCapped, fixed .dx]⟩
  | .dxEax => ⟨.bySize .operand, [fixed .dx, accumulator .operandCapped]⟩
  | .eaxIb => ⟨.bySize .operand, [accumulator .operandCapped, imm8]⟩
  | .ibEax => ⟨.bySize .operand, [imm8, accumulator .operandCapped]⟩
  | .pushPopReg => ⟨.bySize .stack, [opcodeReg (.gpr .stack) l.number]⟩
  | .pushSimpleReg => ⟨.bySize .stack, [fixed (r 0)]⟩
  | .pushPopEv => ⟨.bySize .stack, [rm (.gpr .stack)]⟩
  | .pushIz => ⟨.bySize .stack, [immZ .stack]⟩
  | .pushIb2 => ⟨.bySize .stack, [imm8Signed .stack]⟩
  | .xchgRegRax => ⟨.bySize .operand, [exchange l.number]⟩
  | .simpleReg => ⟨.bySize .operand, [opcodeReg gv l.number]⟩
  | .simple2 => ⟨.bySize .operand, []⟩
  | .simple3 => ⟨.bySize .stack, []⟩
  -- branches
  | .jb => ⟨.bySize .branch, [rel8 .branch]⟩
  | .jz => ⟨.bySize .branch, [relZ .branch .branch]⟩
  | .jb2 => ⟨.bySize .address, [rel8 .branch]⟩
  | .xbegin => ⟨.bySize .operand, [relZ .operand .operandOrLong]⟩
  | .ap => ⟨.word .operand, [far .operandCapped]⟩
  | .ep => ⟨.bySize .operand, [mem]⟩
  | .branchSimple => ⟨.bySize .branch, []⟩
  | .branchIw => ⟨.bySize .branch, [imm16]⟩
  | .branchEv => ⟨.bySize .branch, [rm (.gpr .branch)]⟩
  | .ib => ⟨.only, [imm8]⟩
  | .iw => ⟨.bySize .operand, [imm16]⟩
  | .iwIb => ⟨.bySize .stack, [imm16, imm8Second]⟩
  -- strings
  | .ybReg => ⟨.only, [stringDestination, fixed (r 0)]⟩
  | .yvReg => ⟨.bySize .operand, [stringDestination, accumulator .operand]⟩
  | .yvReg2 => ⟨.bySize .operand, [stringDestination, fixed .dx]⟩
  | .regXb => ⟨.only, [fixed (r 0), stringSource]⟩
  | .regXv => ⟨.bySize .operand, [accumulator .operand, stringSource]⟩
  | .regXv2 => ⟨.bySize .operand, [fixed .dx, stringSource]⟩
  | .xbYb => ⟨.only, [stringSource, stringDestination]⟩
  | .xvYv => ⟨.bySize .operand, [stringSource, stringDestination]⟩
  | .ybXb => ⟨.only, [stringDestination, stringSource]⟩
  | .yvXv => ⟨.bySize .operand, [stringDestination, stringSource]⟩
  | .regYb => ⟨.only, [fixed (r 0), stringDestination]⟩
  | .regYv => ⟨.bySize .operand, [accumulator .operand, stringDestination]⟩
  -- absolute and table memory
  | .regOb => ⟨.only, [fixed (r 0), offsetMemory]⟩
  | .regOv => ⟨.bySize .operand, [accumulator .operand, offsetMemory]⟩
  | .obReg => ⟨.only, [offsetMemory, fixed (r 0)]⟩
  | .ovReg => ⟨.bySize .operand, [offsetMemory, accumulator .operand]⟩
  | .memBx => ⟨.only, [tableMemory]⟩
  -- control registers and the floating-point stack
  | .rdCr => ⟨.wide .mode, [rmNumber gm, controlReg (r 0)]⟩
  | .crRd => ⟨.wide .mode, [controlReg (r 0), rmNumber gm]⟩
  | .stSti => ⟨.only, [fixed .st0, rmNumber st]⟩
  | .stiSt => ⟨.only, [rmNumber st, fixed .st0]⟩
  | .sti => ⟨.only, [rmNumber st]⟩
  -- vector registers
  | .vw => ⟨.only, [reg xmm, rm xmm]⟩
  | .wv => ⟨.only, [rm xmm, reg xmm]⟩
  | .vm => ⟨.only, [reg xmm, mem]⟩
  | .mv => ⟨.only, [mem, reg xmm]⟩
  | .vwIb => ⟨.only, [reg xmm, rm xmm, imm8]⟩
  | .vq => ⟨.only, [reg xmm, rm mm]⟩
  | .vEv => ⟨.wide .w, [reg xmm, rm gw]⟩
  | .evV => ⟨.wide .w, [rm gw, reg xmm]⟩
  | .vEvIb => ⟨.wide .w, [reg xmm, rm gw, imm8]⟩
  | .evVIb => ⟨.wide .w, [rm gw, reg xmm, imm8]⟩
  | .gvW => ⟨.wide .w, [reg gw, rm xmm]⟩
  | .rIb => ⟨.only, [rmRegister xmm, imm8]⟩
  | .rIbIb => ⟨.only, [rmRegister xmm, imm8, imm8Second]⟩
  -- MMX registers
  | .pq => ⟨.only, [reg mm, rm mm]⟩
  | .qp => ⟨.only, [rm mm, reg mm]⟩
  | .pqIb => ⟨.only, [reg mm, rm mm, imm8]⟩
  | .nIb => ⟨.only, [rmRegister mm, imm8]⟩
  | .pEv => ⟨.wide .w, [reg mm, rm gw]⟩
  | .evP => ⟨.wide .w, [rm gw, reg mm]⟩
  | .mp => ⟨.only, [mem, reg mm]⟩
  -- bounds registers
  | .bm => ⟨.wide .mode, [boundReg, rmBound]⟩
  | .mb => ⟨.wide .mode, [rmBound, boundReg]⟩
  | .bEv => ⟨.wide .mode, [boundReg, rm gm]⟩
  | .bMib => ⟨.only, [boundReg, memBound]⟩
  | .mibB => ⟨.only, [memBound, boundReg]⟩
  -- VEX and XOP vectors
  | .vexSimple => ⟨.only, [noVvvv]⟩
  | .vexVHW => ⟨.only, [reg (f 0), vvvv (f 1), rm (f 2)]⟩
  | .vexVW => ⟨.only, [noVvvv, reg (f 0), rm (f 1)]⟩
  | .vexWV => ⟨.only, [noVvvv, rm (f 0), reg (f 1)]⟩
  | .vexVM => ⟨.only, [noVvvv, reg (f 0), mem]⟩
  | .vexMV => ⟨.only, [noVvvv, mem, reg (f 0)]⟩
  | .vexM => ⟨.only, [noVvvv, mem]⟩
  | .vexVHM => ⟨.only, [reg (f 0), vvvv (f 0), mem]⟩
  | .vexMHV => ⟨.only, [mem, vvvv (f 0), reg (f 0)]⟩
  | .vexVHWIb => ⟨.only, [reg (f 0), vvvv (f 1), rm (f 2), imm8]⟩
  | .vexVWIb => ⟨.only, [noVvvv, reg (f 0), rm (f 1), imm8]⟩
  | .vexVWH => ⟨.only, [reg (f 0), rm (f 0), vvvv (f 0)]⟩
  | .vexVHWIs4 => ⟨.only, [reg (f 0), vvvv (f 0), rm (f 0), is4 (r 0)]⟩
  | .vexVHIs4W => ⟨.only, [reg (f 0), vvvv (f 0), is4BeforeRm (r 0)]⟩
  | .vexHRIb => ⟨.only, [vvvv (f 0), rmRegister (f 0), imm8]⟩
  | .vexVHEv => ⟨.wide .longW, [reg (f 0), vvvv (f 0), rm gy]⟩
  | .vexVHEvIb => ⟨.wide .longW, [reg (f 0), vvvv (f 0), rm gy, imm8]⟩
  | .vexEvVIb => ⟨.wide .longW, [noVvvv, rm gy, reg (f 0), imm8]⟩
  | .vexGvW => ⟨.wide .longW, [noVvvv, reg gy, rm (f 0)]⟩
  | .vexGvRx => ⟨.wide .longW, [noVvvv, reg gy, rmRegister (f 0)]⟩
  -- VEX mask registers
  | .vexVkHkRk => ⟨.only, [narrowReg .k0, narrowVvvv .k0, rmRegister k]⟩
  | .vexVkRk => ⟨.only, [noVvvv, narrowReg .k0, rmRegister k]⟩
  | .vexVkWk => ⟨.only, [noVvvv, narrowReg .k0, rm k]⟩
  | .vexMVk => ⟨.only, [noVvvv, mem, narrowReg .k0]⟩
  | .vexVkR => ⟨.only, [noVvvv, narrowReg .k0, rmRegister (f 0)]⟩
  | .vexGVk => ⟨.only, [noVvvv, reg (f 0), rmRegister k]⟩
  | .vexVkRkIb => ⟨.only, [noVvvv, narrowReg .k0, rmRegister k, imm8]⟩
  -- VEX general-purpose registers
  | .vexGvHvEv => ⟨.wide .longW, [reg gy, vvvv gy, rm gy]⟩
  | .vexGvEvHv => ⟨.wide .longW, [reg gy, rm gy, vvvv gy]⟩
  | .vexHvEv => ⟨.wide .longW, [vvvv gy, rm gy]⟩
  | .vexGvEvIb => ⟨.wide .longW, [noVvvv, reg gy, rm gy, imm8]⟩
  | .vexGvEvId => ⟨.wide .longW, [noVvvv, reg gy, rm gy, imm32]⟩
  -- VEX gathers and tiles
  | .vexVXVsibHX => ⟨.only, [reg (f 1), memVsib (r 0) .n1, vvvv (f 1), distinctGather (r 0)]⟩
  | .vexVTSibmem => ⟨.only, [noVvvv, narrowReg .tmm0, memSib]⟩
  | .vexSibmemVT => ⟨.only, [noVvvv, memSib, narrowReg .tmm0]⟩
  | .vexVTRTHT => ⟨.only, [distinctTiles, reg (.low .tmm0), rmRegister (.low .tmm0),
      narrowVvvv .tmm0]⟩
  | .vexVT => ⟨.only, [noVvvv, requireRegister, narrowReg .tmm0]⟩
  -- EVEX vectors
  | .evexVkHW => ⟨.only, [noRegisterB, reg (v 0), vvvv (v 1), w 2 (l.flag 0)]⟩
  | .evexVkHWEr => ⟨.only, [reg (v 0), vvvv (v 0), w 0 (l.flag 1), rounding (l.flag 0)]⟩
  | .evexVkHWIb => ⟨.only, [noRegisterB, reg (v 0), vvvv (v 1), w 2 (l.flag 0), imm8]⟩
  | .evexVkHWIbEr => ⟨.only, [reg (v 0), vvvv (v 0), w 0 true, rounding true, imm8]⟩
  | .evexVkW => ⟨.only, [noVvvv, noRegisterB, reg (v 0), w 1 (l.flag 0)]⟩
  | .evexVkWEr => ⟨.only, [noVvvv, reg (v 0), w 1 (l.flag 1), rounding (l.flag 0)]⟩
  | .evexVkWIb => ⟨.only, [noVvvv, noRegisterB, reg (v 0), w 1 (l.flag 0), imm8]⟩
  | .evexVkWIbEr => ⟨.only, [noVvvv, reg (v 0), w 1 true, rounding true, imm8]⟩
  | .evexWkV => ⟨.only, [noVvvv, noB, storeZeroing (l.flag 0), w 0 false, reg (v 1)]⟩
  | .evexHkWIb => ⟨.only, [noRegisterB, vvvv (v 0), w 1 (l.flag 0), imm8]⟩
  -- EVEX mask registers
  | .evexKkHW => ⟨.only, [noZeroing, noRegisterB, narrowReg .k0, vvvv (v 0), w 0 (l.flag 0)]⟩
  | .evexKkHWIb => ⟨.only, [noZeroing, noRegisterB, narrowReg .k0, vvvv (v 0), w 0 (l.flag 0),
      imm8]⟩
  | .evexKkHWIbSae => ⟨.only, [noZeroing, narrowReg .k0, vvvv (v 0), w 0 (l.flag 0),
      rounding true, imm8]⟩
  | .evexKkWIb => ⟨.only, [noVvvv, noZeroing, noRegisterB, narrowReg .k0, w 0 (l.flag 0), imm8]⟩
  | .evexKP1HW => ⟨.only, [noMask, noRegisterB, narrowReg .k0, vvvv (v 0), w 0 (l.flag 0)]⟩
  -- EVEX memory and unmasked forms
  | .evexVkM => ⟨.only, [noVvvv, reg (v 0), memVector l.tuple]⟩
  | .evexVM => ⟨.only, [noVvvv, noMask, reg (v 0), memVector l.tuple]⟩
  | .evexMV => ⟨.only, [noVvvv, noMask, memVector l.tuple, reg (v 0)]⟩
  | .evexVW =>
      if l.flag 0 then ⟨.only, [noVvvv, noMask, reg (v 0), w 1 false, rounding true]⟩
      else ⟨.only, [noVvvv, noMask, noRegisterB, reg (v 0), w 1 false]⟩
  | .evexWV => ⟨.only, [noVvvv, noMask, noRegisterB, w 0 false, reg (v 1)]⟩
  -- EVEX general-purpose registers
  | .evexVkEv => ⟨.wide .longW, [noVvvv, noRegisterB, reg (v 0), rmRegister gy]⟩
  | .evexVXEv => ⟨.wide .longW, [noVvvv, noMask, noB, reg (v 0), rmScalar]⟩
  | .evexEvVX => ⟨.wide .longW, [noVvvv, noMask, noB, rmScalar, reg (v 0)]⟩
  | .evexVHEv => ⟨.wide .longW, [noMask, noB, reg (v 0), vvvv (v 0), rmScalar]⟩
  | .evexVHEvEr => ⟨.wide .longW, [noMask, noMemoryB, reg (v 0), vvvv (v 0), rmScalar,
      rounding false]⟩
  | .evexVHEvIb => ⟨.wide .longW, [noMask, noB, reg (v 0), vvvv (v 0), rmScalar, imm8]⟩
  | .evexEdVIb => ⟨.wide .longW, [noVvvv, noMask, noB, rmScalar, reg (v 0), imm8]⟩
  | .evexGvWEr => ⟨.wide .longW, [noVvvv, noMask, reg gy, w 0 false, rounding (l.flag 0)]⟩
  -- EVEX gathers and scatters
  | .evexVkVsib => ⟨.only, [noVvvv, gatherMask, reg (v 0), memVsib (r 1) l.tuple,
      distinctIndex (r 1)]⟩
  | .evexVsibkV => ⟨.only, [noVvvv, gatherMask, memVsib (r 0) l.tuple, reg (v 1)]⟩
  | .evexVsibk => ⟨.only, [noVvvv, gatherMask, memVsib (r 0) l.tuple]⟩
  | .evexVRk => ⟨.only, [noVvvv, noMask, noRegisterB, reg (v 0), rmRegister k]⟩
  | .evexKR => ⟨.only, [noVvvv, noMask, noRegisterB, narrowReg .k0, rmRegister (v 0)]⟩

end OpcodeForest
