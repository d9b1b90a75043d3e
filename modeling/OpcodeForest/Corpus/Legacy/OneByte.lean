import OpcodeForest.Code.OneByte
import OpcodeForest.Corpus.Legacy.Basic

/-!
# The one-byte map

All but the floating-point opcodes `D8` to `DF` and the escape `0F`.
-/

namespace OpcodeForest.Corpus.Legacy.OneByte

open Code NodeField

/-! ### Opcodes with one meaning each -/

/-- The six forms of a binary operation, from `op r/m8, r8` to `op rAX, imm`. -/
def binary (opcode : Nat) (first : Code) (locks : NodeField) : Rows :=
  [(opcode, node .ebGb [.code first, locks]),
   (opcode + 1, node .evGv [three (first.offset 1), locks]),
   (opcode + 2, node .gbEb [.code (first.offset 4)]),
   (opcode + 3, node .gvEv [three (first.offset 5)]),
   (opcode + 4, node .regIb [.code (first.offset 8), .register .al]),
   (opcode + 5, node .regIz [three (first.offset 9)])]

/-- Opcodes `00` to `3F`. -/
def low : Rows :=
  binary 0x00 Add_rm8_r8 lockable
    ++ binary 0x08 Or_rm8_r8 lockable
    ++ binary 0x10 Adc_rm8_r8 lockable
    ++ binary 0x18 Sbb_rm8_r8 lockable
    ++ binary 0x20 And_rm8_r8 lockable
    ++ binary 0x28 Sub_rm8_r8 lockable
    ++ binary 0x30 Xor_rm8_r8 lockable
    ++ binary 0x38 Cmp_rm8_r8 plain
    ++ [(0x06, not64 (node .pushSimpleRegWidened [two Pushw_ES, .register .es])),
        (0x07, not64 (node .pushSimpleRegWidened [two Popw_ES, .register .es])),
        (0x0E, not64 (node .pushSimpleRegWidened [two Pushw_CS, .register .cs])),
        (0x16, not64 (node .pushSimpleRegWidened [two Pushw_SS, .register .ss])),
        (0x17, not64 (node .pushSimpleRegWidened [two Popw_SS, .register .ss])),
        (0x1E, not64 (node .pushSimpleRegWidened [two Pushw_DS, .register .ds])),
        (0x1F, not64 (node .pushSimpleRegWidened [two Popw_DS, .register .ds])),
        (0x26, node .weakSegment [.register .es]),
        (0x27, not64 (simple Daa)),
        (0x2E, node .weakSegment [.register .cs]),
        (0x2F, not64 (simple Das)),
        (0x36, node .weakSegment [.register .ss]),
        (0x37, not64 (simple Aaa)),
        (0x3E, node .weakSegment [.register .ds]),
        (0x3F, not64 (simple Aas))]

/-- A `REX` byte in 64-bit mode, and `e` otherwise. -/
def rex (bits : Nat) (e : Entry) : Entry := node .rex [.child e, .number (UInt32.ofNat bits)]

/-- Opcodes whose low three bits name a register. -/
def registers : Rows :=
  span 0x40 8 (fun n => rex n (node .simpleRegWidened [two Inc_r16, .number (UInt32.ofNat n)]))
    ++ span 0x48 8 (fun n =>
        rex (8 + n) (node .simpleRegWidened [two Dec_r16, .number (UInt32.ofNat n)]))
    ++ span 0x50 8 (fun n => node .pushPopReg [three Push_r16, .number (UInt32.ofNat n)])
    ++ span 0x58 8 (fun n => node .pushPopReg [three Pop_r16, .number (UInt32.ofNat n)])
    ++ span 0x90 8 (fun n => node .xchgRegRax [three Xchg_r16_AX, .number (UInt32.ofNat n)])
    ++ span 0xB0 8 (fun n => node .regIb3 [.code Mov_r8_imm8, .number (UInt32.ofNat n)])
    ++ span 0xB8 8 (fun n => node .regIz2 [three Mov_r16_imm16, .number (UInt32.ofNat n)])

/-- Opcodes `60` to `7F`. -/
def mixed : Rows :=
  [(0x60, not64 (node .simple2Widened [two Pushaw])),
   (0x61, not64 (node .simple2Widened [two Popaw])),
   (0x62, node .evex [.child (node .gvMa [two Bound_r16_m1616])]),
   (0x63, byMode .invalid (node .gvEv [three Movsxd_r16_rm16])),
   (0x64, node .strongSegment [.register .fs]),
   (0x65, node .strongSegment [.register .gs]),
   (0x66, node .operandSize []),
   (0x67, node .addressSize []),
   (0x68, node .pushIz [three Push_imm16]),
   (0x69, node .gvEvIz [three Imul_r16_rm16_imm16]),
   (0x6A, node .pushIb2 [three Pushw_imm8]),
   (0x6B, node .gvEvIb [three Imul_r16_rm16_imm8]),
   (0x6C, node .ybReg [.code Insb_m8_DX, .register .dx]),
   (0x6D, node .yvReg2 [two Insw_m16_DX]),
   (0x6E, node .regXb [.code Outsb_DX_m8, .register .dx]),
   (0x6F, node .regXv2 [two Outsw_DX_m16])]
    ++ span 0x70 16 (fun n => node .jb [three (Jo_rel8_16.offset (3 * n))])

/-- Opcodes `84` to `AF`. -/
def moves : Rows :=
  [(0x84, node .ebGb [.code Test_rm8_r8, plain]),
   (0x85, node .evGv [three Test_rm16_r16, plain]),
   (0x86, node .ebGb [.code Xchg_rm8_r8, exchanging]),
   (0x87, node .evGv [three Xchg_rm16_r16, exchanging]),
   (0x88, node .ebGb [.code Mov_rm8_r8, storing]),
   (0x89, node .evGv [three Mov_rm16_r16, storing]),
   (0x8A, node .gbEb [.code Mov_r8_rm8]),
   (0x8B, node .gvEv [three Mov_r16_rm16]),
   (0x8C, node .evSw [three Mov_rm16_Sreg]),
   (0x8D, node .gvM [three Lea_r16_m]),
   (0x8E, node .swEw [.code Mov_Sreg_rm16]),
   (0x98, node .simple2 [three Cbw]),
   (0x99, node .simple2 [three Cwd]),
   (0x9A, not64 (node .ap [two Call_ptr1616])),
   (0x9B, simple Wait),
   (0x9C, node .simple3 [three Pushfw]),
   (0x9D, node .simple3 [three Popfw]),
   (0x9E, simple Sahf),
   (0x9F, simple Lahf),
   (0xA0, node .regOb [.code Mov_AL_moffs8, .register .al]),
   (0xA1, node .regOv [three Mov_AX_moffs16]),
   (0xA2, node .obReg [.code Mov_moffs8_AL, .register .al]),
   (0xA3, node .ovReg [three Mov_moffs16_AX]),
   (0xA4, node .ybXb [.code Movsb_m8_m8]),
   (0xA5, node .yvXv [three Movsw_m16_m16]),
   (0xA6, node .xbYb [.code Cmpsb_m8_m8]),
   (0xA7, node .xvYv [three Cmpsw_m16_m16]),
   (0xA8, node .regIb [.code Test_AL_imm8, .register .al]),
   (0xA9, node .regIz [three Test_AX_imm16]),
   (0xAA, node .ybReg [.code Stosb_m8_AL, .register .al]),
   (0xAB, node .yvReg [three Stosw_m16_AX]),
   (0xAC, node .regXb [.code Lodsb_AL_m8, .register .al]),
   (0xAD, node .regXv [three Lodsw_AX_m16]),
   (0xAE, node .regYb [.code Scasb_AL_m8, .register .al]),
   (0xAF, node .regYv [three Scasw_AX_m16])]

/-- Opcodes `C2` to `FD`. -/
def control : Rows :=
  [(0xC2, node .branchIw [three Retnw_imm16]),
   (0xC3, node .branchSimple [three Retnw]),
   (0xC4, node .vex3 [.child (node .gvMpWidened [two Les_r16_m1616])]),
   (0xC5, node .vex2 [.child (node .gvMpWidened [two Lds_r16_m1616])]),
   (0xC8, node .iwIb [three Enterw_imm16_imm8]),
   (0xC9, node .simple3 [three Leavew]),
   (0xCA, node .iw [three Retfw_imm16]),
   (0xCB, node .simple2 [three Retfw]),
   (0xCC, simple Int3),
   (0xCD, node .ib [.code Int_imm8]),
   (0xCE, not64 (simple Into)),
   (0xCF, node .simple2 [three Iretw]),
   (0xD4, not64 (node .ib [.code Aam_imm8])),
   (0xD5, not64 (node .ib [.code Aad_imm8])),
   (0xD6, not64 (simple Salc)),
   (0xD7, node .memBx [.code Xlat_m8]),
   (0xE0, node .jb2 [three Loopne_rel8_CX]),
   (0xE1, node .jb2 [three Loope_rel8_CX]),
   (0xE2, node .jb2 [three Loop_rel8_CX]),
   (0xE3, node .jb2 [three Jcxz_rel8]),
   (0xE4, node .regIb [.code In_AL_imm8, .register .al]),
   (0xE5, node .eaxIb [two In_AX_imm8]),
   (0xE6, node .ibReg [.code Out_imm8_AL, .register .al]),
   (0xE7, node .ibEax [two Out_imm8_AX]),
   (0xE8, node .jz [three Call_rel16]),
   (0xE9, node .jz [three Jmp_rel16]),
   (0xEA, not64 (node .ap [two Jmp_ptr1616])),
   (0xEB, node .jb [three Jmp_rel8_16]),
   (0xEC, node .regReg [.code In_AL_DX, .register .al, .register .dx]),
   (0xED, node .eaxDx [two In_AX_DX]),
   (0xEE, node .regReg [.code Out_DX_AL, .register .dx, .register .al]),
   (0xEF, node .dxEax [two Out_DX_AX]),
   (0xF0, node .lock []),
   (0xF1, simple Int1),
   (0xF2, node .repne []),
   (0xF3, node .rep []),
   (0xF4, simple Hlt),
   (0xF5, simple Cmc)]
    ++ span 0xF8 6 (fun n => simple (Clc.offset n))

def direct : Rows := low ++ registers ++ mixed ++ moves ++ control

/-! ### Groups -/

/-- The locks of the eight binary operations: all but the comparison write back. -/
def binaryLocks (reg : Nat) : NodeField := if reg = 7 then plain else lockable

/-- Binary operations with an immediate, `80` to `83`, and `pop` beside the XOP payload. -/
def immediateGroups : Draft Rows := do
  let g80 ← group (byReg (span 0 8 fun n =>
    node .ebIb [.code (Add_rm8_imm8.offset n), binaryLocks n]))
  let g81 ← group (byReg (span 0 8 fun n =>
    node .evIz [three (Add_rm16_imm16.offset (3 * n)), binaryLocks n]))
  let g82 ← group (byReg (span 0 8 fun n =>
    node .ebIb [.code (Add_rm8_imm8_82.offset n), binaryLocks n]))
  let g83 ← group (byReg (span 0 8 fun n =>
    node .evIb [three (Add_rm16_imm8.offset (3 * n)), binaryLocks n]))
  let pop ← group (byReg [(0, node .pushPopEv [three Pop_rm16])])
  return [(0x80, g80), (0x81, g81), (0x82, byMode g82 .invalid), (0x83, g83),
          (0x8F, node .xop [.child pop])]

/-- Shifts and rotations by an immediate, by one and by `CL`. -/
def shiftGroups : Draft Rows := do
  let c0 ← group (byReg (span 0 8 fun n => node .ebIb [.code (Rol_rm8_imm8.offset n), plain]))
  let c1 ← group (byReg (span 0 8 fun n =>
    node .evIb2 [three (Rol_rm16_imm8.offset (3 * n)), plain]))
  let d0 ← group (byReg (span 0 8 fun n => node .eb1 [.code (Rol_rm8_1.offset n)]))
  let d1 ← group (byReg (span 0 8 fun n => node .ev1 [three (Rol_rm16_1.offset (3 * n))]))
  let d2 ← group (byReg (span 0 8 fun n => node .ebCL [.code (Rol_rm8_CL.offset n)]))
  let d3 ← group (byReg (span 0 8 fun n => node .evCL [three (Rol_rm16_CL.offset (3 * n))]))
  return [(0xC0, c0), (0xC1, c1), (0xD0, d0), (0xD1, d1), (0xD2, d2), (0xD3, d3)]

/-- Stores of an immediate, with the transaction instructions among their register forms. -/
def storeGroups : Draft Rows := do
  let c6 ← fineGroup (byReg [(0, node .ebIb [.code Mov_rm8_imm8, storing])])
    (overlay [(0x38, node .ib [.code Xabort_imm8])])
  let c7 ← fineGroup (byReg [(0, node .evIz [three Mov_rm16_imm16, storing])])
    (overlay [(0x38, node .xbegin [two Xbegin_rel16])])
  return [(0xC6, c6), (0xC7, c7)]

/-- Unary operations and indirect branches. -/
def unaryGroups : Draft Rows := do
  let f6 ← group
    [node .ebIb [.code Test_rm8_imm8, plain],
     node .ebIb [.code Test_rm8_imm8_F6r1, plain],
     node .eb [.code Not_rm8, lockable],
     node .eb [.code Neg_rm8, lockable],
     node .eb [.code Mul_rm8, plain],
     node .eb [.code Imul_rm8, plain],
     node .eb [.code Div_rm8, plain],
     node .eb [.code Idiv_rm8, plain]]
  let f7 ← group
    [node .evIz [three Test_rm16_imm16, plain],
     node .evIz [three Test_rm16_imm16_F7r1, plain],
     node .ev [three Not_rm16, lockable],
     node .ev [three Neg_rm16, lockable],
     node .ev [three Mul_rm16, plain],
     node .ev [three Imul_rm16, plain],
     node .ev [three Div_rm16, plain],
     node .ev [three Idiv_rm16, plain]]
  let fe ← group (byReg
    [(0, node .eb [.code Inc_rm8, lockable]),
     (1, node .eb [.code Dec_rm8, lockable])])
  let ff ← group
    [node .ev [three Inc_rm16, lockable],
     node .ev [three Dec_rm16, lockable],
     node .branchEv [three Call_rm16],
     node .ep [three Call_m1616],
     node .branchEv [three Jmp_rm16],
     node .ep [three Jmp_m1616],
     node .pushPopEv [three Push_rm16],
     .invalid]
  return [(0xF6, f6), (0xF7, f7), (0xFE, fe), (0xFF, ff)]

end OpcodeForest.Corpus.Legacy.OneByte
