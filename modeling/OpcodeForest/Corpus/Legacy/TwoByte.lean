import OpcodeForest.Code.TwoByte
import OpcodeForest.Corpus.Legacy.Basic

/-!
# The two-byte map

Opcodes after `0F`, all but the escapes `38` and `3A`.
-/

namespace OpcodeForest.Corpus.Legacy.TwoByte

open Code NodeField

/-! ### Opcodes with one meaning each -/

/-- The instructions that a byte after the operands tells apart. -/
def trailing : Entry :=
  let bytes : List UInt8 :=
    [0x0C, 0x0D, 0x1C, 0x1D, 0x8A, 0x8E, 0x90, 0x94, 0x96, 0x97, 0x9A, 0x9E, 0xA0, 0xA4, 0xA6,
     0xA7, 0xAA, 0xAE, 0xB0, 0xB4, 0xB6, 0xB7, 0xBB, 0xBF]
  node .trailing (.number (UInt32.ofNat bytes.length) ::
    bytes.zipIdx.flatMap fun (b, n) => [.byte b, .code (D3NOW_Pi2fw_mm_mmm64.offset n)])

/-- A reserved `nop`. -/
def reserved (c : Code) : Entry := node .ev [three c, plain]

/-- Opcodes `02` to `0F`. -/
def system : Rows :=
  [(0x02, node .gvEv [three Lar_r16_rm16]),
   (0x03, node .gvEv [three Lsl_r16_rm16]),
   (0x05, simple Syscall),
   (0x06, simple Clts),
   (0x07, simple Sysret),
   (0x08, simple Invd),
   (0x09, node .mandatoryKept
     [.child (simple Wbinvd), .child .invalidNoModRM,
      .child (options (simple Wbnoinvd) [(simple Wbinvd, .noWbnoinvd)]),
      .child .invalidNoModRM, .number 1]),
   (0x0B, simple Ud2),
   (0x0E, simple Femms),
   (0x0F, trailing)]

/-- Opcodes `10` to `1D` and `20` to `37`. -/
def vectorMoves : Rows :=
  [(0x10, options (ssePackedScalar Movups_xmm_xmmm128)
     [(node .ebGb [.code Umov_rm8_r8, plain], .umov)]),
   (0x11, options
     (mandatory (node .wv [.code Movups_xmmm128_xmm]) (node .wv [.code Movupd_xmmm128_xmm])
       (node .wv [.code Movss_xmmm32_xmm]) (node .wv [.code Movsd_xmmm64_xmm]))
     [(node .evGv [three Umov_rm16_r16, plain], .umov)]),
   (0x12, mandatoryByForm
     [vw Movhlps_xmm_xmm, .invalid, vw Movsldup_xmm_xmmm128, vw Movddup_xmm_xmmm64]
     [node .vm [.code Movlps_xmm_m64], node .vm [.code Movlpd_xmm_m64],
      vw Movsldup_xmm_xmmm128, vw Movddup_xmm_xmmm64]),
   (0x13, mandatory (node .mv [.code Movlps_m64_xmm]) (node .mv [.code Movlpd_m64_xmm])
     .invalid .invalid),
   (0x14, ssePacked Unpcklps_xmm_xmmm128),
   (0x15, ssePacked Unpckhps_xmm_xmmm128),
   (0x16, mandatoryByForm
     [vw Movlhps_xmm_xmm, .invalid, vw Movshdup_xmm_xmmm128, .invalid]
     [node .vm [.code Movhps_xmm_m64], node .vm [.code Movhpd_xmm_m64],
      vw Movshdup_xmm_xmmm128, .invalid]),
   (0x17, mandatory (node .mv [.code Movhps_m64_xmm]) (node .mv [.code Movhpd_m64_xmm])
     .invalid .invalid),
   (0x19, reserved Reservednop_rm16_r16_0F19),
   (0x1A, options (reserved Reservednop_rm16_r16_0F1A)
     [(mandatory (node .bMib [.code Bndldx_bnd_mib]) (node .bm [two Bndmov_bnd_bndm64])
        (node .bEv [two Bndcl_bnd_rm32]) (node .bEv [two Bndcu_bnd_rm32]), .mpx)]),
   (0x1B, options (reserved Reservednop_rm16_r16_0F1B)
     [(mandatory (node .mibB [.code Bndstx_mib_bnd]) (node .mb [two Bndmov_bndm64_bnd])
        (node .bEv [two Bndmk_bnd_m32]) (node .bEv [two Bndcn_bnd_rm32]), .mpx)]),
   (0x1C, reserved Reservednop_rm16_r16_0F1C),
   (0x1D, reserved Reservednop_rm16_r16_0F1D),
   (0x20, node .rdCr [two Mov_r32_cr, .register .cr0]),
   (0x21, node .rdCr [two Mov_r32_dr, .register .dr0]),
   (0x22, node .crRd [two Mov_cr_r32, .register .cr0]),
   (0x23, node .crRd [two Mov_dr_r32, .register .dr0]),
   (0x28, ssePacked Movaps_xmm_xmmm128),
   (0x29, mandatory (node .wv [.code Movaps_xmmm128_xmm]) (node .wv [.code Movapd_xmmm128_xmm])
     .invalid .invalid),
   (0x2A, mandatory (node .vq [.code Cvtpi2ps_xmm_mmm64]) (node .vq [.code Cvtpi2pd_xmm_mmm64])
     (node .vEv [two Cvtsi2ss_xmm_rm32]) (node .vEv [two Cvtsi2sd_xmm_rm32])),
   (0x2B, mandatory (node .mv [.code Movntps_m128_xmm]) (node .mv [.code Movntpd_m128_xmm])
     .invalid .invalid),
   (0x2C, mandatory .invalid .invalid (node .gvW [two Cvttss2si_r32_xmmm32])
     (node .gvW [two Cvttsd2si_r32_xmmm64])),
   (0x2D, mandatory .invalid .invalid (node .gvW [two Cvtss2si_r32_xmmm32])
     (node .gvW [two Cvtsd2si_r32_xmmm64])),
   (0x2E, ssePacked Ucomiss_xmm_xmmm32),
   (0x2F, ssePacked Comiss_xmm_xmmm32)]
    ++ span 0x30 6 (fun n => simple (Wrmsr.offset n))
    ++ [(0x37, simple Getsec)]

/-- Opcodes `40` to `9F`. -/
def vectorArithmetic : Rows :=
  span 0x40 16 (fun n => node .gvEv [three (Cmovo_r16_rm16.offset (3 * n))])
    ++ [(0x50, sseMask Movmskps_r32_xmm),
        (0x51, ssePackedScalar Sqrtps_xmm_xmmm128),
        (0x52, mandatory (vw Rsqrtps_xmm_xmmm128) .invalid (vw Rsqrtss_xmm_xmmm32) .invalid),
        (0x53, mandatory (vw Rcpps_xmm_xmmm128) .invalid (vw Rcpss_xmm_xmmm32) .invalid),
        (0x54, ssePacked Andps_xmm_xmmm128),
        (0x55, ssePacked Andnps_xmm_xmmm128),
        (0x56, ssePacked Orps_xmm_xmmm128),
        (0x57, ssePacked Xorps_xmm_xmmm128),
        (0x58, ssePackedScalar Addps_xmm_xmmm128),
        (0x59, ssePackedScalar Mulps_xmm_xmmm128),
        (0x5A, ssePackedScalar Cvtps2pd_xmm_xmmm64),
        (0x5B, mandatory (vw Cvtdq2ps_xmm_xmmm128) (vw Cvtps2dq_xmm_xmmm128)
          (vw Cvttps2dq_xmm_xmmm128) .invalid),
        (0x5C, ssePackedScalar Subps_xmm_xmmm128),
        (0x5D, ssePackedScalar Minps_xmm_xmmm128),
        (0x5E, ssePackedScalar Divps_xmm_xmmm128),
        (0x5F, ssePackedScalar Maxps_xmm_xmmm128)]
    ++ mmxSpan 0x60 12 Punpcklbw_mm_mmm32
    ++ [(0x6C, only66 (vw Punpcklqdq_xmm_xmmm128)),
        (0x6D, only66 (vw Punpckhqdq_xmm_xmmm128)),
        (0x6E, mandatory (node .pEv [two Movd_mm_rm32]) (node .vEv [two Movd_xmm_rm32])
          .invalid .invalid),
        (0x6F, mandatory (node .pq [.code Movq_mm_mmm64]) (vw Movdqa_xmm_xmmm128)
          (vw Movdqu_xmm_xmmm128) .invalid),
        (0x70, mandatory (node .pqIb [.code Pshufw_mm_mmm64_imm8])
          (node .vwIb [.code Pshufd_xmm_xmmm128_imm8])
          (node .vwIb [.code Pshufhw_xmm_xmmm128_imm8])
          (node .vwIb [.code Pshuflw_xmm_xmmm128_imm8])),
        (0x74, mmxSse Pcmpeqb_mm_mmm64),
        (0x75, mmxSse Pcmpeqw_mm_mmm64),
        (0x76, mmxSse Pcmpeqd_mm_mmm64),
        (0x77, simple Emms),
        (0x7E, mandatory (node .evP [two Movd_rm32_mm]) (node .evV [two Movd_rm32_xmm])
          (vw Movq_xmm_xmmm64) .invalid),
        (0x7F, mandatory (node .qp [.code Movq_mmm64_mm]) (node .wv [.code Movdqa_xmmm128_xmm])
          (node .wv [.code Movdqu_xmmm128_xmm]) .invalid)]
    ++ span 0x80 16 (fun n => node .jz [three (Jo_rel16.offset (3 * n))])
    ++ span 0x90 16 (fun n => node .eb [.code (Seto_rm8.offset n), plain])

/-- Opcodes `A0` to `CF`. -/
def bits : Rows :=
  [(0xA0, node .pushSimpleReg [three Pushw_FS, .register .fs]),
   (0xA1, node .pushSimpleReg [three Popw_FS, .register .fs]),
   (0xA2, simple Cpuid),
   (0xA3, node .evGv [three Bt_rm16_r16, plain]),
   (0xA4, node .evGvIb [three Shld_rm16_r16_imm8]),
   (0xA5, node .evGvCL [three Shld_rm16_r16_CL]),
   (0xA8, node .pushSimpleReg [three Pushw_GS, .register .gs]),
   (0xA9, node .pushSimpleReg [three Popw_GS, .register .gs]),
   (0xAA, simple Rsm),
   (0xAB, node .evGv [three Bts_rm16_r16, lockable]),
   (0xAC, node .evGvIb [three Shrd_rm16_r16_imm8]),
   (0xAD, node .evGvCL [three Shrd_rm16_r16_CL]),
   (0xAF, node .gvEv [three Imul_r16_rm16]),
   (0xB0, node .ebGb [.code Cmpxchg_rm8_r8, lockable]),
   (0xB1, node .evGv [three Cmpxchg_rm16_r16, lockable]),
   (0xB2, node .gvMp [three Lss_r16_m1616]),
   (0xB3, node .evGv [three Btr_rm16_r16, lockable]),
   (0xB4, node .gvMp [three Lfs_r16_m1616]),
   (0xB5, node .gvMp [three Lgs_r16_m1616]),
   (0xB6, node .gvEb [three Movzx_r16_rm8]),
   (0xB7, node .gvEw [three Movzx_r16_rm16]),
   (0xB8, keptButF3 .invalid .invalid (node .gvEv [three Popcnt_r16_rm16]) .invalid),
   (0xB9, node .gvEv [three Ud1_r16_rm16]),
   (0xBB, node .evGv [three Btc_rm16_r16, lockable]),
   (0xBE, node .gvEb [three Movsx_r16_rm8]),
   (0xBF, node .gvEw [three Movsx_r16_rm16]),
   (0xC0, node .ebGb [.code Xadd_rm8_r8, lockable]),
   (0xC1, node .evGv [three Xadd_rm16_r16, lockable]),
   (0xC2, mandatory (node .vwIb [.code Cmpps_xmm_xmmm128_imm8])
     (node .vwIb [.code Cmppd_xmm_xmmm128_imm8]) (node .vwIb [.code Cmpss_xmm_xmmm32_imm8])
     (node .vwIb [.code Cmpsd_xmm_xmmm64_imm8])),
   (0xC6, mandatory (node .vwIb [.code Shufps_xmm_xmmm128_imm8])
     (node .vwIb [.code Shufpd_xmm_xmmm128_imm8]) .invalid .invalid)]
    ++ span 0xC8 8 (fun n => node .simpleReg [three Bswap_r16, .number (UInt32.ofNat n)])

/-- Opcodes `D1` to `FF`. -/
def vectorIntegers : Rows :=
  mmxSpan 0xD1 5 Psrlw_mm_mmm64
    ++ [(0xD6, only66 (node .wv [.code Movq_xmmm64_xmm]))]
    ++ mmxSpan 0xD8 14 Psubusb_mm_mmm64
    ++ [(0xE7, mandatory (node .mp [.code Movntq_m64_mm]) (node .mv [.code Movntdq_m128_xmm])
         .invalid .invalid)]
    ++ mmxSpan 0xE8 8 Psubsb_mm_mmm64
    ++ mmxSpan 0xF1 6 Psllw_mm_mmm64
    ++ mmxSpan 0xF8 7 Psubb_mm_mmm64
    ++ [(0xFF, node .gvEv [three Ud0_r16_rm16])]

def direct : Rows := system ++ vectorMoves ++ vectorArithmetic ++ bits ++ vectorIntegers

/-! ### Groups -/

/-- Descriptor tables and machine state. -/
def systemGroups : Draft Rows := do
  let g00 ← group
    [node .ew [three Sldt_rm16], node .ew [three Str_rm16], node .ew [three Lldt_rm16],
     node .ew [three Ltr_rm16], node .ew [three Verr_rm16], node .ew [three Verw_rm16],
     optionsModRM .invalid [(node .ev [three Jmpe_rm16, plain], .jmpe)], .invalid]
  let g01 ← fineGroup
    [node .ms [three Sgdt_m1632_16], node .ms [three Sidt_m1632_16],
     node .ms [three Lgdt_m1632_16], node .ms [three Lidt_m1632_16],
     node .ew [three Smsw_rm16], .invalid, node .ew [three Lmsw_rm16], node .m [.code Invlpg_m]]
    (overlay
      [(0x01, simple Vmcall), (0x02, simple Vmlaunch), (0x03, simple Vmresume),
       (0x04, simple Vmxoff), (0x08, simple Monitor), (0x09, simple Mwait), (0x0A, simple Clac),
       (0x0B, simple Stac), (0x0F, simple Encls), (0x10, simple Xgetbv), (0x11, simple Xsetbv),
       (0x14, simple Vmfunc), (0x15, simple Xend), (0x16, simple Xtest), (0x17, simple Enclu),
       (0x38, node .byModeModRM [.child .invalid, .child (simple Swapgs)]),
       (0x39, simple Rdtscp)])
  let g0D ← group (byReg (span 0 3 fun n => node .m [.code (Prefetch_m8.offset n)]))
  return [(0x00, g00), (0x01, g01), (0x0D, g0D)]

/-- Hints and the reserved `nop` space around them. -/
def hintGroups : Draft Rows := do
  let nop18 := reserved Reservednop_rm16_r16_0F18
  let g18 ← group ((List.range 4).map (fun n => node .m [.code (Prefetchnta_m8.offset n)])
    ++ List.replicate 4 nop18)
  let nop1E ← Draft.shared (reserved Reservednop_rm16_r16_0F1E)
  let g1E ← fineGroup (List.replicate 8 nop1E)
    (overlay [(0x3A, simple Endbr64), (0x3B, simple Endbr32)])
  let g1F ← group (reserved Nop_rm16 :: List.replicate 7 (reserved Reservednop_rm16_r16_0F1F))
  return [(0x18, options g18 [(nop18, .forceReservedNop)]),
          (0x1E, mandatory nop1E nop1E g1E nop1E), (0x1F, g1F)]

/-- Vector shifts by an immediate. -/
def shiftGroups : Draft Rows := do
  let g71 ← group (byReg
    [(2, shiftBy Psrlw_mm_imm8), (4, shiftBy Psraw_mm_imm8), (6, shiftBy Psllw_mm_imm8)])
  let g72 ← group (byReg
    [(2, shiftBy Psrld_mm_imm8), (4, shiftBy Psrad_mm_imm8), (6, shiftBy Pslld_mm_imm8)])
  let g73 ← group (byReg
    [(2, shiftBy Psrlq_mm_imm8), (3, only66 (node .rIb [.code Psrldq_xmm_imm8])),
     (6, shiftBy Psllq_mm_imm8), (7, only66 (node .rIb [.code Pslldq_xmm_imm8]))])
  return [(0x71, g71), (0x72, g72), (0x73, g73)]

/-- State saving, bit tests and bit scans, and the compare-and-exchange of two words. -/
def stateGroups : Draft Rows := do
  let ae ← fineGroup (byReg (span 0 8 fun n => node .m [.code (Fxsave_m512byte.offset n)]))
    (overlay
      (fineRow 5 (simple Lfence) ++ fineRow 6 (simple Mfence) ++ fineRow 7 (simple Sfence)))
  let ba ← group (byReg
    [(4, node .evIb2 [three Bt_rm16_imm8, plain]),
     (5, node .evIb2 [three Bts_rm16_imm8, lockable]),
     (6, node .evIb2 [three Btr_rm16_imm8, lockable]),
     (7, node .evIb2 [three Btc_rm16_imm8, lockable])])
  let bsf ← Draft.shared (node .gvEv [three Bsf_r16_rm16])
  let bsr ← Draft.shared (node .gvEv [three Bsr_r16_rm16])
  let c7 ← splitGroup
    (byReg [(1, node .mRexW [two Cmpxchg8b_m64, lockable]), (6, node .m [.code Vmptrld_m64]),
            (7, node .m [.code Vmptrst_m64])])
    (byReg [(6, node .rv [three Rdrand_r16]), (7, node .rv [three Rdseed_r16])])
  return [(0xAE, ae), (0xBA, ba),
          (0xBC, keptButF3 bsf bsf (node .gvEv [three Tzcnt_r16_rm16]) bsf),
          (0xBD, keptButF3 bsr bsr (node .gvEv [three Lzcnt_r16_rm16]) bsr), (0xC7, c7)]

end OpcodeForest.Corpus.Legacy.TwoByte
