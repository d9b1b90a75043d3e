import OpcodeForest.Code.TwoByte
import OpcodeForest.Corpus.Legacy.Basic

/-!
# The three-byte maps

Opcodes after `0F 38` and after `0F 3A`.
-/

namespace OpcodeForest.Corpus.Legacy.ThreeByte

open Code NodeField

/-- Instructions on `xmm` registers alone. -/
def sseSpan (opcode n : Nat) (first : Code) : Rows :=
  span opcode n fun k => only66 (vw (first.offset k))

/-- Instructions on `xmm` registers with an immediate. -/
def sseIbSpan (opcode n : Nat) (first : Code) : Rows :=
  span opcode n fun k => only66 (node .vwIb [.code (first.offset k)])

def map0F38 : Rows :=
  let load := node .gvMv [three Movbe_r16_m16]
  let store := node .mvGv [three Movbe_m16_r16]
  mmxSpan 0x00 12 Pshufb_mm_mmm64
    ++ sseSpan 0x10 1 Pblendvb_xmm_xmmm128
    ++ sseSpan 0x14 2 Blendvps_xmm_xmmm128
    ++ sseSpan 0x17 1 Ptest_xmm_xmmm128
    ++ mmxSpan 0x1C 3 Pabsb_mm_mmm64
    ++ sseSpan 0x20 6 Pmovsxbw_xmm_xmmm64
    ++ sseSpan 0x28 2 Pmuldq_xmm_xmmm128
    ++ [(0x2A, only66 (node .vm [.code Movntdqa_xmm_m128]))]
    ++ sseSpan 0x2B 1 Packusdw_xmm_xmmm128
    ++ sseSpan 0x30 6 Pmovzxbw_xmm_xmmm64
    ++ sseSpan 0x37 11 Pcmpgtq_xmm_xmmm128
    ++ sseSpan 0xDB 5 Aesimc_xmm_xmmm128
    ++ [(0xF0, keptButF2 load load .invalid (node .gdEb [two Crc32_r32_rm8])),
        (0xF1, keptButF2 store store .invalid (node .gdEv [three Crc32_r32_rm16]))]

def map0F3A : Rows :=
  sseIbSpan 0x08 7 Roundps_xmm_xmmm128_imm8
    ++ [(0x0F, mandatory (node .pqIb [.code Palignr_mm_mmm64_imm8])
          (node .vwIb [.code Palignr_xmm_xmmm128_imm8]) .invalid .invalid),
        (0x16, only66 (node .evVIb [two Pextrd_rm32_xmm_imm8])),
        (0x22, only66 (node .vEvIb [two Pinsrd_xmm_rm32_imm8]))]
    ++ sseIbSpan 0x40 3 Dpps_xmm_xmmm128_imm8
    ++ sseIbSpan 0x44 1 Pclmulqdq_xmm_xmmm128_imm8
    ++ sseIbSpan 0x60 4 Pcmpestrm_xmm_xmmm128_imm8
    ++ sseIbSpan 0xDF 1 Aeskeygenassist_xmm_xmmm128_imm8

end OpcodeForest.Corpus.Legacy.ThreeByte
