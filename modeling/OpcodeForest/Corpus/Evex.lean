import OpcodeForest.Code.Evex
import OpcodeForest.Corpus.Evex.Basic

/-!
# The table of EVEX instructions

Opcodes of the `0F`, `0F38` and `0F3A` maps behind an EVEX payload.
-/

namespace OpcodeForest.Corpus.Evex

open Code NodeField Tuples

/-! ### Map `0F` -/

/-- A scalar into a general register. -/
def toGpr (first : Code) (onlySae : Bool) : Entry :=
  mandatory .invalid .invalid
    (node .gvWEr [two first, .register .xmm0, .tuple .n4, .flag onlySae])
    (node .gvWEr [two (first.offset 2), .register .xmm0, .tuple .n8, .flag onlySae])

/-- A comparison of scalars that sets the flags. -/
def compare (first : Code) : Entry :=
  mandatory
    (w0 (node .vw [.code first, .register .xmm0, .register .xmm0, .tuple .n4, .flag true]))
    (w1 (node .vw
      [.code (first.offset 1), .register .xmm0, .register .xmm0, .tuple .n8, .flag true]))
    .invalid .invalid

/-- Packed single and packed double, without rounding control. -/
def packed (first : Code) : Entry :=
  mandatory (w0 (vkHw first broadcast32 true)) (w1 (vkHw (first.offset 3) broadcast64 true))
    .invalid .invalid

def direct0F : Rows :=
  [(0x10, mandatory (w0 (vkW EVEX_Vmovups_xmm_k1z_xmmm128 full false))
     (w1 (vkW EVEX_Vmovupd_xmm_k1z_xmmm128 full false))
     (w0 (byForm
       (node .vkHwShared
         [.code EVEX_Vmovss_xmm_k1z_xmm_xmm, .register .xmm0, .tuple .n4, .flag false])
       (node .vkM [.code EVEX_Vmovss_xmm_k1z_m32, .register .xmm0, .tuple .n4])))
     (w1 (byForm
       (node .vkHwShared
         [.code EVEX_Vmovsd_xmm_k1z_xmm_xmm, .register .xmm0, .tuple .n8, .flag false])
       (node .vkM [.code EVEX_Vmovsd_xmm_k1z_m64, .register .xmm0, .tuple .n8])))),
   (0x11, mandatory (w0 (wkV EVEX_Vmovups_xmmm128_k1z_xmm)) (w1 (wkV EVEX_Vmovupd_xmmm128_k1z_xmm))
     (w0 (byForm .invalid
       (node .wkV [.code EVEX_Vmovss_m32_k1_xmm, .register .xmm0, .register .xmm0, .tuple .n4,
         .flag false])))
     (w1 (byForm .invalid
       (node .wkV [.code EVEX_Vmovsd_m64_k1_xmm, .register .xmm0, .register .xmm0, .tuple .n8,
         .flag false])))),
   (0x14, packed EVEX_Vunpcklps_xmm_k1z_xmm_xmmm128b32),
   (0x28, mandatory (w0 (vkW EVEX_Vmovaps_xmm_k1z_xmmm128 full false))
     (w1 (vkW EVEX_Vmovapd_xmm_k1z_xmmm128 full false)) .invalid .invalid),
   (0x29, mandatory (w0 (wkV EVEX_Vmovaps_xmmm128_k1z_xmm)) (w1 (wkV EVEX_Vmovapd_xmmm128_k1z_xmm))
     .invalid .invalid),
   (0x2A, mandatory .invalid .invalid
     (node .vhEvEr [two EVEX_Vcvtsi2ss_xmm_xmm_rm32_er, .register .xmm0])
     (node .vhEvEr [two EVEX_Vcvtsi2sd_xmm_xmm_rm32_er, .register .xmm0])),
   (0x2B, mandatory (w0 (moved .mv EVEX_Vmovntps_m128_xmm))
     (w1 (moved .mv EVEX_Vmovntpd_m128_xmm)) .invalid .invalid),
   (0x2C, toGpr EVEX_Vcvttss2si_r32_xmmm32_sae true),
   (0x2D, toGpr EVEX_Vcvtss2si_r32_xmmm32_er false),
   (0x2E, compare EVEX_Vucomiss_xmm_xmmm32_sae),
   (0x2F, compare EVEX_Vcomiss_xmm_xmmm32_sae),
   (0x51, mandatory (w0 (vkWEr EVEX_Vsqrtps_xmm_k1z_xmmm128b32 broadcast32 false))
     (w1 (vkWEr EVEX_Vsqrtpd_xmm_k1z_xmmm128b64 broadcast64 false))
     (w0 (scalarEr EVEX_Vsqrtss_xmm_k1z_xmm_xmmm32_er .n4 false))
     (w1 (scalarEr EVEX_Vsqrtsd_xmm_k1z_xmm_xmmm64_er .n8 false))),
   (0x54, packed EVEX_Vandps_xmm_k1z_xmm_xmmm128b32),
   (0x57, packed EVEX_Vxorps_xmm_k1z_xmm_xmmm128b32),
   (0x58, arithmetic EVEX_Vaddps_xmm_k1z_xmm_xmmm128b32 false),
   (0x59, arithmetic EVEX_Vmulps_xmm_k1z_xmm_xmmm128b32 false),
   (0x5B, mandatory (w0 (vkWEr EVEX_Vcvtdq2ps_xmm_k1z_xmmm128b32 broadcast32 false))
     (w0 (vkWEr EVEX_Vcvtps2dq_xmm_k1z_xmmm128b32 broadcast32 false))
     (w0 (vkWEr EVEX_Vcvttps2dq_xmm_k1z_xmmm128b32 broadcast32 true)) .invalid),
   (0x5C, arithmetic EVEX_Vsubps_xmm_k1z_xmm_xmmm128b32 false),
   (0x5D, arithmetic EVEX_Vminps_xmm_k1z_xmm_xmmm128b32 true),
   (0x5E, arithmetic EVEX_Vdivps_xmm_k1z_xmm_xmmm128b32 false),
   (0x5F, arithmetic EVEX_Vmaxps_xmm_k1z_xmm_xmmm128b32 true),
   (0x66, only66 (w0 (kkHw EVEX_Vpcmpgtd_kr_k1_xmm_xmmm128b32 broadcast32))),
   (0x6E, only66 (length0 (node .vxEv [two EVEX_Vmovd_xmm_rm32, .register .xmm0]))),
   (0x6F, mandatory .invalid
     (byW (vkW EVEX_Vmovdqa32_xmm_k1z_xmmm128 full false)
       (vkW EVEX_Vmovdqa64_xmm_k1z_xmmm128 full false))
     (byW (vkW EVEX_Vmovdqu32_xmm_k1z_xmmm128 full false)
       (vkW EVEX_Vmovdqu64_xmm_k1z_xmmm128 full false))
     (byW (vkW EVEX_Vmovdqu8_xmm_k1z_xmmm128 full false)
       (vkW EVEX_Vmovdqu16_xmm_k1z_xmmm128 full false))),
   (0x70, only66 (w0 (vkWIb EVEX_Vpshufd_xmm_k1z_xmmm128b32_imm8 broadcast32))),
   (0x76, only66 (w0 (kkHw EVEX_Vpcmpeqd_kr_k1_xmm_xmmm128b32 broadcast32))),
   (0x7B, mandatory .invalid .invalid
     (node .vhEvEr [two EVEX_Vcvtusi2ss_xmm_xmm_rm32_er, .register .xmm0])
     (byW (node .vhEv [two EVEX_Vcvtusi2sd_xmm_xmm_rm32, .register .xmm0])
       (node .vhEvEr [two EVEX_Vcvtusi2sd_xmm_xmm_rm32, .register .xmm0]))),
   (0x7E, mandatory .invalid (length0 (node .evVx [two EVEX_Vmovd_rm32_xmm, .register .xmm0]))
     (length0 (w1 (node .vw [.code EVEX_Vmovq_xmm_xmmm64, .register .xmm0, .register .xmm0,
       .tuple .n8, .flag false]))) .invalid),
   (0x7F, mandatory .invalid
     (byW (wkV EVEX_Vmovdqa32_xmmm128_k1z_xmm) (wkV EVEX_Vmovdqa64_xmmm128_k1z_xmm))
     (byW (wkV EVEX_Vmovdqu32_xmmm128_k1z_xmm) (wkV EVEX_Vmovdqu64_xmmm128_k1z_xmm))
     (byW (wkV EVEX_Vmovdqu8_xmmm128_k1z_xmm) (wkV EVEX_Vmovdqu16_xmmm128_k1z_xmm))),
   (0xC2, mandatory (w0 (kkHwIbSae EVEX_Vcmpps_kr_k1_xmm_xmmm128b32_imm8 broadcast32))
     (w1 (kkHwIbSae EVEX_Vcmppd_kr_k1_xmm_xmmm128b64_imm8 broadcast64))
     (w0 (node .kkHwIbSae [.code EVEX_Vcmpss_kr_k1_xmm_xmmm32_imm8_sae, .register .xmm0,
       .tuple .n4, .flag false]))
     (w1 (node .kkHwIbSae [.code EVEX_Vcmpsd_kr_k1_xmm_xmmm64_imm8_sae, .register .xmm0,
       .tuple .n8, .flag false]))),
   (0xC6, mandatory (w0 (vkHwIb EVEX_Vshufps_xmm_k1z_xmm_xmmm128b32_imm8 broadcast32))
     (w1 (vkHwIb EVEX_Vshufpd_xmm_k1z_xmm_xmmm128b64_imm8 broadcast64)) .invalid .invalid),
   (0xD4, only66 (w1 (vkHw EVEX_Vpaddq_xmm_k1z_xmm_xmmm128b64 broadcast64 true))),
   (0xD6, only66 (length0 (w1
     (node .wv [.code EVEX_Vmovq_xmmm64_xmm, .register .xmm0, .register .xmm0, .tuple .n8])))),
   (0xDB, only66 (byW (vkHw EVEX_Vpandd_xmm_k1z_xmm_xmmm128b32 broadcast32 true)
     (vkHw EVEX_Vpandq_xmm_k1z_xmm_xmmm128b64 broadcast64 true))),
   (0xE7, only66 (w0 (moved .mv EVEX_Vmovntdq_m128_xmm))),
   (0xEF, only66 (byW (vkHw EVEX_Vpxord_xmm_k1z_xmm_xmmm128b32 broadcast32 true)
     (vkHw EVEX_Vpxorq_xmm_k1z_xmm_xmmm128b64 broadcast64 true))),
   (0xFE, only66 (w0 (vkHw EVEX_Vpaddd_xmm_k1z_xmm_xmmm128b32 broadcast32 true)))]

def map0F : Draft Rows := do
  let g72 ← group (byReg
    [(1, byW (hkWIb EVEX_Vprord_xmm_k1z_xmmm128b32_imm8 broadcast32)
       (hkWIb EVEX_Vprorq_xmm_k1z_xmmm128b64_imm8 broadcast64)),
     (2, w0 (hkWIb EVEX_Vpsrld_xmm_k1z_xmmm128b32_imm8 broadcast32)),
     (4, byW (hkWIb EVEX_Vpsrad_xmm_k1z_xmmm128b32_imm8 broadcast32)
       (hkWIb EVEX_Vpsraq_xmm_k1z_xmmm128b64_imm8 broadcast64)),
     (6, w0 (hkWIb EVEX_Vpslld_xmm_k1z_xmmm128b32_imm8 broadcast32))])
  return direct0F ++ [(0x72, only66 g72)]

/-! ### Map `0F38` -/

/-- The low element of an `xmm` register or of memory in all places of a wider one. -/
def spread (t : TupleType) (c : Code) (base : Register) : Entry :=
  node .vkW [.code c, .register base, .register .xmm0, .tuple t, .flag false]

/-- Sixteen bytes of memory in all places of a wider register. -/
def spread128 (first : Code) : Entry :=
  byLength .invalid (node .vkM [.code first, .register .ymm0, .tuple .n16])
    (node .vkM [.code (first.offset 1), .register .zmm0, .tuple .n16])

/-- A general register in all places of a vector. -/
def spreadGpr (first : Code) : Entry :=
  byLength (node .vkEv [two first, .register .xmm0])
    (node .vkEv [two (first.offset 2), .register .ymm0])
    (node .vkEv [two (first.offset 4), .register .zmm0])

/-- Gathers or scatters of double and quad elements by double indexes. -/
def gathers (form : Code → (index data : Register) → TupleType → Entry) (first : Code) : Entry :=
  only66 (byW
    (byLength (form first .xmm0 .xmm0 .n4) (form (first.offset 1) .ymm0 .ymm0 .n4)
      (form (first.offset 2) .zmm0 .zmm0 .n4))
    (byLength (form (first.offset 3) .xmm0 .xmm0 .n8) (form (first.offset 4) .xmm0 .ymm0 .n8)
      (form (first.offset 5) .ymm0 .zmm0 .n8)))

def gather (c : Code) (index data : Register) (t : TupleType) : Entry :=
  node .vkVsib [.code c, .register data, .register index, .tuple t]

def scatter (c : Code) (index data : Register) (t : TupleType) : Entry :=
  node .vsibkV [.code c, .register index, .register data, .tuple t]

/-- A prefetch of single and of double elements. -/
def prefetch (first : Code) : Entry :=
  byW
    (byLength .invalid .invalid (node .vsibk [.code first, .register .zmm0, .tuple .n4]))
    (byLength .invalid .invalid
      (node .vsibk [.code (first.offset 1), .register .ymm0, .tuple .n8]))

/-- Fused multiply and add: packed single and double. -/
def fusedPacked (first : Code) : Entry :=
  only66 (byW (vkHwEr first broadcast32 false) (vkHwEr (first.offset 3) broadcast64 false))

/-- Fused multiply and add: scalar single and double. -/
def fusedScalar (first : Code) : Entry :=
  only66 (byW (scalarEr first .n4 false) (scalarEr (first.offset 1) .n8 false))

def direct0F38 : Rows :=
  [(0x00, only66 (vkHw EVEX_Vpshufb_xmm_k1z_xmm_xmmm128 full false)),
   (0x18, only66 (w0 (perLength byLength EVEX_Vbroadcastss_xmm_k1z_xmmm32 full fun c base _ =>
     spread .n4 c base))),
   (0x19, only66 (w1 (byLength .invalid (spread .n8 EVEX_Vbroadcastsd_ymm_k1z_xmmm64 .ymm0)
     (spread .n8 EVEX_Vbroadcastsd_zmm_k1z_xmmm64 .zmm0)))),
   (0x1A, only66 (byW (spread128 EVEX_Vbroadcastf32x4_ymm_k1z_m128)
     (spread128 EVEX_Vbroadcastf64x2_ymm_k1z_m128))),
   (0x28, mandatory .invalid (w1 (vkHw EVEX_Vpmuldq_xmm_k1z_xmm_xmmm128b64 broadcast64 true))
     (byW (vrk EVEX_Vpmovm2b_xmm_kr) (vrk EVEX_Vpmovm2w_xmm_kr)) .invalid),
   (0x29, mandatory .invalid .invalid (byW (kr EVEX_Vpmovb2m_kr_xmm) (kr EVEX_Vpmovw2m_kr_xmm))
     .invalid),
   (0x2A, only66 (w0 (moved .vm EVEX_Vmovntdqa_xmm_m128))),
   (0x38, mandatory .invalid .invalid (byW (vrk EVEX_Vpmovm2d_xmm_kr) (vrk EVEX_Vpmovm2q_xmm_kr))
     .invalid),
   (0x39, mandatory .invalid
     (byW (vkHw EVEX_Vpminsd_xmm_k1z_xmm_xmmm128b32 broadcast32 true)
       (vkHw EVEX_Vpminsq_xmm_k1z_xmm_xmmm128b64 broadcast64 true))
     (byW (kr EVEX_Vpmovd2m_kr_xmm) (kr EVEX_Vpmovq2m_kr_xmm)) .invalid),
   (0x58, only66 (w0 (perLength byLength EVEX_Vpbroadcastd_xmm_k1z_xmmm32 full fun c base _ =>
     spread .n4 c base))),
   (0x68, mandatory .invalid .invalid .invalid
     (byW (kp1Hw EVEX_Vp2intersectd_kp1_xmm_xmmm128b32 broadcast32)
       (kp1Hw EVEX_Vp2intersectq_kp1_xmm_xmmm128b64 broadcast64))),
   (0x7C, only66 (spreadGpr EVEX_Vpbroadcastd_xmm_k1z_r32)),
   (0x90, gathers gather EVEX_Vpgatherdd_xmm_k1_vm32x),
   (0x98, fusedPacked EVEX_Vfmadd132ps_xmm_k1z_xmm_xmmm128b32),
   (0x99, fusedScalar EVEX_Vfmadd132ss_xmm_k1z_xmm_xmmm32_er),
   (0xA0, gathers scatter EVEX_Vpscatterdd_vm32x_k1_xmm),
   (0xA8, fusedPacked EVEX_Vfmadd213ps_xmm_k1z_xmm_xmmm128b32),
   (0xA9, fusedScalar EVEX_Vfmadd213ss_xmm_k1z_xmm_xmmm32_er),
   (0xB8, fusedPacked EVEX_Vfmadd231ps_xmm_k1z_xmm_xmmm128b32),
   (0xB9, fusedScalar EVEX_Vfmadd231ss_xmm_k1z_xmm_xmmm32_er)]

def map0F38 : Draft Rows := do
  let c6 ← group (byReg
    [(1, prefetch EVEX_Vgatherpf0dps_vm32z_k1), (2, prefetch EVEX_Vgatherpf1dps_vm32z_k1),
     (5, prefetch EVEX_Vscatterpf0dps_vm32z_k1), (6, prefetch EVEX_Vscatterpf1dps_vm32z_k1)])
  return direct0F38 ++ [(0xC6, only66 c6)]

/-! ### Map `0F3A` -/

/-- An insertion of an `xmm` register into a wider one. -/
def insert (c : Code) (base : Register) : Entry :=
  node .vkHwIb [.code c, .register base, .register base, .register .xmm0, .tuple .n16,
    .flag false]

def inserts (first : Code) : Entry :=
  byLength .invalid (insert first .ymm0) (insert (first.offset 1) .zmm0)

def map0F3A : Rows :=
  [(0x03, only66 (byW (vkHwIb EVEX_Valignd_xmm_k1z_xmm_xmmm128b32_imm8 broadcast32)
     (vkHwIb EVEX_Valignq_xmm_k1z_xmm_xmmm128b64_imm8 broadcast64))),
   (0x08, only66 (w0 (vkWIbEr EVEX_Vrndscaleps_xmm_k1z_xmmm128b32_imm8 broadcast32))),
   (0x09, only66 (w1 (vkWIbEr EVEX_Vrndscalepd_xmm_k1z_xmmm128b64_imm8 broadcast64))),
   (0x0A, only66 (w0 (node .vkHwIbEr
     [.code EVEX_Vrndscaless_xmm_k1z_xmm_xmmm32_imm8_sae, .register .xmm0, .tuple .n4]))),
   (0x0B, only66 (w1 (node .vkHwIbEr
     [.code EVEX_Vrndscalesd_xmm_k1z_xmm_xmmm64_imm8_sae, .register .xmm0, .tuple .n8]))),
   (0x16, only66 (length0 (node .edVIb [two EVEX_Vpextrd_rm32_xmm_imm8, .register .xmm0]))),
   (0x18, only66 (byW (inserts EVEX_Vinsertf32x4_ymm_k1z_ymm_xmmm128_imm8)
     (inserts EVEX_Vinsertf64x2_ymm_k1z_ymm_xmmm128_imm8))),
   (0x1E, only66 (byW (kkHwIb EVEX_Vpcmpud_kr_k1_xmm_xmmm128b32_imm8 broadcast32)
     (kkHwIb EVEX_Vpcmpuq_kr_k1_xmm_xmmm128b64_imm8 broadcast64))),
   (0x1F, only66 (byW (kkHwIb EVEX_Vpcmpd_kr_k1_xmm_xmmm128b32_imm8 broadcast32)
     (kkHwIb EVEX_Vpcmpq_kr_k1_xmm_xmmm128b64_imm8 broadcast64))),
   (0x22, only66 (length0 (node .vhEvIb [two EVEX_Vpinsrd_xmm_xmm_rm32_imm8, .register .xmm0]))),
   (0x25, only66 (byW (vkHwIb EVEX_Vpternlogd_xmm_k1z_xmm_xmmm128b32_imm8 broadcast32)
     (vkHwIb EVEX_Vpternlogq_xmm_k1z_xmm_xmmm128b64_imm8 broadcast64))),
   (0x50, only66 (byW (vkHwIbEr EVEX_Vrangeps_xmm_k1z_xmm_xmmm128b32_imm8 broadcast32)
     (vkHwIbEr EVEX_Vrangepd_xmm_k1z_xmm_xmmm128b64_imm8 broadcast64))),
   (0x66, only66 (byW (kkWIb EVEX_Vfpclassps_kr_k1_xmmm128b32_imm8 broadcast32)
     (kkWIb EVEX_Vfpclasspd_kr_k1_xmmm128b64_imm8 broadcast64)))]

def records : List Record := Draft.records do
  let rows0F ← map0F
  let rows0F38 ← map0F38
  let _ ← Draft.map rows0F
  let _ ← Draft.map rows0F38
  let _ ← Draft.map map0F3A

end OpcodeForest.Corpus.Evex
