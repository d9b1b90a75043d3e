import OpcodeForest.Code.Basic

/-!
# Codes of EVEX instructions

The names in numbering order, and the first code of every run that the tables use.
-/

namespace OpcodeForest.Code

/-- The names of the codes from number 1759 on. -/
def evexNames : List String :=
  ["EVEX_Vmovups_xmm_k1z_xmmm128", "EVEX_Vmovups_ymm_k1z_ymmm256", "EVEX_Vmovups_zmm_k1z_zmmm512",
   "EVEX_Vmovupd_xmm_k1z_xmmm128", "EVEX_Vmovupd_ymm_k1z_ymmm256", "EVEX_Vmovupd_zmm_k1z_zmmm512",
   "EVEX_Vmovss_xmm_k1z_xmm_xmm", "EVEX_Vmovss_xmm_k1z_m32", "EVEX_Vmovsd_xmm_k1z_xmm_xmm",
   "EVEX_Vmovsd_xmm_k1z_m64", "EVEX_Vmovups_xmmm128_k1z_xmm", "EVEX_Vmovups_ymmm256_k1z_ymm",
   "EVEX_Vmovups_zmmm512_k1z_zmm", "EVEX_Vmovupd_xmmm128_k1z_xmm", "EVEX_Vmovupd_ymmm256_k1z_ymm",
   "EVEX_Vmovupd_zmmm512_k1z_zmm", "EVEX_Vmovss_m32_k1_xmm", "EVEX_Vmovsd_m64_k1_xmm",
   "EVEX_Vunpcklps_xmm_k1z_xmm_xmmm128b32", "EVEX_Vunpcklps_ymm_k1z_ymm_ymmm256b32",
   "EVEX_Vunpcklps_zmm_k1z_zmm_zmmm512b32", "EVEX_Vunpcklpd_xmm_k1z_xmm_xmmm128b64",
   "EVEX_Vunpcklpd_ymm_k1z_ymm_ymmm256b64", "EVEX_Vunpcklpd_zmm_k1z_zmm_zmmm512b64",
   "EVEX_Vmovaps_xmm_k1z_xmmm128", "EVEX_Vmovaps_ymm_k1z_ymmm256", "EVEX_Vmovaps_zmm_k1z_zmmm512",
   "EVEX_Vmovapd_xmm_k1z_xmmm128", "EVEX_Vmovapd_ymm_k1z_ymmm256", "EVEX_Vmovapd_zmm_k1z_zmmm512",
   "EVEX_Vmovaps_xmmm128_k1z_xmm", "EVEX_Vmovaps_ymmm256_k1z_ymm", "EVEX_Vmovaps_zmmm512_k1z_zmm",
   "EVEX_Vmovapd_xmmm128_k1z_xmm", "EVEX_Vmovapd_ymmm256_k1z_ymm", "EVEX_Vmovapd_zmmm512_k1z_zmm",
   "EVEX_Vcvtsi2ss_xmm_xmm_rm32_er", "EVEX_Vcvtsi2ss_xmm_xmm_rm64_er",
   "EVEX_Vcvtsi2sd_xmm_xmm_rm32_er", "EVEX_Vcvtsi2sd_xmm_xmm_rm64_er", "EVEX_Vmovntps_m128_xmm",
   "EVEX_Vmovntps_m256_ymm", "EVEX_Vmovntps_m512_zmm", "EVEX_Vmovntpd_m128_xmm",
   "EVEX_Vmovntpd_m256_ymm", "EVEX_Vmovntpd_m512_zmm", "EVEX_Vcvttss2si_r32_xmmm32_sae",
   "EVEX_Vcvttss2si_r64_xmmm32_sae", "EVEX_Vcvttsd2si_r32_xmmm64_sae",
   "EVEX_Vcvttsd2si_r64_xmmm64_sae", "EVEX_Vcvtss2si_r32_xmmm32_er",
   "EVEX_Vcvtss2si_r64_xmmm32_er", "EVEX_Vcvtsd2si_r32_xmmm64_er", "EVEX_Vcvtsd2si_r64_xmmm64_er",
   "EVEX_Vucomiss_xmm_xmmm32_sae", "EVEX_Vucomisd_xmm_xmmm64_sae", "EVEX_Vcomiss_xmm_xmmm32_sae",
   "EVEX_Vcomisd_xmm_xmmm64_sae", "EVEX_Vsqrtps_xmm_k1z_xmmm128b32",
   "EVEX_Vsqrtps_ymm_k1z_ymmm256b32", "EVEX_Vsqrtps_zmm_k1z_zmmm512b32_er",
   "EVEX_Vsqrtpd_xmm_k1z_xmmm128b64", "EVEX_Vsqrtpd_ymm_k1z_ymmm256b64",
   "EVEX_Vsqrtpd_zmm_k1z_zmmm512b64_er", "EVEX_Vsqrtss_xmm_k1z_xmm_xmmm32_er",
   "EVEX_Vsqrtsd_xmm_k1z_xmm_xmmm64_er", "EVEX_Vandps_xmm_k1z_xmm_xmmm128b32",
   "EVEX_Vandps_ymm_k1z_ymm_ymmm256b32", "EVEX_Vandps_zmm_k1z_zmm_zmmm512b32",
   "EVEX_Vandpd_xmm_k1z_xmm_xmmm128b64", "EVEX_Vandpd_ymm_k1z_ymm_ymmm256b64",
   "EVEX_Vandpd_zmm_k1z_zmm_zmmm512b64", "EVEX_Vxorps_xmm_k1z_xmm_xmmm128b32",
   "EVEX_Vxorps_ymm_k1z_ymm_ymmm256b32", "EVEX_Vxorps_zmm_k1z_zmm_zmmm512b32",
   "EVEX_Vxorpd_xmm_k1z_xmm_xmmm128b64", "EVEX_Vxorpd_ymm_k1z_ymm_ymmm256b64",
   "EVEX_Vxorpd_zmm_k1z_zmm_zmmm512b64", "EVEX_Vaddps_xmm_k1z_xmm_xmmm128b32",
   "EVEX_Vaddps_ymm_k1z_ymm_ymmm256b32", "EVEX_Vaddps_zmm_k1z_zmm_zmmm512b32_er",
   "EVEX_Vaddpd_xmm_k1z_xmm_xmmm128b64", "EVEX_Vaddpd_ymm_k1z_ymm_ymmm256b64",
   "EVEX_Vaddpd_zmm_k1z_zmm_zmmm512b64_er", "EVEX_Vaddss_xmm_k1z_xmm_xmmm32_er",
   "EVEX_Vaddsd_xmm_k1z_xmm_xmmm64_er", "EVEX_Vmulps_xmm_k1z_xmm_xmmm128b32",
   "EVEX_Vmulps_ymm_k1z_ymm_ymmm256b32", "EVEX_Vmulps_zmm_k1z_zmm_zmmm512b32_er",
   "EVEX_Vmulpd_xmm_k1z_xmm_xmmm128b64", "EVEX_Vmulpd_ymm_k1z_ymm_ymmm256b64",
   "EVEX_Vmulpd_zmm_k1z_zmm_zmmm512b64_er", "EVEX_Vmulss_xmm_k1z_xmm_xmmm32_er",
   "EVEX_Vmulsd_xmm_k1z_xmm_xmmm64_er", "EVEX_Vsubps_xmm_k1z_xmm_xmmm128b32",
   "EVEX_Vsubps_ymm_k1z_ymm_ymmm256b32", "EVEX_Vsubps_zmm_k1z_zmm_zmmm512b32_er",
   "EVEX_Vsubpd_xmm_k1z_xmm_xmmm128b64", "EVEX_Vsubpd_ymm_k1z_ymm_ymmm256b64",
   "EVEX_Vsubpd_zmm_k1z_zmm_zmmm512b64_er", "EVEX_Vsubss_xmm_k1z_xmm_xmmm32_er",
   "EVEX_Vsubsd_xmm_k1z_xmm_xmmm64_er", "EVEX_Vminps_xmm_k1z_xmm_xmmm128b32",
   "EVEX_Vminps_ymm_k1z_ymm_ymmm256b32", "EVEX_Vminps_zmm_k1z_zmm_zmmm512b32_sae",
   "EVEX_Vminpd_xmm_k1z_xmm_xmmm128b64", "EVEX_Vminpd_ymm_k1z_ymm_ymmm256b64",
   "EVEX_Vminpd_zmm_k1z_zmm_zmmm512b64_sae", "EVEX_Vminss_xmm_k1z_xmm_xmmm32_sae",
   "EVEX_Vminsd_xmm_k1z_xmm_xmmm64_sae", "EVEX_Vdivps_xmm_k1z_xmm_xmmm128b32",
   "EVEX_Vdivps_ymm_k1z_ymm_ymmm256b32", "EVEX_Vdivps_zmm_k1z_zmm_zmmm512b32_er",
   "EVEX_Vdivpd_xmm_k1z_xmm_xmmm128b64", "EVEX_Vdivpd_ymm_k1z_ymm_ymmm256b64",
   "EVEX_Vdivpd_zmm_k1z_zmm_zmmm512b64_er", "EVEX_Vdivss_xmm_k1z_xmm_xmmm32_er",
   "EVEX_Vdivsd_xmm_k1z_xmm_xmmm64_er", "EVEX_Vmaxps_xmm_k1z_xmm_xmmm128b32",
   "EVEX_Vmaxps_ymm_k1z_ymm_ymmm256b32", "EVEX_Vmaxps_zmm_k1z_zmm_zmmm512b32_sae",
   "EVEX_Vmaxpd_xmm_k1z_xmm_xmmm128b64", "EVEX_Vmaxpd_ymm_k1z_ymm_ymmm256b64",
   "EVEX_Vmaxpd_zmm_k1z_zmm_zmmm512b64_sae", "EVEX_Vmaxss_xmm_k1z_xmm_xmmm32_sae",
   "EVEX_Vmaxsd_xmm_k1z_xmm_xmmm64_sae", "EVEX_Vcvtdq2ps_xmm_k1z_xmmm128b32",
   "EVEX_Vcvtdq2ps_ymm_k1z_ymmm256b32", "EVEX_Vcvtdq2ps_zmm_k1z_zmmm512b32_er",
   "EVEX_Vcvtps2dq_xmm_k1z_xmmm128b32", "EVEX_Vcvtps2dq_ymm_k1z_ymmm256b32",
   "EVEX_Vcvtps2dq_zmm_k1z_zmmm512b32_er", "EVEX_Vcvttps2dq_xmm_k1z_xmmm128b32",
   "EVEX_Vcvttps2dq_ymm_k1z_ymmm256b32", "EVEX_Vcvttps2dq_zmm_k1z_zmmm512b32_sae",
   "EVEX_Vpcmpgtd_kr_k1_xmm_xmmm128b32", "EVEX_Vpcmpgtd_kr_k1_ymm_ymmm256b32",
   "EVEX_Vpcmpgtd_kr_k1_zmm_zmmm512b32", "EVEX_Vmovd_xmm_rm32", "EVEX_Vmovq_xmm_rm64",
   "EVEX_Vmovdqa32_xmm_k1z_xmmm128", "EVEX_Vmovdqa32_ymm_k1z_ymmm256",
   "EVEX_Vmovdqa32_zmm_k1z_zmmm512", "EVEX_Vmovdqa64_xmm_k1z_xmmm128",
   "EVEX_Vmovdqa64_ymm_k1z_ymmm256", "EVEX_Vmovdqa64_zmm_k1z_zmmm512",
   "EVEX_Vmovdqu32_xmm_k1z_xmmm128", "EVEX_Vmovdqu32_ymm_k1z_ymmm256",
   "EVEX_Vmovdqu32_zmm_k1z_zmmm512", "EVEX_Vmovdqu64_xmm_k1z_xmmm128",
   "EVEX_Vmovdqu64_ymm_k1z_ymmm256", "EVEX_Vmovdqu64_zmm_k1z_zmmm512",
   "EVEX_Vmovdqu8_xmm_k1z_xmmm128", "EVEX_Vmovdqu8_ymm_k1z_ymmm256",
   "EVEX_Vmovdqu8_zmm_k1z_zmmm512", "EVEX_Vmovdqu16_xmm_k1z_xmmm128",
   "EVEX_Vmovdqu16_ymm_k1z_ymmm256", "EVEX_Vmovdqu16_zmm_k1z_zmmm512",
   "EVEX_Vpshufd_xmm_k1z_xmmm128b32_imm8", "EVEX_Vpshufd_ymm_k1z_ymmm256b32_imm8",
   "EVEX_Vpshufd_zmm_k1z_zmmm512b32_imm8", "EVEX_Vprord_xmm_k1z_xmmm128b32_imm8",
   "EVEX_Vprord_ymm_k1z_ymmm256b32_imm8", "EVEX_Vprord_zmm_k1z_zmmm512b32_imm8",
   "EVEX_Vprorq_xmm_k1z_xmmm128b64_imm8", "EVEX_Vprorq_ymm_k1z_ymmm256b64_imm8",
   "EVEX_Vprorq_zmm_k1z_zmmm512b64_imm8", "EVEX_Vpsrld_xmm_k1z_xmmm128b32_imm8",
   "EVEX_Vpsrld_ymm_k1z_ymmm256b32_imm8", "EVEX_Vpsrld_zmm_k1z_zmmm512b32_imm8",
   "EVEX_Vpsrad_xmm_k1z_xmmm128b32_imm8", "EVEX_Vpsrad_ymm_k1z_ymmm256b32_imm8",
   "EVEX_Vpsrad_zmm_k1z_zmmm512b32_imm8", "EVEX_Vpsraq_xmm_k1z_xmmm128b64_imm8",
   "EVEX_Vpsraq_ymm_k1z_ymmm256b64_imm8", "EVEX_Vpsraq_zmm_k1z_zmmm512b64_imm8",
   "EVEX_Vpslld_xmm_k1z_xmmm128b32_imm8", "EVEX_Vpslld_ymm_k1z_ymmm256b32_imm8",
   "EVEX_Vpslld_zmm_k1z_zmmm512b32_imm8", "EVEX_Vpcmpeqd_kr_k1_xmm_xmmm128b32",
   "EVEX_Vpcmpeqd_kr_k1_ymm_ymmm256b32", "EVEX_Vpcmpeqd_kr_k1_zmm_zmmm512b32",
   "EVEX_Vcvtusi2ss_xmm_xmm_rm32_er", "EVEX_Vcvtusi2ss_xmm_xmm_rm64_er",
   "EVEX_Vcvtusi2sd_xmm_xmm_rm32", "EVEX_Vcvtusi2sd_xmm_xmm_rm64_er", "EVEX_Vmovd_rm32_xmm",
   "EVEX_Vmovq_rm64_xmm", "EVEX_Vmovq_xmm_xmmm64", "EVEX_Vmovdqa32_xmmm128_k1z_xmm",
   "EVEX_Vmovdqa32_ymmm256_k1z_ymm", "EVEX_Vmovdqa32_zmmm512_k1z_zmm",
   "EVEX_Vmovdqa64_xmmm128_k1z_xmm", "EVEX_Vmovdqa64_ymmm256_k1z_ymm",
   "EVEX_Vmovdqa64_zmmm512_k1z_zmm", "EVEX_Vmovdqu32_xmmm128_k1z_xmm",
   "EVEX_Vmovdqu32_ymmm256_k1z_ymm", "EVEX_Vmovdqu32_zmmm512_k1z_zmm",
   "EVEX_Vmovdqu64_xmmm128_k1z_xmm", "EVEX_Vmovdqu64_ymmm256_k1z_ymm",
   "EVEX_Vmovdqu64_zmmm512_k1z_zmm", "EVEX_Vmovdqu8_xmmm128_k1z_xmm",
   "EVEX_Vmovdqu8_ymmm256_k1z_ymm", "EVEX_Vmovdqu8_zmmm512_k1z_zmm",
   "EVEX_Vmovdqu16_xmmm128_k1z_xmm", "EVEX_Vmovdqu16_ymmm256_k1z_ymm",
   "EVEX_Vmovdqu16_zmmm512_k1z_zmm", "EVEX_Vcmpps_kr_k1_xmm_xmmm128b32_imm8",
   "EVEX_Vcmpps_kr_k1_ymm_ymmm256b32_imm8", "EVEX_Vcmpps_kr_k1_zmm_zmmm512b32_imm8_sae",
   "EVEX_Vcmppd_kr_k1_xmm_xmmm128b64_imm8", "EVEX_Vcmppd_kr_k1_ymm_ymmm256b64_imm8",
   "EVEX_Vcmppd_kr_k1_zmm_zmmm512b64_imm8_sae", "EVEX_Vcmpss_kr_k1_xmm_xmmm32_imm8_sae",
   "EVEX_Vcmpsd_kr_k1_xmm_xmmm64_imm8_sae", "EVEX_Vshufps_xmm_k1z_xmm_xmmm128b32_imm8",
   "EVEX_Vshufps_ymm_k1z_ymm_ymmm256b32_imm8", "EVEX_Vshufps_zmm_k1z_zmm_zmmm512b32_imm8",
   "EVEX_Vshufpd_xmm_k1z_xmm_xmmm128b64_imm8", "EVEX_Vshufpd_ymm_k1z_ymm_ymmm256b64_imm8",
   "EVEX_Vshufpd_zmm_k1z_zmm_zmmm512b64_imm8", "EVEX_Vpaddq_xmm_k1z_xmm_xmmm128b64",
   "EVEX_Vpaddq_ymm_k1z_ymm_ymmm256b64", "EVEX_Vpaddq_zmm_k1z_zmm_zmmm512b64",
   "EVEX_Vmovq_xmmm64_xmm", "EVEX_Vpandd_xmm_k1z_xmm_xmmm128b32",
   "EVEX_Vpandd_ymm_k1z_ymm_ymmm256b32", "EVEX_Vpandd_zmm_k1z_zmm_zmmm512b32",
   "EVEX_Vpandq_xmm_k1z_xmm_xmmm128b64", "EVEX_Vpandq_ymm_k1z_ymm_ymmm256b64",
   "EVEX_Vpandq_zmm_k1z_zmm_zmmm512b64", "EVEX_Vmovntdq_m128_xmm", "EVEX_Vmovntdq_m256_ymm",
   "EVEX_Vmovntdq_m512_zmm", "EVEX_Vpxord_xmm_k1z_xmm_xmmm128b32",
   "EVEX_Vpxord_ymm_k1z_ymm_ymmm256b32", "EVEX_Vpxord_zmm_k1z_zmm_zmmm512b32",
   "EVEX_Vpxorq_xmm_k1z_xmm_xmmm128b64", "EVEX_Vpxorq_ymm_k1z_ymm_ymmm256b64",
   "EVEX_Vpxorq_zmm_k1z_zmm_zmmm512b64", "EVEX_Vpaddd_xmm_k1z_xmm_xmmm128b32",
   "EVEX_Vpaddd_ymm_k1z_ymm_ymmm256b32", "EVEX_Vpaddd_zmm_k1z_zmm_zmmm512b32",
   "EVEX_Vpshufb_xmm_k1z_xmm_xmmm128", "EVEX_Vpshufb_ymm_k1z_ymm_ymmm256",
   "EVEX_Vpshufb_zmm_k1z_zmm_zmmm512", "EVEX_Vbroadcastss_xmm_k1z_xmmm32",
   "EVEX_Vbroadcastss_ymm_k1z_xmmm32", "EVEX_Vbroadcastss_zmm_k1z_xmmm32",
   "EVEX_Vbroadcastsd_ymm_k1z_xmmm64", "EVEX_Vbroadcastsd_zmm_k1z_xmmm64",
   "EVEX_Vbroadcastf32x4_ymm_k1z_m128", "EVEX_Vbroadcastf32x4_zmm_k1z_m128",
   "EVEX_Vbroadcastf64x2_ymm_k1z_m128", "EVEX_Vbroadcastf64x2_zmm_k1z_m128",
   "EVEX_Vpmuldq_xmm_k1z_xmm_xmmm128b64", "EVEX_Vpmuldq_ymm_k1z_ymm_ymmm256b64",
   "EVEX_Vpmuldq_zmm_k1z_zmm_zmmm512b64", "EVEX_Vpmovm2b_xmm_kr", "EVEX_Vpmovm2b_ymm_kr",
   "EVEX_Vpmovm2b_zmm_kr", "EVEX_Vpmovm2w_xmm_kr", "EVEX_Vpmovm2w_ymm_kr", "EVEX_Vpmovm2w_zmm_kr",
   "EVEX_Vpmovb2m_kr_xmm", "EVEX_Vpmovb2m_kr_ymm", "EVEX_Vpmovb2m_kr_zmm", "EVEX_Vpmovw2m_kr_xmm",
   "EVEX_Vpmovw2m_kr_ymm", "EVEX_Vpmovw2m_kr_zmm", "EVEX_Vmovntdqa_xmm_m128",
   "EVEX_Vmovntdqa_ymm_m256", "EVEX_Vmovntdqa_zmm_m512", "EVEX_Vpmovm2d_xmm_kr",
   "EVEX_Vpmovm2d_ymm_kr", "EVEX_Vpmovm2d_zmm_kr", "EVEX_Vpmovm2q_xmm_kr", "EVEX_Vpmovm2q_ymm_kr",
   "EVEX_Vpmovm2q_zmm_kr", "EVEX_Vpminsd_xmm_k1z_xmm_xmmm128b32",
   "EVEX_Vpminsd_ymm_k1z_ymm_ymmm256b32", "EVEX_Vpminsd_zmm_k1z_zmm_zmmm512b32",
   "EVEX_Vpminsq_xmm_k1z_xmm_xmmm128b64", "EVEX_Vpminsq_ymm_k1z_ymm_ymmm256b64",
   "EVEX_Vpminsq_zmm_k1z_zmm_zmmm512b64", "EVEX_Vpmovd2m_kr_xmm", "EVEX_Vpmovd2m_kr_ymm",
   "EVEX_Vpmovd2m_kr_zmm", "EVEX_Vpmovq2m_kr_xmm", "EVEX_Vpmovq2m_kr_ymm", "EVEX_Vpmovq2m_kr_zmm",
   "EVEX_Vpbroadcastd_xmm_k1z_xmmm32", "EVEX_Vpbroadcastd_ymm_k1z_xmmm32",
   "EVEX_Vpbroadcastd_zmm_k1z_xmmm32", "EVEX_Vp2intersectd_kp1_xmm_xmmm128b32",
   "EVEX_Vp2intersectd_kp1_ymm_ymmm256b32", "EVEX_Vp2intersectd_kp1_zmm_zmmm512b32",
   "EVEX_Vp2intersectq_kp1_xmm_xmmm128b64", "EVEX_Vp2intersectq_kp1_ymm_ymmm256b64",
   "EVEX_Vp2intersectq_kp1_zmm_zmmm512b64", "EVEX_Vpbroadcastd_xmm_k1z_r32",
   "EVEX_Vpbroadcastq_xmm_k1z_r64", "EVEX_Vpbroadcastd_ymm_k1z_r32",
   "EVEX_Vpbroadcastq_ymm_k1z_r64", "EVEX_Vpbroadcastd_zmm_k1z_r32",
   "EVEX_Vpbroadcastq_zmm_k1z_r64", "EVEX_Vpgatherdd_xmm_k1_vm32x",
   "EVEX_Vpgatherdd_ymm_k1_vm32y", "EVEX_Vpgatherdd_zmm_k1_vm32z", "EVEX_Vpgatherdq_xmm_k1_vm32x",
   "EVEX_Vpgatherdq_ymm_k1_vm32x", "EVEX_Vpgatherdq_zmm_k1_vm32y",
   "EVEX_Vpscatterdd_vm32x_k1_xmm", "EVEX_Vpscatterdd_vm32y_k1_ymm",
   "EVEX_Vpscatterdd_vm32z_k1_zmm", "EVEX_Vpscatterdq_vm32x_k1_xmm",
   "EVEX_Vpscatterdq_vm32x_k1_ymm", "EVEX_Vpscatterdq_vm32y_k1_zmm",
   "EVEX_Vgatherpf0dps_vm32z_k1", "EVEX_Vgatherpf0dpd_vm32y_k1", "EVEX_Vgatherpf1dps_vm32z_k1",
   "EVEX_Vgatherpf1dpd_vm32y_k1", "EVEX_Vscatterpf0dps_vm32z_k1", "EVEX_Vscatterpf0dpd_vm32y_k1",
   "EVEX_Vscatterpf1dps_vm32z_k1", "EVEX_Vscatterpf1dpd_vm32y_k1",
   "EVEX_Vfmadd132ps_xmm_k1z_xmm_xmmm128b32", "EVEX_Vfmadd132ps_ymm_k1z_ymm_ymmm256b32",
   "EVEX_Vfmadd132ps_zmm_k1z_zmm_zmmm512b32_er", "EVEX_Vfmadd132pd_xmm_k1z_xmm_xmmm128b64",
   "EVEX_Vfmadd132pd_ymm_k1z_ymm_ymmm256b64", "EVEX_Vfmadd132pd_zmm_k1z_zmm_zmmm512b64_er",
   "EVEX_Vfmadd213ps_xmm_k1z_xmm_xmmm128b32", "EVEX_Vfmadd213ps_ymm_k1z_ymm_ymmm256b32",
   "EVEX_Vfmadd213ps_zmm_k1z_zmm_zmmm512b32_er", "EVEX_Vfmadd213pd_xmm_k1z_xmm_xmmm128b64",
   "EVEX_Vfmadd213pd_ymm_k1z_ymm_ymmm256b64", "EVEX_Vfmadd213pd_zmm_k1z_zmm_zmmm512b64_er",
   "EVEX_Vfmadd231ps_xmm_k1z_xmm_xmmm128b32", "EVEX_Vfmadd231ps_ymm_k1z_ymm_ymmm256b32",
   "EVEX_Vfmadd231ps_zmm_k1z_zmm_zmmm512b32_er", "EVEX_Vfmadd231pd_xmm_k1z_xmm_xmmm128b64",
   "EVEX_Vfmadd231pd_ymm_k1z_ymm_ymmm256b64", "EVEX_Vfmadd231pd_zmm_k1z_zmm_zmmm512b64_er",
   "EVEX_Vfmadd132ss_xmm_k1z_xmm_xmmm32_er", "EVEX_Vfmadd132sd_xmm_k1z_xmm_xmmm64_er",
   "EVEX_Vfmadd213ss_xmm_k1z_xmm_xmmm32_er", "EVEX_Vfmadd213sd_xmm_k1z_xmm_xmmm64_er",
   "EVEX_Vfmadd231ss_xmm_k1z_xmm_xmmm32_er", "EVEX_Vfmadd231sd_xmm_k1z_xmm_xmmm64_er",
   "EVEX_Valignd_xmm_k1z_xmm_xmmm128b32_imm8", "EVEX_Valignd_ymm_k1z_ymm_ymmm256b32_imm8",
   "EVEX_Valignd_zmm_k1z_zmm_zmmm512b32_imm8", "EVEX_Valignq_xmm_k1z_xmm_xmmm128b64_imm8",
   "EVEX_Valignq_ymm_k1z_ymm_ymmm256b64_imm8", "EVEX_Valignq_zmm_k1z_zmm_zmmm512b64_imm8",
   "EVEX_Vrndscaleps_xmm_k1z_xmmm128b32_imm8", "EVEX_Vrndscaleps_ymm_k1z_ymmm256b32_imm8",
   "EVEX_Vrndscaleps_zmm_k1z_zmmm512b32_imm8_sae", "EVEX_Vrndscalepd_xmm_k1z_xmmm128b64_imm8",
   "EVEX_Vrndscalepd_ymm_k1z_ymmm256b64_imm8", "EVEX_Vrndscalepd_zmm_k1z_zmmm512b64_imm8_sae",
   "EVEX_Vrndscaless_xmm_k1z_xmm_xmmm32_imm8_sae", "EVEX_Vrndscalesd_xmm_k1z_xmm_xmmm64_imm8_sae",
   "EVEX_Vpextrd_rm32_xmm_imm8", "EVEX_Vpextrq_rm64_xmm_imm8",
   "EVEX_Vinsertf32x4_ymm_k1z_ymm_xmmm128_imm8", "EVEX_Vinsertf32x4_zmm_k1z_zmm_xmmm128_imm8",
   "EVEX_Vinsertf64x2_ymm_k1z_ymm_xmmm128_imm8", "EVEX_Vinsertf64x2_zmm_k1z_zmm_xmmm128_imm8",
   "EVEX_Vpcmpud_kr_k1_xmm_xmmm128b32_imm8", "EVEX_Vpcmpud_kr_k1_ymm_ymmm256b32_imm8",
   "EVEX_Vpcmpud_kr_k1_zmm_zmmm512b32_imm8", "EVEX_Vpcmpuq_kr_k1_xmm_xmmm128b64_imm8",
   "EVEX_Vpcmpuq_kr_k1_ymm_ymmm256b64_imm8", "EVEX_Vpcmpuq_kr_k1_zmm_zmmm512b64_imm8",
   "EVEX_Vpcmpd_kr_k1_xmm_xmmm128b32_imm8", "EVEX_Vpcmpd_kr_k1_ymm_ymmm256b32_imm8",
   "EVEX_Vpcmpd_kr_k1_zmm_zmmm512b32_imm8", "EVEX_Vpcmpq_kr_k1_xmm_xmmm128b64_imm8",
   "EVEX_Vpcmpq_kr_k1_ymm_ymmm256b64_imm8", "EVEX_Vpcmpq_kr_k1_zmm_zmmm512b64_imm8",
   "EVEX_Vpinsrd_xmm_xmm_rm32_imm8", "EVEX_Vpinsrq_xmm_xmm_rm64_imm8",
   "EVEX_Vpternlogd_xmm_k1z_xmm_xmmm128b32_imm8", "EVEX_Vpternlogd_ymm_k1z_ymm_ymmm256b32_imm8",
   "EVEX_Vpternlogd_zmm_k1z_zmm_zmmm512b32_imm8", "EVEX_Vpternlogq_xmm_k1z_xmm_xmmm128b64_imm8",
   "EVEX_Vpternlogq_ymm_k1z_ymm_ymmm256b64_imm8", "EVEX_Vpternlogq_zmm_k1z_zmm_zmmm512b64_imm8",
   "EVEX_Vrangeps_xmm_k1z_xmm_xmmm128b32_imm8", "EVEX_Vrangeps_ymm_k1z_ymm_ymmm256b32_imm8",
   "EVEX_Vrangeps_zmm_k1z_zmm_zmmm512b32_imm8_sae", "EVEX_Vrangepd_xmm_k1z_xmm_xmmm128b64_imm8",
   "EVEX_Vrangepd_ymm_k1z_ymm_ymmm256b64_imm8", "EVEX_Vrangepd_zmm_k1z_zmm_zmmm512b64_imm8_sae",
   "EVEX_Vfpclassps_kr_k1_xmmm128b32_imm8", "EVEX_Vfpclassps_kr_k1_ymmm256b32_imm8",
   "EVEX_Vfpclassps_kr_k1_zmmm512b32_imm8", "EVEX_Vfpclasspd_kr_k1_xmmm128b64_imm8",
   "EVEX_Vfpclasspd_kr_k1_ymmm256b64_imm8", "EVEX_Vfpclasspd_kr_k1_zmmm512b64_imm8"]

def EVEX_Vmovups_xmm_k1z_xmmm128 : Code := ofNumber 1759
def EVEX_Vmovupd_xmm_k1z_xmmm128 : Code := ofNumber 1762
def EVEX_Vmovss_xmm_k1z_xmm_xmm : Code := ofNumber 1765
def EVEX_Vmovss_xmm_k1z_m32 : Code := ofNumber 1766
def EVEX_Vmovsd_xmm_k1z_xmm_xmm : Code := ofNumber 1767
def EVEX_Vmovsd_xmm_k1z_m64 : Code := ofNumber 1768
def EVEX_Vmovups_xmmm128_k1z_xmm : Code := ofNumber 1769
def EVEX_Vmovupd_xmmm128_k1z_xmm : Code := ofNumber 1772
def EVEX_Vmovss_m32_k1_xmm : Code := ofNumber 1775
def EVEX_Vmovsd_m64_k1_xmm : Code := ofNumber 1776
def EVEX_Vunpcklps_xmm_k1z_xmm_xmmm128b32 : Code := ofNumber 1777
def EVEX_Vmovaps_xmm_k1z_xmmm128 : Code := ofNumber 1783
def EVEX_Vmovapd_xmm_k1z_xmmm128 : Code := ofNumber 1786
def EVEX_Vmovaps_xmmm128_k1z_xmm : Code := ofNumber 1789
def EVEX_Vmovapd_xmmm128_k1z_xmm : Code := ofNumber 1792
def EVEX_Vcvtsi2ss_xmm_xmm_rm32_er : Code := ofNumber 1795
def EVEX_Vcvtsi2sd_xmm_xmm_rm32_er : Code := ofNumber 1797
def EVEX_Vmovntps_m128_xmm : Code := ofNumber 1799
def EVEX_Vmovntpd_m128_xmm : Code := ofNumber 1802
def EVEX_Vcvttss2si_r32_xmmm32_sae : Code := ofNumber 1805
def EVEX_Vcvtss2si_r32_xmmm32_er : Code := ofNumber 1809
def EVEX_Vucomiss_xmm_xmmm32_sae : Code := ofNumber 1813
def EVEX_Vcomiss_xmm_xmmm32_sae : Code := ofNumber 1815
def EVEX_Vsqrtps_xmm_k1z_xmmm128b32 : Code := ofNumber 1817
def EVEX_Vsqrtpd_xmm_k1z_xmmm128b64 : Code := ofNumber 1820
def EVEX_Vsqrtss_xmm_k1z_xmm_xmmm32_er : Code := ofNumber 1823
def EVEX_Vsqrtsd_xmm_k1z_xmm_xmmm64_er : Code := ofNumber 1824
def EVEX_Vandps_xmm_k1z_xmm_xmmm128b32 : Code := ofNumber 1825
def EVEX_Vxorps_xmm_k1z_xmm_xmmm128b32 : Code := ofNumber 1831
def EVEX_Vaddps_xmm_k1z_xmm_xmmm128b32 : Code := ofNumber 1837
def EVEX_Vmulps_xmm_k1z_xmm_xmmm128b32 : Code := ofNumber 1845
def EVEX_Vsubps_xmm_k1z_xmm_xmmm128b32 : Code := ofNumber 1853
def EVEX_Vminps_xmm_k1z_xmm_xmmm128b32 : Code := ofNumber 1861
def EVEX_Vdivps_xmm_k1z_xmm_xmmm128b32 : Code := ofNumber 1869
def EVEX_Vmaxps_xmm_k1z_xmm_xmmm128b32 : Code := ofNumber 1877
def EVEX_Vcvtdq2ps_xmm_k1z_xmmm128b32 : Code := ofNumber 1885
def EVEX_Vcvtps2dq_xmm_k1z_xmmm128b32 : Code := ofNumber 1888
def EVEX_Vcvttps2dq_xmm_k1z_xmmm128b32 : Code := ofNumber 1891
def EVEX_Vpcmpgtd_kr_k1_xmm_xmmm128b32 : Code := ofNumber 1894
def EVEX_Vmovd_xmm_rm32 : Code := ofNumber 1897
def EVEX_Vmovdqa32_xmm_k1z_xmmm128 : Code := ofNumber 1899
def EVEX_Vmovdqa64_xmm_k1z_xmmm128 : Code := ofNumber 1902
def EVEX_Vmovdqu32_xmm_k1z_xmmm128 : Code := ofNumber 1905
def EVEX_Vmovdqu64_xmm_k1z_xmmm128 : Code := ofNumber 1908
def EVEX_Vmovdqu8_xmm_k1z_xmmm128 : Code := ofNumber 1911
def EVEX_Vmovdqu16_xmm_k1z_xmmm128 : Code := ofNumber 1914
def EVEX_Vpshufd_xmm_k1z_xmmm128b32_imm8 : Code := ofNumber 1917
def EVEX_Vprord_xmm_k1z_xmmm128b32_imm8 : Code := ofNumber 1920
def EVEX_Vprorq_xmm_k1z_xmmm128b64_imm8 : Code := ofNumber 1923
def EVEX_Vpsrld_xmm_k1z_xmmm128b32_imm8 : Code := ofNumber 1926
def EVEX_Vpsrad_xmm_k1z_xmmm128b32_imm8 : Code := ofNumber 1929
def EVEX_Vpsraq_xmm_k1z_xmmm128b64_imm8 : Code := ofNumber 1932
def EVEX_Vpslld_xmm_k1z_xmmm128b32_imm8 : Code := ofNumber 1935
def EVEX_Vpcmpeqd_kr_k1_xmm_xmmm128b32 : Code := ofNumber 1938
def EVEX_Vcvtusi2ss_xmm_xmm_rm32_er : Code := ofNumber 1941
def EVEX_Vcvtusi2sd_xmm_xmm_rm32 : Code := ofNumber 1943
def EVEX_Vmovd_rm32_xmm : Code := ofNumber 1945
def EVEX_Vmovq_xmm_xmmm64 : Code := ofNumber 1947
def EVEX_Vmovdqa32_xmmm128_k1z_xmm : Code := ofNumber 1948
def EVEX_Vmovdqa64_xmmm128_k1z_xmm : Code := ofNumber 1951
def EVEX_Vmovdqu32_xmmm128_k1z_xmm : Code := ofNumber 1954
def EVEX_Vmovdqu64_xmmm128_k1z_xmm : Code := ofNumber 1957
def EVEX_Vmovdqu8_xmmm128_k1z_xmm : Code := ofNumber 1960
def EVEX_Vmovdqu16_xmmm128_k1z_xmm : Code := ofNumber 1963
def EVEX_Vcmpps_kr_k1_xmm_xmmm128b32_imm8 : Code := ofNumber 1966
def EVEX_Vcmppd_kr_k1_xmm_xmmm128b64_imm8 : Code := ofNumber 1969
def EVEX_Vcmpss_kr_k1_xmm_xmmm32_imm8_sae : Code := ofNumber 1972
def EVEX_Vcmpsd_kr_k1_xmm_xmmm64_imm8_sae : Code := ofNumber 1973
def EVEX_Vshufps_xmm_k1z_xmm_xmmm128b32_imm8 : Code := ofNumber 1974
def EVEX_Vshufpd_xmm_k1z_xmm_xmmm128b64_imm8 : Code := ofNumber 1977
def EVEX_Vpaddq_xmm_k1z_xmm_xmmm128b64 : Code := ofNumber 1980
def EVEX_Vmovq_xmmm64_xmm : Code := ofNumber 1983
def EVEX_Vpandd_xmm_k1z_xmm_xmmm128b32 : Code := ofNumber 1984
def EVEX_Vpandq_xmm_k1z_xmm_xmmm128b64 : Code := ofNumber 1987
def EVEX_Vmovntdq_m128_xmm : Code := ofNumber 1990
def EVEX_Vpxord_xmm_k1z_xmm_xmmm128b32 : Code := ofNumber 1993
def EVEX_Vpxorq_xmm_k1z_xmm_xmmm128b64 : Code := ofNumber 1996
def EVEX_Vpaddd_xmm_k1z_xmm_xmmm128b32 : Code := ofNumber 1999
def EVEX_Vpshufb_xmm_k1z_xmm_xmmm128 : Code := ofNumber 2002
def EVEX_Vbroadcastss_xmm_k1z_xmmm32 : Code := ofNumber 2005
def EVEX_Vbroadcastsd_ymm_k1z_xmmm64 : Code := ofNumber 2008
def EVEX_Vbroadcastsd_zmm_k1z_xmmm64 : Code := ofNumber 2009
def EVEX_Vbroadcastf32x4_ymm_k1z_m128 : Code := ofNumber 2010
def EVEX_Vbroadcastf64x2_ymm_k1z_m128 : Code := ofNumber 2012
def EVEX_Vpmuldq_xmm_k1z_xmm_xmmm128b64 : Code := ofNumber 2014
def EVEX_Vpmovm2b_xmm_kr : Code := ofNumber 2017
def EVEX_Vpmovm2w_xmm_kr : Code := ofNumber 2020
def EVEX_Vpmovb2m_kr_xmm : Code := ofNumber 2023
def EVEX_Vpmovw2m_kr_xmm : Code := ofNumber 2026
def EVEX_Vmovntdqa_xmm_m128 : Code := ofNumber 2029
def EVEX_Vpmovm2d_xmm_kr : Code := ofNumber 2032
def EVEX_Vpmovm2q_xmm_kr : Code := ofNumber 2035
def EVEX_Vpminsd_xmm_k1z_xmm_xmmm128b32 : Code := ofNumber 2038
def EVEX_Vpminsq_xmm_k1z_xmm_xmmm128b64 : Code := ofNumber 2041
def EVEX_Vpmovd2m_kr_xmm : Code := ofNumber 2044
def EVEX_Vpmovq2m_kr_xmm : Code := ofNumber 2047
def EVEX_Vpbroadcastd_xmm_k1z_xmmm32 : Code := ofNumber 2050
def EVEX_Vp2intersectd_kp1_xmm_xmmm128b32 : Code := ofNumber 2053
def EVEX_Vp2intersectq_kp1_xmm_xmmm128b64 : Code := ofNumber 2056
def EVEX_Vpbroadcastd_xmm_k1z_r32 : Code := ofNumber 2059
def EVEX_Vpgatherdd_xmm_k1_vm32x : Code := ofNumber 2065
def EVEX_Vpscatterdd_vm32x_k1_xmm : Code := ofNumber 2071
def EVEX_Vgatherpf0dps_vm32z_k1 : Code := ofNumber 2077
def EVEX_Vgatherpf1dps_vm32z_k1 : Code := ofNumber 2079
def EVEX_Vscatterpf0dps_vm32z_k1 : Code := ofNumber 2081
def EVEX_Vscatterpf1dps_vm32z_k1 : Code := ofNumber 2083
def EVEX_Vfmadd132ps_xmm_k1z_xmm_xmmm128b32 : Code := ofNumber 2085
def EVEX_Vfmadd213ps_xmm_k1z_xmm_xmmm128b32 : Code := ofNumber 2091
def EVEX_Vfmadd231ps_xmm_k1z_xmm_xmmm128b32 : Code := ofNumber 2097
def EVEX_Vfmadd132ss_xmm_k1z_xmm_xmmm32_er : Code := ofNumber 2103
def EVEX_Vfmadd213ss_xmm_k1z_xmm_xmmm32_er : Code := ofNumber 2105
def EVEX_Vfmadd231ss_xmm_k1z_xmm_xmmm32_er : Code := ofNumber 2107
def EVEX_Valignd_xmm_k1z_xmm_xmmm128b32_imm8 : Code := ofNumber 2109
def EVEX_Valignq_xmm_k1z_xmm_xmmm128b64_imm8 : Code := ofNumber 2112
def EVEX_Vrndscaleps_xmm_k1z_xmmm128b32_imm8 : Code := ofNumber 2115
def EVEX_Vrndscalepd_xmm_k1z_xmmm128b64_imm8 : Code := ofNumber 2118
def EVEX_Vrndscaless_xmm_k1z_xmm_xmmm32_imm8_sae : Code := ofNumber 2121
def EVEX_Vrndscalesd_xmm_k1z_xmm_xmmm64_imm8_sae : Code := ofNumber 2122
def EVEX_Vpextrd_rm32_xmm_imm8 : Code := ofNumber 2123
def EVEX_Vinsertf32x4_ymm_k1z_ymm_xmmm128_imm8 : Code := ofNumber 2125
def EVEX_Vinsertf64x2_ymm_k1z_ymm_xmmm128_imm8 : Code := ofNumber 2127
def EVEX_Vpcmpud_kr_k1_xmm_xmmm128b32_imm8 : Code := ofNumber 2129
def EVEX_Vpcmpuq_kr_k1_xmm_xmmm128b64_imm8 : Code := ofNumber 2132
def EVEX_Vpcmpd_kr_k1_xmm_xmmm128b32_imm8 : Code := ofNumber 2135
def EVEX_Vpcmpq_kr_k1_xmm_xmmm128b64_imm8 : Code := ofNumber 2138
def EVEX_Vpinsrd_xmm_xmm_rm32_imm8 : Code := ofNumber 2141
def EVEX_Vpternlogd_xmm_k1z_xmm_xmmm128b32_imm8 : Code := ofNumber 2143
def EVEX_Vpternlogq_xmm_k1z_xmm_xmmm128b64_imm8 : Code := ofNumber 2146
def EVEX_Vrangeps_xmm_k1z_xmm_xmmm128b32_imm8 : Code := ofNumber 2149
def EVEX_Vrangepd_xmm_k1z_xmm_xmmm128b64_imm8 : Code := ofNumber 2152
def EVEX_Vfpclassps_kr_k1_xmmm128b32_imm8 : Code := ofNumber 2155
def EVEX_Vfpclasspd_kr_k1_xmmm128b64_imm8 : Code := ofNumber 2158

end OpcodeForest.Code
