import OpcodeForest.Code.Basic

/-!
# Codes of the two-byte and three-byte maps

The names in numbering order, and the first code of every run that the tables use.
-/

namespace OpcodeForest.Code

/-- The names of the codes from number 711 on. -/
def twoByteNames : List String :=
  ["Sldt_rm16", "Sldt_r32m16", "Sldt_r64m16", "Str_rm16", "Str_r32m16", "Str_r64m16", "Lldt_rm16",
   "Lldt_r32m16", "Lldt_r64m16", "Ltr_rm16", "Ltr_r32m16", "Ltr_r64m16", "Verr_rm16",
   "Verr_r32m16", "Verr_r64m16", "Verw_rm16", "Verw_r32m16", "Verw_r64m16", "Jmpe_rm16",
   "Jmpe_rm32", "Jmpe_rm64", "Vmcall", "Vmlaunch", "Vmresume", "Vmxoff", "Monitor", "Mwait",
   "Clac", "Stac", "Encls", "Xgetbv", "Xsetbv", "Vmfunc", "Xend", "Xtest", "Enclu", "Rdtscp",
   "Swapgs", "Sgdt_m1632_16", "Sgdt_m1632", "Sgdt_m1664", "Sidt_m1632_16", "Sidt_m1632",
   "Sidt_m1664", "Lgdt_m1632_16", "Lgdt_m1632", "Lgdt_m1664", "Lidt_m1632_16", "Lidt_m1632",
   "Lidt_m1664", "Smsw_rm16", "Smsw_r32m16", "Smsw_r64m16", "Lmsw_rm16", "Lmsw_r32m16",
   "Lmsw_r64m16", "Invlpg_m", "Lar_r16_rm16", "Lar_r32_r32m16", "Lar_r64_r64m16", "Lsl_r16_rm16",
   "Lsl_r32_r32m16", "Lsl_r64_r64m16", "Syscall", "Clts", "Sysret", "Invd", "Wbnoinvd", "Wbinvd",
   "Ud2", "Prefetch_m8", "Prefetchw_m8", "Prefetchwt1_m8", "Femms", "D3NOW_Pi2fw_mm_mmm64",
   "D3NOW_Pi2fd_mm_mmm64", "D3NOW_Pf2iw_mm_mmm64", "D3NOW_Pf2id_mm_mmm64",
   "D3NOW_Pfnacc_mm_mmm64", "D3NOW_Pfpnacc_mm_mmm64", "D3NOW_Pfcmpge_mm_mmm64",
   "D3NOW_Pfmin_mm_mmm64", "D3NOW_Pfrcp_mm_mmm64", "D3NOW_Pfrsqrt_mm_mmm64",
   "D3NOW_Pfsub_mm_mmm64", "D3NOW_Pfadd_mm_mmm64", "D3NOW_Pfcmpgt_mm_mmm64",
   "D3NOW_Pfmax_mm_mmm64", "D3NOW_Pfrcpit1_mm_mmm64", "D3NOW_Pfrsqit1_mm_mmm64",
   "D3NOW_Pfsubr_mm_mmm64", "D3NOW_Pfacc_mm_mmm64", "D3NOW_Pfcmpeq_mm_mmm64",
   "D3NOW_Pfmul_mm_mmm64", "D3NOW_Pfrcpit2_mm_mmm64", "D3NOW_Pmulhrw_mm_mmm64",
   "D3NOW_Pswapd_mm_mmm64", "D3NOW_Pavgusb_mm_mmm64", "Movups_xmm_xmmm128", "Movupd_xmm_xmmm128",
   "Movss_xmm_xmmm32", "Movsd_xmm_xmmm64", "Umov_rm8_r8", "Movups_xmmm128_xmm",
   "Movupd_xmmm128_xmm", "Movss_xmmm32_xmm", "Movsd_xmmm64_xmm", "Umov_rm16_r16", "Umov_rm32_r32",
   "Umov_rm64_r64", "Movhlps_xmm_xmm", "Movsldup_xmm_xmmm128", "Movddup_xmm_xmmm64",
   "Movlps_xmm_m64", "Movlpd_xmm_m64", "Movlps_m64_xmm", "Movlpd_m64_xmm", "Unpcklps_xmm_xmmm128",
   "Unpcklpd_xmm_xmmm128", "Unpckhps_xmm_xmmm128", "Unpckhpd_xmm_xmmm128", "Movlhps_xmm_xmm",
   "Movshdup_xmm_xmmm128", "Movhps_xmm_m64", "Movhpd_xmm_m64", "Movhps_m64_xmm", "Movhpd_m64_xmm",
   "Reservednop_rm16_r16_0F18", "Reservednop_rm32_r32_0F18", "Reservednop_rm64_r64_0F18",
   "Prefetchnta_m8", "Prefetcht0_m8", "Prefetcht1_m8", "Prefetcht2_m8",
   "Reservednop_rm16_r16_0F19", "Reservednop_rm32_r32_0F19", "Reservednop_rm64_r64_0F19",
   "Reservednop_rm16_r16_0F1A", "Reservednop_rm32_r32_0F1A", "Reservednop_rm64_r64_0F1A",
   "Bndldx_bnd_mib", "Bndmov_bnd_bndm64", "Bndmov_bnd_bndm128", "Bndcl_bnd_rm32",
   "Bndcl_bnd_rm64", "Bndcu_bnd_rm32", "Bndcu_bnd_rm64", "Reservednop_rm16_r16_0F1B",
   "Reservednop_rm32_r32_0F1B", "Reservednop_rm64_r64_0F1B", "Bndstx_mib_bnd",
   "Bndmov_bndm64_bnd", "Bndmov_bndm128_bnd", "Bndmk_bnd_m32", "Bndmk_bnd_m64", "Bndcn_bnd_rm32",
   "Bndcn_bnd_rm64", "Reservednop_rm16_r16_0F1C", "Reservednop_rm32_r32_0F1C",
   "Reservednop_rm64_r64_0F1C", "Reservednop_rm16_r16_0F1D", "Reservednop_rm32_r32_0F1D",
   "Reservednop_rm64_r64_0F1D", "Reservednop_rm16_r16_0F1E", "Reservednop_rm32_r32_0F1E",
   "Reservednop_rm64_r64_0F1E", "Endbr64", "Endbr32", "Reservednop_rm16_r16_0F1F",
   "Reservednop_rm32_r32_0F1F", "Reservednop_rm64_r64_0F1F", "Nop_rm16", "Nop_rm32", "Nop_rm64",
   "Mov_r32_cr", "Mov_r64_cr", "Mov_r32_dr", "Mov_r64_dr", "Mov_cr_r32", "Mov_cr_r64",
   "Mov_dr_r32", "Mov_dr_r64", "Movaps_xmm_xmmm128", "Movapd_xmm_xmmm128", "Movaps_xmmm128_xmm",
   "Movapd_xmmm128_xmm", "Cvtpi2ps_xmm_mmm64", "Cvtpi2pd_xmm_mmm64", "Cvtsi2ss_xmm_rm32",
   "Cvtsi2ss_xmm_rm64", "Cvtsi2sd_xmm_rm32", "Cvtsi2sd_xmm_rm64", "Movntps_m128_xmm",
   "Movntpd_m128_xmm", "Cvttss2si_r32_xmmm32", "Cvttss2si_r64_xmmm32", "Cvttsd2si_r32_xmmm64",
   "Cvttsd2si_r64_xmmm64", "Cvtss2si_r32_xmmm32", "Cvtss2si_r64_xmmm32", "Cvtsd2si_r32_xmmm64",
   "Cvtsd2si_r64_xmmm64", "Ucomiss_xmm_xmmm32", "Ucomisd_xmm_xmmm64", "Comiss_xmm_xmmm32",
   "Comisd_xmm_xmmm64", "Wrmsr", "Rdtsc", "Rdmsr", "Rdpmc", "Sysenter", "Sysexit", "Getsec",
   "Cmovo_r16_rm16", "Cmovo_r32_rm32", "Cmovo_r64_rm64", "Cmovno_r16_rm16", "Cmovno_r32_rm32",
   "Cmovno_r64_rm64", "Cmovb_r16_rm16", "Cmovb_r32_rm32", "Cmovb_r64_rm64", "Cmovae_r16_rm16",
   "Cmovae_r32_rm32", "Cmovae_r64_rm64", "Cmove_r16_rm16", "Cmove_r32_rm32", "Cmove_r64_rm64",
   "Cmovne_r16_rm16", "Cmovne_r32_rm32", "Cmovne_r64_rm64", "Cmovbe_r16_rm16", "Cmovbe_r32_rm32",
   "Cmovbe_r64_rm64", "Cmova_r16_rm16", "Cmova_r32_rm32", "Cmova_r64_rm64", "Cmovs_r16_rm16",
   "Cmovs_r32_rm32", "Cmovs_r64_rm64", "Cmovns_r16_rm16", "Cmovns_r32_rm32", "Cmovns_r64_rm64",
   "Cmovp_r16_rm16", "Cmovp_r32_rm32", "Cmovp_r64_rm64", "Cmovnp_r16_rm16", "Cmovnp_r32_rm32",
   "Cmovnp_r64_rm64", "Cmovl_r16_rm16", "Cmovl_r32_rm32", "Cmovl_r64_rm64", "Cmovge_r16_rm16",
   "Cmovge_r32_rm32", "Cmovge_r64_rm64", "Cmovle_r16_rm16", "Cmovle_r32_rm32", "Cmovle_r64_rm64",
   "Cmovg_r16_rm16", "Cmovg_r32_rm32", "Cmovg_r64_rm64", "Movmskps_r32_xmm", "Movmskps_r64_xmm",
   "Movmskpd_r32_xmm", "Movmskpd_r64_xmm", "Sqrtps_xmm_xmmm128", "Sqrtpd_xmm_xmmm128",
   "Sqrtss_xmm_xmmm32", "Sqrtsd_xmm_xmmm64", "Rsqrtps_xmm_xmmm128", "Rsqrtss_xmm_xmmm32",
   "Rcpps_xmm_xmmm128", "Rcpss_xmm_xmmm32", "Andps_xmm_xmmm128", "Andpd_xmm_xmmm128",
   "Andnps_xmm_xmmm128", "Andnpd_xmm_xmmm128", "Orps_xmm_xmmm128", "Orpd_xmm_xmmm128",
   "Xorps_xmm_xmmm128", "Xorpd_xmm_xmmm128", "Addps_xmm_xmmm128", "Addpd_xmm_xmmm128",
   "Addss_xmm_xmmm32", "Addsd_xmm_xmmm64", "Mulps_xmm_xmmm128", "Mulpd_xmm_xmmm128",
   "Mulss_xmm_xmmm32", "Mulsd_xmm_xmmm64", "Cvtps2pd_xmm_xmmm64", "Cvtpd2ps_xmm_xmmm128",
   "Cvtss2sd_xmm_xmmm32", "Cvtsd2ss_xmm_xmmm64", "Cvtdq2ps_xmm_xmmm128", "Cvtps2dq_xmm_xmmm128",
   "Cvttps2dq_xmm_xmmm128", "Subps_xmm_xmmm128", "Subpd_xmm_xmmm128", "Subss_xmm_xmmm32",
   "Subsd_xmm_xmmm64", "Minps_xmm_xmmm128", "Minpd_xmm_xmmm128", "Minss_xmm_xmmm32",
   "Minsd_xmm_xmmm64", "Divps_xmm_xmmm128", "Divpd_xmm_xmmm128", "Divss_xmm_xmmm32",
   "Divsd_xmm_xmmm64", "Maxps_xmm_xmmm128", "Maxpd_xmm_xmmm128", "Maxss_xmm_xmmm32",
   "Maxsd_xmm_xmmm64", "Punpcklbw_mm_mmm32", "Punpcklbw_xmm_xmmm128", "Punpcklwd_mm_mmm32",
   "Punpcklwd_xmm_xmmm128", "Punpckldq_mm_mmm32", "Punpckldq_xmm_xmmm128", "Packsswb_mm_mmm64",
   "Packsswb_xmm_xmmm128", "Pcmpgtb_mm_mmm64", "Pcmpgtb_xmm_xmmm128", "Pcmpgtw_mm_mmm64",
   "Pcmpgtw_xmm_xmmm128", "Pcmpgtd_mm_mmm64", "Pcmpgtd_xmm_xmmm128", "Packuswb_mm_mmm64",
   "Packuswb_xmm_xmmm128", "Punpckhbw_mm_mmm64", "Punpckhbw_xmm_xmmm128", "Punpckhwd_mm_mmm64",
   "Punpckhwd_xmm_xmmm128", "Punpckhdq_mm_mmm64", "Punpckhdq_xmm_xmmm128", "Packssdw_mm_mmm64",
   "Packssdw_xmm_xmmm128", "Punpcklqdq_xmm_xmmm128", "Punpckhqdq_xmm_xmmm128", "Movd_mm_rm32",
   "Movq_mm_rm64", "Movd_xmm_rm32", "Movq_xmm_rm64", "Movq_mm_mmm64", "Movdqa_xmm_xmmm128",
   "Movdqu_xmm_xmmm128", "Pshufw_mm_mmm64_imm8", "Pshufd_xmm_xmmm128_imm8",
   "Pshufhw_xmm_xmmm128_imm8", "Pshuflw_xmm_xmmm128_imm8", "Psrlw_mm_imm8", "Psrlw_xmm_imm8",
   "Psraw_mm_imm8", "Psraw_xmm_imm8", "Psllw_mm_imm8", "Psllw_xmm_imm8", "Psrld_mm_imm8",
   "Psrld_xmm_imm8", "Psrad_mm_imm8", "Psrad_xmm_imm8", "Pslld_mm_imm8", "Pslld_xmm_imm8",
   "Psrlq_mm_imm8", "Psrlq_xmm_imm8", "Psrldq_xmm_imm8", "Psllq_mm_imm8", "Psllq_xmm_imm8",
   "Pslldq_xmm_imm8", "Pcmpeqb_mm_mmm64", "Pcmpeqb_xmm_xmmm128", "Pcmpeqw_mm_mmm64",
   "Pcmpeqw_xmm_xmmm128", "Pcmpeqd_mm_mmm64", "Pcmpeqd_xmm_xmmm128", "Emms", "Movd_rm32_mm",
   "Movq_rm64_mm", "Movd_rm32_xmm", "Movq_rm64_xmm", "Movq_xmm_xmmm64", "Movq_mmm64_mm",
   "Movdqa_xmmm128_xmm", "Movdqu_xmmm128_xmm", "Jo_rel16", "Jo_rel32_32", "Jo_rel32_64",
   "Jno_rel16", "Jno_rel32_32", "Jno_rel32_64", "Jb_rel16", "Jb_rel32_32", "Jb_rel32_64",
   "Jae_rel16", "Jae_rel32_32", "Jae_rel32_64", "Je_rel16", "Je_rel32_32", "Je_rel32_64",
   "Jne_rel16", "Jne_rel32_32", "Jne_rel32_64", "Jbe_rel16", "Jbe_rel32_32", "Jbe_rel32_64",
   "Ja_rel16", "Ja_rel32_32", "Ja_rel32_64", "Js_rel16", "Js_rel32_32", "Js_rel32_64",
   "Jns_rel16", "Jns_rel32_32", "Jns_rel32_64", "Jp_rel16", "Jp_rel32_32", "Jp_rel32_64",
   "Jnp_rel16", "Jnp_rel32_32", "Jnp_rel32_64", "Jl_rel16", "Jl_rel32_32", "Jl_rel32_64",
   "Jge_rel16", "Jge_rel32_32", "Jge_rel32_64", "Jle_rel16", "Jle_rel32_32", "Jle_rel32_64",
   "Jg_rel16", "Jg_rel32_32", "Jg_rel32_64", "Seto_rm8", "Setno_rm8", "Setb_rm8", "Setae_rm8",
   "Sete_rm8", "Setne_rm8", "Setbe_rm8", "Seta_rm8", "Sets_rm8", "Setns_rm8", "Setp_rm8",
   "Setnp_rm8", "Setl_rm8", "Setge_rm8", "Setle_rm8", "Setg_rm8", "Pushw_FS", "Pushd_FS",
   "Pushq_FS", "Popw_FS", "Popd_FS", "Popq_FS", "Cpuid", "Bt_rm16_r16", "Bt_rm32_r32",
   "Bt_rm64_r64", "Shld_rm16_r16_imm8", "Shld_rm32_r32_imm8", "Shld_rm64_r64_imm8",
   "Shld_rm16_r16_CL", "Shld_rm32_r32_CL", "Shld_rm64_r64_CL", "Pushw_GS", "Pushd_GS", "Pushq_GS",
   "Popw_GS", "Popd_GS", "Popq_GS", "Rsm", "Bts_rm16_r16", "Bts_rm32_r32", "Bts_rm64_r64",
   "Shrd_rm16_r16_imm8", "Shrd_rm32_r32_imm8", "Shrd_rm64_r64_imm8", "Shrd_rm16_r16_CL",
   "Shrd_rm32_r32_CL", "Shrd_rm64_r64_CL", "Lfence", "Mfence", "Sfence", "Fxsave_m512byte",
   "Fxrstor_m512byte", "Ldmxcsr_m32", "Stmxcsr_m32", "Xsave_mem", "Xrstor_mem", "Xsaveopt_mem",
   "Clflush_m8", "Imul_r16_rm16", "Imul_r32_rm32", "Imul_r64_rm64", "Cmpxchg_rm8_r8",
   "Cmpxchg_rm16_r16", "Cmpxchg_rm32_r32", "Cmpxchg_rm64_r64", "Lss_r16_m1616", "Lss_r32_m1632",
   "Lss_r64_m1664", "Btr_rm16_r16", "Btr_rm32_r32", "Btr_rm64_r64", "Lfs_r16_m1616",
   "Lfs_r32_m1632", "Lfs_r64_m1664", "Lgs_r16_m1616", "Lgs_r32_m1632", "Lgs_r64_m1664",
   "Movzx_r16_rm8", "Movzx_r32_rm8", "Movzx_r64_rm8", "Movzx_r16_rm16", "Movzx_r32_rm16",
   "Movzx_r64_rm16", "Popcnt_r16_rm16", "Popcnt_r32_rm32", "Popcnt_r64_rm64", "Ud1_r16_rm16",
   "Ud1_r32_rm32", "Ud1_r64_rm64", "Bt_rm16_imm8", "Bt_rm32_imm8", "Bt_rm64_imm8",
   "Bts_rm16_imm8", "Bts_rm32_imm8", "Bts_rm64_imm8", "Btr_rm16_imm8", "Btr_rm32_imm8",
   "Btr_rm64_imm8", "Btc_rm16_imm8", "Btc_rm32_imm8", "Btc_rm64_imm8", "Btc_rm16_r16",
   "Btc_rm32_r32", "Btc_rm64_r64", "Bsf_r16_rm16", "Bsf_r32_rm32", "Bsf_r64_rm64",
   "Tzcnt_r16_rm16", "Tzcnt_r32_rm32", "Tzcnt_r64_rm64", "Bsr_r16_rm16", "Bsr_r32_rm32",
   "Bsr_r64_rm64", "Lzcnt_r16_rm16", "Lzcnt_r32_rm32", "Lzcnt_r64_rm64", "Movsx_r16_rm8",
   "Movsx_r32_rm8", "Movsx_r64_rm8", "Movsx_r16_rm16", "Movsx_r32_rm16", "Movsx_r64_rm16",
   "Xadd_rm8_r8", "Xadd_rm16_r16", "Xadd_rm32_r32", "Xadd_rm64_r64", "Cmpps_xmm_xmmm128_imm8",
   "Cmppd_xmm_xmmm128_imm8", "Cmpss_xmm_xmmm32_imm8", "Cmpsd_xmm_xmmm64_imm8",
   "Shufps_xmm_xmmm128_imm8", "Shufpd_xmm_xmmm128_imm8", "Cmpxchg8b_m64", "Cmpxchg16b_m128",
   "Vmptrld_m64", "Vmptrst_m64", "Rdrand_r16", "Rdrand_r32", "Rdrand_r64", "Rdseed_r16",
   "Rdseed_r32", "Rdseed_r64", "Bswap_r16", "Bswap_r32", "Bswap_r64", "Psrlw_mm_mmm64",
   "Psrlw_xmm_xmmm128", "Psrld_mm_mmm64", "Psrld_xmm_xmmm128", "Psrlq_mm_mmm64",
   "Psrlq_xmm_xmmm128", "Paddq_mm_mmm64", "Paddq_xmm_xmmm128", "Pmullw_mm_mmm64",
   "Pmullw_xmm_xmmm128", "Psubusb_mm_mmm64", "Psubusb_xmm_xmmm128", "Psubusw_mm_mmm64",
   "Psubusw_xmm_xmmm128", "Pminub_mm_mmm64", "Pminub_xmm_xmmm128", "Pand_mm_mmm64",
   "Pand_xmm_xmmm128", "Paddusb_mm_mmm64", "Paddusb_xmm_xmmm128", "Paddusw_mm_mmm64",
   "Paddusw_xmm_xmmm128", "Pmaxub_mm_mmm64", "Pmaxub_xmm_xmmm128", "Pandn_mm_mmm64",
   "Pandn_xmm_xmmm128", "Pavgb_mm_mmm64", "Pavgb_xmm_xmmm128", "Psraw_mm_mmm64",
   "Psraw_xmm_xmmm128", "Psrad_mm_mmm64", "Psrad_xmm_xmmm128", "Pavgw_mm_mmm64",
   "Pavgw_xmm_xmmm128", "Pmulhuw_mm_mmm64", "Pmulhuw_xmm_xmmm128", "Pmulhw_mm_mmm64",
   "Pmulhw_xmm_xmmm128", "Psubsb_mm_mmm64", "Psubsb_xmm_xmmm128", "Psubsw_mm_mmm64",
   "Psubsw_xmm_xmmm128", "Pminsw_mm_mmm64", "Pminsw_xmm_xmmm128", "Por_mm_mmm64",
   "Por_xmm_xmmm128", "Paddsb_mm_mmm64", "Paddsb_xmm_xmmm128", "Paddsw_mm_mmm64",
   "Paddsw_xmm_xmmm128", "Pmaxsw_mm_mmm64", "Pmaxsw_xmm_xmmm128", "Pxor_mm_mmm64",
   "Pxor_xmm_xmmm128", "Psllw_mm_mmm64", "Psllw_xmm_xmmm128", "Pslld_mm_mmm64",
   "Pslld_xmm_xmmm128", "Psllq_mm_mmm64", "Psllq_xmm_xmmm128", "Pmuludq_mm_mmm64",
   "Pmuludq_xmm_xmmm128", "Pmaddwd_mm_mmm64", "Pmaddwd_xmm_xmmm128", "Psadbw_mm_mmm64",
   "Psadbw_xmm_xmmm128", "Psubb_mm_mmm64", "Psubb_xmm_xmmm128", "Psubw_mm_mmm64",
   "Psubw_xmm_xmmm128", "Psubd_mm_mmm64", "Psubd_xmm_xmmm128", "Psubq_mm_mmm64",
   "Psubq_xmm_xmmm128", "Paddb_mm_mmm64", "Paddb_xmm_xmmm128", "Paddw_mm_mmm64",
   "Paddw_xmm_xmmm128", "Paddd_mm_mmm64", "Paddd_xmm_xmmm128", "Movq_xmmm64_xmm", "Movntq_m64_mm",
   "Movntdq_m128_xmm", "Ud0_r16_rm16", "Ud0_r32_rm32", "Ud0_r64_rm64", "Pshufb_mm_mmm64",
   "Pshufb_xmm_xmmm128", "Phaddw_mm_mmm64", "Phaddw_xmm_xmmm128", "Phaddd_mm_mmm64",
   "Phaddd_xmm_xmmm128", "Phaddsw_mm_mmm64", "Phaddsw_xmm_xmmm128", "Pmaddubsw_mm_mmm64",
   "Pmaddubsw_xmm_xmmm128", "Phsubw_mm_mmm64", "Phsubw_xmm_xmmm128", "Phsubd_mm_mmm64",
   "Phsubd_xmm_xmmm128", "Phsubsw_mm_mmm64", "Phsubsw_xmm_xmmm128", "Psignb_mm_mmm64",
   "Psignb_xmm_xmmm128", "Psignw_mm_mmm64", "Psignw_xmm_xmmm128", "Psignd_mm_mmm64",
   "Psignd_xmm_xmmm128", "Pmulhrsw_mm_mmm64", "Pmulhrsw_xmm_xmmm128", "Pabsb_mm_mmm64",
   "Pabsb_xmm_xmmm128", "Pabsw_mm_mmm64", "Pabsw_xmm_xmmm128", "Pabsd_mm_mmm64",
   "Pabsd_xmm_xmmm128", "Pblendvb_xmm_xmmm128", "Blendvps_xmm_xmmm128", "Blendvpd_xmm_xmmm128",
   "Ptest_xmm_xmmm128", "Pmovsxbw_xmm_xmmm64", "Pmovsxbd_xmm_xmmm32", "Pmovsxbq_xmm_xmmm16",
   "Pmovsxwd_xmm_xmmm64", "Pmovsxwq_xmm_xmmm32", "Pmovsxdq_xmm_xmmm64", "Pmuldq_xmm_xmmm128",
   "Pcmpeqq_xmm_xmmm128", "Packusdw_xmm_xmmm128", "Pmovzxbw_xmm_xmmm64", "Pmovzxbd_xmm_xmmm32",
   "Pmovzxbq_xmm_xmmm16", "Pmovzxwd_xmm_xmmm64", "Pmovzxwq_xmm_xmmm32", "Pmovzxdq_xmm_xmmm64",
   "Pcmpgtq_xmm_xmmm128", "Pminsb_xmm_xmmm128", "Pminsd_xmm_xmmm128", "Pminuw_xmm_xmmm128",
   "Pminud_xmm_xmmm128", "Pmaxsb_xmm_xmmm128", "Pmaxsd_xmm_xmmm128", "Pmaxuw_xmm_xmmm128",
   "Pmaxud_xmm_xmmm128", "Pmulld_xmm_xmmm128", "Phminposuw_xmm_xmmm128", "Aesimc_xmm_xmmm128",
   "Aesenc_xmm_xmmm128", "Aesenclast_xmm_xmmm128", "Aesdec_xmm_xmmm128", "Aesdeclast_xmm_xmmm128",
   "Movntdqa_xmm_m128", "Movbe_r16_m16", "Movbe_r32_m32", "Movbe_r64_m64", "Crc32_r32_rm8",
   "Crc32_r64_rm8", "Movbe_m16_r16", "Movbe_m32_r32", "Movbe_m64_r64", "Crc32_r32_rm16",
   "Crc32_r32_rm32", "Crc32_r64_rm64", "Roundps_xmm_xmmm128_imm8", "Roundpd_xmm_xmmm128_imm8",
   "Roundss_xmm_xmmm32_imm8", "Roundsd_xmm_xmmm64_imm8", "Blendps_xmm_xmmm128_imm8",
   "Blendpd_xmm_xmmm128_imm8", "Pblendw_xmm_xmmm128_imm8", "Dpps_xmm_xmmm128_imm8",
   "Dppd_xmm_xmmm128_imm8", "Mpsadbw_xmm_xmmm128_imm8", "Pclmulqdq_xmm_xmmm128_imm8",
   "Pcmpestrm_xmm_xmmm128_imm8", "Pcmpestri_xmm_xmmm128_imm8", "Pcmpistrm_xmm_xmmm128_imm8",
   "Pcmpistri_xmm_xmmm128_imm8", "Aeskeygenassist_xmm_xmmm128_imm8", "Palignr_mm_mmm64_imm8",
   "Palignr_xmm_xmmm128_imm8", "Pextrd_rm32_xmm_imm8", "Pextrq_rm64_xmm_imm8",
   "Pinsrd_xmm_rm32_imm8", "Pinsrq_xmm_rm64_imm8"]

def Sldt_rm16 : Code := ofNumber 711
def Str_rm16 : Code := ofNumber 714
def Lldt_rm16 : Code := ofNumber 717
def Ltr_rm16 : Code := ofNumber 720
def Verr_rm16 : Code := ofNumber 723
def Verw_rm16 : Code := ofNumber 726
def Jmpe_rm16 : Code := ofNumber 729
def Vmcall : Code := ofNumber 732
def Vmlaunch : Code := ofNumber 733
def Vmresume : Code := ofNumber 734
def Vmxoff : Code := ofNumber 735
def Monitor : Code := ofNumber 736
def Mwait : Code := ofNumber 737
def Clac : Code := ofNumber 738
def Stac : Code := ofNumber 739
def Encls : Code := ofNumber 740
def Xgetbv : Code := ofNumber 741
def Xsetbv : Code := ofNumber 742
def Vmfunc : Code := ofNumber 743
def Xend : Code := ofNumber 744
def Xtest : Code := ofNumber 745
def Enclu : Code := ofNumber 746
def Rdtscp : Code := ofNumber 747
def Swapgs : Code := ofNumber 748
def Sgdt_m1632_16 : Code := ofNumber 749
def Sidt_m1632_16 : Code := ofNumber 752
def Lgdt_m1632_16 : Code := ofNumber 755
def Lidt_m1632_16 : Code := ofNumber 758
def Smsw_rm16 : Code := ofNumber 761
def Lmsw_rm16 : Code := ofNumber 764
def Invlpg_m : Code := ofNumber 767
def Lar_r16_rm16 : Code := ofNumber 768
def Lsl_r16_rm16 : Code := ofNumber 771
def Syscall : Code := ofNumber 774
def Clts : Code := ofNumber 775
def Sysret : Code := ofNumber 776
def Invd : Code := ofNumber 777
def Wbnoinvd : Code := ofNumber 778
def Wbinvd : Code := ofNumber 779
def Ud2 : Code := ofNumber 780
def Prefetch_m8 : Code := ofNumber 781
def Femms : Code := ofNumber 784
def D3NOW_Pi2fw_mm_mmm64 : Code := ofNumber 785
def Movups_xmm_xmmm128 : Code := ofNumber 809
def Umov_rm8_r8 : Code := ofNumber 813
def Movups_xmmm128_xmm : Code := ofNumber 814
def Movupd_xmmm128_xmm : Code := ofNumber 815
def Movss_xmmm32_xmm : Code := ofNumber 816
def Movsd_xmmm64_xmm : Code := ofNumber 817
def Umov_rm16_r16 : Code := ofNumber 818
def Movhlps_xmm_xmm : Code := ofNumber 821
def Movsldup_xmm_xmmm128 : Code := ofNumber 822
def Movddup_xmm_xmmm64 : Code := ofNumber 823
def Movlps_xmm_m64 : Code := ofNumber 824
def Movlpd_xmm_m64 : Code := ofNumber 825
def Movlps_m64_xmm : Code := ofNumber 826
def Movlpd_m64_xmm : Code := ofNumber 827
def Unpcklps_xmm_xmmm128 : Code := ofNumber 828
def Unpckhps_xmm_xmmm128 : Code := ofNumber 830
def Movlhps_xmm_xmm : Code := ofNumber 832
def Movshdup_xmm_xmmm128 : Code := ofNumber 833
def Movhps_xmm_m64 : Code := ofNumber 834
def Movhpd_xmm_m64 : Code := ofNumber 835
def Movhps_m64_xmm : Code := ofNumber 836
def Movhpd_m64_xmm : Code := ofNumber 837
def Reservednop_rm16_r16_0F18 : Code := ofNumber 838
def Prefetchnta_m8 : Code := ofNumber 841
def Reservednop_rm16_r16_0F19 : Code := ofNumber 845
def Reservednop_rm16_r16_0F1A : Code := ofNumber 848
def Bndldx_bnd_mib : Code := ofNumber 851
def Bndmov_bnd_bndm64 : Code := ofNumber 852
def Bndcl_bnd_rm32 : Code := ofNumber 854
def Bndcu_bnd_rm32 : Code := ofNumber 856
def Reservednop_rm16_r16_0F1B : Code := ofNumber 858
def Bndstx_mib_bnd : Code := ofNumber 861
def Bndmov_bndm64_bnd : Code := ofNumber 862
def Bndmk_bnd_m32 : Code := ofNumber 864
def Bndcn_bnd_rm32 : Code := ofNumber 866
def Reservednop_rm16_r16_0F1C : Code := ofNumber 868
def Reservednop_rm16_r16_0F1D : Code := ofNumber 871
def Reservednop_rm16_r16_0F1E : Code := ofNumber 874
def Endbr64 : Code := ofNumber 877
def Endbr32 : Code := ofNumber 878
def Reservednop_rm16_r16_0F1F : Code := ofNumber 879
def Nop_rm16 : Code := ofNumber 882
def Mov_r32_cr : Code := ofNumber 885
def Mov_r32_dr : Code := ofNumber 887
def Mov_cr_r32 : Code := ofNumber 889
def Mov_dr_r32 : Code := ofNumber 891
def Movaps_xmm_xmmm128 : Code := ofNumber 893
def Movaps_xmmm128_xmm : Code := ofNumber 895
def Movapd_xmmm128_xmm : Code := ofNumber 896
def Cvtpi2ps_xmm_mmm64 : Code := ofNumber 897
def Cvtpi2pd_xmm_mmm64 : Code := ofNumber 898
def Cvtsi2ss_xmm_rm32 : Code := ofNumber 899
def Cvtsi2sd_xmm_rm32 : Code := ofNumber 901
def Movntps_m128_xmm : Code := ofNumber 903
def Movntpd_m128_xmm : Code := ofNumber 904
def Cvttss2si_r32_xmmm32 : Code := ofNumber 905
def Cvttsd2si_r32_xmmm64 : Code := ofNumber 907
def Cvtss2si_r32_xmmm32 : Code := ofNumber 909
def Cvtsd2si_r32_xmmm64 : Code := ofNumber 911
def Ucomiss_xmm_xmmm32 : Code := ofNumber 913
def Comiss_xmm_xmmm32 : Code := ofNumber 915
def Wrmsr : Code := ofNumber 917
def Getsec : Code := ofNumber 923
def Cmovo_r16_rm16 : Code := ofNumber 924
def Movmskps_r32_xmm : Code := ofNumber 972
def Sqrtps_xmm_xmmm128 : Code := ofNumber 976
def Rsqrtps_xmm_xmmm128 : Code := ofNumber 980
def Rsqrtss_xmm_xmmm32 : Code := ofNumber 981
def Rcpps_xmm_xmmm128 : Code := ofNumber 982
def Rcpss_xmm_xmmm32 : Code := ofNumber 983
def Andps_xmm_xmmm128 : Code := ofNumber 984
def Andnps_xmm_xmmm128 : Code := ofNumber 986
def Orps_xmm_xmmm128 : Code := ofNumber 988
def Xorps_xmm_xmmm128 : Code := ofNumber 990
def Addps_xmm_xmmm128 : Code := ofNumber 992
def Mulps_xmm_xmmm128 : Code := ofNumber 996
def Cvtps2pd_xmm_xmmm64 : Code := ofNumber 1000
def Cvtdq2ps_xmm_xmmm128 : Code := ofNumber 1004
def Cvtps2dq_xmm_xmmm128 : Code := ofNumber 1005
def Cvttps2dq_xmm_xmmm128 : Code := ofNumber 1006
def Subps_xmm_xmmm128 : Code := ofNumber 1007
def Minps_xmm_xmmm128 : Code := ofNumber 1011
def Divps_xmm_xmmm128 : Code := ofNumber 1015
def Maxps_xmm_xmmm128 : Code := ofNumber 1019
def Punpcklbw_mm_mmm32 : Code := ofNumber 1023
def Punpcklqdq_xmm_xmmm128 : Code := ofNumber 1047
def Punpckhqdq_xmm_xmmm128 : Code := ofNumber 1048
def Movd_mm_rm32 : Code := ofNumber 1049
def Movd_xmm_rm32 : Code := ofNumber 1051
def Movq_mm_mmm64 : Code := ofNumber 1053
def Movdqa_xmm_xmmm128 : Code := ofNumber 1054
def Movdqu_xmm_xmmm128 : Code := ofNumber 1055
def Pshufw_mm_mmm64_imm8 : Code := ofNumber 1056
def Pshufd_xmm_xmmm128_imm8 : Code := ofNumber 1057
def Pshufhw_xmm_xmmm128_imm8 : Code := ofNumber 1058
def Pshuflw_xmm_xmmm128_imm8 : Code := ofNumber 1059
def Psrlw_mm_imm8 : Code := ofNumber 1060
def Psraw_mm_imm8 : Code := ofNumber 1062
def Psllw_mm_imm8 : Code := ofNumber 1064
def Psrld_mm_imm8 : Code := ofNumber 1066
def Psrad_mm_imm8 : Code := ofNumber 1068
def Pslld_mm_imm8 : Code := ofNumber 1070
def Psrlq_mm_imm8 : Code := ofNumber 1072
def Psrldq_xmm_imm8 : Code := ofNumber 1074
def Psllq_mm_imm8 : Code := ofNumber 1075
def Pslldq_xmm_imm8 : Code := ofNumber 1077
def Pcmpeqb_mm_mmm64 : Code := ofNumber 1078
def Pcmpeqw_mm_mmm64 : Code := ofNumber 1080
def Pcmpeqd_mm_mmm64 : Code := ofNumber 1082
def Emms : Code := ofNumber 1084
def Movd_rm32_mm : Code := ofNumber 1085
def Movd_rm32_xmm : Code := ofNumber 1087
def Movq_xmm_xmmm64 : Code := ofNumber 1089
def Movq_mmm64_mm : Code := ofNumber 1090
def Movdqa_xmmm128_xmm : Code := ofNumber 1091
def Movdqu_xmmm128_xmm : Code := ofNumber 1092
def Jo_rel16 : Code := ofNumber 1093
def Seto_rm8 : Code := ofNumber 1141
def Pushw_FS : Code := ofNumber 1157
def Popw_FS : Code := ofNumber 1160
def Cpuid : Code := ofNumber 1163
def Bt_rm16_r16 : Code := ofNumber 1164
def Shld_rm16_r16_imm8 : Code := ofNumber 1167
def Shld_rm16_r16_CL : Code := ofNumber 1170
def Pushw_GS : Code := ofNumber 1173
def Popw_GS : Code := ofNumber 1176
def Rsm : Code := ofNumber 1179
def Bts_rm16_r16 : Code := ofNumber 1180
def Shrd_rm16_r16_imm8 : Code := ofNumber 1183
def Shrd_rm16_r16_CL : Code := ofNumber 1186
def Lfence : Code := ofNumber 1189
def Mfence : Code := ofNumber 1190
def Sfence : Code := ofNumber 1191
def Fxsave_m512byte : Code := ofNumber 1192
def Imul_r16_rm16 : Code := ofNumber 1200
def Cmpxchg_rm8_r8 : Code := ofNumber 1203
def Cmpxchg_rm16_r16 : Code := ofNumber 1204
def Lss_r16_m1616 : Code := ofNumber 1207
def Btr_rm16_r16 : Code := ofNumber 1210
def Lfs_r16_m1616 : Code := ofNumber 1213
def Lgs_r16_m1616 : Code := ofNumber 1216
def Movzx_r16_rm8 : Code := ofNumber 1219
def Movzx_r16_rm16 : Code := ofNumber 1222
def Popcnt_r16_rm16 : Code := ofNumber 1225
def Ud1_r16_rm16 : Code := ofNumber 1228
def Bt_rm16_imm8 : Code := ofNumber 1231
def Bts_rm16_imm8 : Code := ofNumber 1234
def Btr_rm16_imm8 : Code := ofNumber 1237
def Btc_rm16_imm8 : Code := ofNumber 1240
def Btc_rm16_r16 : Code := ofNumber 1243
def Bsf_r16_rm16 : Code := ofNumber 1246
def Tzcnt_r16_rm16 : Code := ofNumber 1249
def Bsr_r16_rm16 : Code := ofNumber 1252
def Lzcnt_r16_rm16 : Code := ofNumber 1255
def Movsx_r16_rm8 : Code := ofNumber 1258
def Movsx_r16_rm16 : Code := ofNumber 1261
def Xadd_rm8_r8 : Code := ofNumber 1264
def Xadd_rm16_r16 : Code := ofNumber 1265
def Cmpps_xmm_xmmm128_imm8 : Code := ofNumber 1268
def Cmppd_xmm_xmmm128_imm8 : Code := ofNumber 1269
def Cmpss_xmm_xmmm32_imm8 : Code := ofNumber 1270
def Cmpsd_xmm_xmmm64_imm8 : Code := ofNumber 1271
def Shufps_xmm_xmmm128_imm8 : Code := ofNumber 1272
def Shufpd_xmm_xmmm128_imm8 : Code := ofNumber 1273
def Cmpxchg8b_m64 : Code := ofNumber 1274
def Vmptrld_m64 : Code := ofNumber 1276
def Vmptrst_m64 : Code := ofNumber 1277
def Rdrand_r16 : Code := ofNumber 1278
def Rdseed_r16 : Code := ofNumber 1281
def Bswap_r16 : Code := ofNumber 1284
def Psrlw_mm_mmm64 : Code := ofNumber 1287
def Psubusb_mm_mmm64 : Code := ofNumber 1297
def Psubsb_mm_mmm64 : Code := ofNumber 1325
def Psllw_mm_mmm64 : Code := ofNumber 1341
def Psubb_mm_mmm64 : Code := ofNumber 1353
def Movq_xmmm64_xmm : Code := ofNumber 1367
def Movntq_m64_mm : Code := ofNumber 1368
def Movntdq_m128_xmm : Code := ofNumber 1369
def Ud0_r16_rm16 : Code := ofNumber 1370
def Pshufb_mm_mmm64 : Code := ofNumber 1373
def Pabsb_mm_mmm64 : Code := ofNumber 1397
def Pblendvb_xmm_xmmm128 : Code := ofNumber 1403
def Blendvps_xmm_xmmm128 : Code := ofNumber 1404
def Ptest_xmm_xmmm128 : Code := ofNumber 1406
def Pmovsxbw_xmm_xmmm64 : Code := ofNumber 1407
def Pmuldq_xmm_xmmm128 : Code := ofNumber 1413
def Packusdw_xmm_xmmm128 : Code := ofNumber 1415
def Pmovzxbw_xmm_xmmm64 : Code := ofNumber 1416
def Pcmpgtq_xmm_xmmm128 : Code := ofNumber 1422
def Aesimc_xmm_xmmm128 : Code := ofNumber 1433
def Movntdqa_xmm_m128 : Code := ofNumber 1438
def Movbe_r16_m16 : Code := ofNumber 1439
def Crc32_r32_rm8 : Code := ofNumber 1442
def Movbe_m16_r16 : Code := ofNumber 1444
def Crc32_r32_rm16 : Code := ofNumber 1447
def Roundps_xmm_xmmm128_imm8 : Code := ofNumber 1450
def Dpps_xmm_xmmm128_imm8 : Code := ofNumber 1457
def Pclmulqdq_xmm_xmmm128_imm8 : Code := ofNumber 1460
def Pcmpestrm_xmm_xmmm128_imm8 : Code := ofNumber 1461
def Aeskeygenassist_xmm_xmmm128_imm8 : Code := ofNumber 1465
def Palignr_mm_mmm64_imm8 : Code := ofNumber 1466
def Palignr_xmm_xmmm128_imm8 : Code := ofNumber 1467
def Pextrd_rm32_xmm_imm8 : Code := ofNumber 1468
def Pinsrd_xmm_rm32_imm8 : Code := ofNumber 1470

end OpcodeForest.Code
