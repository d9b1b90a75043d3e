import OpcodeForest.Code.Basic

/-!
# Codes of VEX instructions

The names in numbering order, and the first code of every run that the tables use.
-/

namespace OpcodeForest.Code

/-- The names of the codes from number 1472 on. -/
def vexNames : List String :=
  ["VEX_Vmovups_xmm_xmmm128", "VEX_Vmovups_ymm_ymmm256", "VEX_Vmovupd_xmm_xmmm128",
   "VEX_Vmovupd_ymm_ymmm256", "VEX_Vmovss_xmm_xmm_xmm", "VEX_Vmovss_xmm_m32",
   "VEX_Vmovsd_xmm_xmm_xmm", "VEX_Vmovsd_xmm_m64", "VEX_Vmovups_xmmm128_xmm",
   "VEX_Vmovups_ymmm256_ymm", "VEX_Vmovupd_xmmm128_xmm", "VEX_Vmovupd_ymmm256_ymm",
   "VEX_Vmovss_m32_xmm", "VEX_Vmovsd_m64_xmm", "VEX_Vmovaps_xmm_xmmm128",
   "VEX_Vmovaps_ymm_ymmm256", "VEX_Vmovapd_xmm_xmmm128", "VEX_Vmovapd_ymm_ymmm256",
   "VEX_Vmovaps_xmmm128_xmm", "VEX_Vmovaps_ymmm256_ymm", "VEX_Vmovapd_xmmm128_xmm",
   "VEX_Vmovapd_ymmm256_ymm", "VEX_Vcvtsi2ss_xmm_xmm_rm32", "VEX_Vcvtsi2ss_xmm_xmm_rm64",
   "VEX_Vcvtsi2sd_xmm_xmm_rm32", "VEX_Vcvtsi2sd_xmm_xmm_rm64", "VEX_Vcvttss2si_r32_xmmm32",
   "VEX_Vcvttss2si_r64_xmmm32", "VEX_Vcvttsd2si_r32_xmmm64", "VEX_Vcvttsd2si_r64_xmmm64",
   "VEX_Vucomiss_xmm_xmmm32", "VEX_Vucomisd_xmm_xmmm64", "VEX_Vcomiss_xmm_xmmm32",
   "VEX_Vcomisd_xmm_xmmm64", "VEX_Kandw_kr_kr_kr", "VEX_Kandq_kr_kr_kr", "VEX_Kandb_kr_kr_kr",
   "VEX_Kandd_kr_kr_kr", "VEX_Knotw_kr_kr", "VEX_Knotq_kr_kr", "VEX_Knotb_kr_kr",
   "VEX_Knotd_kr_kr", "VEX_Vmovmskps_r32_xmm", "VEX_Vmovmskps_r64_xmm", "VEX_Vmovmskps_r32_ymm",
   "VEX_Vmovmskps_r64_ymm", "VEX_Vmovmskpd_r32_xmm", "VEX_Vmovmskpd_r64_xmm",
   "VEX_Vmovmskpd_r32_ymm", "VEX_Vmovmskpd_r64_ymm", "VEX_Vsqrtps_xmm_xmmm128",
   "VEX_Vsqrtps_ymm_ymmm256", "VEX_Vsqrtpd_xmm_xmmm128", "VEX_Vsqrtpd_ymm_ymmm256",
   "VEX_Vsqrtss_xmm_xmm_xmmm32", "VEX_Vsqrtsd_xmm_xmm_xmmm64", "VEX_Vandps_xmm_xmm_xmmm128",
   "VEX_Vandps_ymm_ymm_ymmm256", "VEX_Vandpd_xmm_xmm_xmmm128", "VEX_Vandpd_ymm_ymm_ymmm256",
   "VEX_Vxorps_xmm_xmm_xmmm128", "VEX_Vxorps_ymm_ymm_ymmm256", "VEX_Vxorpd_xmm_xmm_xmmm128",
   "VEX_Vxorpd_ymm_ymm_ymmm256", "VEX_Vaddps_xmm_xmm_xmmm128", "VEX_Vaddps_ymm_ymm_ymmm256",
   "VEX_Vaddpd_xmm_xmm_xmmm128", "VEX_Vaddpd_ymm_ymm_ymmm256", "VEX_Vaddss_xmm_xmm_xmmm32",
   "VEX_Vaddsd_xmm_xmm_xmmm64", "VEX_Vmulps_xmm_xmm_xmmm128", "VEX_Vmulps_ymm_ymm_ymmm256",
   "VEX_Vmulpd_xmm_xmm_xmmm128", "VEX_Vmulpd_ymm_ymm_ymmm256", "VEX_Vmulss_xmm_xmm_xmmm32",
   "VEX_Vmulsd_xmm_xmm_xmmm64", "VEX_Vsubps_xmm_xmm_xmmm128", "VEX_Vsubps_ymm_ymm_ymmm256",
   "VEX_Vsubpd_xmm_xmm_xmmm128", "VEX_Vsubpd_ymm_ymm_ymmm256", "VEX_Vsubss_xmm_xmm_xmmm32",
   "VEX_Vsubsd_xmm_xmm_xmmm64", "VEX_Vminps_xmm_xmm_xmmm128", "VEX_Vminps_ymm_ymm_ymmm256",
   "VEX_Vminpd_xmm_xmm_xmmm128", "VEX_Vminpd_ymm_ymm_ymmm256", "VEX_Vminss_xmm_xmm_xmmm32",
   "VEX_Vminsd_xmm_xmm_xmmm64", "VEX_Vdivps_xmm_xmm_xmmm128", "VEX_Vdivps_ymm_ymm_ymmm256",
   "VEX_Vdivpd_xmm_xmm_xmmm128", "VEX_Vdivpd_ymm_ymm_ymmm256", "VEX_Vdivss_xmm_xmm_xmmm32",
   "VEX_Vdivsd_xmm_xmm_xmmm64", "VEX_Vmaxps_xmm_xmm_xmmm128", "VEX_Vmaxps_ymm_ymm_ymmm256",
   "VEX_Vmaxpd_xmm_xmm_xmmm128", "VEX_Vmaxpd_ymm_ymm_ymmm256", "VEX_Vmaxss_xmm_xmm_xmmm32",
   "VEX_Vmaxsd_xmm_xmm_xmmm64", "VEX_Vmovdqa_xmm_xmmm128", "VEX_Vmovdqa_ymm_ymmm256",
   "VEX_Vmovdqu_xmm_xmmm128", "VEX_Vmovdqu_ymm_ymmm256", "VEX_Vpsrlw_xmm_xmm_imm8",
   "VEX_Vpsrlw_ymm_ymm_imm8", "VEX_Vpsraw_xmm_xmm_imm8", "VEX_Vpsraw_ymm_ymm_imm8",
   "VEX_Vpsllw_xmm_xmm_imm8", "VEX_Vpsllw_ymm_ymm_imm8", "VEX_Vpsrld_xmm_xmm_imm8",
   "VEX_Vpsrld_ymm_ymm_imm8", "VEX_Vpsrad_xmm_xmm_imm8", "VEX_Vpsrad_ymm_ymm_imm8",
   "VEX_Vpslld_xmm_xmm_imm8", "VEX_Vpslld_ymm_ymm_imm8", "VEX_Vpsrlq_xmm_xmm_imm8",
   "VEX_Vpsrlq_ymm_ymm_imm8", "VEX_Vpsrldq_xmm_xmm_imm8", "VEX_Vpsrldq_ymm_ymm_imm8",
   "VEX_Vpsllq_xmm_xmm_imm8", "VEX_Vpsllq_ymm_ymm_imm8", "VEX_Vpslldq_xmm_xmm_imm8",
   "VEX_Vpslldq_ymm_ymm_imm8", "VEX_Vzeroupper", "VEX_Vzeroall", "VEX_Vmovdqa_xmmm128_xmm",
   "VEX_Vmovdqa_ymmm256_ymm", "VEX_Vmovdqu_xmmm128_xmm", "VEX_Vmovdqu_ymmm256_ymm",
   "VEX_Kmovw_kr_km16", "VEX_Kmovq_kr_km64", "VEX_Kmovb_kr_km8", "VEX_Kmovd_kr_km32",
   "VEX_Kmovw_m16_kr", "VEX_Kmovq_m64_kr", "VEX_Kmovb_m8_kr", "VEX_Kmovd_m32_kr",
   "VEX_Kmovw_kr_r32", "VEX_Kmovb_kr_r32", "VEX_Kmovd_kr_r32", "VEX_Kmovq_kr_r64",
   "VEX_Kmovw_r32_kr", "VEX_Kmovb_r32_kr", "VEX_Kmovd_r32_kr", "VEX_Kmovq_r64_kr",
   "VEX_Vldmxcsr_m32", "VEX_Vstmxcsr_m32", "VEX_Vpaddq_xmm_xmm_xmmm128",
   "VEX_Vpaddq_ymm_ymm_ymmm256", "VEX_Vpand_xmm_xmm_xmmm128", "VEX_Vpand_ymm_ymm_ymmm256",
   "VEX_Vpor_xmm_xmm_xmmm128", "VEX_Vpor_ymm_ymm_ymmm256", "VEX_Vpxor_xmm_xmm_xmmm128",
   "VEX_Vpxor_ymm_ymm_ymmm256", "VEX_Vpaddd_xmm_xmm_xmmm128", "VEX_Vpaddd_ymm_ymm_ymmm256",
   "VEX_Vpshufb_xmm_xmm_xmmm128", "VEX_Vpshufb_ymm_ymm_ymmm256", "VEX_Vptest_xmm_xmmm128",
   "VEX_Vptest_ymm_ymmm256", "VEX_Vbroadcastss_xmm_xmmm32", "VEX_Vbroadcastss_ymm_xmmm32",
   "VEX_Vpbroadcastd_xmm_xmmm32", "VEX_Vpbroadcastd_ymm_xmmm32", "VEX_Ldtilecfg_m512",
   "VEX_Sttilecfg_m512", "VEX_Tilezero_tmm", "VEX_Tileloaddt1_tmm_sibmem",
   "VEX_Tilestored_sibmem_tmm", "VEX_Tileloadd_tmm_sibmem", "VEX_Tdpbuud_tmm_tmm_tmm",
   "VEX_Tdpbusd_tmm_tmm_tmm", "VEX_Tdpbsud_tmm_tmm_tmm", "VEX_Tdpbssd_tmm_tmm_tmm",
   "VEX_Vpgatherdd_xmm_vm32x_xmm", "VEX_Vpgatherdd_ymm_vm32y_ymm", "VEX_Vpgatherdq_xmm_vm32x_xmm",
   "VEX_Vpgatherdq_ymm_vm32x_ymm", "VEX_Vfmadd132ps_xmm_xmm_xmmm128",
   "VEX_Vfmadd132ps_ymm_ymm_ymmm256", "VEX_Vfmadd132pd_xmm_xmm_xmmm128",
   "VEX_Vfmadd132pd_ymm_ymm_ymmm256", "VEX_Vfmadd213ps_xmm_xmm_xmmm128",
   "VEX_Vfmadd213ps_ymm_ymm_ymmm256", "VEX_Vfmadd213pd_xmm_xmm_xmmm128",
   "VEX_Vfmadd213pd_ymm_ymm_ymmm256", "VEX_Vfmadd231ps_xmm_xmm_xmmm128",
   "VEX_Vfmadd231ps_ymm_ymm_ymmm256", "VEX_Vfmadd231pd_xmm_xmm_xmmm128",
   "VEX_Vfmadd231pd_ymm_ymm_ymmm256", "VEX_Vfmadd132ss_xmm_xmm_xmmm32",
   "VEX_Vfmadd132sd_xmm_xmm_xmmm64", "VEX_Vfmadd213ss_xmm_xmm_xmmm32",
   "VEX_Vfmadd213sd_xmm_xmm_xmmm64", "VEX_Vfmadd231ss_xmm_xmm_xmmm32",
   "VEX_Vfmadd231sd_xmm_xmm_xmmm64", "VEX_Vaesenc_xmm_xmm_xmmm128", "VEX_Vaesenc_ymm_ymm_ymmm256",
   "VEX_Vaesenclast_xmm_xmm_xmmm128", "VEX_Vaesenclast_ymm_ymm_ymmm256",
   "VEX_Vaesdec_xmm_xmm_xmmm128", "VEX_Vaesdec_ymm_ymm_ymmm256",
   "VEX_Vaesdeclast_xmm_xmm_xmmm128", "VEX_Vaesdeclast_ymm_ymm_ymmm256", "VEX_Andn_r32_r32_rm32",
   "VEX_Andn_r64_r64_rm64", "VEX_Blsr_r32_rm32", "VEX_Blsr_r64_rm64", "VEX_Blsmsk_r32_rm32",
   "VEX_Blsmsk_r64_rm64", "VEX_Blsi_r32_rm32", "VEX_Blsi_r64_rm64", "VEX_Bzhi_r32_rm32_r32",
   "VEX_Bzhi_r64_rm64_r64", "VEX_Pext_r32_r32_rm32", "VEX_Pext_r64_r64_rm64",
   "VEX_Pdep_r32_r32_rm32", "VEX_Pdep_r64_r64_rm64", "VEX_Mulx_r32_r32_rm32",
   "VEX_Mulx_r64_r64_rm64", "VEX_Bextr_r32_rm32_r32", "VEX_Bextr_r64_rm64_r64",
   "VEX_Shlx_r32_rm32_r32", "VEX_Shlx_r64_rm64_r64", "VEX_Sarx_r32_rm32_r32",
   "VEX_Sarx_r64_rm64_r64", "VEX_Shrx_r32_rm32_r32", "VEX_Shrx_r64_rm64_r64",
   "VEX_Vpalignr_xmm_xmm_xmmm128_imm8", "VEX_Vpalignr_ymm_ymm_ymmm256_imm8",
   "VEX_Vpextrd_rm32_xmm_imm8", "VEX_Vpextrq_rm64_xmm_imm8",
   "VEX_Vinsertf128_ymm_ymm_xmmm128_imm8", "VEX_Vpinsrd_xmm_xmm_rm32_imm8",
   "VEX_Vpinsrq_xmm_xmm_rm64_imm8", "VEX_Kshiftrb_kr_kr_imm8", "VEX_Kshiftrw_kr_kr_imm8",
   "VEX_Vpclmulqdq_xmm_xmm_xmmm128_imm8", "VEX_Vpclmulqdq_ymm_ymm_ymmm256_imm8",
   "VEX_Vblendvps_xmm_xmm_xmmm128_xmm", "VEX_Vblendvps_ymm_ymm_ymmm256_ymm",
   "VEX_Rorx_r32_rm32_imm8", "VEX_Rorx_r64_rm64_imm8"]

def VEX_Vmovups_xmm_xmmm128 : Code := ofNumber 1472
def VEX_Vmovupd_xmm_xmmm128 : Code := ofNumber 1474
def VEX_Vmovss_xmm_xmm_xmm : Code := ofNumber 1476
def VEX_Vmovss_xmm_m32 : Code := ofNumber 1477
def VEX_Vmovsd_xmm_xmm_xmm : Code := ofNumber 1478
def VEX_Vmovsd_xmm_m64 : Code := ofNumber 1479
def VEX_Vmovups_xmmm128_xmm : Code := ofNumber 1480
def VEX_Vmovupd_xmmm128_xmm : Code := ofNumber 1482
def VEX_Vmovss_m32_xmm : Code := ofNumber 1484
def VEX_Vmovsd_m64_xmm : Code := ofNumber 1485
def VEX_Vmovaps_xmm_xmmm128 : Code := ofNumber 1486
def VEX_Vmovapd_xmm_xmmm128 : Code := ofNumber 1488
def VEX_Vmovaps_xmmm128_xmm : Code := ofNumber 1490
def VEX_Vmovapd_xmmm128_xmm : Code := ofNumber 1492
def VEX_Vcvtsi2ss_xmm_xmm_rm32 : Code := ofNumber 1494
def VEX_Vcvtsi2sd_xmm_xmm_rm32 : Code := ofNumber 1496
def VEX_Vcvttss2si_r32_xmmm32 : Code := ofNumber 1498
def VEX_Vcvttsd2si_r32_xmmm64 : Code := ofNumber 1500
def VEX_Vucomiss_xmm_xmmm32 : Code := ofNumber 1502
def VEX_Vucomisd_xmm_xmmm64 : Code := ofNumber 1503
def VEX_Vcomiss_xmm_xmmm32 : Code := ofNumber 1504
def VEX_Vcomisd_xmm_xmmm64 : Code := ofNumber 1505
def VEX_Kandw_kr_kr_kr : Code := ofNumber 1506
def VEX_Knotw_kr_kr : Code := ofNumber 1510
def VEX_Vmovmskps_r32_xmm : Code := ofNumber 1514
def VEX_Vmovmskps_r32_ymm : Code := ofNumber 1516
def VEX_Vmovmskpd_r32_xmm : Code := ofNumber 1518
def VEX_Vmovmskpd_r32_ymm : Code := ofNumber 1520
def VEX_Vsqrtps_xmm_xmmm128 : Code := ofNumber 1522
def VEX_Vsqrtpd_xmm_xmmm128 : Code := ofNumber 1524
def VEX_Vsqrtss_xmm_xmm_xmmm32 : Code := ofNumber 1526
def VEX_Vsqrtsd_xmm_xmm_xmmm64 : Code := ofNumber 1527
def VEX_Vandps_xmm_xmm_xmmm128 : Code := ofNumber 1528
def VEX_Vandpd_xmm_xmm_xmmm128 : Code := ofNumber 1530
def VEX_Vxorps_xmm_xmm_xmmm128 : Code := ofNumber 1532
def VEX_Vxorpd_xmm_xmm_xmmm128 : Code := ofNumber 1534
def VEX_Vaddps_xmm_xmm_xmmm128 : Code := ofNumber 1536
def VEX_Vmulps_xmm_xmm_xmmm128 : Code := ofNumber 1542
def VEX_Vsubps_xmm_xmm_xmmm128 : Code := ofNumber 1548
def VEX_Vminps_xmm_xmm_xmmm128 : Code := ofNumber 1554
def VEX_Vdivps_xmm_xmm_xmmm128 : Code := ofNumber 1560
def VEX_Vmaxps_xmm_xmm_xmmm128 : Code := ofNumber 1566
def VEX_Vmovdqa_xmm_xmmm128 : Code := ofNumber 1572
def VEX_Vmovdqu_xmm_xmmm128 : Code := ofNumber 1574
def VEX_Vpsrlw_xmm_xmm_imm8 : Code := ofNumber 1576
def VEX_Vpsraw_xmm_xmm_imm8 : Code := ofNumber 1578
def VEX_Vpsllw_xmm_xmm_imm8 : Code := ofNumber 1580
def VEX_Vpsrld_xmm_xmm_imm8 : Code := ofNumber 1582
def VEX_Vpsrad_xmm_xmm_imm8 : Code := ofNumber 1584
def VEX_Vpslld_xmm_xmm_imm8 : Code := ofNumber 1586
def VEX_Vpsrlq_xmm_xmm_imm8 : Code := ofNumber 1588
def VEX_Vpsrldq_xmm_xmm_imm8 : Code := ofNumber 1590
def VEX_Vpsllq_xmm_xmm_imm8 : Code := ofNumber 1592
def VEX_Vpslldq_xmm_xmm_imm8 : Code := ofNumber 1594
def VEX_Vzeroupper : Code := ofNumber 1596
def VEX_Vzeroall : Code := ofNumber 1597
def VEX_Vmovdqa_xmmm128_xmm : Code := ofNumber 1598
def VEX_Vmovdqu_xmmm128_xmm : Code := ofNumber 1600
def VEX_Kmovw_kr_km16 : Code := ofNumber 1602
def VEX_Kmovw_m16_kr : Code := ofNumber 1606
def VEX_Kmovw_kr_r32 : Code := ofNumber 1610
def VEX_Kmovb_kr_r32 : Code := ofNumber 1611
def VEX_Kmovd_kr_r32 : Code := ofNumber 1612
def VEX_Kmovq_kr_r64 : Code := ofNumber 1613
def VEX_Kmovw_r32_kr : Code := ofNumber 1614
def VEX_Kmovb_r32_kr : Code := ofNumber 1615
def VEX_Kmovd_r32_kr : Code := ofNumber 1616
def VEX_Kmovq_r64_kr : Code := ofNumber 1617
def VEX_Vldmxcsr_m32 : Code := ofNumber 1618
def VEX_Vstmxcsr_m32 : Code := ofNumber 1619
def VEX_Vpaddq_xmm_xmm_xmmm128 : Code := ofNumber 1620
def VEX_Vpand_xmm_xmm_xmmm128 : Code := ofNumber 1622
def VEX_Vpor_xmm_xmm_xmmm128 : Code := ofNumber 1624
def VEX_Vpxor_xmm_xmm_xmmm128 : Code := ofNumber 1626
def VEX_Vpaddd_xmm_xmm_xmmm128 : Code := ofNumber 1628
def VEX_Vpshufb_xmm_xmm_xmmm128 : Code := ofNumber 1630
def VEX_Vptest_xmm_xmmm128 : Code := ofNumber 1632
def VEX_Vbroadcastss_xmm_xmmm32 : Code := ofNumber 1634
def VEX_Vpbroadcastd_xmm_xmmm32 : Code := ofNumber 1636
def VEX_Ldtilecfg_m512 : Code := ofNumber 1638
def VEX_Sttilecfg_m512 : Code := ofNumber 1639
def VEX_Tilezero_tmm : Code := ofNumber 1640
def VEX_Tileloaddt1_tmm_sibmem : Code := ofNumber 1641
def VEX_Tilestored_sibmem_tmm : Code := ofNumber 1642
def VEX_Tileloadd_tmm_sibmem : Code := ofNumber 1643
def VEX_Tdpbuud_tmm_tmm_tmm : Code := ofNumber 1644
def VEX_Tdpbusd_tmm_tmm_tmm : Code := ofNumber 1645
def VEX_Tdpbsud_tmm_tmm_tmm : Code := ofNumber 1646
def VEX_Tdpbssd_tmm_tmm_tmm : Code := ofNumber 1647
def VEX_Vpgatherdd_xmm_vm32x_xmm : Code := ofNumber 1648
def VEX_Vpgatherdd_ymm_vm32y_ymm : Code := ofNumber 1649
def VEX_Vpgatherdq_xmm_vm32x_xmm : Code := ofNumber 1650
def VEX_Vpgatherdq_ymm_vm32x_ymm : Code := ofNumber 1651
def VEX_Vfmadd132ps_xmm_xmm_xmmm128 : Code := ofNumber 1652
def VEX_Vfmadd213ps_xmm_xmm_xmmm128 : Code := ofNumber 1656
def VEX_Vfmadd231ps_xmm_xmm_xmmm128 : Code := ofNumber 1660
def VEX_Vfmadd132ss_xmm_xmm_xmmm32 : Code := ofNumber 1664
def VEX_Vfmadd213ss_xmm_xmm_xmmm32 : Code := ofNumber 1666
def VEX_Vfmadd231ss_xmm_xmm_xmmm32 : Code := ofNumber 1668
def VEX_Vaesenc_xmm_xmm_xmmm128 : Code := ofNumber 1670
def VEX_Andn_r32_r32_rm32 : Code := ofNumber 1678
def VEX_Blsr_r32_rm32 : Code := ofNumber 1680
def VEX_Blsmsk_r32_rm32 : Code := ofNumber 1682
def VEX_Blsi_r32_rm32 : Code := ofNumber 1684
def VEX_Bzhi_r32_rm32_r32 : Code := ofNumber 1686
def VEX_Pext_r32_r32_rm32 : Code := ofNumber 1688
def VEX_Pdep_r32_r32_rm32 : Code := ofNumber 1690
def VEX_Mulx_r32_r32_rm32 : Code := ofNumber 1692
def VEX_Bextr_r32_rm32_r32 : Code := ofNumber 1694
def VEX_Shlx_r32_rm32_r32 : Code := ofNumber 1696
def VEX_Sarx_r32_rm32_r32 : Code := ofNumber 1698
def VEX_Shrx_r32_rm32_r32 : Code := ofNumber 1700
def VEX_Vpalignr_xmm_xmm_xmmm128_imm8 : Code := ofNumber 1702
def VEX_Vpextrd_rm32_xmm_imm8 : Code := ofNumber 1704
def VEX_Vinsertf128_ymm_ymm_xmmm128_imm8 : Code := ofNumber 1706
def VEX_Vpinsrd_xmm_xmm_rm32_imm8 : Code := ofNumber 1707
def VEX_Kshiftrb_kr_kr_imm8 : Code := ofNumber 1709
def VEX_Kshiftrw_kr_kr_imm8 : Code := ofNumber 1710
def VEX_Vpclmulqdq_xmm_xmm_xmmm128_imm8 : Code := ofNumber 1711
def VEX_Vblendvps_xmm_xmm_xmmm128_xmm : Code := ofNumber 1713
def VEX_Rorx_r32_rm32_imm8 : Code := ofNumber 1715

end OpcodeForest.Code
