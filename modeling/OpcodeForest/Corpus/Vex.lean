import OpcodeForest.Code.Vex
import OpcodeForest.Corpus.Vex.Basic

/-!
# The table of VEX instructions

Opcodes of the `0F`, `0F38` and `0F3A` maps behind a VEX payload.
-/

namespace OpcodeForest.Corpus.Vex

open Code NodeField

/-! ### Map `0F` -/

/-- An operation on mask registers by width: word, quad, byte, double. The length is `length`. -/
def masks (first : Code) (tag : VexTag) (length : Entry → Entry) : Entry :=
  let form (n : Nat) := node tag [.code (first.offset n)]
  mandatory (length (byW (form 0) (form 1))) (length (byW (form 2) (form 3))) .invalid .invalid

def direct0F : Rows :=
  [(0x10, mandatory (packed2 VEX_Vmovups_xmm_xmmm128) (packed2 VEX_Vmovupd_xmm_xmmm128)
     (byForm (vhw VEX_Vmovss_xmm_xmm_xmm .xmm0)
       (node .vm [.code VEX_Vmovss_xmm_m32, .register .xmm0]))
     (byForm (vhw VEX_Vmovsd_xmm_xmm_xmm .xmm0)
       (node .vm [.code VEX_Vmovsd_xmm_m64, .register .xmm0]))),
   (0x11, mandatory (stores VEX_Vmovups_xmmm128_xmm) (stores VEX_Vmovupd_xmmm128_xmm)
     (byForm .invalid (node .mv [.code VEX_Vmovss_m32_xmm, .register .xmm0]))
     (byForm .invalid (node .mv [.code VEX_Vmovsd_m64_xmm, .register .xmm0]))),
   (0x28, mandatory (packed2 VEX_Vmovaps_xmm_xmmm128) (packed2 VEX_Vmovapd_xmm_xmmm128)
     .invalid .invalid),
   (0x29, mandatory (stores VEX_Vmovaps_xmmm128_xmm) (stores VEX_Vmovapd_xmmm128_xmm)
     .invalid .invalid),
   (0x2A, mandatory .invalid .invalid
     (node .vhEv [two VEX_Vcvtsi2ss_xmm_xmm_rm32, .register .xmm0])
     (node .vhEv [two VEX_Vcvtsi2sd_xmm_xmm_rm32, .register .xmm0])),
   (0x2C, mandatory .invalid .invalid
     (node .gvW [two VEX_Vcvttss2si_r32_xmmm32, .register .xmm0])
     (node .gvW [two VEX_Vcvttsd2si_r32_xmmm64, .register .xmm0])),
   (0x2E, mandatory (vw VEX_Vucomiss_xmm_xmmm32 .xmm0) (vw VEX_Vucomisd_xmm_xmmm64 .xmm0)
     .invalid .invalid),
   (0x2F, mandatory (vw VEX_Vcomiss_xmm_xmmm32 .xmm0) (vw VEX_Vcomisd_xmm_xmmm64 .xmm0)
     .invalid .invalid),
   (0x41, masks VEX_Kandw_kr_kr_kr .vkHkRk (byLength .invalid)),
   (0x44, masks VEX_Knotw_kr_kr .vkRk length0),
   (0x50, mandatory
     (byLength (node .gvRx [two VEX_Vmovmskps_r32_xmm, .register .xmm0])
       (node .gvRx [two VEX_Vmovmskps_r32_ymm, .register .ymm0]))
     (byLength (node .gvRx [two VEX_Vmovmskpd_r32_xmm, .register .xmm0])
       (node .gvRx [two VEX_Vmovmskpd_r32_ymm, .register .ymm0])) .invalid .invalid),
   (0x51, mandatory (packed2 VEX_Vsqrtps_xmm_xmmm128) (packed2 VEX_Vsqrtpd_xmm_xmmm128)
     (vhw VEX_Vsqrtss_xmm_xmm_xmmm32 .xmm0) (vhw VEX_Vsqrtsd_xmm_xmm_xmmm64 .xmm0)),
   (0x54, mandatory (packed3 VEX_Vandps_xmm_xmm_xmmm128) (packed3 VEX_Vandpd_xmm_xmm_xmmm128)
     .invalid .invalid),
   (0x57, mandatory (packed3 VEX_Vxorps_xmm_xmm_xmmm128) (packed3 VEX_Vxorpd_xmm_xmm_xmmm128)
     .invalid .invalid),
   (0x58, arithmetic VEX_Vaddps_xmm_xmm_xmmm128),
   (0x59, arithmetic VEX_Vmulps_xmm_xmm_xmmm128),
   (0x5C, arithmetic VEX_Vsubps_xmm_xmm_xmmm128),
   (0x5D, arithmetic VEX_Vminps_xmm_xmm_xmmm128),
   (0x5E, arithmetic VEX_Vdivps_xmm_xmm_xmmm128),
   (0x5F, arithmetic VEX_Vmaxps_xmm_xmm_xmmm128),
   (0x6F, mandatory .invalid (packed2 VEX_Vmovdqa_xmm_xmmm128)
     (packed2 VEX_Vmovdqu_xmm_xmmm128) .invalid),
   (0x77, node .payloadPrefixNoModRM
     [.child (node .byLengthNoModRM
        [.child (node .simple [.code VEX_Vzeroupper]), .child (node .simple [.code VEX_Vzeroall])]),
      .child .invalidNoModRM, .child .invalidNoModRM, .child .invalidNoModRM]),
   (0x7F, mandatory .invalid (stores VEX_Vmovdqa_xmmm128_xmm) (stores VEX_Vmovdqu_xmmm128_xmm)
     .invalid),
   (0x90, masks VEX_Kmovw_kr_km16 .vkWk length0),
   (0x91, masks VEX_Kmovw_m16_kr .mVk length0),
   (0x92, mandatory (length0 (w0 (node .vkR [.code VEX_Kmovw_kr_r32, .register .eax])))
     (length0 (w0 (node .vkR [.code VEX_Kmovb_kr_r32, .register .eax]))) .invalid
     (length0 (byW (node .vkR [.code VEX_Kmovd_kr_r32, .register .eax])
       (node .vkR [.code VEX_Kmovq_kr_r64, .register .rax])))),
   (0x93, mandatory (length0 (w0 (node .gVk [.code VEX_Kmovw_r32_kr, .register .eax])))
     (length0 (w0 (node .gVk [.code VEX_Kmovb_r32_kr, .register .eax]))) .invalid
     (length0 (byW (node .gVk [.code VEX_Kmovd_r32_kr, .register .eax])
       (node .gVk [.code VEX_Kmovq_r64_kr, .register .rax])))),
   (0xD4, only66 (packed3 VEX_Vpaddq_xmm_xmm_xmmm128)),
   (0xDB, only66 (packed3 VEX_Vpand_xmm_xmm_xmmm128)),
   (0xEB, only66 (packed3 VEX_Vpor_xmm_xmm_xmmm128)),
   (0xEF, only66 (packed3 VEX_Vpxor_xmm_xmm_xmmm128)),
   (0xFE, only66 (packed3 VEX_Vpaddd_xmm_xmm_xmmm128))]

/-- A shift by an immediate. -/
def shiftBy (first : Code) : Entry :=
  eachLength first fun c base => node .hrIb [.code c, .register base]

def map0F : Draft Rows := do
  let g71 ← group (byReg
    [(2, shiftBy VEX_Vpsrlw_xmm_xmm_imm8), (4, shiftBy VEX_Vpsraw_xmm_xmm_imm8),
     (6, shiftBy VEX_Vpsllw_xmm_xmm_imm8)])
  let g72 ← group (byReg
    [(2, shiftBy VEX_Vpsrld_xmm_xmm_imm8), (4, shiftBy VEX_Vpsrad_xmm_xmm_imm8),
     (6, shiftBy VEX_Vpslld_xmm_xmm_imm8)])
  let g73 ← group (byReg
    [(2, shiftBy VEX_Vpsrlq_xmm_xmm_imm8), (3, shiftBy VEX_Vpsrldq_xmm_xmm_imm8),
     (6, shiftBy VEX_Vpsllq_xmm_xmm_imm8), (7, shiftBy VEX_Vpslldq_xmm_xmm_imm8)])
  let ae ← group (byReg
    [(2, node .m [.code VEX_Vldmxcsr_m32]), (3, node .m [.code VEX_Vstmxcsr_m32])])
  return direct0F ++
    [(0x71, only66 g71), (0x72, only66 g72), (0x73, only66 g73), (0xAE, noPrefix (length0 ae))]

/-! ### Map `0F38` -/

/-- Tile instructions are of 64-bit mode. -/
def tile (e : Entry) : Entry := node .byModeModRM [.child .invalid, .child (length0 (w0 e))]

def gather (c : Code) (index data : Register) : Entry :=
  node .vxVsibHx [.code c, .register index, .register data]

/-- A broadcast from the low element of an `xmm` register. -/
def broadcast (first : Code) : Entry :=
  only66 (w0 (eachLength first fun c base =>
    node .vw [.code c, .register base, .register .xmm0]))

/-- Fused multiply and add: packed single and double. -/
def fusedPacked (first : Code) : Entry :=
  only66 (byW (packed3 first) (packed3 (first.offset 2)))

/-- Fused multiply and add: scalar single and double. -/
def fusedScalar (first : Code) : Entry :=
  only66 (byW (vhw first .xmm0) (vhw (first.offset 1) .xmm0))

def direct0F38 : Rows :=
  [(0x00, only66 (packed3 VEX_Vpshufb_xmm_xmm_xmmm128)),
   (0x17, only66 (packed2 VEX_Vptest_xmm_xmmm128)),
   (0x18, broadcast VEX_Vbroadcastss_xmm_xmmm32),
   (0x49, mandatory (tile (byForm .invalid (node .m [.code VEX_Ldtilecfg_m512])))
     (tile (byForm .invalid (node .m [.code VEX_Sttilecfg_m512]))) .invalid
     (tile (byForm (node .vt [.code VEX_Tilezero_tmm]) .invalid))),
   (0x4B, mandatory .invalid (tile (node .vtSibmem [.code VEX_Tileloaddt1_tmm_sibmem]))
     (tile (node .sibmemVt [.code VEX_Tilestored_sibmem_tmm]))
     (tile (node .vtSibmem [.code VEX_Tileloadd_tmm_sibmem]))),
   (0x58, broadcast VEX_Vpbroadcastd_xmm_xmmm32),
   (0x5E, mandatory (tile (node .vtRtHt [.code VEX_Tdpbuud_tmm_tmm_tmm]))
     (tile (node .vtRtHt [.code VEX_Tdpbusd_tmm_tmm_tmm]))
     (tile (node .vtRtHt [.code VEX_Tdpbsud_tmm_tmm_tmm]))
     (tile (node .vtRtHt [.code VEX_Tdpbssd_tmm_tmm_tmm]))),
   (0x90, only66 (byW
     (byLength (gather VEX_Vpgatherdd_xmm_vm32x_xmm .xmm0 .xmm0)
       (gather VEX_Vpgatherdd_ymm_vm32y_ymm .ymm0 .ymm0))
     (byLength (gather VEX_Vpgatherdq_xmm_vm32x_xmm .xmm0 .xmm0)
       (gather VEX_Vpgatherdq_ymm_vm32x_ymm .xmm0 .ymm0)))),
   (0x98, fusedPacked VEX_Vfmadd132ps_xmm_xmm_xmmm128),
   (0x99, fusedScalar VEX_Vfmadd132ss_xmm_xmm_xmmm32),
   (0xA8, fusedPacked VEX_Vfmadd213ps_xmm_xmm_xmmm128),
   (0xA9, fusedScalar VEX_Vfmadd213ss_xmm_xmm_xmmm32),
   (0xB8, fusedPacked VEX_Vfmadd231ps_xmm_xmm_xmmm128),
   (0xB9, fusedScalar VEX_Vfmadd231ss_xmm_xmm_xmmm32),
   (0xF2, noPrefix (length0 (node .gvHvEv [two VEX_Andn_r32_r32_rm32]))),
   (0xF5, mandatory (length0 (node .gvEvHv [two VEX_Bzhi_r32_rm32_r32])) .invalid
     (length0 (node .gvHvEv [two VEX_Pext_r32_r32_rm32]))
     (length0 (node .gvHvEv [two VEX_Pdep_r32_r32_rm32]))),
   (0xF6, mandatory .invalid .invalid .invalid
     (length0 (node .gvHvEv [two VEX_Mulx_r32_r32_rm32]))),
   (0xF7, mandatory (length0 (node .gvEvHv [two VEX_Bextr_r32_rm32_r32]))
     (length0 (node .gvEvHv [two VEX_Shlx_r32_rm32_r32]))
     (length0 (node .gvEvHv [two VEX_Sarx_r32_rm32_r32]))
     (length0 (node .gvEvHv [two VEX_Shrx_r32_rm32_r32])))]
    ++ span 0xDC 4 (fun n => only66 (packed3 (VEX_Vaesenc_xmm_xmm_xmmm128.offset (2 * n))))

def map0F38 : Draft Rows := do
  let f3 ← group (byReg
    [(1, node .hvEv [two VEX_Blsr_r32_rm32]), (2, node .hvEv [two VEX_Blsmsk_r32_rm32]),
     (3, node .hvEv [two VEX_Blsi_r32_rm32])])
  return direct0F38 ++ [(0xF3, noPrefix (length0 f3))]

/-! ### Map `0F3A` -/

def map0F3A : Rows :=
  [(0x0F, only66 (eachLength VEX_Vpalignr_xmm_xmm_xmmm128_imm8 fun c base =>
     node .vhwIbShared [.code c, .register base])),
   (0x16, only66 (length0 (node .evVIb [two VEX_Vpextrd_rm32_xmm_imm8, .register .xmm0]))),
   (0x18, only66 (w0 (byLength .invalid
     (node .vhwIb [.code VEX_Vinsertf128_ymm_ymm_xmmm128_imm8, .register .ymm0,
       .register .ymm0, .register .xmm0])))),
   (0x22, only66 (length0 (node .vhEvIb [two VEX_Vpinsrd_xmm_xmm_rm32_imm8, .register .xmm0]))),
   (0x30, only66 (length0 (byW (node .vkRkIb [.code VEX_Kshiftrb_kr_kr_imm8])
     (node .vkRkIb [.code VEX_Kshiftrw_kr_kr_imm8])))),
   (0x44, only66 (eachLength VEX_Vpclmulqdq_xmm_xmm_xmmm128_imm8 fun c base =>
     node .vhwIbShared [.code c, .register base])),
   (0x4A, only66 (w0 (eachLength VEX_Vblendvps_xmm_xmm_xmmm128_xmm fun c base =>
     node .vhwIs4 [.code c, .register base]))),
   (0xF0, mandatory .invalid .invalid .invalid
     (length0 (node .gvEvIb [two VEX_Rorx_r32_rm32_imm8])))]

def records : List Record := Draft.records do
  let rows0F ← map0F
  let rows0F38 ← map0F38
  let _ ← Draft.map rows0F
  let _ ← Draft.map rows0F38
  let _ ← Draft.map map0F3A

end OpcodeForest.Corpus.Vex
