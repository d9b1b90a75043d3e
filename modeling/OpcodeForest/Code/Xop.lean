import OpcodeForest.Code.Basic

/-!
# Codes of XOP instructions

The names in numbering order, and the first code of every run that the tables use.
-/

namespace OpcodeForest.Code

/-- The names of the codes from number 1717 on. -/
def xopNames : List String :=
  ["XOP_Vpcmov_xmm_xmm_xmmm128_xmm", "XOP_Vpcmov_ymm_ymm_ymmm256_ymm",
   "XOP_Vpcmov_xmm_xmm_xmm_xmmm128", "XOP_Vpcmov_ymm_ymm_ymm_ymmm256",
   "XOP_Vprotb_xmm_xmmm128_imm8", "XOP_Vprotw_xmm_xmmm128_imm8", "XOP_Vprotd_xmm_xmmm128_imm8",
   "XOP_Vprotq_xmm_xmmm128_imm8", "XOP_Vpcomb_xmm_xmm_xmmm128_imm8",
   "XOP_Vpcomw_xmm_xmm_xmmm128_imm8", "XOP_Vpcomd_xmm_xmm_xmmm128_imm8",
   "XOP_Vpcomq_xmm_xmm_xmmm128_imm8", "XOP_Blcfill_r32_rm32", "XOP_Blcfill_r64_rm64",
   "XOP_Blsfill_r32_rm32", "XOP_Blsfill_r64_rm64", "XOP_Blcs_r32_rm32", "XOP_Blcs_r64_rm64",
   "XOP_Tzmsk_r32_rm32", "XOP_Tzmsk_r64_rm64", "XOP_Blcic_r32_rm32", "XOP_Blcic_r64_rm64",
   "XOP_Blsic_r32_rm32", "XOP_Blsic_r64_rm64", "XOP_T1mskc_r32_rm32", "XOP_T1mskc_r64_rm64",
   "XOP_Blcmsk_r32_rm32", "XOP_Blcmsk_r64_rm64", "XOP_Blci_r32_rm32", "XOP_Blci_r64_rm64",
   "XOP_Vfrczps_xmm_xmmm128", "XOP_Vfrczps_ymm_ymmm256", "XOP_Vprotb_xmm_xmmm128_xmm",
   "XOP_Vprotb_xmm_xmm_xmmm128", "XOP_Vprotw_xmm_xmmm128_xmm", "XOP_Vprotw_xmm_xmm_xmmm128",
   "XOP_Vprotd_xmm_xmmm128_xmm", "XOP_Vprotd_xmm_xmm_xmmm128", "XOP_Vprotq_xmm_xmmm128_xmm",
   "XOP_Vprotq_xmm_xmm_xmmm128", "XOP_Bextr_r32_rm32_imm32", "XOP_Bextr_r64_rm64_imm32"]

def XOP_Vpcmov_xmm_xmm_xmmm128_xmm : Code := ofNumber 1717
def XOP_Vpcmov_xmm_xmm_xmm_xmmm128 : Code := ofNumber 1719
def XOP_Vprotb_xmm_xmmm128_imm8 : Code := ofNumber 1721
def XOP_Vpcomb_xmm_xmm_xmmm128_imm8 : Code := ofNumber 1725
def XOP_Blcfill_r32_rm32 : Code := ofNumber 1729
def XOP_Blcmsk_r32_rm32 : Code := ofNumber 1743
def XOP_Blci_r32_rm32 : Code := ofNumber 1745
def XOP_Vfrczps_xmm_xmmm128 : Code := ofNumber 1747
def XOP_Vprotb_xmm_xmmm128_xmm : Code := ofNumber 1749
def XOP_Bextr_r32_rm32_imm32 : Code := ofNumber 1757

end OpcodeForest.Code
