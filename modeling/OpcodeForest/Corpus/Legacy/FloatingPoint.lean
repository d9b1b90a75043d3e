import OpcodeForest.Code.FloatingPoint
import OpcodeForest.Corpus.Legacy.Basic

/-!
# Floating-point opcodes

Opcodes `D8` to `DF`. Memory forms go by the ModRM `reg` field. Register forms do too, or go by
all six low bits where single encodings are instructions of their own.
-/

namespace OpcodeForest.Corpus.Legacy.FloatingPoint

open Code

def mf (c : Code) : Entry := node .mf [.code c]
def stSti (c : Code) : Entry := node .stSti [.code c]
def stiSt (c : Code) : Entry := node .stiSt [.code c]
def sti (c : Code) : Entry := node .sti [.code c]

/-- Eight memory forms with consecutive codes. -/
def mf8 (first : Code) : List Entry := byReg (span 0 8 fun n => mf (first.offset n))

/-- Rows of a fine table with consecutive codes, from `reg` on. -/
def fineRows (reg n : Nat) (first : Code) (form : Code → Entry) : Rows :=
  (List.range n).flatMap fun k => fineRow (reg + k) (form (first.offset k))

/-- Single places of a fine table with consecutive codes. -/
def singles (place n : Nat) (first : Code) : Rows :=
  span place n fun k => simple (first.offset k)

def fine (rows : Rows) : List Entry := tabulate 64 .invalid rows

def groups : Draft Rows := do
  let d8 ← splitGroup (mf8 Fadd_m32fp) (byReg (span 0 8 fun n => stSti (Fadd_st0_sti.offset n)))
  let d9 ← fineGroup
    [mf Fld_m32fp, .invalid, mf Fst_m32fp, mf Fstp_m32fp, mf Fldenv_m, mf Fldcw_m2byte,
     mf Fnstenv_m, mf Fnstcw_m2byte]
    (fine (fineRow 0 (sti Fld_sti) ++ fineRow 1 (stSti Fxch_st0_sti) ++ singles 0x10 1 Fnop
      ++ singles 0x20 2 Fchs ++ singles 0x24 2 Ftst ++ singles 0x28 7 Fld1
      ++ singles 0x30 16 F2xm1))
  let da ← fineGroup (mf8 Fiadd_m32int)
    (fine (fineRows 0 4 Fcmovb_st0_sti stSti ++ singles 0x29 1 Fucompp))
  let db ← fineGroup
    [mf Fild_m32int, mf Fisttp_m32int, mf Fist_m32int, mf Fistp_m32int, .invalid, mf Fld_m80fp,
     .invalid, mf Fstp_m80fp]
    (fine (fineRows 0 4 Fcmovnb_st0_sti stSti ++ singles 0x22 2 Fnclex
      ++ fineRows 5 2 Fucomi_st0_sti stSti))
  let dc ← splitGroup (mf8 Fadd_m64fp)
    [stiSt Fadd_sti_st0, stiSt Fmul_sti_st0, .invalid, .invalid, stiSt Fsubr_sti_st0,
     stiSt Fsub_sti_st0, stiSt Fdivr_sti_st0, stiSt Fdiv_sti_st0]
  let dd ← splitGroup
    [mf Fld_m64fp, mf Fisttp_m64int, mf Fst_m64fp, mf Fstp_m64fp, mf Frstor_m, .invalid,
     mf Fnsave_m, mf Fnstsw_m2byte]
    [sti Ffree_sti, .invalid, sti Fst_sti, sti Fstp_sti, sti Fucom_sti, sti Fucomp_sti, .invalid,
     .invalid]
  let de ← fineGroup (mf8 Fiadd_m16int)
    (fine (fineRows 0 2 Faddp_sti_st0 stiSt ++ singles 0x19 1 Fcompp
      ++ fineRows 4 4 Fsubrp_sti_st0 stiSt))
  let df ← fineGroup (mf8 Fild_m16int) (fine (fineRows 5 2 Fucomip_st0_sti stSti))
  return [(0xD8, d8), (0xD9, d9), (0xDA, da), (0xDB, db), (0xDC, dc), (0xDD, dd), (0xDE, de),
          (0xDF, df)]

end OpcodeForest.Corpus.Legacy.FloatingPoint
