import OpcodeForest.Code.Basic

/-!
# Codes of the floating-point opcodes

The names in numbering order, and the first code of every run that the tables use.
-/

namespace OpcodeForest.Code

/-- The names of the codes from number 580 on. -/
def floatingPointNames : List String :=
  ["Fadd_m32fp", "Fmul_m32fp", "Fcom_m32fp", "Fcomp_m32fp", "Fsub_m32fp", "Fsubr_m32fp",
   "Fdiv_m32fp", "Fdivr_m32fp", "Fadd_st0_sti", "Fmul_st0_sti", "Fcom_st0_sti", "Fcomp_st0_sti",
   "Fsub_st0_sti", "Fsubr_st0_sti", "Fdiv_st0_sti", "Fdivr_st0_sti", "Fld_sti", "Fxch_st0_sti",
   "Fnop", "Fchs", "Fabs", "Ftst", "Fxam", "Fld1", "Fldl2t", "Fldl2e", "Fldpi", "Fldlg2",
   "Fldln2", "Fldz", "F2xm1", "Fyl2x", "Fptan", "Fpatan", "Fxtract", "Fprem1", "Fdecstp",
   "Fincstp", "Fprem", "Fyl2xp1", "Fsqrt", "Fsincos", "Frndint", "Fscale", "Fsin", "Fcos",
   "Fld_m32fp", "Fst_m32fp", "Fstp_m32fp", "Fldenv_m", "Fldcw_m2byte", "Fnstenv_m",
   "Fnstcw_m2byte", "Fcmovb_st0_sti", "Fcmove_st0_sti", "Fcmovbe_st0_sti", "Fcmovu_st0_sti",
   "Fucompp", "Fiadd_m32int", "Fimul_m32int", "Ficom_m32int", "Ficomp_m32int", "Fisub_m32int",
   "Fisubr_m32int", "Fidiv_m32int", "Fidivr_m32int", "Fcmovnb_st0_sti", "Fcmovne_st0_sti",
   "Fcmovnbe_st0_sti", "Fcmovnu_st0_sti", "Fnclex", "Fninit", "Fucomi_st0_sti", "Fcomi_st0_sti",
   "Fild_m32int", "Fisttp_m32int", "Fist_m32int", "Fistp_m32int", "Fld_m80fp", "Fstp_m80fp",
   "Fadd_m64fp", "Fmul_m64fp", "Fcom_m64fp", "Fcomp_m64fp", "Fsub_m64fp", "Fsubr_m64fp",
   "Fdiv_m64fp", "Fdivr_m64fp", "Fadd_sti_st0", "Fmul_sti_st0", "Fsubr_sti_st0", "Fsub_sti_st0",
   "Fdivr_sti_st0", "Fdiv_sti_st0", "Fld_m64fp", "Fisttp_m64int", "Fst_m64fp", "Fstp_m64fp",
   "Frstor_m", "Fnsave_m", "Fnstsw_m2byte", "Ffree_sti", "Fst_sti", "Fstp_sti", "Fucom_sti",
   "Fucomp_sti", "Faddp_sti_st0", "Fmulp_sti_st0", "Fcompp", "Fsubrp_sti_st0", "Fsubp_sti_st0",
   "Fdivrp_sti_st0", "Fdivp_sti_st0", "Fiadd_m16int", "Fimul_m16int", "Ficom_m16int",
   "Ficomp_m16int", "Fisub_m16int", "Fisubr_m16int", "Fidiv_m16int", "Fidivr_m16int",
   "Fucomip_st0_sti", "Fcomip_st0_sti", "Fild_m16int", "Fisttp_m16int", "Fist_m16int",
   "Fistp_m16int", "Fbld_m80bcd", "Fild_m64int", "Fbstp_m80bcd", "Fistp_m64int"]

def Fadd_m32fp : Code := ofNumber 580
def Fadd_st0_sti : Code := ofNumber 588
def Fld_sti : Code := ofNumber 596
def Fxch_st0_sti : Code := ofNumber 597
def Fnop : Code := ofNumber 598
def Fchs : Code := ofNumber 599
def Ftst : Code := ofNumber 601
def Fld1 : Code := ofNumber 603
def F2xm1 : Code := ofNumber 610
def Fld_m32fp : Code := ofNumber 626
def Fst_m32fp : Code := ofNumber 627
def Fstp_m32fp : Code := ofNumber 628
def Fldenv_m : Code := ofNumber 629
def Fldcw_m2byte : Code := ofNumber 630
def Fnstenv_m : Code := ofNumber 631
def Fnstcw_m2byte : Code := ofNumber 632
def Fcmovb_st0_sti : Code := ofNumber 633
def Fucompp : Code := ofNumber 637
def Fiadd_m32int : Code := ofNumber 638
def Fcmovnb_st0_sti : Code := ofNumber 646
def Fnclex : Code := ofNumber 650
def Fucomi_st0_sti : Code := ofNumber 652
def Fild_m32int : Code := ofNumber 654
def Fisttp_m32int : Code := ofNumber 655
def Fist_m32int : Code := ofNumber 656
def Fistp_m32int : Code := ofNumber 657
def Fld_m80fp : Code := ofNumber 658
def Fstp_m80fp : Code := ofNumber 659
def Fadd_m64fp : Code := ofNumber 660
def Fadd_sti_st0 : Code := ofNumber 668
def Fmul_sti_st0 : Code := ofNumber 669
def Fsubr_sti_st0 : Code := ofNumber 670
def Fsub_sti_st0 : Code := ofNumber 671
def Fdivr_sti_st0 : Code := ofNumber 672
def Fdiv_sti_st0 : Code := ofNumber 673
def Fld_m64fp : Code := ofNumber 674
def Fisttp_m64int : Code := ofNumber 675
def Fst_m64fp : Code := ofNumber 676
def Fstp_m64fp : Code := ofNumber 677
def Frstor_m : Code := ofNumber 678
def Fnsave_m : Code := ofNumber 679
def Fnstsw_m2byte : Code := ofNumber 680
def Ffree_sti : Code := ofNumber 681
def Fst_sti : Code := ofNumber 682
def Fstp_sti : Code := ofNumber 683
def Fucom_sti : Code := ofNumber 684
def Fucomp_sti : Code := ofNumber 685
def Faddp_sti_st0 : Code := ofNumber 686
def Fcompp : Code := ofNumber 688
def Fsubrp_sti_st0 : Code := ofNumber 689
def Fiadd_m16int : Code := ofNumber 693
def Fucomip_st0_sti : Code := ofNumber 701
def Fild_m16int : Code := ofNumber 703

end OpcodeForest.Code
