import OpcodeForest.Code.Basic

/-!
# Codes of the one-byte map

The names in numbering order, and the first code of every run that the tables use.
-/

namespace OpcodeForest.Code

/-- The names of the codes from number 0 on. -/
def oneByteNames : List String :=
  ["Invalid", "Add_rm8_r8", "Add_rm16_r16", "Add_rm32_r32", "Add_rm64_r64", "Add_r8_rm8",
   "Add_r16_rm16", "Add_r32_rm32", "Add_r64_rm64", "Add_AL_imm8", "Add_AX_imm16", "Add_EAX_imm32",
   "Add_RAX_imm32", "Or_rm8_r8", "Or_rm16_r16", "Or_rm32_r32", "Or_rm64_r64", "Or_r8_rm8",
   "Or_r16_rm16", "Or_r32_rm32", "Or_r64_rm64", "Or_AL_imm8", "Or_AX_imm16", "Or_EAX_imm32",
   "Or_RAX_imm32", "Adc_rm8_r8", "Adc_rm16_r16", "Adc_rm32_r32", "Adc_rm64_r64", "Adc_r8_rm8",
   "Adc_r16_rm16", "Adc_r32_rm32", "Adc_r64_rm64", "Adc_AL_imm8", "Adc_AX_imm16", "Adc_EAX_imm32",
   "Adc_RAX_imm32", "Sbb_rm8_r8", "Sbb_rm16_r16", "Sbb_rm32_r32", "Sbb_rm64_r64", "Sbb_r8_rm8",
   "Sbb_r16_rm16", "Sbb_r32_rm32", "Sbb_r64_rm64", "Sbb_AL_imm8", "Sbb_AX_imm16", "Sbb_EAX_imm32",
   "Sbb_RAX_imm32", "And_rm8_r8", "And_rm16_r16", "And_rm32_r32", "And_rm64_r64", "And_r8_rm8",
   "And_r16_rm16", "And_r32_rm32", "And_r64_rm64", "And_AL_imm8", "And_AX_imm16", "And_EAX_imm32",
   "And_RAX_imm32", "Sub_rm8_r8", "Sub_rm16_r16", "Sub_rm32_r32", "Sub_rm64_r64", "Sub_r8_rm8",
   "Sub_r16_rm16", "Sub_r32_rm32", "Sub_r64_rm64", "Sub_AL_imm8", "Sub_AX_imm16", "Sub_EAX_imm32",
   "Sub_RAX_imm32", "Xor_rm8_r8", "Xor_rm16_r16", "Xor_rm32_r32", "Xor_rm64_r64", "Xor_r8_rm8",
   "Xor_r16_rm16", "Xor_r32_rm32", "Xor_r64_rm64", "Xor_AL_imm8", "Xor_AX_imm16", "Xor_EAX_imm32",
   "Xor_RAX_imm32", "Cmp_rm8_r8", "Cmp_rm16_r16", "Cmp_rm32_r32", "Cmp_rm64_r64", "Cmp_r8_rm8",
   "Cmp_r16_rm16", "Cmp_r32_rm32", "Cmp_r64_rm64", "Cmp_AL_imm8", "Cmp_AX_imm16", "Cmp_EAX_imm32",
   "Cmp_RAX_imm32", "Pushw_ES", "Pushd_ES", "Popw_ES", "Popd_ES", "Pushw_CS", "Pushd_CS",
   "Pushw_SS", "Pushd_SS", "Popw_SS", "Popd_SS", "Pushw_DS", "Pushd_DS", "Popw_DS", "Popd_DS",
   "Daa", "Das", "Aaa", "Aas", "Inc_r16", "Inc_r32", "Dec_r16", "Dec_r32", "Push_r16", "Push_r32",
   "Push_r64", "Pop_r16", "Pop_r32", "Pop_r64", "Pushaw", "Pushad", "Popaw", "Popad",
   "Bound_r16_m1616", "Bound_r32_m3232", "Movsxd_r16_rm16", "Movsxd_r32_rm32", "Movsxd_r64_rm32",
   "Push_imm16", "Pushd_imm32", "Pushq_imm32", "Imul_r16_rm16_imm16", "Imul_r32_rm32_imm32",
   "Imul_r64_rm64_imm32", "Pushw_imm8", "Pushd_imm8", "Pushq_imm8", "Imul_r16_rm16_imm8",
   "Imul_r32_rm32_imm8", "Imul_r64_rm64_imm8", "Insb_m8_DX", "Insw_m16_DX", "Insd_m32_DX",
   "Outsb_DX_m8", "Outsw_DX_m16", "Outsd_DX_m32", "Jo_rel8_16", "Jo_rel8_32", "Jo_rel8_64",
   "Jno_rel8_16", "Jno_rel8_32", "Jno_rel8_64", "Jb_rel8_16", "Jb_rel8_32", "Jb_rel8_64",
   "Jae_rel8_16", "Jae_rel8_32", "Jae_rel8_64", "Je_rel8_16", "Je_rel8_32", "Je_rel8_64",
   "Jne_rel8_16", "Jne_rel8_32", "Jne_rel8_64", "Jbe_rel8_16", "Jbe_rel8_32", "Jbe_rel8_64",
   "Ja_rel8_16", "Ja_rel8_32", "Ja_rel8_64", "Js_rel8_16", "Js_rel8_32", "Js_rel8_64",
   "Jns_rel8_16", "Jns_rel8_32", "Jns_rel8_64", "Jp_rel8_16", "Jp_rel8_32", "Jp_rel8_64",
   "Jnp_rel8_16", "Jnp_rel8_32", "Jnp_rel8_64", "Jl_rel8_16", "Jl_rel8_32", "Jl_rel8_64",
   "Jge_rel8_16", "Jge_rel8_32", "Jge_rel8_64", "Jle_rel8_16", "Jle_rel8_32", "Jle_rel8_64",
   "Jg_rel8_16", "Jg_rel8_32", "Jg_rel8_64", "Add_rm8_imm8", "Or_rm8_imm8", "Adc_rm8_imm8",
   "Sbb_rm8_imm8", "And_rm8_imm8", "Sub_rm8_imm8", "Xor_rm8_imm8", "Cmp_rm8_imm8",
   "Add_rm16_imm16", "Add_rm32_imm32", "Add_rm64_imm32", "Or_rm16_imm16", "Or_rm32_imm32",
   "Or_rm64_imm32", "Adc_rm16_imm16", "Adc_rm32_imm32", "Adc_rm64_imm32", "Sbb_rm16_imm16",
   "Sbb_rm32_imm32", "Sbb_rm64_imm32", "And_rm16_imm16", "And_rm32_imm32", "And_rm64_imm32",
   "Sub_rm16_imm16", "Sub_rm32_imm32", "Sub_rm64_imm32", "Xor_rm16_imm16", "Xor_rm32_imm32",
   "Xor_rm64_imm32", "Cmp_rm16_imm16", "Cmp_rm32_imm32", "Cmp_rm64_imm32", "Add_rm8_imm8_82",
   "Or_rm8_imm8_82", "Adc_rm8_imm8_82", "Sbb_rm8_imm8_82", "And_rm8_imm8_82", "Sub_rm8_imm8_82",
   "Xor_rm8_imm8_82", "Cmp_rm8_imm8_82", "Add_rm16_imm8", "Add_rm32_imm8", "Add_rm64_imm8",
   "Or_rm16_imm8", "Or_rm32_imm8", "Or_rm64_imm8", "Adc_rm16_imm8", "Adc_rm32_imm8",
   "Adc_rm64_imm8", "Sbb_rm16_imm8", "Sbb_rm32_imm8", "Sbb_rm64_imm8", "And_rm16_imm8",
   "And_rm32_imm8", "And_rm64_imm8", "Sub_rm16_imm8", "Sub_rm32_imm8", "Sub_rm64_imm8",
   "Xor_rm16_imm8", "Xor_rm32_imm8", "Xor_rm64_imm8", "Cmp_rm16_imm8", "Cmp_rm32_imm8",
   "Cmp_rm64_imm8", "Test_rm8_r8", "Test_rm16_r16", "Test_rm32_r32", "Test_rm64_r64",
   "Xchg_rm8_r8", "Xchg_rm16_r16", "Xchg_rm32_r32", "Xchg_rm64_r64", "Mov_rm8_r8", "Mov_rm16_r16",
   "Mov_rm32_r32", "Mov_rm64_r64", "Mov_r8_rm8", "Mov_r16_rm16", "Mov_r32_rm32", "Mov_r64_rm64",
   "Mov_rm16_Sreg", "Mov_r32m16_Sreg", "Mov_r64m16_Sreg", "Lea_r16_m", "Lea_r32_m", "Lea_r64_m",
   "Mov_Sreg_rm16", "Pop_rm16", "Pop_rm32", "Pop_rm64", "Xchg_r16_AX", "Xchg_r32_EAX",
   "Xchg_r64_RAX", "Cbw", "Cwde", "Cdqe", "Cwd", "Cdq", "Cqo", "Call_ptr1616", "Call_ptr1632",
   "Wait", "Pushfw", "Pushfd", "Pushfq", "Popfw", "Popfd", "Popfq", "Sahf", "Lahf",
   "Mov_AL_moffs8", "Mov_AX_moffs16", "Mov_EAX_moffs32", "Mov_RAX_moffs64", "Mov_moffs8_AL",
   "Mov_moffs16_AX", "Mov_moffs32_EAX", "Mov_moffs64_RAX", "Movsb_m8_m8", "Movsw_m16_m16",
   "Movsd_m32_m32", "Movsq_m64_m64", "Cmpsb_m8_m8", "Cmpsw_m16_m16", "Cmpsd_m32_m32",
   "Cmpsq_m64_m64", "Test_AL_imm8", "Test_AX_imm16", "Test_EAX_imm32", "Test_RAX_imm32",
   "Stosb_m8_AL", "Stosw_m16_AX", "Stosd_m32_EAX", "Stosq_m64_RAX", "Lodsb_AL_m8", "Lodsw_AX_m16",
   "Lodsd_EAX_m32", "Lodsq_RAX_m64", "Scasb_AL_m8", "Scasw_AX_m16", "Scasd_EAX_m32",
   "Scasq_RAX_m64", "Mov_r8_imm8", "Mov_r16_imm16", "Mov_r32_imm32", "Mov_r64_imm64",
   "Rol_rm8_imm8", "Ror_rm8_imm8", "Rcl_rm8_imm8", "Rcr_rm8_imm8", "Shl_rm8_imm8", "Shr_rm8_imm8",
   "Sal_rm8_imm8", "Sar_rm8_imm8", "Rol_rm16_imm8", "Rol_rm32_imm8", "Rol_rm64_imm8",
   "Ror_rm16_imm8", "Ror_rm32_imm8", "Ror_rm64_imm8", "Rcl_rm16_imm8", "Rcl_rm32_imm8",
   "Rcl_rm64_imm8", "Rcr_rm16_imm8", "Rcr_rm32_imm8", "Rcr_rm64_imm8", "Shl_rm16_imm8",
   "Shl_rm32_imm8", "Shl_rm64_imm8", "Shr_rm16_imm8", "Shr_rm32_imm8", "Shr_rm64_imm8",
   "Sal_rm16_imm8", "Sal_rm32_imm8", "Sal_rm64_imm8", "Sar_rm16_imm8", "Sar_rm32_imm8",
   "Sar_rm64_imm8", "Rol_rm8_1", "Ror_rm8_1", "Rcl_rm8_1", "Rcr_rm8_1", "Shl_rm8_1", "Shr_rm8_1",
   "Sal_rm8_1", "Sar_rm8_1", "Rol_rm16_1", "Rol_rm32_1", "Rol_rm64_1", "Ror_rm16_1", "Ror_rm32_1",
   "Ror_rm64_1", "Rcl_rm16_1", "Rcl_rm32_1", "Rcl_rm64_1", "Rcr_rm16_1", "Rcr_rm32_1",
   "Rcr_rm64_1", "Shl_rm16_1", "Shl_rm32_1", "Shl_rm64_1", "Shr_rm16_1", "Shr_rm32_1",
   "Shr_rm64_1", "Sal_rm16_1", "Sal_rm32_1", "Sal_rm64_1", "Sar_rm16_1", "Sar_rm32_1",
   "Sar_rm64_1", "Rol_rm8_CL", "Ror_rm8_CL", "Rcl_rm8_CL", "Rcr_rm8_CL", "Shl_rm8_CL",
   "Shr_rm8_CL", "Sal_rm8_CL", "Sar_rm8_CL", "Rol_rm16_CL", "Rol_rm32_CL", "Rol_rm64_CL",
   "Ror_rm16_CL", "Ror_rm32_CL", "Ror_rm64_CL", "Rcl_rm16_CL", "Rcl_rm32_CL", "Rcl_rm64_CL",
   "Rcr_rm16_CL", "Rcr_rm32_CL", "Rcr_rm64_CL", "Shl_rm16_CL", "Shl_rm32_CL", "Shl_rm64_CL",
   "Shr_rm16_CL", "Shr_rm32_CL", "Shr_rm64_CL", "Sal_rm16_CL", "Sal_rm32_CL", "Sal_rm64_CL",
   "Sar_rm16_CL", "Sar_rm32_CL", "Sar_rm64_CL", "Retnw_imm16", "Retnd_imm16", "Retnq_imm16",
   "Retnw", "Retnd", "Retnq", "Les_r16_m1616", "Les_r32_m1632", "Lds_r16_m1616", "Lds_r32_m1632",
   "Mov_rm8_imm8", "Xabort_imm8", "Mov_rm16_imm16", "Mov_rm32_imm32", "Mov_rm64_imm32",
   "Xbegin_rel16", "Xbegin_rel32", "Enterw_imm16_imm8", "Enterd_imm16_imm8", "Enterq_imm16_imm8",
   "Leavew", "Leaved", "Leaveq", "Retfw_imm16", "Retfd_imm16", "Retfq_imm16", "Retfw", "Retfd",
   "Retfq", "Int3", "Int_imm8", "Into", "Iretw", "Iretd", "Iretq", "Aam_imm8", "Aad_imm8", "Salc",
   "Xlat_m8", "Loopne_rel8_CX", "Loopne_rel8_ECX", "Loopne_rel8_RCX", "Loope_rel8_CX",
   "Loope_rel8_ECX", "Loope_rel8_RCX", "Loop_rel8_CX", "Loop_rel8_ECX", "Loop_rel8_RCX",
   "Jcxz_rel8", "Jecxz_rel8", "Jrcxz_rel8", "In_AL_imm8", "In_AX_imm8", "In_EAX_imm8",
   "Out_imm8_AL", "Out_imm8_AX", "Out_imm8_EAX", "Call_rel16", "Call_rel32_32", "Call_rel32_64",
   "Jmp_rel16", "Jmp_rel32_32", "Jmp_rel32_64", "Jmp_ptr1616", "Jmp_ptr1632", "Jmp_rel8_16",
   "Jmp_rel8_32", "Jmp_rel8_64", "In_AL_DX", "In_AX_DX", "In_EAX_DX", "Out_DX_AL", "Out_DX_AX",
   "Out_DX_EAX", "Int1", "Hlt", "Cmc", "Test_rm8_imm8", "Test_rm8_imm8_F6r1", "Not_rm8",
   "Neg_rm8", "Mul_rm8", "Imul_rm8", "Div_rm8", "Idiv_rm8", "Test_rm16_imm16", "Test_rm32_imm32",
   "Test_rm64_imm32", "Test_rm16_imm16_F7r1", "Test_rm32_imm32_F7r1", "Test_rm64_imm32_F7r1",
   "Not_rm16", "Not_rm32", "Not_rm64", "Neg_rm16", "Neg_rm32", "Neg_rm64", "Mul_rm16", "Mul_rm32",
   "Mul_rm64", "Imul_rm16", "Imul_rm32", "Imul_rm64", "Div_rm16", "Div_rm32", "Div_rm64",
   "Idiv_rm16", "Idiv_rm32", "Idiv_rm64", "Clc", "Stc", "Cli", "Sti", "Cld", "Std", "Inc_rm8",
   "Dec_rm8", "Inc_rm16", "Inc_rm32", "Inc_rm64", "Dec_rm16", "Dec_rm32", "Dec_rm64", "Call_rm16",
   "Call_rm32", "Call_rm64", "Call_m1616", "Call_m1632", "Call_m1664", "Jmp_rm16", "Jmp_rm32",
   "Jmp_rm64", "Jmp_m1616", "Jmp_m1632", "Jmp_m1664", "Push_rm16", "Push_rm32", "Push_rm64"]

def Add_rm8_r8 : Code := ofNumber 1
def Or_rm8_r8 : Code := ofNumber 13
def Adc_rm8_r8 : Code := ofNumber 25
def Sbb_rm8_r8 : Code := ofNumber 37
def And_rm8_r8 : Code := ofNumber 49
def Sub_rm8_r8 : Code := ofNumber 61
def Xor_rm8_r8 : Code := ofNumber 73
def Cmp_rm8_r8 : Code := ofNumber 85
def Pushw_ES : Code := ofNumber 97
def Popw_ES : Code := ofNumber 99
def Pushw_CS : Code := ofNumber 101
def Pushw_SS : Code := ofNumber 103
def Popw_SS : Code := ofNumber 105
def Pushw_DS : Code := ofNumber 107
def Popw_DS : Code := ofNumber 109
def Daa : Code := ofNumber 111
def Das : Code := ofNumber 112
def Aaa : Code := ofNumber 113
def Aas : Code := ofNumber 114
def Inc_r16 : Code := ofNumber 115
def Dec_r16 : Code := ofNumber 117
def Push_r16 : Code := ofNumber 119
def Pop_r16 : Code := ofNumber 122
def Pushaw : Code := ofNumber 125
def Popaw : Code := ofNumber 127
def Bound_r16_m1616 : Code := ofNumber 129
def Movsxd_r16_rm16 : Code := ofNumber 131
def Push_imm16 : Code := ofNumber 134
def Imul_r16_rm16_imm16 : Code := ofNumber 137
def Pushw_imm8 : Code := ofNumber 140
def Imul_r16_rm16_imm8 : Code := ofNumber 143
def Insb_m8_DX : Code := ofNumber 146
def Insw_m16_DX : Code := ofNumber 147
def Outsb_DX_m8 : Code := ofNumber 149
def Outsw_DX_m16 : Code := ofNumber 150
def Jo_rel8_16 : Code := ofNumber 152
def Add_rm8_imm8 : Code := ofNumber 200
def Add_rm16_imm16 : Code := ofNumber 208
def Add_rm8_imm8_82 : Code := ofNumber 232
def Add_rm16_imm8 : Code := ofNumber 240
def Test_rm8_r8 : Code := ofNumber 264
def Test_rm16_r16 : Code := ofNumber 265
def Xchg_rm8_r8 : Code := ofNumber 268
def Xchg_rm16_r16 : Code := ofNumber 269
def Mov_rm8_r8 : Code := ofNumber 272
def Mov_rm16_r16 : Code := ofNumber 273
def Mov_r8_rm8 : Code := ofNumber 276
def Mov_r16_rm16 : Code := ofNumber 277
def Mov_rm16_Sreg : Code := ofNumber 280
def Lea_r16_m : Code := ofNumber 283
def Mov_Sreg_rm16 : Code := ofNumber 286
def Pop_rm16 : Code := ofNumber 287
def Xchg_r16_AX : Code := ofNumber 290
def Cbw : Code := ofNumber 293
def Cwd : Code := ofNumber 296
def Call_ptr1616 : Code := ofNumber 299
def Wait : Code := ofNumber 301
def Pushfw : Code := ofNumber 302
def Popfw : Code := ofNumber 305
def Sahf : Code := ofNumber 308
def Lahf : Code := ofNumber 309
def Mov_AL_moffs8 : Code := ofNumber 310
def Mov_AX_moffs16 : Code := ofNumber 311
def Mov_moffs8_AL : Code := ofNumber 314
def Mov_moffs16_AX : Code := ofNumber 315
def Movsb_m8_m8 : Code := ofNumber 318
def Movsw_m16_m16 : Code := ofNumber 319
def Cmpsb_m8_m8 : Code := ofNumber 322
def Cmpsw_m16_m16 : Code := ofNumber 323
def Test_AL_imm8 : Code := ofNumber 326
def Test_AX_imm16 : Code := ofNumber 327
def Stosb_m8_AL : Code := ofNumber 330
def Stosw_m16_AX : Code := ofNumber 331
def Lodsb_AL_m8 : Code := ofNumber 334
def Lodsw_AX_m16 : Code := ofNumber 335
def Scasb_AL_m8 : Code := ofNumber 338
def Scasw_AX_m16 : Code := ofNumber 339
def Mov_r8_imm8 : Code := ofNumber 342
def Mov_r16_imm16 : Code := ofNumber 343
def Rol_rm8_imm8 : Code := ofNumber 346
def Rol_rm16_imm8 : Code := ofNumber 354
def Rol_rm8_1 : Code := ofNumber 378
def Rol_rm16_1 : Code := ofNumber 386
def Rol_rm8_CL : Code := ofNumber 410
def Rol_rm16_CL : Code := ofNumber 418
def Retnw_imm16 : Code := ofNumber 442
def Retnw : Code := ofNumber 445
def Les_r16_m1616 : Code := ofNumber 448
def Lds_r16_m1616 : Code := ofNumber 450
def Mov_rm8_imm8 : Code := ofNumber 452
def Xabort_imm8 : Code := ofNumber 453
def Mov_rm16_imm16 : Code := ofNumber 454
def Xbegin_rel16 : Code := ofNumber 457
def Enterw_imm16_imm8 : Code := ofNumber 459
def Leavew : Code := ofNumber 462
def Retfw_imm16 : Code := ofNumber 465
def Retfw : Code := ofNumber 468
def Int3 : Code := ofNumber 471
def Int_imm8 : Code := ofNumber 472
def Into : Code := ofNumber 473
def Iretw : Code := ofNumber 474
def Aam_imm8 : Code := ofNumber 477
def Aad_imm8 : Code := ofNumber 478
def Salc : Code := ofNumber 479
def Xlat_m8 : Code := ofNumber 480
def Loopne_rel8_CX : Code := ofNumber 481
def Loope_rel8_CX : Code := ofNumber 484
def Loop_rel8_CX : Code := ofNumber 487
def Jcxz_rel8 : Code := ofNumber 490
def In_AL_imm8 : Code := ofNumber 493
def In_AX_imm8 : Code := ofNumber 494
def Out_imm8_AL : Code := ofNumber 496
def Out_imm8_AX : Code := ofNumber 497
def Call_rel16 : Code := ofNumber 499
def Jmp_rel16 : Code := ofNumber 502
def Jmp_ptr1616 : Code := ofNumber 505
def Jmp_rel8_16 : Code := ofNumber 507
def In_AL_DX : Code := ofNumber 510
def In_AX_DX : Code := ofNumber 511
def Out_DX_AL : Code := ofNumber 513
def Out_DX_AX : Code := ofNumber 514
def Int1 : Code := ofNumber 516
def Hlt : Code := ofNumber 517
def Cmc : Code := ofNumber 518
def Test_rm8_imm8 : Code := ofNumber 519
def Test_rm8_imm8_F6r1 : Code := ofNumber 520
def Not_rm8 : Code := ofNumber 521
def Neg_rm8 : Code := ofNumber 522
def Mul_rm8 : Code := ofNumber 523
def Imul_rm8 : Code := ofNumber 524
def Div_rm8 : Code := ofNumber 525
def Idiv_rm8 : Code := ofNumber 526
def Test_rm16_imm16 : Code := ofNumber 527
def Test_rm16_imm16_F7r1 : Code := ofNumber 530
def Not_rm16 : Code := ofNumber 533
def Neg_rm16 : Code := ofNumber 536
def Mul_rm16 : Code := ofNumber 539
def Imul_rm16 : Code := ofNumber 542
def Div_rm16 : Code := ofNumber 545
def Idiv_rm16 : Code := ofNumber 548
def Clc : Code := ofNumber 551
def Inc_rm8 : Code := ofNumber 557
def Dec_rm8 : Code := ofNumber 558
def Inc_rm16 : Code := ofNumber 559
def Dec_rm16 : Code := ofNumber 562
def Call_rm16 : Code := ofNumber 565
def Call_m1616 : Code := ofNumber 568
def Jmp_rm16 : Code := ofNumber 571
def Jmp_m1616 : Code := ofNumber 574
def Push_rm16 : Code := ofNumber 577

end OpcodeForest.Code
