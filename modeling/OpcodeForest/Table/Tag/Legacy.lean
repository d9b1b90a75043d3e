import OpcodeForest.Table.Layout

/-!
# Tags of instructions without a payload
-/

namespace OpcodeForest

/-- The tag space of the one-byte and two-byte maps. -/
inductive LegacyTag where
  | byMode | byModeModRM | invalid | invalidNoModRM | invalidPair | repeated | null
  | handlerReference | arrayReference | escape | group | splitGroup | fineGroup | mandatory
  | mandatoryNoModRM | mandatoryByForm | mandatoryKept | byOption | byOptionModRM | byForm
  | simple | simpleModRM | weakSegment | strongSegment | operandSize | addressSize | lock
  | repne | rep | rex | vex2 | vex3 | xop | evex | trailing | eb | ev | ew | ed | ms | m
  | mRexW | rv | rvW | ebGb | evGv | gbEb | gvEv | gvEb | gvEw | gvM | gvMa | gvMp
  | gvMpWidened | gvMv | mvGv | gdEb | gdEv | ebIb | evIz | evIb | evIb2 | eb1 | ev1 | ebCL
  | evCL | evGvIb | evGvCL | gvEvIb | gvEvIz | evSw | swEw | regIb | ibReg | regIz | regIb3
  | regIz2 | regReg | eaxDx | dxEax | eaxIb | ibEax | pushPopReg | pushSimpleReg
  | pushSimpleRegWidened | pushPopEv | pushIz | pushIb2 | xchgRegRax | simpleReg
  | simpleRegWidened | simple2 | simple2Widened | simple3 | jb | jz | jb2 | xbegin | ap | ep
  | branchSimple | branchIw | branchEv | ib | iw | iwIb | ybReg | yvReg | yvReg2 | regXb
  | regXv | regXv2 | xbYb | xvYv | ybXb | yvXv | regYb | regYv | regOb | regOv | obReg | ovReg
  | memBx | rdCr | crRd | mf | stSti | stiSt | sti | vw | wv | vm | mv | vwIb | vq | vEv | evV
  | vEvIb | evVIb | gvW | rIb | rIbIb | pq | qp | pqIb | nIb | pEv | evP | mp | bm | mb | bEv
  | bMib | mibB
deriving DecidableEq, Repr

namespace LegacyTag

/-- In numbering order. -/
def all : List LegacyTag :=
  [byMode, byModeModRM, invalid, invalidNoModRM, invalidPair, repeated, null, handlerReference,
    arrayReference, escape, group, splitGroup, fineGroup, mandatory, mandatoryNoModRM,
    mandatoryByForm, mandatoryKept, byOption, byOptionModRM, byForm, simple, simpleModRM,
    weakSegment, strongSegment, operandSize, addressSize, lock, repne, rep, rex, vex2, vex3, xop,
    evex, trailing, eb, ev, ew, ed, ms, m, mRexW, rv, rvW, ebGb, evGv, gbEb, gvEv, gvEb, gvEw,
    gvM, gvMa, gvMp, gvMpWidened, gvMv, mvGv, gdEb, gdEv, ebIb, evIz, evIb, evIb2, eb1, ev1, ebCL,
    evCL, evGvIb, evGvCL, gvEvIb, gvEvIz, evSw, swEw, regIb, ibReg, regIz, regIb3, regIz2, regReg,
    eaxDx, dxEax, eaxIb, ibEax, pushPopReg, pushSimpleReg, pushSimpleRegWidened, pushPopEv,
    pushIz, pushIb2, xchgRegRax, simpleReg, simpleRegWidened, simple2, simple2Widened, simple3,
    jb, jz, jb2, xbegin, ap, ep, branchSimple, branchIw, branchEv, ib, iw, iwIb, ybReg, yvReg,
    yvReg2, regXb, regXv, regXv2, xbYb, xvYv, ybXb, yvXv, regYb, regYv, regOb, regOv, obReg,
    ovReg, memBx, rdCr, crRd, mf, stSti, stiSt, sti, vw, wv, vm, mv, vwIb, vq, vEv, evV, vEvIb,
    evVIb, gvW, rIb, rIbIb, pq, qp, pqIb, nIb, pEv, evP, mp, bm, mb, bEv, bMib, mibB]

def row : LegacyTag → TagRow
  | byMode => ⟨"Bitness", .node (.byMode false) [.children 2]⟩
  | byModeModRM => ⟨"Bitness_DontReadModRM", .node (.byMode true) [.children 2]⟩
  | invalid => ⟨"Invalid", .sentinel .invalid⟩
  | invalidNoModRM => ⟨"Invalid_NoModRM", .sentinel .invalidNoModRM⟩
  | invalidPair => ⟨"Invalid2", .invalidPair⟩
  | repeated => ⟨"Dup", .repeated⟩
  | null => ⟨"Null", .sentinel .null⟩
  | handlerReference => ⟨"HandlerReference", .handlerReference⟩
  | arrayReference => ⟨"ArrayReference", .arrayReference⟩
  | escape => ⟨"AnotherTable", .node .escape [.table 256]⟩
  | group => ⟨"Group", .node .group [.table 8]⟩
  | splitGroup => ⟨"Group8x8", .node .splitGroup [.table 8, .table 8]⟩
  | fineGroup => ⟨"Group8x64", .node .fineGroup [.table 8, .table 64]⟩
  | mandatory => ⟨"MandatoryPrefix", .node (.mandatory true) [.children 4]⟩
  | mandatoryNoModRM => ⟨"MandatoryPrefix_NoModRM", .node (.mandatory false) [.children 4]⟩
  | mandatoryByForm => ⟨"MandatoryPrefix3", .node .mandatoryByForm [.children 8, .number]⟩
  | mandatoryKept => ⟨"MandatoryPrefix4", .node .mandatoryKept [.children 4, .number]⟩
  | byOption => ⟨"Options", .node (.byOption false) [.children 1, .alternatives]⟩
  | byOptionModRM => ⟨"Options_DontReadModRM", .node (.byOption true) [.children 1, .alternatives]⟩
  | byForm => ⟨"Rm", .node .byForm [.children 2]⟩
  | simple => ⟨"Simple", .node (.leaf .simple) [.codes 1]⟩
  | simpleModRM => ⟨"SimpleModRM", .node (.leaf .simpleModRM) [.codes 1]⟩
  | weakSegment => ⟨"Prefix_ES_CS_SS_DS", .node (.segment false) [.register 1]⟩
  | strongSegment => ⟨"Prefix_FS_GS", .node (.segment true) [.register 1]⟩
  | operandSize => ⟨"Prefix66", .node .operandSize []⟩
  | addressSize => ⟨"Prefix67", .node .addressSize []⟩
  | lock => ⟨"PrefixF0", .node .lock []⟩
  | repne => ⟨"PrefixF2", .node .repne []⟩
  | rep => ⟨"PrefixF3", .node .rep []⟩
  | rex => ⟨"PrefixREX", .node .rex [.children 1, .number]⟩
  | vex2 => ⟨"VEX2", .node .vex2 [.children 1]⟩
  | vex3 => ⟨"VEX3", .node .vex3 [.children 1]⟩
  | xop => ⟨"XOP", .node .xop [.children 1]⟩
  | evex => ⟨"EVEX", .node .evex [.children 1]⟩
  | trailing => ⟨"D3NOW", .node .trailing [.trailing]⟩
  | eb => ⟨"Eb", .node (.leaf .eb) [.codes 1, .locks]⟩
  | ev => ⟨"Ev", .node (.leaf .ev) [.codes 3, .locks]⟩
  | ew => ⟨"Ew", .node (.leaf .ew) [.codes 3]⟩
  | ed => ⟨"Ed", .node (.leaf .ed) [.codes 1]⟩
  | ms => ⟨"Ms", .node (.leaf .ms) [.codes 3]⟩
  | m => ⟨"M", .node (.leaf .m) [.codes 1]⟩
  | mRexW => ⟨"M_REXW", .node (.leaf .mRexW) [.codes 2, .locks]⟩
  | rv => ⟨"Rv", .node (.leaf .rv) [.codes 3]⟩
  | rvW => ⟨"Rv_W", .node (.leaf .rvW) [.codes 2]⟩
  | ebGb => ⟨"Eb_Gb", .node (.leaf .ebGb) [.codes 1, .locks]⟩
  | evGv => ⟨"Ev_Gv", .node (.leaf .evGv) [.codes 3, .locks]⟩
  | gbEb => ⟨"Gb_Eb", .node (.leaf .gbEb) [.codes 1]⟩
  | gvEv => ⟨"Gv_Ev", .node (.leaf .gvEv) [.codes 3]⟩
  | gvEb => ⟨"Gv_Eb", .node (.leaf .gvEb) [.codes 3]⟩
  | gvEw => ⟨"Gv_Ew", .node (.leaf .gvEw) [.codes 3]⟩
  | gvM => ⟨"Gv_M", .node (.leaf .gvM) [.codes 3]⟩
  | gvMa => ⟨"Gv_Ma", .node (.leaf .gvMa) [.codes 2]⟩
  | gvMp => ⟨"Gv_Mp", .node (.leaf .gvMp) [.codes 3]⟩
  | gvMpWidened => ⟨"Gv_Mp_2", .node (.leaf .gvMp) [.codesWidened]⟩
  | gvMv => ⟨"Gv_Mv", .node (.leaf .gvMv) [.codes 3]⟩
  | mvGv => ⟨"Mv_Gv", .node (.leaf .mvGv) [.codes 3]⟩
  | gdEb => ⟨"Gd_Eb", .node (.leaf .gdEb) [.codes 2]⟩
  | gdEv => ⟨"Gd_Ev", .node (.leaf .gdEv) [.codes 3]⟩
  | ebIb => ⟨"Eb_Ib", .node (.leaf .ebIb) [.codes 1, .locks]⟩
  | evIz => ⟨"Ev_Iz", .node (.leaf .evIz) [.codes 3, .locks]⟩
  | evIb => ⟨"Ev_Ib", .node (.leaf .evIb) [.codes 3, .locks]⟩
  | evIb2 => ⟨"Ev_Ib2", .node (.leaf .evIb2) [.codes 3, .locks]⟩
  | eb1 => ⟨"Eb_1", .node (.leaf .eb1) [.codes 1]⟩
  | ev1 => ⟨"Ev_1", .node (.leaf .ev1) [.codes 3]⟩
  | ebCL => ⟨"Eb_CL", .node (.leaf .ebCL) [.codes 1]⟩
  | evCL => ⟨"Ev_CL", .node (.leaf .evCL) [.codes 3]⟩
  | evGvIb => ⟨"Ev_Gv_Ib", .node (.leaf .evGvIb) [.codes 3]⟩
  | evGvCL => ⟨"Ev_Gv_CL", .node (.leaf .evGvCL) [.codes 3]⟩
  | gvEvIb => ⟨"Gv_Ev_Ib", .node (.leaf .gvEvIb) [.codes 3]⟩
  | gvEvIz => ⟨"Gv_Ev_Iz", .node (.leaf .gvEvIz) [.codes 3]⟩
  | evSw => ⟨"Ev_Sw", .node (.leaf .evSw) [.codes 3]⟩
  | swEw => ⟨"Sw_Ew", .node (.leaf .swEw) [.codes 1]⟩
  | regIb => ⟨"Reg_Ib", .node (.leaf .regIb) [.codes 1, .register 1]⟩
  | ibReg => ⟨"Ib_Reg", .node (.leaf .ibReg) [.codes 1, .register 1]⟩
  | regIz => ⟨"Reg_Iz", .node (.leaf .regIz) [.codes 3]⟩
  | regIb3 => ⟨"Reg_Ib3", .node (.leaf .regIb3) [.codes 1, .number]⟩
  | regIz2 => ⟨"Reg_Iz2", .node (.leaf .regIz2) [.codes 3, .number]⟩
  | regReg => ⟨"Reg_Reg", .node (.leaf .regReg) [.codes 1, .register 1, .register 1]⟩
  | eaxDx => ⟨"eAX_DX", .node (.leaf .eaxDx) [.codesWidened]⟩
  | dxEax => ⟨"DX_eAX", .node (.leaf .dxEax) [.codesWidened]⟩
  | eaxIb => ⟨"eAX_Ib", .node (.leaf .eaxIb) [.codesWidened]⟩
  | ibEax => ⟨"Ib_eAX", .node (.leaf .ibEax) [.codesWidened]⟩
  | pushPopReg => ⟨"PushPopReg", .node (.leaf .pushPopReg) [.codes 3, .number]⟩
  | pushSimpleReg => ⟨"PushSimpleReg", .node (.leaf .pushSimpleReg) [.codes 3, .register 1]⟩
  | pushSimpleRegWidened =>
      ⟨"PushSimpleReg_2", .node (.leaf .pushSimpleReg) [.codesWidened, .register 1]⟩
  | pushPopEv => ⟨"PushPopEv", .node (.leaf .pushPopEv) [.codes 3]⟩
  | pushIz => ⟨"PushIz", .node (.leaf .pushIz) [.codes 3]⟩
  | pushIb2 => ⟨"PushIb2", .node (.leaf .pushIb2) [.codes 3]⟩
  | xchgRegRax => ⟨"XchgRegRax", .node (.leaf .xchgRegRax) [.codes 3, .number]⟩
  | simpleReg => ⟨"SimpleReg", .node (.leaf .simpleReg) [.codes 3, .number]⟩
  | simpleRegWidened => ⟨"SimpleReg_2", .node (.leaf .simpleReg) [.codesWidened, .number]⟩
  | simple2 => ⟨"Simple2", .node (.leaf .simple2) [.codes 3]⟩
  | simple2Widened => ⟨"Simple2_2", .node (.leaf .simple2) [.codesWidened]⟩
  | simple3 => ⟨"Simple3", .node (.leaf .simple3) [.codes 3]⟩
  | jb => ⟨"Jb", .node (.leaf .jb) [.codes 3]⟩
  | jz => ⟨"Jz", .node (.leaf .jz) [.codes 3]⟩
  | jb2 => ⟨"Jb2", .node (.leaf .jb2) [.codes 3]⟩
  | xbegin => ⟨"Xbegin", .node (.leaf .xbegin) [.codesWidened]⟩
  | ap => ⟨"Ap", .node (.leaf .ap) [.codes 2]⟩
  | ep => ⟨"Ep", .node (.leaf .ep) [.codes 3]⟩
  | branchSimple => ⟨"BranchSimple", .node (.leaf .branchSimple) [.codes 3]⟩
  | branchIw => ⟨"BranchIw", .node (.leaf .branchIw) [.codes 3]⟩
  | branchEv => ⟨"BranchEv", .node (.leaf .branchEv) [.codes 3]⟩
  | ib => ⟨"Ib", .node (.leaf .ib) [.codes 1]⟩
  | iw => ⟨"Iw", .node (.leaf .iw) [.codes 3]⟩
  | iwIb => ⟨"Iw_Ib", .node (.leaf .iwIb) [.codes 3]⟩
  | ybReg => ⟨"Yb_Reg", .node (.leaf .ybReg) [.codes 1, .register 1]⟩
  | yvReg => ⟨"Yv_Reg", .node (.leaf .yvReg) [.codes 3]⟩
  | yvReg2 => ⟨"Yv_Reg2", .node (.leaf .yvReg2) [.codesWidened]⟩
  | regXb => ⟨"Reg_Xb", .node (.leaf .regXb) [.codes 1, .register 1]⟩
  | regXv => ⟨"Reg_Xv", .node (.leaf .regXv) [.codes 3]⟩
  | regXv2 => ⟨"Reg_Xv2", .node (.leaf .regXv2) [.codesWidened]⟩
  | xbYb => ⟨"Xb_Yb", .node (.leaf .xbYb) [.codes 1]⟩
  | xvYv => ⟨"Xv_Yv", .node (.leaf .xvYv) [.codes 3]⟩
  | ybXb => ⟨"Yb_Xb", .node (.leaf .ybXb) [.codes 1]⟩
  | yvXv => ⟨"Yv_Xv", .node (.leaf .yvXv) [.codes 3]⟩
  | regYb => ⟨"Reg_Yb", .node (.leaf .regYb) [.codes 1, .register 1]⟩
  | regYv => ⟨"Reg_Yv", .node (.leaf .regYv) [.codes 3]⟩
  | regOb => ⟨"Reg_Ob", .node (.leaf .regOb) [.codes 1, .register 1]⟩
  | regOv => ⟨"Reg_Ov", .node (.leaf .regOv) [.codes 3]⟩
  | obReg => ⟨"Ob_Reg", .node (.leaf .obReg) [.codes 1, .register 1]⟩
  | ovReg => ⟨"Ov_Reg", .node (.leaf .ovReg) [.codes 3]⟩
  | memBx => ⟨"MemBx", .node (.leaf .memBx) [.codes 1]⟩
  | rdCr => ⟨"Rd_Cr", .node (.leaf .rdCr) [.codes 2, .register 1]⟩
  | crRd => ⟨"Cr_Rd", .node (.leaf .crRd) [.codes 2, .register 1]⟩
  | mf => ⟨"Mf", .node (.leaf .mf) [.codes 1]⟩
  | stSti => ⟨"St_Sti", .node (.leaf .stSti) [.codes 1]⟩
  | stiSt => ⟨"Sti_St", .node (.leaf .stiSt) [.codes 1]⟩
  | sti => ⟨"Sti", .node (.leaf .sti) [.codes 1]⟩
  | vw => ⟨"VW", .node (.leaf .vw) [.codes 1]⟩
  | wv => ⟨"WV", .node (.leaf .wv) [.codes 1]⟩
  | vm => ⟨"VM", .node (.leaf .vm) [.codes 1]⟩
  | mv => ⟨"MV", .node (.leaf .mv) [.codes 1]⟩
  | vwIb => ⟨"VW_Ib", .node (.leaf .vwIb) [.codes 1]⟩
  | vq => ⟨"VQ", .node (.leaf .vq) [.codes 1]⟩
  | vEv => ⟨"V_Ev", .node (.leaf .vEv) [.codes 2]⟩
  | evV => ⟨"Ev_V", .node (.leaf .evV) [.codes 2]⟩
  | vEvIb => ⟨"V_Ev_Ib", .node (.leaf .vEvIb) [.codes 2]⟩
  | evVIb => ⟨"Ev_V_Ib", .node (.leaf .evVIb) [.codes 2]⟩
  | gvW => ⟨"Gv_W", .node (.leaf .gvW) [.codes 2]⟩
  | rIb => ⟨"R_Ib", .node (.leaf .rIb) [.codes 1]⟩
  | rIbIb => ⟨"R_Ib_Ib", .node (.leaf .rIbIb) [.codes 1]⟩
  | pq => ⟨"P_Q", .node (.leaf .pq) [.codes 1]⟩
  | qp => ⟨"Q_P", .node (.leaf .qp) [.codes 1]⟩
  | pqIb => ⟨"P_Q_Ib", .node (.leaf .pqIb) [.codes 1]⟩
  | nIb => ⟨"N_Ib", .node (.leaf .nIb) [.codes 1]⟩
  | pEv => ⟨"P_Ev", .node (.leaf .pEv) [.codes 2]⟩
  | evP => ⟨"Ev_P", .node (.leaf .evP) [.codes 2]⟩
  | mp => ⟨"M_P", .node (.leaf .mp) [.codes 1]⟩
  | bm => ⟨"B_M", .node (.leaf .bm) [.codes 2]⟩
  | mb => ⟨"M_B", .node (.leaf .mb) [.codes 2]⟩
  | bEv => ⟨"B_Ev", .node (.leaf .bEv) [.codes 2]⟩
  | bMib => ⟨"B_MIB", .node (.leaf .bMib) [.codes 1]⟩
  | mibB => ⟨"MIB_B", .node (.leaf .mibB) [.codes 1]⟩

/-- The byte that spells a tag. -/
def byte (t : LegacyTag) : UInt8 := UInt8.ofNat t.ctorIdx

end LegacyTag

end OpcodeForest
