/-!
# Operand forms

An instruction's operand form says which operands it takes and where the encoding spells them.
The letters are those of the processor manuals' opcode maps: `E` a register or memory operand
named by the ModRM byte, `G` its register field, `I` an immediate, `J` a branch displacement,
`M` memory only, `O` an absolute offset, `X` and `Y` string operands, `V`, `H` and `W` vector
registers, `P` and `Q` MMX registers, `K` mask registers, `T` tiles; the small letter that
follows is the width. `Leaf.plan` gives each form its meaning.
-/

namespace OpcodeForest

/-- The operand forms: one-byte and two-byte maps, then VEX and XOP, then EVEX. -/
inductive Form where
  | simple | simpleModRM | eb | ev | ew | ed | ms | m | mRexW | rv | rvW | ebGb | evGv | gbEb
  | gvEv | gvEb | gvEw | gvM | gvMa | gvMp | gvMv | mvGv | gdEb | gdEv | ebIb | evIz | evIb
  | evIb2 | eb1 | ev1 | ebCL | evCL | evGvIb | evGvCL | gvEvIb | gvEvIz | evSw | swEw | regIb
  | ibReg | regIz | regIb3 | regIz2 | regReg | eaxDx | dxEax | eaxIb | ibEax | pushPopReg
  | pushSimpleReg | pushPopEv | pushIz | pushIb2 | xchgRegRax | simpleReg | simple2 | simple3
  | jb | jz | jb2 | xbegin | ap | ep | branchSimple | branchIw | branchEv | ib | iw | iwIb
  | ybReg | yvReg | yvReg2 | regXb | regXv | regXv2 | xbYb | xvYv | ybXb | yvXv | regYb | regYv
  | regOb | regOv | obReg | ovReg | memBx | rdCr | crRd | mf | stSti | stiSt | sti | vw | wv | vm
  | mv | vwIb | vq | vEv | evV | vEvIb | evVIb | gvW | rIb | rIbIb | pq | qp | pqIb | nIb | pEv
  | evP | mp | bm | mb | bEv | bMib | mibB
  | vexSimple | vexVHW | vexVW | vexWV | vexVM | vexMV | vexM | vexVHM | vexMHV | vexVHWIb
  | vexVWIb | vexVWH | vexVHWIs4 | vexVHIs4W | vexHRIb | vexVHEv | vexVHEvIb | vexEvVIb | vexGvW
  | vexGvRx | vexVkHkRk | vexVkRk | vexVkWk | vexMVk | vexVkR | vexGVk | vexVkRkIb | vexGvHvEv
  | vexGvEvHv | vexHvEv | vexGvEvIb | vexGvEvId | vexVXVsibHX | vexVTSibmem | vexSibmemVT
  | vexVTRTHT | vexVT
  | evexVkHW | evexVkHWEr | evexVkHWIb | evexVkHWIbEr | evexVkW | evexVkWEr | evexVkWIb
  | evexVkWIbEr | evexWkV | evexHkWIb | evexKkHW | evexKkHWIb | evexKkHWIbSae | evexKkWIb
  | evexKP1HW | evexVkM | evexVM | evexMV | evexVW | evexWV | evexVkEv | evexVXEv | evexEvVX
  | evexVHEv | evexVHEvEr | evexVHEvIb | evexEdVIb | evexGvWEr | evexVkVsib | evexVsibkV
  | evexVsibk | evexVRk | evexKR
deriving DecidableEq, Repr

namespace Form

def name : Form → String
  | simple => "Simple"
  | simpleModRM => "SimpleModRM"
  | eb => "Eb"
  | ev => "Ev"
  | ew => "Ew"
  | ed => "Ed"
  | ms => "Ms"
  | m => "M"
  | mRexW => "MRexW"
  | rv => "Rv"
  | rvW => "RvW"
  | ebGb => "EbGb"
  | evGv => "EvGv"
  | gbEb => "GbEb"
  | gvEv => "GvEv"
  | gvEb => "GvEb"
  | gvEw => "GvEw"
  | gvM => "GvM"
  | gvMa => "GvMa"
  | gvMp => "GvMp"
  | gvMv => "GvMv"
  | mvGv => "MvGv"
  | gdEb => "GdEb"
  | gdEv => "GdEv"
  | ebIb => "EbIb"
  | evIz => "EvIz"
  | evIb => "EvIb"
  | evIb2 => "EvIb2"
  | eb1 => "Eb1"
  | ev1 => "Ev1"
  | ebCL => "EbCL"
  | evCL => "EvCL"
  | evGvIb => "EvGvIb"
  | evGvCL => "EvGvCL"
  | gvEvIb => "GvEvIb"
  | gvEvIz => "GvEvIz"
  | evSw => "EvSw"
  | swEw => "SwEw"
  | regIb => "RegIb"
  | ibReg => "IbReg"
  | regIz => "RegIz"
  | regIb3 => "RegIb3"
  | regIz2 => "RegIz2"
  | regReg => "RegReg"
  | eaxDx => "EaxDx"
  | dxEax => "DxEax"
  | eaxIb => "EaxIb"
  | ibEax => "IbEax"
  | pushPopReg => "PushPopReg"
  | pushSimpleReg => "PushSimpleReg"
  | pushPopEv => "PushPopEv"
  | pushIz => "PushIz"
  | pushIb2 => "PushIb2"
  | xchgRegRax => "XchgRegRax"
  | simpleReg => "SimpleReg"
  | simple2 => "Simple2"
  | simple3 => "Simple3"
  | jb => "Jb"
  | jz => "Jz"
  | jb2 => "Jb2"
  | xbegin => "Xbegin"
  | ap => "Ap"
  | ep => "Ep"
  | branchSimple => "BranchSimple"
  | branchIw => "BranchIw"
  | branchEv => "BranchEv"
  | ib => "Ib"
  | iw => "Iw"
  | iwIb => "IwIb"
  | ybReg => "YbReg"
  | yvReg => "YvReg"
  | yvReg2 => "YvReg2"
  | regXb => "RegXb"
  | regXv => "RegXv"
  | regXv2 => "RegXv2"
  | xbYb => "XbYb"
  | xvYv => "XvYv"
  | ybXb => "YbXb"
  | yvXv => "YvXv"
  | regYb => "RegYb"
  | regYv => "RegYv"
  | regOb => "RegOb"
  | regOv => "RegOv"
  | obReg => "ObReg"
  | ovReg => "OvReg"
  | memBx => "MemBx"
  | rdCr => "RdCr"
  | crRd => "CrRd"
  | mf => "Mf"
  | stSti => "StSti"
  | stiSt => "StiSt"
  | sti => "Sti"
  | vw => "VW"
  | wv => "WV"
  | vm => "VM"
  | mv => "MV"
  | vwIb => "VWIb"
  | vq => "VQ"
  | vEv => "VEv"
  | evV => "EvV"
  | vEvIb => "VEvIb"
  | evVIb => "EvVIb"
  | gvW => "GvW"
  | rIb => "RIb"
  | rIbIb => "RIbIb"
  | pq => "PQ"
  | qp => "QP"
  | pqIb => "PQIb"
  | nIb => "NIb"
  | pEv => "PEv"
  | evP => "EvP"
  | mp => "MP"
  | bm => "BM"
  | mb => "MB"
  | bEv => "BEv"
  | bMib => "BMib"
  | mibB => "MibB"
  | vexSimple => "VexSimple"
  | vexVHW => "VexVHW"
  | vexVW => "VexVW"
  | vexWV => "VexWV"
  | vexVM => "VexVM"
  | vexMV => "VexMV"
  | vexM => "VexM"
  | vexVHM => "VexVHM"
  | vexMHV => "VexMHV"
  | vexVHWIb => "VexVHWIb"
  | vexVWIb => "VexVWIb"
  | vexVWH => "VexVWH"
  | vexVHWIs4 => "VexVHWIs4"
  | vexVHIs4W => "VexVHIs4W"
  | vexHRIb => "VexHRIb"
  | vexVHEv => "VexVHEv"
  | vexVHEvIb => "VexVHEvIb"
  | vexEvVIb => "VexEvVIb"
  | vexGvW => "VexGvW"
  | vexGvRx => "VexGvRx"
  | vexVkHkRk => "VexVkHkRk"
  | vexVkRk => "VexVkRk"
  | vexVkWk => "VexVkWk"
  | vexMVk => "VexMVk"
  | vexVkR => "VexVkR"
  | vexGVk => "VexGVk"
  | vexVkRkIb => "VexVkRkIb"
  | vexGvHvEv => "VexGvHvEv"
  | vexGvEvHv => "VexGvEvHv"
  | vexHvEv => "VexHvEv"
  | vexGvEvIb => "VexGvEvIb"
  | vexGvEvId => "VexGvEvId"
  | vexVXVsibHX => "VexVXVsibHX"
  | vexVTSibmem => "VexVTSibmem"
  | vexSibmemVT => "VexSibmemVT"
  | vexVTRTHT => "VexVTRTHT"
  | vexVT => "VexVT"
  | evexVkHW => "EvexVkHW"
  | evexVkHWEr => "EvexVkHWEr"
  | evexVkHWIb => "EvexVkHWIb"
  | evexVkHWIbEr => "EvexVkHWIbEr"
  | evexVkW => "EvexVkW"
  | evexVkWEr => "EvexVkWEr"
  | evexVkWIb => "EvexVkWIb"
  | evexVkWIbEr => "EvexVkWIbEr"
  | evexWkV => "EvexWkV"
  | evexHkWIb => "EvexHkWIb"
  | evexKkHW => "EvexKkHW"
  | evexKkHWIb => "EvexKkHWIb"
  | evexKkHWIbSae => "EvexKkHWIbSae"
  | evexKkWIb => "EvexKkWIb"
  | evexKP1HW => "EvexKP1HW"
  | evexVkM => "EvexVkM"
  | evexVM => "EvexVM"
  | evexMV => "EvexMV"
  | evexVW => "EvexVW"
  | evexWV => "EvexWV"
  | evexVkEv => "EvexVkEv"
  | evexVXEv => "EvexVXEv"
  | evexEvVX => "EvexEvVX"
  | evexVHEv => "EvexVHEv"
  | evexVHEvEr => "EvexVHEvEr"
  | evexVHEvIb => "EvexVHEvIb"
  | evexEdVIb => "EvexEdVIb"
  | evexGvWEr => "EvexGvWEr"
  | evexVkVsib => "EvexVkVsib"
  | evexVsibkV => "EvexVsibkV"
  | evexVsibk => "EvexVsibk"
  | evexVRk => "EvexVRk"
  | evexKR => "EvexKR"

/-- The form's encoding has a ModRM byte. -/
def hasModRM : Form → Bool
  | simple | regIb | ibReg | regIz | regIb3 | regIz2 | regReg | eaxDx | dxEax | eaxIb | ibEax
  | pushPopReg | pushSimpleReg | pushIz | pushIb2 | xchgRegRax | simpleReg | simple2 | simple3
  | jb | jz | jb2 | ap | branchSimple | branchIw | ib | iw | iwIb | ybReg | yvReg | yvReg2
  | regXb | regXv | regXv2 | xbYb | xvYv | ybXb | yvXv | regYb | regYv | regOb | regOv | obReg
  | ovReg | memBx | vexSimple => false
  | _ => true

end Form

end OpcodeForest
