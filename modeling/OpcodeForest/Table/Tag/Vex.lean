import OpcodeForest.Table.Layout

/-!
# Tags of VEX and XOP instructions
-/

namespace OpcodeForest

/-- The tag space of the VEX and XOP maps. -/
inductive VexTag where
  | invalid | invalidPair | repeated | null | invalidNoModRM | handlerReference
  | arrayReference | byMode | byModeModRM | group | fineGroup | payloadPrefix
  | payloadPrefixNoModRM | byW | byLength | byLengthNoModRM | byForm | simple | vhw | vhwShared
  | vw | vwShared | wv | vm | mv | m | vhm | mhv | vhwIb | vhwIbShared | vwIb | vwIbShared
  | vwh | vhwIs4 | vhIs4w | hrIb | vhEv | vhEvIb | evVIb | gvW | gvRx | vkHkRk | vkRk | vkWk
  | mVk | vkR | gVk | vkRkIb | gvHvEv | gvEvHv | hvEv | gvEvIb | gvEvId | vxVsibHx | vtSibmem
  | sibmemVt | vtRtHt | vt
deriving DecidableEq, Repr

namespace VexTag

/-- In numbering order. -/
def all : List VexTag :=
  [invalid, invalidPair, repeated, null, invalidNoModRM, handlerReference, arrayReference,
    byMode, byModeModRM, group, fineGroup, payloadPrefix, payloadPrefixNoModRM, byW, byLength,
    byLengthNoModRM, byForm, simple, vhw, vhwShared, vw, vwShared, wv, vm, mv, m, vhm, mhv, vhwIb,
    vhwIbShared, vwIb, vwIbShared, vwh, vhwIs4, vhIs4w, hrIb, vhEv, vhEvIb, evVIb, gvW, gvRx,
    vkHkRk, vkRk, vkWk, mVk, vkR, gVk, vkRkIb, gvHvEv, gvEvHv, hvEv, gvEvIb, gvEvId, vxVsibHx,
    vtSibmem, sibmemVt, vtRtHt, vt]

def row : VexTag → TagRow
  | invalid => ⟨"Invalid", .sentinel .invalid⟩
  | invalidPair => ⟨"Invalid2", .invalidPair⟩
  | repeated => ⟨"Dup", .repeated⟩
  | null => ⟨"Null", .sentinel .null⟩
  | invalidNoModRM => ⟨"Invalid_NoModRM", .sentinel .invalidNoModRM⟩
  | handlerReference => ⟨"HandlerReference", .handlerReference⟩
  | arrayReference => ⟨"ArrayReference", .arrayReference⟩
  | byMode => ⟨"Bitness", .node (.byMode false) [.children 2]⟩
  | byModeModRM => ⟨"Bitness_DontReadModRM", .node (.byMode true) [.children 2]⟩
  | group => ⟨"Group", .node .group [.table 8]⟩
  | fineGroup => ⟨"Group8x64", .node .fineGroup [.table 8, .table 64]⟩
  | payloadPrefix => ⟨"MandatoryPrefix2", .node (.payloadPrefix true) [.children 4]⟩
  | payloadPrefixNoModRM =>
      ⟨"MandatoryPrefix2_NoModRM", .node (.payloadPrefix false) [.children 4]⟩
  | byW => ⟨"W", .node .byW [.children 2]⟩
  | byLength => ⟨"VectorLength", .node (.byLength true) [.children 2]⟩
  | byLengthNoModRM => ⟨"VectorLength_NoModRM", .node (.byLength false) [.children 2]⟩
  | byForm => ⟨"RM", .node .byForm [.children 2]⟩
  | simple => ⟨"Simple", .node (.leaf .vexSimple) [.codes 1]⟩
  | vhw => ⟨"VHW", .node (.leaf .vexVHW) [.codes 1, .register 1, .register 1, .register 1]⟩
  | vhwShared => ⟨"VHW_2", .node (.leaf .vexVHW) [.codes 1, .register 3]⟩
  | vw => ⟨"VW", .node (.leaf .vexVW) [.codes 1, .register 1, .register 1]⟩
  | vwShared => ⟨"VW_2", .node (.leaf .vexVW) [.codes 1, .register 2]⟩
  | wv => ⟨"WV", .node (.leaf .vexWV) [.codes 1, .register 1, .register 1]⟩
  | vm => ⟨"VM", .node (.leaf .vexVM) [.codes 1, .register 1]⟩
  | mv => ⟨"MV", .node (.leaf .vexMV) [.codes 1, .register 1]⟩
  | m => ⟨"M", .node (.leaf .vexM) [.codes 1]⟩
  | vhm => ⟨"VHM", .node (.leaf .vexVHM) [.codes 1, .register 1]⟩
  | mhv => ⟨"MHV", .node (.leaf .vexMHV) [.codes 1, .register 1]⟩
  | vhwIb => ⟨"VHWIb", .node (.leaf .vexVHWIb) [.codes 1, .register 1, .register 1, .register 1]⟩
  | vhwIbShared => ⟨"VHWIb_2", .node (.leaf .vexVHWIb) [.codes 1, .register 3]⟩
  | vwIb => ⟨"VWIb", .node (.leaf .vexVWIb) [.codes 1, .register 1, .register 1]⟩
  | vwIbShared => ⟨"VWIb_2", .node (.leaf .vexVWIb) [.codes 1, .register 2]⟩
  | vwh => ⟨"VWH", .node (.leaf .vexVWH) [.codes 1, .register 1]⟩
  | vhwIs4 => ⟨"VHWIs4", .node (.leaf .vexVHWIs4) [.codes 1, .register 1]⟩
  | vhIs4w => ⟨"VHIs4W", .node (.leaf .vexVHIs4W) [.codes 1, .register 1]⟩
  | hrIb => ⟨"HRIb", .node (.leaf .vexHRIb) [.codes 1, .register 1]⟩
  | vhEv => ⟨"VHEv", .node (.leaf .vexVHEv) [.codes 2, .register 1]⟩
  | vhEvIb => ⟨"VHEvIb", .node (.leaf .vexVHEvIb) [.codes 2, .register 1]⟩
  | evVIb => ⟨"EvVIb", .node (.leaf .vexEvVIb) [.codes 2, .register 1]⟩
  | gvW => ⟨"GvW", .node (.leaf .vexGvW) [.codes 2, .register 1]⟩
  | gvRx => ⟨"GvRx", .node (.leaf .vexGvRx) [.codes 2, .register 1]⟩
  | vkHkRk => ⟨"VK_HK_RK", .node (.leaf .vexVkHkRk) [.codes 1]⟩
  | vkRk => ⟨"VK_RK", .node (.leaf .vexVkRk) [.codes 1]⟩
  | vkWk => ⟨"VK_WK", .node (.leaf .vexVkWk) [.codes 1]⟩
  | mVk => ⟨"M_VK", .node (.leaf .vexMVk) [.codes 1]⟩
  | vkR => ⟨"VK_R", .node (.leaf .vexVkR) [.codes 1, .register 1]⟩
  | gVk => ⟨"G_VK", .node (.leaf .vexGVk) [.codes 1, .register 1]⟩
  | vkRkIb => ⟨"VK_RK_Ib", .node (.leaf .vexVkRkIb) [.codes 1]⟩
  | gvHvEv => ⟨"Gv_Hv_Ev", .node (.leaf .vexGvHvEv) [.codes 2]⟩
  | gvEvHv => ⟨"Gv_Ev_Hv", .node (.leaf .vexGvEvHv) [.codes 2]⟩
  | hvEv => ⟨"Hv_Ev", .node (.leaf .vexHvEv) [.codes 2]⟩
  | gvEvIb => ⟨"Gv_Ev_Ib", .node (.leaf .vexGvEvIb) [.codes 2]⟩
  | gvEvId => ⟨"Gv_Ev_Id", .node (.leaf .vexGvEvId) [.codes 2]⟩
  | vxVsibHx => ⟨"VX_VSIB_HX", .node (.leaf .vexVXVsibHX) [.codes 1, .register 1, .register 1]⟩
  | vtSibmem => ⟨"VT_SIBMEM", .node (.leaf .vexVTSibmem) [.codes 1]⟩
  | sibmemVt => ⟨"SIBMEM_VT", .node (.leaf .vexSibmemVT) [.codes 1]⟩
  | vtRtHt => ⟨"VT_RT_HT", .node (.leaf .vexVTRTHT) [.codes 1]⟩
  | vt => ⟨"VT", .node (.leaf .vexVT) [.codes 1]⟩

/-- The byte that spells a tag. -/
def byte (t : VexTag) : UInt8 := UInt8.ofNat t.ctorIdx

end VexTag

end OpcodeForest
