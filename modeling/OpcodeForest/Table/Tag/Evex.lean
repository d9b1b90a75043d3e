import OpcodeForest.Table.Layout

/-!
# Tags of EVEX instructions
-/

namespace OpcodeForest

/-- The tag space of the EVEX maps. Every EVEX opcode has a ModRM byte, so there is no tag for
an invalid opcode without one. -/
inductive EvexTag where
  | invalid | invalidPair | repeated | handlerReference | arrayReference | group
  | payloadPrefix | byW | byLength | byLengthRounded | byForm | vkHw | vkHwShared | vkHwEr
  | vkHwIb | vkHwIbShared | vkHwIbEr | vkW | vkWEr | vkWIb | vkWIbEr | wkV | hkWIb | kkHw
  | kkHwIb | kkHwIbSae | kkWIb | kp1Hw | vkM | vm | mv | vw | wv | vkEv | vxEv | evVx | vhEv
  | vhEvEr | vhEvIb | edVIb | gvWEr | vkVsib | vsibkV | vsibk | vrk | kr
deriving DecidableEq, Repr

namespace EvexTag

/-- In numbering order. -/
def all : List EvexTag :=
  [invalid, invalidPair, repeated, handlerReference, arrayReference, group, payloadPrefix, byW,
    byLength, byLengthRounded, byForm, vkHw, vkHwShared, vkHwEr, vkHwIb, vkHwIbShared, vkHwIbEr,
    vkW, vkWEr, vkWIb, vkWIbEr, wkV, hkWIb, kkHw, kkHwIb, kkHwIbSae, kkWIb, kp1Hw, vkM, vm, mv,
    vw, wv, vkEv, vxEv, evVx, vhEv, vhEvEr, vhEvIb, edVIb, gvWEr, vkVsib, vsibkV, vsibk, vrk, kr]

def row : EvexTag → TagRow
  | invalid => ⟨"Invalid", .sentinel .invalid⟩
  | invalidPair => ⟨"Invalid2", .invalidPair⟩
  | repeated => ⟨"Dup", .repeated⟩
  | handlerReference => ⟨"HandlerReference", .handlerReference⟩
  | arrayReference => ⟨"ArrayReference", .arrayReference⟩
  | group => ⟨"Group", .node .group [.table 8]⟩
  | payloadPrefix => ⟨"MandatoryPrefix2", .node (.payloadPrefix true) [.children 4]⟩
  | byW => ⟨"W", .node .byW [.children 2]⟩
  | byLength => ⟨"VectorLength", .node (.byLength true) [.children 4]⟩
  | byLengthRounded => ⟨"VectorLength_er", .node .byLengthRounded [.children 4]⟩
  | byForm => ⟨"RM", .node .byForm [.children 2]⟩
  | vkHw =>
      ⟨"VkHW", .node (.leaf .evexVkHW) [.codes 1, .register 1, .register 1, .register 1, .tuple,
        .flag]⟩
  | vkHwShared => ⟨"VkHW_3", .node (.leaf .evexVkHW) [.codes 1, .register 3, .tuple, .flag]⟩
  | vkHwEr => ⟨"VkHW_er", .node (.leaf .evexVkHWEr) [.codes 1, .register 1, .tuple, .flag, .flag]⟩
  | vkHwIb =>
      ⟨"VkHWIb", .node (.leaf .evexVkHWIb) [.codes 1, .register 1, .register 1, .register 1,
        .tuple, .flag]⟩
  | vkHwIbShared => ⟨"VkHWIb_3", .node (.leaf .evexVkHWIb) [.codes 1, .register 3, .tuple, .flag]⟩
  | vkHwIbEr => ⟨"VkHWIb_er", .node (.leaf .evexVkHWIbEr) [.codes 1, .register 1, .tuple]⟩
  | vkW => ⟨"VkW", .node (.leaf .evexVkW) [.codes 1, .register 1, .register 1, .tuple, .flag]⟩
  | vkWEr =>
      ⟨"VkW_er", .node (.leaf .evexVkWEr) [.codes 1, .register 1, .register 1, .tuple, .flag,
        .flag]⟩
  | vkWIb =>
      ⟨"VkWIb", .node (.leaf .evexVkWIb) [.codes 1, .register 1, .register 1, .tuple, .flag]⟩
  | vkWIbEr =>
      ⟨"VkWIb_er", .node (.leaf .evexVkWIbEr) [.codes 1, .register 1, .register 1, .tuple]⟩
  | wkV => ⟨"WkV", .node (.leaf .evexWkV) [.codes 1, .register 1, .register 1, .tuple, .flag]⟩
  | hkWIb =>
      ⟨"HkWIb", .node (.leaf .evexHkWIb) [.codes 1, .register 1, .register 1, .tuple, .flag]⟩
  | kkHw => ⟨"KkHW", .node (.leaf .evexKkHW) [.codes 1, .register 1, .tuple, .flag]⟩
  | kkHwIb => ⟨"KkHWIb", .node (.leaf .evexKkHWIb) [.codes 1, .register 1, .tuple, .flag]⟩
  | kkHwIbSae =>
      ⟨"KkHWIb_sae", .node (.leaf .evexKkHWIbSae) [.codes 1, .register 1, .tuple, .flag]⟩
  | kkWIb => ⟨"KkWIb", .node (.leaf .evexKkWIb) [.codes 1, .register 1, .tuple, .flag]⟩
  | kp1Hw => ⟨"KP1HW", .node (.leaf .evexKP1HW) [.codes 1, .register 1, .tuple, .flag]⟩
  | vkM => ⟨"VkM", .node (.leaf .evexVkM) [.codes 1, .register 1, .tuple]⟩
  | vm => ⟨"VM", .node (.leaf .evexVM) [.codes 1, .register 1, .tuple]⟩
  | mv => ⟨"MV", .node (.leaf .evexMV) [.codes 1, .register 1, .tuple]⟩
  | vw => ⟨"VW", .node (.leaf .evexVW) [.codes 1, .register 1, .register 1, .tuple, .flag]⟩
  | wv => ⟨"WV", .node (.leaf .evexWV) [.codes 1, .register 1, .register 1, .tuple]⟩
  | vkEv => ⟨"VkEv_REXW", .node (.leaf .evexVkEv) [.codes 2, .register 1]⟩
  | vxEv => ⟨"VX_Ev", .node (.leaf .evexVXEv) [.codes 2, .register 1]⟩
  | evVx => ⟨"Ev_VX", .node (.leaf .evexEvVX) [.codes 2, .register 1]⟩
  | vhEv => ⟨"VHEv", .node (.leaf .evexVHEv) [.codes 2, .register 1]⟩
  | vhEvEr => ⟨"VHEv_er", .node (.leaf .evexVHEvEr) [.codes 2, .register 1]⟩
  | vhEvIb => ⟨"VHEvIb", .node (.leaf .evexVHEvIb) [.codes 2, .register 1]⟩
  | edVIb => ⟨"Ed_V_Ib", .node (.leaf .evexEdVIb) [.codes 2, .register 1]⟩
  | gvWEr => ⟨"Gv_W_er", .node (.leaf .evexGvWEr) [.codes 2, .register 1, .tuple, .flag]⟩
  | vkVsib => ⟨"VkVsib", .node (.leaf .evexVkVsib) [.codes 1, .register 1, .register 1, .tuple]⟩
  | vsibkV => ⟨"VsibkV", .node (.leaf .evexVsibkV) [.codes 1, .register 1, .register 1, .tuple]⟩
  | vsibk => ⟨"Vsibk", .node (.leaf .evexVsibk) [.codes 1, .register 1, .tuple]⟩
  | vrk => ⟨"VRk", .node (.leaf .evexVRk) [.codes 1, .register 1]⟩
  | kr => ⟨"KR", .node (.leaf .evexKR) [.codes 1, .register 1]⟩

/-- The byte that spells a tag. -/
def byte (t : EvexTag) : UInt8 := UInt8.ofNat t.ctorIdx

end EvexTag

end OpcodeForest
