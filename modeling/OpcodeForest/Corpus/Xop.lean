import OpcodeForest.Code.Xop
import OpcodeForest.Corpus.Vex.Basic

/-!
# The table of XOP instructions

Opcodes of the maps 8, 9 and A behind an XOP payload. They share the tags of VEX instructions,
and every one of them has the empty payload prefix.
-/

namespace OpcodeForest.Corpus.Xop

open Code NodeField Vex

/-- With the `W` bit clear the selector comes from the immediate, with it set from `rm`. -/
def map8 : Rows :=
  [(0xA2, noPrefix (byW
     (eachLength XOP_Vpcmov_xmm_xmm_xmmm128_xmm fun c base =>
       node .vhwIs4 [.code c, .register base])
     (eachLength XOP_Vpcmov_xmm_xmm_xmm_xmmm128 fun c base =>
       node .vhIs4w [.code c, .register base])))]
    ++ span 0xC0 4 (fun n => noPrefix (w0 (length0
        (node .vwIbShared [.code (XOP_Vprotb_xmm_xmmm128_imm8.offset n), .register .xmm0]))))
    ++ span 0xCC 4 (fun n => noPrefix (w0 (length0
        (node .vhwIbShared [.code (XOP_Vpcomb_xmm_xmm_xmmm128_imm8.offset n), .register .xmm0]))))

/-- Bit manipulation with the destination in the payload. -/
def bit (c : Code) : Entry := node .hvEv [two c]

def map9 : Draft Rows := do
  let g01 ← group (byReg (span 1 7 fun n => bit (XOP_Blcfill_r32_rm32.offset (2 * n))))
  let g02 ← group (byReg [(1, bit XOP_Blcmsk_r32_rm32), (6, bit XOP_Blci_r32_rm32)])
  return [(0x01, noPrefix (length0 g01)),
          (0x02, noPrefix (length0 g02)),
          (0x80, noPrefix (w0 (packed2 XOP_Vfrczps_xmm_xmmm128)))]
    ++ span 0x90 4 (fun n =>
        let c := XOP_Vprotb_xmm_xmmm128_xmm.offset (2 * n)
        noPrefix (length0 (byW (node .vwh [.code c, .register .xmm0])
          (vhw (c.offset 1) .xmm0))))

def mapA : Rows := [(0x10, noPrefix (length0 (node .gvEvId [two XOP_Bextr_r32_rm32_imm32])))]

def records : List Record := Draft.records do
  let rows9 ← map9
  let _ ← Draft.map map8
  let _ ← Draft.map rows9
  let _ ← Draft.map mapA

end OpcodeForest.Corpus.Xop
