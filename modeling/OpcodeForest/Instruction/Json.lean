import OpcodeForest.Code
import OpcodeForest.Instruction
import OpcodeForest.Json

/-!
# Instructions as JSON
-/

namespace OpcodeForest

/-- The places for operands in a written record. -/
def operandPlaces : Nat := 5

namespace Operand

def json (o : Operand) : Json :=
  .object [⟨"kind", .text o.kind.name⟩, ⟨"register", .text o.register.name⟩]

end Operand

namespace MemoryOperand

def json (m : MemoryOperand) : Json :=
  .object
    [⟨"base", .text m.base.name⟩, ⟨"index", .text m.index.name⟩, ⟨"scale", .number m.scale⟩,
     ⟨"displacement", .number m.displacement.toNat⟩, ⟨"displ_size", .number m.displacementSize⟩]

end MemoryOperand

namespace Instruction

/-- The operands and empty places after them. -/
def places (i : Instruction) : List Operand :=
  i.operands ++ List.replicate (operandPlaces - i.operands.length) ({} : Operand)

/-- Every field of the record. -/
def json (i : Instruction) : Json :=
  .object
    [⟨"code", .text i.code.name⟩,
     ⟨"len", .number i.length⟩,
     ⟨"ip", .number i.ip.toNat⟩,
     ⟨"op_count", .number i.operands.length⟩,
     ⟨"ops", .list (i.places.map Operand.json)⟩,
     ⟨"memory", i.memory.json⟩,
     ⟨"segment_prefix", .text i.segment.name⟩,
     ⟨"immediate", .number i.immediate.toNat⟩,
     ⟨"immediate2", .number i.immediate2.toNat⟩,
     ⟨"near_branch", .number i.nearBranch.toNat⟩,
     ⟨"far_branch", .number i.farBranch.toNat⟩,
     ⟨"far_branch_selector", .number i.farSelector.toNat⟩,
     ⟨"op_mask", .text i.opMask.name⟩,
     ⟨"zeroing_masking", .bool i.zeroing⟩,
     ⟨"broadcast", .bool i.broadcast⟩,
     ⟨"suppress_all_exceptions", .bool i.suppressExceptions⟩,
     ⟨"rounding_control", .text i.rounding.name⟩,
     ⟨"prefixes", .text (" | ".intercalate i.prefixes.names)⟩]

end Instruction

end OpcodeForest
