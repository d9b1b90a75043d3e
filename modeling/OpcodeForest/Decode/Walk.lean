import OpcodeForest.Decode.Prefix
import OpcodeForest.Decode.Step
import OpcodeForest.Tables

/-!
# Walking the forest

Decoding an instruction walks from the one-byte map through the nodes. A node either ends the
walk, hands over to a child, or looks the next opcode byte up in a map. The ModRM byte is read
on the way into the first node that needs it.
-/

namespace OpcodeForest

/-- When the ModRM byte is read on the way into a node. -/
inductive ModRMPolicy where
  /-- If the node needs it. -/
  | ifNeeded
  /-- Not again. -/
  | never
  /-- In any case. -/
  | always
deriving DecidableEq, Repr

namespace ModRMPolicy

/-- For the children of a node, given that it has the ModRM byte or not. -/
def below (modRM : Bool) : ModRMPolicy := if modRM then never else ifNeeded

def reads (node : Node) : ModRMPolicy → Bool
  | ifNeeded => node.hasModRM
  | never => false
  | always => true

end ModRMPolicy

/-- Where the walk goes after a node. -/
inductive Next where
  | done
  | child (id : NodeId) (policy : ModRMPolicy)
  /-- To the node of the next opcode byte. -/
  | lookup (map : OpcodeMap) (policy : ModRMPolicy)
deriving DecidableEq, Repr

namespace Tables

/-- To the next byte in the one-byte map. -/
def restart (t : Tables) : Next := .lookup t.legacy.oneByte .ifNeeded

/-- To the opcode byte in map `n` of `maps`; there are three. -/
def payloadMap (maps : List OpcodeMap) (n : Nat) (policy : ModRMPolicy) (s : State) :
    Except Stop (State × Next) :=
  match maps[n]? with
  | some map => .ok (s, .lookup map policy)
  | none => .error (.rejected s.used)

/-- Three-byte VEX with its first payload byte in place of a ModRM byte. Map numbers count from
one. -/
def routeVex3 (t : Tables) (m : Mode) (s : State) : Except Stop (State × Next) := do
  let p₁ := s.modRM
  let (p₂, s) ← (s.beginPayload m).byte
  let s := s.applyVex3 m p₁ p₂
  match p₁.toNat % 32 with
  | 0 => .error (.rejected s.used)
  | n + 1 => payloadMap t.vex n .ifNeeded s

/-- XOP, whose map numbers count from eight. -/
def routeXop (t : Tables) (m : Mode) (s : State) : Except Stop (State × Next) := do
  let p₁ := s.modRM
  let (p₂, s) ← (s.beginPayload m).byte
  payloadMap t.xop (p₁.toNat % 32 - 8) .ifNeeded (s.applyVex3 m p₁ p₂)

/-- EVEX. A fixed bit of the second payload byte tells it from an older encoding. -/
def routeEvex (t : Tables) (m : Mode) (s : State) : Except Stop (State × Next) := do
  let p₀ := s.modRM
  let (p₁, s) ← (s.beginPayload m).byte
  let (p₂, s) ← s.byte
  if bit p₁ 2 then
    let s := (s.checkEvex m p₀ p₂).applyEvex m p₀ p₁ p₂
    match p₀.toNat % 8 with
    | 0 => .error (.rejected s.used)
    | n + 1 => payloadMap t.evex n .always s
  else .error (.rejected s.used)

/-- An instruction on MMX registers whose code is spelled by the byte after its operands; of
several codes given for one byte the last counts. -/
def runTrailing (m : Mode) (codes : List (UInt8 × Code)) (s : State) : Except Stop State := do
  let s ← runSteps m [.reg (.low .mm0), .rm (.low .mm0)] s
  let (b, s) ← s.byte
  match (codes.filter (·.1 == b)).getLast? with
  | some (_, code) => if code.isInvalid then s.reject else return s.setCode code
  | none => s.reject

/-- Runs a node and says where the walk goes. -/
def route (t : Tables) (m : Mode) (node : Node) (s : State) : Except Stop (State × Next) :=
  match node with
  | .invalid _ | .null => .error (.rejected s.used)
  | .byMode modRM other long => .ok (s, .child (if m.long then long else other) (.below modRM))
  | .byForm reg mem => .ok (s, .child (if s.registerForm then reg else mem) .never)
  | .byOption modRM default alternatives =>
      let child := (alternatives.find? (m.options.has ·.2)).map (·.1)
      .ok (s, .child (child.getD default) (.below modRM))
  | .escape map => .ok (s, .lookup map .ifNeeded)
  | .group table => .ok (s, .child (table.getD s.reg .invalid) .never)
  | .splitGroup mem reg =>
      .ok (s, .child ((if s.registerForm then reg else mem).getD s.reg .invalid) .never)
  | .fineGroup coarse fine =>
      let child := fine.getD (s.modRM.toNat % 64) .null
      if s.registerForm && child != .null then .ok (s, .child child .never)
      else .ok (s, .child (coarse.getD s.reg .invalid) .never)
  | .mandatory modRM children =>
      .ok (s.dropMandatory, .child (children.getD s.mandatory.rank .invalid) (.below modRM))
  | .mandatoryByForm reg mem =>
      let (child, uses) :=
        (if s.registerForm then reg else mem).getD s.mandatory.rank (.invalid, false)
      .ok (if uses then s.dropMandatory else s, .child child .never)
  | .mandatoryKept children clearF3 clearF2 readsModRM =>
      let s' :=
        match s.mandatory with
        | .pF3 => if clearF3 then s.dropRep else s
        | .pF2 => if clearF2 then s.dropRepne else s
        | .none | .p66 => s
      .ok (s', .child (children.getD s.mandatory.rank .invalid) (.below !readsModRM))
  | .payloadPrefix modRM children =>
      .ok (s, .child (children.getD s.mandatory.rank .invalid) (.below modRM))
  | .byW w0 w1 => .ok (s, .child (if s.w then w1 else w0) .never)
  | .byLength modRM children =>
      .ok (s, .child (children.getD s.length .invalid) (.below modRM))
  | .byLengthRounded children =>
      let length := if s.registerForm && s.evexB then 2 else s.length
      .ok (s, .child (children.getD length .invalid) .never)
  | .vex2 otherwise =>
      if m.long || s.registerForm then
        payloadMap t.vex 0 .ifNeeded ((s.beginPayload m).applyVex2 m s.modRM)
      else .ok (s, .child otherwise .never)
  | .vex3 otherwise =>
      if m.long || s.registerForm then t.routeVex3 m s else .ok (s, .child otherwise .never)
  | .xop otherwise =>
      if s.modRM.toNat % 32 < 8 then .ok (s, .child otherwise .never) else t.routeXop m s
  | .evex otherwise =>
      if m.long || s.registerForm then t.routeEvex m s else .ok (s, .child otherwise .never)
  | .trailing codes => do
      let s ← runTrailing m codes s
      return (s, .done)
  | .segment strong register => .ok (s.applySegment m strong register, t.restart)
  | .operandSize => .ok (s.applyOperandSize, t.restart)
  | .addressSize => .ok (s.applyAddressSize, t.restart)
  | .lock => .ok (s.applyLockByte, t.restart)
  | .repne => .ok (s.applyRepne, t.restart)
  | .rep => .ok (s.applyRep, t.restart)
  | .rex otherwise bits =>
      if m.long then .ok (s.applyRex bits, t.restart) else .ok (s, .child otherwise .ifNeeded)
  | .leaf l => do
      let s ← l.run m s
      return (s, .done)

/-- On the way into a node the ModRM byte is read if the policy says so. -/
def enter (policy : ModRMPolicy) (node : Node) (s : State) : Except Stop State :=
  if policy.reads node then s.readModRM else .ok s

/-- One move of a walk: through a node, or to the node of the next opcode byte. -/
def dispatch (t : Tables) (m : Mode) : Next → State → Except Stop (State × Next)
  | .done, s => .ok (s, .done)
  | .child id policy, s => do
      let node := t.forest.get id
      let s ← enter policy node s
      t.route m node s
  | .lookup map policy, s => do
      let (b, s) ← s.byte
      return (s, .child (map.node b) policy)

/-- The bytes that a move reads at most: the ModRM byte, and those of a leaf. -/
def moveBytes : Nat := 1 + 48

/-- Walks on from `next`, with at most `fuel` moves. -/
def walk (t : Tables) (m : Mode) : (fuel : Nat) → Next → State → Except Stop State
  | _, .done, s => .ok s
  | 0, _, _ => .error .circular
  | fuel + 1, next, s => do
      let (s, next) ← t.dispatch m next s
      walk t m fuel next s

/-- A bound on the nodes and maps that the walk of a window of `n` bytes passes: after each
byte every node once. -/
def walkBound (t : Tables) (n : Nat) : Nat := (n + 1) * (t.forest.size + 2)

end Tables

end OpcodeForest
