import OpcodeForest.Proofs.Corpus.Trees
import OpcodeForest.Proofs.Decode.Widths

/-!
# Registers of the built-in tables

The leaves of the built-in tables store first registers of classes, and vectors where numbers have
five bits. So no register leaves its class. Two leaves store `RAX`: the moves of 64 bits between
mask registers and general-purpose ones.

* `wideMoves`, `builtin_registers`: what the built-in tables store.
* `registers_in_class`: every register is in the class that its node names.
* `registers_leave_class`: it is not enough to count from first registers of classes.
* `wide_registers_outside_long`: the registers of 64 bits outside 64-bit mode.
-/

namespace OpcodeForest

/-! ### The built-in tables -/

/-- The moves of 64 bits between mask registers and general-purpose ones. -/
def wideMoves : List Code := [.VEX_Kmovq_kr_r64, .VEX_Kmovq_r64_kr]

/-- The node stores what it may, and a register of 64 bits for the wide moves only. -/
def Node.registersCheck (n : Node) : Bool :=
  n.storesFirsts && n.storesVectors && n.widensBy wideMoves

theorem Node.registersCheck_label (n : Node) : n.label.registersCheck = n.registersCheck := by
  cases n <;> rfl

set_option maxRecDepth 100000 in
theorem registersCheck_builtin :
    (Record.labelsAfter .legacy [] Corpus.Legacy.records).all (·.registersCheck) ∧
    (Record.labelsAfter .vex [] Corpus.Vex.records).all (·.registersCheck) ∧
    (Record.labelsAfter .vex [] Corpus.Xop.records).all (·.registersCheck) ∧
    (Record.labelsAfter .evex [] Corpus.Evex.records).all (·.registersCheck) := by
  simp only [Corpus.Legacy.records, Corpus.Vex.records, Corpus.Xop.records, Corpus.Evex.records,
    Draft.map_eq_halves]
  decide +kernel

/-- **What the built-in tables store.** -/
theorem builtin_registers : ∃ b t, Tables.builtin = .ok t ∧ Tables.load b = .ok t ∧
    t.StoresFirsts ∧ t.StoresVectors ∧ ∀ n ∈ t.forest.nodes, n.widensBy wideMoves := by
  obtain ⟨b, t, hbuiltin, hload, ht⟩ := builtin_describedBy
  obtain ⟨hlegacy, hvex, hxop, hevex⟩ := registersCheck_builtin
  have hall := ht.forall_nodes Node.registersCheck_label (by decide) hlegacy hvex hxop hevex
  simp only [Node.registersCheck, Bool.and_eq_true] at hall
  exact ⟨b, t, hbuiltin, hload, fun n hn => (hall n hn).1.1, fun n hn => (hall n hn).1.2,
    fun n hn => (hall n hn).2⟩

/-! ### Classes -/

/-- **Register arithmetic stays in its class.** The built-in tables count from first registers of
classes, and from vectors where numbers have five bits. With all tables that do, each register
operand is in the class that the last node names, base and index are registers of the address size,
the instruction pointer, the index of a table or a vector of indices, and outside 64-bit mode none
of them is an extended one but `CR8`, by a lock byte on `CR0`. -/
theorem registers_in_class :
    (∃ t, Tables.builtin = .ok t ∧ t.StoresFirsts ∧ t.StoresVectors) ∧
    ∀ {blobs : Blobs} {t : Tables}, Tables.load blobs = .ok t → t.StoresFirsts → t.StoresVectors →
      ∀ {m : Mode} {bytes : List UInt8}, t.accepts m bytes → ∀ ip : UInt64,
        ∃ n s, t.EndsAt m bytes n s ∧ (t.decode m ip bytes).Fits m n s := by
  constructor
  · obtain ⟨-, t, hbuiltin, -, hfirsts, hvectors, -⟩ := builtin_registers
    exact ⟨t, hbuiltin, hfirsts, hvectors⟩
  · intro blobs t ht hfirsts hvectors m bytes haccepts ip
    obtain ⟨n, s, hends⟩ := Tables.endsAt_of_accepts haccepts
    exact ⟨n, s, hends, fits_decode ht hfirsts hvectors hends ip⟩

/-- A sum of vectors, whose first register has five bits, with a broadcast operand in memory. -/
theorem registers_in_class_small :
    let m : Mode := { bitness := .bits64, options := {} }
    let bytes : List UInt8 := [0x62, 0x61, 0x7C, 0x58, 0x58, 0x40, 0x02]
    let i := vectorTables.decode m 0 bytes
    vectorTables.StoresFirsts ∧ vectorTables.StoresVectors ∧ vectorTables.accepts m bytes ∧
      i.operands = [.reg (Register.zmm0.offset 24), .reg .zmm0, .plain .memory] ∧
      i.memory.base = .rax ∧ ∃ n s, vectorTables.EndsAt m bytes n s ∧ i.Fits m n s := by
  intro m bytes i
  have hfirsts : vectorTables.StoresFirsts := by
    have hall : ∀ n ∈ vectorTables.forest.nodes, n.storesFirsts := by decide
    exact hall
  have hvectors : vectorTables.StoresVectors := by
    have hall : ∀ n ∈ vectorTables.forest.nodes, n.storesVectors := by decide
    exact hall
  have haccepts : vectorTables.accepts m bytes := by decide
  exact ⟨hfirsts, hvectors, haccepts, by decide, by decide,
    registers_in_class.2 load_vectorBlobs hfirsts hvectors haccepts 0⟩

/-- Tables that count from `EAX` where they should count from a vector: in a sum after an EVEX
payload, and in the indices of a load after a VEX payload. -/
def looseBlobs : Blobs :=
  let blank (n : UInt32) : Entry := .repeated n .invalid
  let opens (tag : LegacyTag) : Entry := .node tag.byte [.child .invalid]
  let oneByte : Record := .array [blank 98, opens .evex, blank 97, opens .vex3, blank 59]
  let vex : Entry := .node VexTag.vxVsibHx.byte
    [.code .VEX_Vpgatherdd_xmm_vm32x_xmm, .register .eax, .register .xmm0]
  let evex : Entry := .node EvexTag.vkHwShared.byte
    [.code .EVEX_Vaddps_xmm_k1z_xmm_xmmm128b32, .register .eax, .tuple .n1, .flag false]
  let empty : Record := .array [blank 256]
  let bytes (f : Family) (records : List Record) : List UInt8 :=
    (Writer.writeAll { family := f } records).2.bytes
  { legacy := bytes .legacy [empty, empty, empty, oneByte]
    vex := bytes .vex [.array [.repeated 256 vex], empty, empty]
    xop := bytes .vex [empty, empty, empty]
    evex := bytes .evex [.array [.repeated 256 evex], empty, empty] }

@[inherit_doc looseBlobs]
def looseTables : Tables :=
  let blank (n : Nat) : OpcodeMap := List.replicate n .invalid
  let vex : Node := .leaf { form := .vexVXVsibHX, codes := [.VEX_Vpgatherdd_xmm_vm32x_xmm]
                            registers := [.eax, .xmm0] }
  let evex : Node := .leaf { form := .evexVkHW, codes := [.EVEX_Vaddps_xmm_k1z_xmm_xmmm128b32]
                             registers := [.eax, .eax, .eax], flags := [false] }
  { forest := Forest.fresh.push (.evex .invalid) |>.push (.vex3 .invalid) |>.push vex |>.push evex
    legacy := { map0F38 := blank 256, map0F3A := blank 256, map0F := blank 256
                oneByte := blank 98 ++ [⟨3⟩] ++ blank 97 ++ [⟨4⟩] ++ blank 59 }
    vex := [List.replicate 256 ⟨5⟩, blank 256, blank 256]
    xop := [blank 256, blank 256, blank 256]
    evex := [List.replicate 256 ⟨6⟩, blank 256, blank 256] }

theorem load_looseBlobs : Tables.load looseBlobs = .ok looseTables := by decide +kernel

/-- The steps of the nodes that end instructions. -/
theorem steps_looseTables {n : Node} (hn : n ∈ looseTables.forest.nodes)
    (hfills : n.fillsOperands) :
    n.steps = [.reg (.file .xmm0), .memVsib .eax .n1, .vvvv (.file .xmm0), .distinctGather .eax] ∨
      n.steps = [.noRegisterB, .reg (.vector .eax), .vvvv (.vector .eax),
        .rmVector .eax .n1 false] := by
  revert n
  decide

/-- **Numbers of five bits leave the class of general-purpose registers.** First registers of
classes are not enough: with the loose tables a sum that counts from `EAX` has `RAX` as an operand,
and the index of a load is neither a register of the address size nor a vector. -/
theorem registers_leave_class :
    let m : Mode := { bitness := .bits64, options := {} }
    let sum : List UInt8 := [0x62, 0xE1, 0x7C, 0x08, 0x58, 0xC1]
    let load : List UInt8 := [0xC4, 0xE1, 0x69, 0x92, 0x04, 0x08]
    let ecx := Register.eax.offset 1
    Tables.load looseBlobs = .ok looseTables ∧ looseTables.StoresFirsts ∧
      (looseTables.accepts m sum ∧
        (looseTables.decode m 0 sum).operands = [.reg .rax, .reg .eax, .reg ecx] ∧
        ¬ ∃ n s, looseTables.EndsAt m sum n s ∧ (looseTables.decode m 0 sum).Fits m n s) ∧
      (looseTables.accepts m load ∧ (looseTables.decode m 0 load).memory.index = ecx ∧
        ¬ ∃ n s, looseTables.EndsAt m load n s ∧ (looseTables.decode m 0 load).Fits m n s) := by
  intro m sum load ecx
  have hfirsts : ∀ n ∈ looseTables.forest.nodes, n.storesFirsts := by decide
  have hoperands : (looseTables.decode m 0 sum).operands = [.reg .rax, .reg .eax, .reg ecx] := by
    decide
  have hindex : (looseTables.decode m 0 load).memory.index = ecx := by decide
  refine ⟨load_looseBlobs, hfirsts, ⟨by decide, hoperands, ?_⟩, ⟨by decide, hindex, ?_⟩⟩
  · rintro ⟨n, s, ⟨-, hn, hfills, -⟩, hfits⟩
    have hclasses := hfits.operands
    rw [hoperands] at hclasses
    rcases steps_looseTables hn hfills with hsteps | hsteps <;> rw [hsteps] at hclasses
    all_goals
      cases hclasses with
      | cons hfirst => exact absurd hfirst.2 (by decide)
  · rintro ⟨n, s, ⟨-, hn, hfills, -⟩, hfits⟩
    have hsize : (looseTables.decode m 0 load).addressClass m = .qword := by decide
    have hregister := hfits.index
    rw [hindex, hsize] at hregister
    rcases hregister with hnone | hholds | ⟨-, hal⟩ | ⟨base, tuple, hvsib, c, hc, hclass, -⟩
    · exact absurd hnone (by decide)
    · exact absurd hholds (by decide)
    · exact absurd hal (by decide)
    · have hbase : base = .eax := by
        rcases steps_looseTables hn hfills with hsteps | hsteps
        · rw [hsteps] at hvsib
          have heq : base = .eax ∧ tuple = .n1 := by simpa using hvsib
          exact heq.1
        · rw [hsteps] at hvsib
          simp at hvsib
      rw [hbase] at hclass
      cases hclass
      exact absurd hc (by decide)

/-! ### Widths -/

/-- **Wide registers outside 64-bit mode.** With the built-in tables no address has one, and the
instructions with one as an operand are the moves of 64 bits between mask registers and
general-purpose ones, which no mode is asked for. -/
theorem wide_registers_outside_long {t : Tables} (ht : Tables.builtin = .ok t) {m : Mode}
    (hm : m.long = false) {bytes : List UInt8} (h : t.accepts m bytes) (ip : UInt64) :
    ((∃ o ∈ (t.decode m ip bytes).operands, o.kind = .register ∧ o.register.isWide) ↔
        (t.decode m ip bytes).code ∈ wideMoves) ∧
      (t.decode m ip bytes).memory.base.isWide = false ∧
      (t.decode m ip bytes).memory.index.isWide = false := by
  obtain ⟨b, t', hbuiltin, hload, hfirsts, hvectors, hcodes⟩ := builtin_registers
  obtain rfl : t = t' := Except.ok.inj (ht.symm.trans hbuiltin)
  exact wide_decode hload hfirsts hvectors hcodes hm h ip

/-- The leaf of a wide move. -/
def wideMove : Leaf := { form := .vexVkR, codes := [.VEX_Kmovq_kr_r64], registers := [.rax] }

set_option maxRecDepth 100000 in
theorem opcodeLabels?_wideMove :
    Record.opcodeLabel? Corpus.Legacy.records 0xC4 = some (.vex3 .invalid) ∧
    Record.opcodeLabels? .vex 3 Corpus.Vex.records 0 0x92 [3, 0, 1]
      = some [.payloadPrefix true (.replicate 4 .invalid), .byLength true (.replicate 4 .invalid),
        .byW .invalid .invalid, .leaf wideMove] := by
  simp only [Corpus.Legacy.records, Corpus.Vex.records, Draft.map_eq_halves]
  decide +kernel

/-- The nodes on the way to a wide move. -/
structure Tables.LeadsToWideMove (t : Tables) (map : OpcodeMap) (id₁ id₂ id₃ : NodeId) : Prop where
  vex3 : ∃ otherwise, t.forest.get (t.legacy.oneByte.node 0xC4) = .vex3 otherwise
  map₀ : t.vex[0]? = some map
  prefixed : ∃ ids, t.forest.get (map.node 0x92) = .payloadPrefix true ids ∧ ids[3]? = some id₁
  length : ∃ ids, t.forest.get id₁ = .byLength true ids ∧ ids[0]? = some id₂
  w : ∃ other, t.forest.get id₂ = .byW other id₃
  leaf : t.forest.get id₃ = .leaf wideMove

theorem Tables.DescribedBy.leadsToWideMove {t : Tables} (ht : t.DescribedBy Corpus.Legacy.records
    Corpus.Vex.records Corpus.Xop.records Corpus.Evex.records) :
    ∃ map id₁ id₂ id₃, t.LeadsToWideMove map id₁ id₂ id₃ := by
  obtain ⟨map, hmap, hprefix, id₁, hid₁, hlength, id₂, hid₂, hw, id₃, hid₃, hleaf⟩ :=
    ht.vex.descends opcodeLabels?_wideMove.2
  have hvex3 := ht.label_opcode opcodeLabels?_wideMove.1
  generalize List.replicate 4 NodeId.invalid = ids at hprefix hlength
  refine ⟨map, id₁, id₂, id₃, ?_, hmap, ?_, ?_, ?_, leaf_of_label (List.cons.inj hleaf).1.symm⟩
  · generalize t.forest.get (t.legacy.oneByte.node 0xC4) = n at hvex3
    cases n <;> cases hvex3
    exact ⟨_, rfl⟩
  · generalize t.forest.get (map.node 0x92) = n at hprefix hid₁
    cases n <;> cases hprefix
    exact ⟨_, rfl, hid₁⟩
  · generalize t.forest.get id₁ = n at hlength hid₂
    cases n <;> cases hlength
    exact ⟨_, rfl, hid₂⟩
  · generalize t.forest.get id₂ = n at hw hid₃
    cases n <;> cases hw
    cases hid₃
    exact ⟨_, rfl⟩

theorem walk_node {t : Tables} {m : Mode} {id : NodeId} {n : Node} (hn : t.forest.get id = n)
    {policy : ModRMPolicy} {next : Next} {s s₁ s₂ : State}
    (henter : Tables.enter policy n s = .ok s₁)
    (hroute : t.route m n s₁ = .ok (s₂, next)) (fuel : Nat) :
    t.walk m (fuel + 1) (.child id policy) s = t.walk m fuel next s₂ := by
  rw [walk_child, hn, henter]
  show (t.route m n s₁ >>= fun b => t.walk m fuel b.2 b.1) = _
  rw [hroute]
  rfl

/-- The walk to a wide move in 32-bit mode. -/
theorem walk_wideMove {t : Tables} {map : OpcodeMap} {id₁ id₂ id₃ : NodeId}
    (h : t.LeadsToWideMove map id₁ id₂ id₃) (fuel : Nat) :
    let m : Mode := { bitness := .bits32, options := {} }
    ∃ s, t.walk m (fuel + 8) t.restart { pending := [0xC4, 0xE1, 0xFB, 0x92, 0xC0] } = .ok s ∧
      (s.invalid || m.strict && s.strayLock) = false ∧ s.draft.code = .VEX_Kmovq_kr_r64 ∧
      s.draft.operands = [.reg .k0, .reg .rax] := by
  intro m
  obtain ⟨⟨otherwise, hvex3⟩, hmap, ⟨ps, hprefix, hps⟩, ⟨ls, hlength, hls⟩, ⟨w₀, hw⟩, hleaf⟩ := h
  let s₁ := State.applyVex3 m 0xE1 0xFB { pending := [0x92, 0xC0], used := 3, modRM := 0xE1 }
  let s₂ : State := { s₁ with pending := [], used := 5, modRM := 0xC0 }
  let s₃ : State :=
    { s₂ with draft := { code := .VEX_Kmovq_kr_r64, operands := [.reg .k0, .reg .rax] } }
  have hroute₁ : t.route m (.vex3 otherwise)
      { pending := [0xFB, 0x92, 0xC0], used := 2, modRM := 0xE1 }
      = .ok (s₁, .lookup map .ifNeeded) := by
    have hbegin : State.beginPayload m { pending := [0xFB, 0x92, 0xC0], used := 2, modRM := 0xE1 }
        = { pending := [0xFB, 0x92, 0xC0], used := 2, modRM := 0xE1 } := by decide
    show t.routeVex3 m _ = _
    rw [Tables.routeVex3, hbegin]
    show Tables.payloadMap t.vex 0 .ifNeeded s₁ = _
    rw [Tables.payloadMap, hmap]
  have hroute₂ : t.route m (.payloadPrefix true ps) s₂ = .ok (s₂, .child id₁ .never) := by
    rw [← show ps.getD 3 .invalid = id₁ by rw [List.getD_eq_getElem?_getD, hps]; rfl]
    rfl
  have hroute₃ : t.route m (.byLength true ls) s₂ = .ok (s₂, .child id₂ .never) := by
    rw [← show ls.getD 0 .invalid = id₂ by rw [List.getD_eq_getElem?_getD, hls]; rfl]
    rfl
  have hroute₄ : t.route m (.byW w₀ id₃) s₂ = .ok (s₂, .child id₃ .never) := rfl
  have hroute₅ : t.route m (.leaf wideMove) s₂ = .ok (s₃, .done) := by
    show (wideMove.run m s₂ >>= fun s => pure (s, Next.done)) = _
    rw [show wideMove.run m s₂ = .ok s₃ by decide]
    rfl
  refine ⟨s₃, ?_, by decide, rfl, rfl⟩
  rw [Tables.restart, walk_lookup]
  show t.walk m (fuel + 7) (.child (t.legacy.oneByte.node 0xC4) .ifNeeded) _ = _
  rw [walk_node hvex3 rfl hroute₁, walk_lookup]
  show t.walk m (fuel + 5) (.child (map.node 0x92) .ifNeeded) _ = _
  rw [walk_node hprefix rfl hroute₂, walk_node hlength rfl hroute₃, walk_node hw rfl hroute₄,
    walk_node hleaf rfl hroute₅, walk_done]

/-- A wide move, decoded in 32-bit mode. -/
theorem wide_registers_outside_long_small : ∃ t, Tables.builtin = .ok t ∧
    let m : Mode := { bitness := .bits32, options := {} }
    let bytes : List UInt8 := [0xC4, 0xE1, 0xFB, 0x92, 0xC0]
    let i := t.decode m 0 bytes
    t.accepts m bytes ∧ i.code = .VEX_Kmovq_kr_r64 ∧ i.operands = [.reg .k0, .reg .rax] ∧
      (∃ o ∈ i.operands, o.kind = .register ∧ o.register.isWide) ∧
      i.memory.base.isWide = false ∧ i.memory.index.isWide = false := by
  obtain ⟨b, t, hbuiltin, -, ht⟩ := builtin_describedBy
  refine ⟨t, hbuiltin, ?_⟩
  intro m bytes i
  obtain ⟨map, id₁, id₂, id₃, hway⟩ := ht.leadsToWideMove
  have hfuel : t.walkBound 5 = 6 * t.forest.size + 4 + 8 := by rw [Tables.walkBound]; omega
  obtain ⟨s, hwalk, hvalid, hcode, hoperands⟩ := walk_wideMove hway (6 * t.forest.size + 4)
  rw [← hfuel] at hwalk
  have hread : t.read m (bytes.take maxLength) = .ok s := hwalk
  have haccepts : t.accepts m bytes := Tables.accepts_iff.mpr ⟨s, hread, hvalid⟩
  have hi : i = s.finish m 0 := by
    show t.decode m 0 bytes = _
    rw [Tables.decode_eq_record, hread]
    rfl
  have hcode : i.code = .VEX_Kmovq_kr_r64 := by
    rw [hi, State.finish, if_neg (Bool.eq_false_iff.mp hvalid)]
    exact hcode
  have hoperands : i.operands = [.reg .k0, .reg .rax] := by
    rw [hi, State.finish, if_neg (Bool.eq_false_iff.mp hvalid)]
    exact hoperands
  obtain ⟨hwide, hmemory⟩ := wide_registers_outside_long hbuiltin rfl haccepts 0
  refine ⟨haccepts, hcode, hoperands, hwide.mpr ?_, hmemory⟩
  show i.code ∈ wideMoves
  rw [hcode]
  exact List.mem_cons_self

end OpcodeForest
