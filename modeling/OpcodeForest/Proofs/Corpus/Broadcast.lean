import OpcodeForest.Proofs.Corpus.Registers
import OpcodeForest.Proofs.Decode.Broadcast

/-!
# Broadcast operands of the built-in tables

A leaf that allows a broadcast should have a tuple type with a scale for one element. The leaves of
the built-in tables do, but for the scalar roundings: these share the form of the packed ones, which
allows a broadcast without asking the leaf.

* `Record.kind_of_mem_labelsAfter`: what a table describes is of the kinds of its family.
* `scalarRoundings`, `builtin_broadcasts`: the leaves that allow a broadcast.
* `broadcast_declared`: the instructions with a broadcast operand.
-/

namespace OpcodeForest

/-! ### Kinds of labels

A check of the EVEX leaves has to look at the EVEX records only. -/

theorem Node.kind?_label (n : Node) : n.label.kind? = n.kind? := by cases n <;> rfl

/-- The label is that of a node of the family. -/
def Family.Labels (f : Family) (n : Node) : Prop := ∃ k ∈ f.kinds, n.kind? = some k

section

variable {f : Family} {spans : Spans} {n : Node}

/-- A sketched node is of a kind that the family has a tag for. -/
theorem Entry.labels_sketch {tag : UInt8} {fields : List NodeField}
    (h : Entry.sketch? f spans tag fields = some n) : f.Labels n.label := by
  obtain ⟨kind, layout, p, ⟨name, hrow⟩, -, rfl⟩ := Entry.sketch?_eq_some h
  rw [Family.Labels, Node.kind?_label]
  exact ⟨kind, List.mem_filterMap.mpr ⟨_, List.mem_of_getElem? hrow, rfl⟩, kind.kind?_node p⟩

mutual

/-- So is every node of an entry, by recursion over the entry and its fields. -/
theorem Entry.kind_of_mem_labels : ∀ (e : Entry), n ∈ e.labels f spans → f.Labels n
  | .invalid, h | .invalidNoModRM, h | .null, h | .invalidPair, h | .ref _, h => by
      rw [Entry.labels] at h; cases h
  | .repeated _ e, h => Entry.kind_of_mem_labels e (by rwa [Entry.labels] at h)
  | .node tag fields, h => by
      rw [Entry.labels, List.mem_append] at h
      rcases h with h | h
      · exact NodeField.kind_of_mem_labelsAll fields h
      · obtain ⟨n', hn', rfl⟩ := List.mem_map.mp h
        exact Entry.labels_sketch (Option.mem_toList.mp hn')

theorem NodeField.kind_of_mem_labels : ∀ (field : NodeField), n ∈ field.labels f spans → f.Labels n
  | .child e, h => Entry.kind_of_mem_labels e (by rwa [NodeField.labels] at h)
  | .code _, h | .codes _, h | .register _, h | .tuple _, h | .flag _, h | .number _, h
  | .byte _, h | .table _, h => by rw [NodeField.labels] at h; cases h

theorem NodeField.kind_of_mem_labelsAll :
    ∀ (fields : List NodeField), n ∈ NodeField.labelsAll f spans fields → f.Labels n
  | [], h => by rw [NodeField.labelsAll] at h; cases h
  | field :: rest, h => by
      rw [NodeField.labelsAll, List.mem_append] at h
      rcases h with h | h
      · exact NodeField.kind_of_mem_labels field h
      · exact NodeField.kind_of_mem_labelsAll rest h

end

/-- And of a record. -/
theorem Record.kind_of_mem_labels (r : Record) (h : n ∈ r.labels f spans) : f.Labels n := by
  cases r with
  | handler e => exact Entry.kind_of_mem_labels e h
  | array entries =>
      obtain ⟨e, -, h⟩ := List.mem_flatMap.mp h
      exact Entry.kind_of_mem_labels e h

/-- **What a table describes is of the kinds of its family.** -/
theorem Record.kind_of_mem_labelsAfter : ∀ {records : List Record} {spans : Spans},
    n ∈ Record.labelsAfter f spans records → f.Labels n
  | [], _, h => by cases h
  | r :: rest, spans, h => by
      rw [Record.labelsAfter, List.mem_append] at h
      rcases h with h | h
      · exact r.kind_of_mem_labels h
      · exact kind_of_mem_labelsAfter h

end

/-! ### The built-in tables -/

/-- The roundings of one element. -/
def scalarRoundings : List Code :=
  [.EVEX_Vrndscaless_xmm_k1z_xmm_xmmm32_imm8_sae, .EVEX_Vrndscalesd_xmm_k1z_xmm_xmmm64_imm8_sae]

/-- If the node allows a broadcast, its instructions are among `codes` where its tuple type has no
scale for one element, and none of them is where it has one. -/
def Node.broadcastsBy (codes : List Code) : Node → Bool
  | .leaf l => !l.spreads || (Node.leaf l).codes.all fun c =>
      codes.contains c == l.tuple.element?.isNone
  | _ => true

theorem Node.broadcastsBy_label (codes : List Code) (n : Node) :
    n.label.broadcastsBy codes = n.broadcastsBy codes := by
  cases n <;> rfl

/-- No leaf but those of EVEX instructions allows a broadcast. -/
theorem Family.Labels.broadcastsBy {f : Family} (hf : f ≠ .evex) {n : Node} (h : f.Labels n)
    (codes : List Code) : n.broadcastsBy codes := by
  have hall : ∀ k ∈ Family.legacy.kinds ++ Family.vex.kinds, k.form?.all (!·.isEvex) := by
    decide +kernel
  obtain ⟨k, hk, hkind⟩ := h
  have hplain : k.form?.all (!·.isEvex) := by
    refine hall k (List.mem_append.mpr ?_)
    cases f with
    | legacy => exact .inl hk
    | vex => exact .inr hk
    | evex => exact absurd rfl hf
  cases n with
  | leaf l =>
      cases hkind
      have hspreads : l.spreads = false := by
        rw [Bool.eq_false_iff]
        intro hspreads
        rw [show Option.all _ _ = !l.form.isEvex from rfl, l.isEvex_of_spreads hspreads] at hplain
        cases hplain
      rw [Node.broadcastsBy, hspreads]
      rfl
  | _ => rfl

set_option maxRecDepth 100000 in
/-- The built-in EVEX records, evaluated. -/
theorem broadcastsBy_evex :
    (Record.labelsAfter .evex [] Corpus.Evex.records).all (·.broadcastsBy scalarRoundings) := by
  simp only [Corpus.Evex.records, Draft.map_eq_halves]
  decide +kernel

/-- **The leaves that allow a broadcast** have a scale for one element, but for the scalar
roundings. -/
theorem builtin_broadcasts {t : Tables} (ht : Tables.builtin = .ok t) :
    ∀ n ∈ t.forest.nodes, n.broadcastsBy scalarRoundings := by
  obtain ⟨b, t', hbuiltin, -, hdescribed⟩ := builtin_describedBy
  obtain rfl : t = t' := Except.ok.inj (ht.symm.trans hbuiltin)
  have hother {f : Family} (hf : f ≠ .evex) (records : List Record) :
      (Record.labelsAfter f [] records).all (·.broadcastsBy scalarRoundings) :=
    List.all_eq_true.mpr fun n hn => (Record.kind_of_mem_labelsAfter hn).broadcastsBy hf _
  exact hdescribed.forall_nodes (Node.broadcastsBy_label _) (by decide) (hother (by decide) _)
    (hother (by decide) _) (hother (by decide) _) broadcastsBy_evex

/-! ### Instructions -/

/-- The code of an instruction whose last leaf allows a broadcast says whether the tuple type has a
scale for one element. -/
theorem code_of_spreads {t : Tables} (ht : Tables.builtin = .ok t) {m : Mode} {bytes : List UInt8}
    {l : Leaf} {s : State} (h : t.EndsAt m bytes (.leaf l) s) (hspreads : l.spreads)
    (ip : UInt64) :
    l.tuple.scale true ≠ l.tuple.scale false ↔ (t.decode m ip bytes).code ∉ scalarRoundings := by
  obtain ⟨-, hn, hfills, s', hroute, haccepted, hdecode⟩ := h
  have hcode : (t.decode m ip bytes).code ∈ (Node.leaf l).codes := by
    rw [hdecode, State.finish, if_neg haccepted]
    exact code_route hfills hroute
  have hall := builtin_broadcasts ht _ hn
  rw [Node.broadcastsBy, hspreads, Bool.not_true, Bool.false_or] at hall
  have hbit := eq_of_beq (List.all_eq_true.mp hall _ hcode)
  rw [TupleType.scale_ne_iff, ← List.contains_iff_mem, hbit]
  cases l.tuple.element? <;> simp

/-- **A broadcast is taken only where the opcode declares one, scalar roundings apart.** With the
built-in tables and in strict mode an instruction with a broadcast operand ends at an EVEX leaf,
whose tuple type has a scale of its own for one element unless the instruction is a scalar rounding.
So the bit `b` on a memory operand of an EVEX instruction without such a scale is refused, unless it
is a scalar rounding. -/
theorem broadcast_declared {t : Tables} (ht : Tables.builtin = .ok t) {m : Mode} (hm : m.strict)
    {bytes : List UInt8} (h : t.accepts m bytes) (ip : UInt64) :
    ((t.decode m ip bytes).broadcast → ∃ l s, t.EndsAt m bytes (.leaf l) s ∧ l.form.isEvex ∧
      (l.tuple.scale true ≠ l.tuple.scale false ↔
        (t.decode m ip bytes).code ∉ scalarRoundings)) ∧
    ∀ l s, t.ComesTo m (bytes.take maxLength) (.leaf l) s → l.form.isEvex → s.evexB →
      s.registerForm = false → l.tuple.scale true = l.tuple.scale false →
        (t.decode m ip bytes).code ∈ scalarRoundings := by
  refine ⟨fun hb => ?_, fun l s hcomes hl hb hform hscale => ?_⟩
  · obtain ⟨n, s, hends⟩ := Tables.endsAt_of_accepts h
    obtain ⟨l, rfl, hspreads⟩ := spreads_of_broadcast hends hb
    exact ⟨l, s, hends, l.isEvex_of_spreads hspreads, code_of_spreads ht hends hspreads ip⟩
  · obtain ⟨b, t', hbuiltin, hload, -⟩ := builtin_describedBy
    obtain rfl : t = t' := Except.ok.inj (ht.symm.trans hbuiltin)
    have hends := Tables.endsAt_of_comesTo ((Tables.load_wellFormed hload).terminates m) hcomes h
    have hcode := code_of_spreads ht hends (spreads_of_evexB hm hl hends hb hform) ip
    exact not_not.mp fun hnot => hcode.mpr hnot hscale

/-- The leaf of a scalar rounding. -/
def scalarRounding : Leaf where
  form := .evexVkHWIbEr
  codes := [.EVEX_Vrndscaless_xmm_k1z_xmm_xmmm32_imm8_sae]
  registers := [.xmm0]
  tuple := .n4

set_option maxRecDepth 100000 in
theorem opcodeLabels?_scalarRounding :
    Record.opcodeLabel? Corpus.Legacy.records 0x62 = some (.evex .invalid) ∧
    Record.opcodeLabels? .evex 3 Corpus.Evex.records 2 0x0A [1, 0]
      = some [.payloadPrefix true (.replicate 4 .invalid), .byW .invalid .invalid,
        .leaf scalarRounding] := by
  simp only [Corpus.Legacy.records, Corpus.Evex.records, Draft.map_eq_halves]
  decide +kernel

/-- The nodes on the way to a scalar rounding. -/
structure Tables.LeadsToScalarRounding (t : Tables) (map : OpcodeMap) (id₁ id₂ : NodeId) :
    Prop where
  evex : ∃ otherwise, t.forest.get (t.legacy.oneByte.node 0x62) = .evex otherwise
  map₂ : t.evex[2]? = some map
  prefixed : ∃ ids, t.forest.get (map.node 0x0A) = .payloadPrefix true ids ∧ ids[1]? = some id₁
  w : ∃ other, t.forest.get id₁ = .byW id₂ other
  leaf : t.forest.get id₂ = .leaf scalarRounding

theorem Tables.DescribedBy.leadsToScalarRounding {t : Tables}
    (ht : t.DescribedBy Corpus.Legacy.records Corpus.Vex.records Corpus.Xop.records
      Corpus.Evex.records) : ∃ map id₁ id₂, t.LeadsToScalarRounding map id₁ id₂ := by
  obtain ⟨map, hmap, hprefix, id₁, hid₁, hw, id₂, hid₂, hleaf⟩ :=
    ht.evex.descends opcodeLabels?_scalarRounding.2
  have hevex := ht.label_opcode opcodeLabels?_scalarRounding.1
  generalize List.replicate 4 NodeId.invalid = ids at hprefix
  refine ⟨map, id₁, id₂, ?_, hmap, ?_, ?_, leaf_of_label (List.cons.inj hleaf).1.symm⟩
  · generalize t.forest.get (t.legacy.oneByte.node 0x62) = n at hevex
    cases n <;> cases hevex
    exact ⟨_, rfl⟩
  · generalize t.forest.get (map.node 0x0A) = n at hprefix hid₁
    cases n <;> cases hprefix
    exact ⟨_, rfl, hid₁⟩
  · generalize t.forest.get id₁ = n at hw hid₂
    cases n <;> cases hw
    cases hid₂
    exact ⟨_, rfl⟩

theorem walk_opcode {t : Tables} {m : Mode} {map : OpcodeMap} {policy : ModRMPolicy} {s : State}
    {b : UInt8} {rest : List UInt8} (h : s.pending = b :: rest) (fuel : Nat) :
    t.walk m (fuel + 1) (.lookup map policy) s
      = t.walk m fuel (.child (map.node b) policy)
        { s with pending := rest, used := s.used + 1 } := by
  rw [walk_lookup, State.byte_of_pending h]
  rfl

/-- The walk to a scalar rounding of a memory operand, with the bit `b`. -/
theorem walk_scalarRounding {t : Tables} {map : OpcodeMap} {id₁ id₂ : NodeId}
    (h : t.LeadsToScalarRounding map id₁ id₂) (fuel : Nat) :
    let m : Mode := { bitness := .bits64, options := {} }
    ∃ s, t.walk m (fuel + 7) t.restart { pending := [0x62, 0xF3, 0x7D, 0x18, 0x0A, 0, 1] } = .ok s ∧
      (s.invalid || m.strict && s.strayLock) = false ∧
      s.draft.code = .EVEX_Vrndscaless_xmm_k1z_xmm_xmmm32_imm8_sae ∧ s.draft.broadcast := by
  intro m
  obtain ⟨⟨otherwise, hevex⟩, hmap, ⟨ps, hprefix, hps⟩, ⟨other, hw⟩, hleaf⟩ := h
  let s₁ := State.afterEvex m 0xF3 0x7D 0x18 { pending := [0x0A, 0, 1], used := 4, modRM := 0xF3 }
  let s₂ : State := { s₁ with pending := [1], used := 6, modRM := 0 }
  let s₃ : State :=
    { s₂ with pending := [], used := 7
              draft := { code := .EVEX_Vrndscaless_xmm_k1z_xmm_xmmm32_imm8_sae
                         operands := [.reg .xmm0, .reg .xmm0, .plain .memory, .plain .immediate8]
                         memory := { base := .rax, scale := 1 }
                         immediate := 1
                         broadcast := true } }
  have hroute₁ : t.route m (.evex otherwise)
      { pending := [0x7D, 0x18, 0x0A, 0, 1], used := 2, modRM := 0xF3 }
      = .ok (s₁, .lookup map .always) := by
    show t.routeEvex m _ = _
    rw [routeEvex_of_bits (n := 2) rfl rfl (by decide), Tables.payloadMap, hmap]
  have hroute₂ : t.route m (.payloadPrefix true ps) s₂ = .ok (s₂, .child id₁ .never) := by
    rw [← show ps.getD 1 .invalid = id₁ by rw [List.getD_eq_getElem?_getD, hps]; rfl]
    rfl
  have hroute₃ : t.route m (.byW id₂ other) s₂ = .ok (s₂, .child id₂ .never) := rfl
  have hroute₄ : t.route m (.leaf scalarRounding) s₂ = .ok (s₃, .done) := by
    show (scalarRounding.run m s₂ >>= fun s => pure (s, Next.done)) = _
    rw [show scalarRounding.run m s₂ = .ok s₃ by decide]
    rfl
  refine ⟨s₃, ?_, by decide, rfl, rfl⟩
  rw [Tables.restart, walk_opcode rfl, walk_node hevex rfl hroute₁, walk_opcode (s := s₁) rfl,
    walk_node hprefix rfl hroute₂, walk_node hw rfl hroute₃, walk_node hleaf rfl hroute₄, walk_done]

/-- A scalar rounding with a broadcast operand, though its tuple type has one scale only. -/
theorem broadcast_declared_small : ∃ t, Tables.builtin = .ok t ∧
    let m : Mode := { bitness := .bits64, options := {} }
    let bytes : List UInt8 := [0x62, 0xF3, 0x7D, 0x18, 0x0A, 0, 1]
    let i := t.decode m 0 bytes
    m.strict ∧ t.accepts m bytes ∧ i.code = .EVEX_Vrndscaless_xmm_k1z_xmm_xmmm32_imm8_sae ∧
      i.broadcast ∧ ∃ l s, t.EndsAt m bytes (.leaf l) s ∧ l.form.isEvex ∧
        l.tuple.scale true = l.tuple.scale false := by
  obtain ⟨b, t, hbuiltin, -, ht⟩ := builtin_describedBy
  refine ⟨t, hbuiltin, ?_⟩
  intro m bytes i
  obtain ⟨map, id₁, id₂, hway⟩ := ht.leadsToScalarRounding
  have hfuel : t.walkBound 7 = 8 * t.forest.size + 9 + 7 := by rw [Tables.walkBound]; omega
  obtain ⟨s, hwalk, hvalid, hcode, hbroadcast⟩ := walk_scalarRounding hway (8 * t.forest.size + 9)
  rw [← hfuel] at hwalk
  have hread : t.read m (bytes.take maxLength) = .ok s := hwalk
  have haccepts : t.accepts m bytes := Tables.accepts_iff.mpr ⟨s, hread, hvalid⟩
  have hi : i = s.finish m 0 := by
    show t.decode m 0 bytes = _
    rw [Tables.decode_eq_record, hread]
    rfl
  rw [State.finish, if_neg (Bool.eq_false_iff.mp hvalid)] at hi
  have hcode : i.code = .EVEX_Vrndscaless_xmm_k1z_xmm_xmmm32_imm8_sae := by rw [hi]; exact hcode
  have hbroadcast : i.broadcast := by rw [hi]; exact hbroadcast
  have hm : m.strict := by decide
  obtain ⟨l, s, hends, hl, hscale⟩ := (broadcast_declared hbuiltin hm haccepts 0).1 hbroadcast
  refine ⟨hm, haccepts, hcode, hbroadcast, l, s, hends, hl, not_not.mp fun hne => ?_⟩
  refine hscale.mp hne ?_
  show i.code ∈ scalarRoundings
  rw [hcode]
  exact List.mem_cons_self

end OpcodeForest
