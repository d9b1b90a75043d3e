import OpcodeForest.Proofs.Decode.ByteOrder
import OpcodeForest.Proofs.Decode.Registers

/-!
# Immediates

The bytes of an immediate are the last of its instruction, but for a second immediate byte. Their
number is that of the operand's kind, and the kind says how the value is extended.

* `OperandKind.immediateBytes?`, `OperandKind.immediateWord`: the bytes of an immediate and the
  value that they stand for.
* `immediates_step`, `immediates_steps`: what a step reads, and a plan.
* `Instruction.TrailsOff`, `immediates_trail`: the immediate of an instruction that is decoded.
-/

namespace OpcodeForest

/-! ### Kinds of immediates -/

namespace OperandKind

/-- Bytes that encode an immediate of this kind. -/
def immediateBytes? : OperandKind → Option Nat
  | immediate8 | immediate8to16 | immediate8to32 | immediate8to64 => some 1
  | immediate16 => some 2
  | immediate32 | immediate32to64 => some 4
  | immediate64 => some 8
  | _ => none

/-- Bits that an immediate of this kind is sign-extended to. -/
def signBits? : OperandKind → Option Nat
  | immediate8to16 => some 16
  | immediate8to32 => some 32
  | immediate8to64 | immediate32to64 => some 64
  | _ => none

/-- The value that the bytes `d` stand for, extended to 64 bits as the kind says. -/
def immediateWord (k : OperandKind) (d : List UInt8) : BitVec 64 :=
  match k.signBits? with
  | some bits => ((BitVec.ofNat (8 * d.length) (littleEndian d)).signExtend bits).setWidth 64
  | none => BitVec.ofNat 64 (littleEndian d)

/-- The kinds with bytes are those of the first immediate. -/
theorem field?_of_immediateBytes? {k : OperandKind} {w : Nat} (h : k.immediateBytes? = some w) :
    k.field? = some .immediate := by
  cases k <;> cases h <;> rfl

theorem immediateBytes?_of_field? {k : OperandKind} (h : k.field? = some .immediate) :
    ∃ w ≤ 8, k.immediateBytes? = some w := by
  cases k <;> cases h <;> exact ⟨_, by decide, rfl⟩

end OperandKind

/-! ### Values -/

theorem littleEndian_lt (d : List UInt8) : littleEndian d < 2 ^ (8 * d.length) := by
  induction d with
  | nil => exact Nat.one_pos
  | cons b rest ih =>
      have hb : b.toNat < 256 := b.toNat_lt
      rw [littleEndian, List.length_cons, Nat.mul_succ, Nat.pow_add]
      omega

theorem wrap_natCast {w n : Nat} (h : n < 2 ^ w) : wrap w n = UInt64.ofNat n := by
  rw [wrap_eq_ofInt, BitVec.ofInt_natCast, BitVec.toNat_ofNat, Nat.mod_eq_of_lt h]

theorem wrap_signed (w : Nat) (d : List UInt8) :
    wrap w (signed (8 * d.length) (littleEndian d)) = UInt64.ofBitVec
      (((BitVec.ofNat (8 * d.length) (littleEndian d)).signExtend w).setWidth 64) := by
  rw [wrap_eq_ofInt, ofInt_signed, displacementWord, ← BitVec.ofNat_toNat]
  rfl

/-- **The value of an immediate is that of its bytes.** -/
theorem immediateValue?_eq {i : Instruction} {k : OperandKind} {d : List UInt8}
    (hk : k.immediateBytes? = some d.length) (hi : i.immediate.toNat = littleEndian d) :
    i.immediateValue? k = some (UInt64.ofBitVec (k.immediateWord d)) := by
  have hlt := littleEndian_lt d
  have hsigned : ∀ bits n, n = 8 * d.length →
      wrap bits (signed n (littleEndian d)) = UInt64.ofBitVec
        (((BitVec.ofNat (8 * d.length) (littleEndian d)).signExtend bits).setWidth 64) := by
    rintro bits _ rfl
    exact wrap_signed bits d
  cases k with
  | immediate8 | immediate16 | immediate32 =>
      have hd := Option.some.inj hk
      rw [← hd] at hlt
      simp only [Instruction.immediateValue?, hi, wrap_natCast hlt]
      rfl
  | immediate64 =>
      have himmediate : i.immediate = UInt64.ofNat (littleEndian d) := by
        rw [← hi, UInt64.ofNat_toNat]
      exact congrArg some himmediate
  | immediate8to16 | immediate8to32 | immediate8to64 | immediate32to64 =>
      have hd := Option.some.inj hk
      simp only [Instruction.immediateValue?, hi]
      rw [hsigned _ _ (by rw [← hd])]
      rfl
  | _ => cases hk

/-! ### Steps -/

section

variable {m : Mode} {s s' : State}

theorem reads_readImmediate {k : OperandKind} {n : Nat} (hn : n ≤ 8)
    (h : s.readImmediate k n = .ok s') :
    ∃ d, d.length = n ∧ s.Reads d s' ∧ s'.draft.immediate.toNat = littleEndian d := by
  obtain ⟨a, ha, h⟩ := bind_eq_ok_iff.mp h
  cases h
  obtain ⟨d, hd, hvalue, hreads⟩ := reads_word ha
  refine ⟨d, hd, ⟨hreads.pending, hreads.used⟩, ?_⟩
  have hlt : littleEndian d < 2 ^ 64 :=
    Nat.lt_of_lt_of_le (littleEndian_lt d) (Nat.pow_le_pow_right (by decide) (by omega))
  show (UInt64.ofNat a.1).toNat = littleEndian d
  rw [hvalue]
  exact UInt64.toNat_ofNat_of_lt hlt

/-- **What a step reads that reads an immediate.** -/
theorem immediates_step {step : Step} (hrole : step.role = .immediate)
    (h : step.run m s = .ok s') : ∃ k d, step.kinds m s = [k] ∧
      k.immediateBytes? = some d.length ∧ s.Reads d s' ∧
      s'.draft.immediate.toNat = littleEndian d := by
  have hread : ∀ {k n}, k.immediateBytes? = some n → s.readImmediate k n = .ok s' → ∃ d,
      k.immediateBytes? = some d.length ∧ s.Reads d s' ∧
        s'.draft.immediate.toNat = littleEndian d := by
    intro k n hk h
    have hn : n ≤ 8 := by
      obtain ⟨w, hw, hbytes⟩ := OperandKind.immediateBytes?_of_field?
        (OperandKind.field?_of_immediateBytes? hk)
      exact Option.some.inj (hk.symm.trans hbytes) ▸ hw
    obtain ⟨d, hd, hreads⟩ := reads_readImmediate hn h
    exact ⟨d, hd ▸ hk, hreads⟩
  cases step with
  | imm8 => exact ⟨_, (hread rfl h).imp fun _ hd => ⟨rfl, hd⟩⟩
  | imm16 => exact ⟨_, (hread rfl h).imp fun _ hd => ⟨rfl, hd⟩⟩
  | imm32 => exact ⟨_, (hread rfl h).imp fun _ hd => ⟨rfl, hd⟩⟩
  | immZ sizing =>
      simp only [Step.run] at h
      simp only [Step.kinds]
      cases hsize : sizing.size m s <;> rw [hsize] at h <;>
        exact ⟨_, (hread rfl h).imp fun _ hd => ⟨rfl, hd⟩⟩
  | imm8Signed sizing =>
      have hbytes : (OperandKind.extendedOf (sizing.size m s)).immediateBytes? = some 1 := by
        cases sizing.size m s <;> rfl
      exact ⟨_, (hread hbytes h).imp fun _ hd => ⟨rfl, hd⟩⟩
  | immFull sizing =>
      have hbytes : (OperandKind.immediateOf (sizing.size m s)).immediateBytes?
          = some ((sizing.size m s).bits / 8) := by
        cases sizing.size m s <;> rfl
      exact ⟨_, (hread hbytes h).imp fun _ hd => ⟨rfl, hd⟩⟩
  | _ => cases hrole

/-- The kind refers to no immediate. -/
def OperandKind.NoImmediate (k : OperandKind) : Prop :=
  k.field? ≠ some .immediate ∧ k.field? ≠ some .second

instance (k : OperandKind) : Decidable k.NoImmediate := inferInstanceAs (Decidable (_ ∧ _))

/-- Steps of other roles add no immediates. -/
theorem Step.noImmediate_kinds {step : Step} (hrole : step.role ∈ [.silent, .address, .other]) :
    ∀ k ∈ step.kinds m s, k.NoImmediate := by
  cases step with
  | imm8 | imm16 | imm32 | immZ | imm8Signed | immFull | imm8Second | one => simp [role] at hrole
  | rm | rmBound | rmVector | rmScalar | is4BeforeRm =>
      simp only [kinds, formKind]
      cases s.registerForm <;> decide
  | exchange number =>
      simp only [kinds]
      split
      · decide
      · split <;> decide
  | rel8 sizing | relZ _ sizing | far sizing =>
      simp only [kinds]
      cases sizing.size m s <;> decide
  | stringSource | stringDestination =>
      simp only [kinds]
      cases s.addressSize m <;> decide
  | _ => simp only [kinds]; decide

/-! ### Plans -/

/-- The bytes of immediates are the last that are read from `s` to `s'`, where operands of the kinds
`ks` are added: `d` are those of the first one, and those of the second come behind. -/
structure ReadsImmediates (ks : List OperandKind) (d : List UInt8) (s s' : State) : Prop where
  reads : ∃ c, s.Reads (c ++ (d ++ if .immediate8Second ∈ ks then [s'.draft.immediate2] else [])) s'
  bytes : ∀ k ∈ ks, ∀ w, k.immediateBytes? = some w → w = d.length
  value : s'.draft.immediate.toNat = littleEndian d

theorem OperandKind.NoImmediate.immediateBytes? {k : OperandKind} (h : k.NoImmediate) {w : Nat} :
    k.immediateBytes? ≠ some w := fun hw => h.1 (field?_of_immediateBytes? hw)

/-- Behind an immediate the second one. -/
theorem readsImmediates_second {k : OperandKind} {d : List UInt8} {s₁ : State}
    (hk : k.immediateBytes? = some d.length) (hreads : s.Reads d s₁)
    (hvalue : s₁.draft.immediate.toNat = littleEndian d) (h : Step.imm8Second.run m s₁ = .ok s') :
    ReadsImmediates [k, .immediate8Second] d s s' := by
  obtain ⟨a, ha, h⟩ := bind_eq_ok_iff.mp h
  obtain ⟨p, u, hadvances⟩ := advances_byte ha
  have hbyte := reads_byte ha
  cases h
  refine ⟨⟨[], ?_⟩, ?_, ?_⟩
  · rw [if_pos (List.mem_cons_of_mem _ List.mem_cons_self)]
    exact hreads.trans ⟨hbyte.pending, hbyte.used⟩
  · intro k' hk' w hw
    rcases List.mem_pair.mp hk' with rfl | rfl
    · exact Option.some.inj (hw.symm.trans hk)
    · cases hw
  · show a.2.draft.immediate.toNat = _
    rw [hadvances]
    exact hvalue

/-- Behind an immediate steps that read nothing. -/
theorem readsImmediates_silent {steps : List Step} {k : OperandKind} {d : List UInt8} {s₁ : State}
    (hk : k.immediateBytes? = some d.length) (hreads : s.Reads d s₁)
    (hvalue : s₁.draft.immediate.toNat = littleEndian d)
    (hsilent : ∀ step ∈ steps, step.role = .silent) (h : runSteps m steps s₁ = .ok s') :
    ReadsImmediates (k :: steps.flatMap (·.kinds m s₁)) d s s' := by
  have hfirst : k ≠ .immediate8Second := by rintro rfl; cases hk
  have hnone : ∀ k ∈ steps.flatMap (·.kinds m s₁), k.NoImmediate := by
    intro k hk
    obtain ⟨step, hstep, hk⟩ := List.mem_flatMap.mp hk
    exact Step.noImmediate_kinds (by rw [hsilent step hstep]; decide) k hk
  have hpart : Field.immediate.part s' = Field.immediate.part s₁ := by
    refine keeps_steps h .immediate fun hfield => ?_
    obtain ⟨step, hstep, hfield⟩ := List.mem_flatMap.mp hfield
    obtain ⟨k, hk, himmediate⟩ := Step.kind_of_mem_fields hfield Field.noConfusion
    exact (hnone k (List.mem_flatMap.mpr ⟨step, hstep, hk⟩)).1 himmediate
  refine ⟨⟨[], ?_⟩, ?_, ?_⟩
  · rw [if_neg]
    · exact hreads.trans (reads_of_all_silent hsilent h)
    · rw [List.mem_cons, not_or]
      exact ⟨hfirst.symm, fun hmem => (hnone _ hmem).2 rfl⟩
  · intro k' hk' w hw
    rcases List.mem_cons.mp hk' with rfl | hk'
    · exact Option.some.inj (hw.symm.trans hk)
    · exact absurd hw (hnone k' hk').immediateBytes?
  · rw [show s'.draft.immediate = s₁.draft.immediate from congrArg (·.draft.immediate) hpart]
    exact hvalue

/-- Before the immediates a step that adds none. -/
theorem ReadsImmediates.cons {step : Step} {ks : List OperandKind} {d : List UInt8} {s₁ : State}
    (hrole : step.role ∈ [.silent, .address, .other]) (h₁ : step.run m s = .ok s₁)
    (h : ReadsImmediates ks d s₁ s') : ReadsImmediates (step.kinds m s ++ ks) d s s' := by
  have hnone := Step.noImmediate_kinds (m := m) (s := s) hrole
  obtain ⟨⟨c, hc⟩, hbytes, hvalue⟩ := h
  obtain ⟨c₁, hc₁⟩ := reads_step h₁
  have hiff : .immediate8Second ∈ step.kinds m s ++ ks ↔ .immediate8Second ∈ ks := by
    rw [List.mem_append, or_iff_right fun hk => (hnone _ hk).2 rfl]
  refine ⟨⟨c₁ ++ c, ?_⟩, fun k hk => ?_, hvalue⟩
  · simp only [hiff]
    rw [List.append_assoc]
    exact hc₁.trans hc
  · rcases List.mem_append.mp hk with hk | hk
    · exact fun w hw => absurd hw (hnone k hk).immediateBytes?
    · exact hbytes k hk

/-- **What a plan reads**: no immediates, or immediates last. -/
theorem immediates_steps : ∀ {steps : List Step} {s : State},
    Step.immediateLast (steps.map (·.role)) → runSteps m steps s = .ok s' →
    (∀ k ∈ steps.flatMap (·.kinds m s), k.NoImmediate) ∨
      ∃ d, ReadsImmediates (steps.flatMap (·.kinds m s)) d s s'
  | [], s, _, _ => .inl fun _ hk => absurd hk List.not_mem_nil
  | step :: rest, s, hlast, h => by
      obtain ⟨s₁, h₁, h⟩ := bind_eq_ok_iff.mp h
      have hspelled := (effect_step h₁).2.spelled
      rw [List.map_cons] at hlast
      rw [List.flatMap_cons]
      cases hrole : step.role with
      | immediate =>
          rw [hrole, Step.immediateLast, Bool.or_eq_true, beq_iff_eq, List.all_eq_true] at hlast
          obtain ⟨k, d, hkinds, hk, hreads, hvalue⟩ := immediates_step hrole h₁
          refine .inr ⟨d, ?_⟩
          rw [hkinds]
          rcases hlast with hsecond | hsilent
          · obtain ⟨last, rfl, hlast⟩ := List.map_eq_singleton_iff.mp hsecond
            cases last with
            | imm8Second =>
                obtain ⟨s₂, h₂, h⟩ := bind_eq_ok_iff.mp h
                cases h
                exact readsImmediates_second hk hreads hvalue h₂
            | _ => cases hlast
          · have hd := readsImmediates_silent hk hreads hvalue
              (fun step hstep => beq_iff_eq.mp (hsilent _ (List.mem_map_of_mem hstep))) h
            simp only [Step.kinds_of_spelled hspelled] at hd
            exact hd
      | second | constant => rw [hrole] at hlast; cases hlast
      | silent | address | other =>
          -- the steps behind this one decide
          rw [hrole] at hlast
          have hrole : step.role ∈ [.silent, .address, .other] := by rw [hrole]; decide
          have hrest := immediates_steps hlast h
          simp only [Step.kinds_of_spelled hspelled] at hrest
          refine hrest.imp (fun hothers k hk => ?_) fun ⟨d, hd⟩ => ⟨d, hd.cons hrole h₁⟩
          exact (List.mem_append.mp hk).elim (Step.noImmediate_kinds hrole k) (hothers k)

end

/-! ### Instructions -/

/-- The node is a shift by one, whose count takes no byte. -/
def Node.shiftsByOne : Node → Bool
  | .leaf l => l.form == .eb1 || l.form == .ev1
  | _ => false

/-- The instruction ends with the immediate bytes `d`, which an operand of kind `k` refers to, and
with the byte of the second immediate where there is one. -/
structure Instruction.TrailsOff (bytes d : List UInt8) (k : OperandKind) (i : Instruction) :
    Prop where
  length : i.length ≤ bytes.length
  last : d ++ (if .immediate8Second ∈ i.kinds then [i.immediate2] else []) <:+ bytes.take i.length
  value : i.immediate.toNat = littleEndian d
  extended : i.immediateValue? k = some (UInt64.ofBitVec (k.immediateWord d))

section

variable {t : Tables} {m : Mode} {s s' : State} {n : Node} {window bytes : List UInt8}

/-- **What the last node reads**: no immediates, or immediates last. -/
theorem immediates_route (hunder : Underway window s) (hn : n.shiftsByOne = false)
    (hfills : n.fillsOperands) (h : t.route m n s = .ok (s', .done)) :
    (∀ k ∈ s'.kinds, k.NoImmediate) ∨ ∃ d, ReadsImmediates s'.kinds d s s' := by
  have hkinds : s'.kinds = n.steps.flatMap (·.kinds m s) := hunder.kinds_route hfills h
  rw [hkinds]
  cases n with
  | leaf l =>
      obtain ⟨s₁, hrun, hb⟩ := bind_eq_ok_iff.mp h
      cases hb
      rw [Node.shiftsByOne, Bool.or_eq_false_iff, beq_eq_false_iff_ne, beq_eq_false_iff_ne] at hn
      refine (immediates_steps (immediateLast_plan hn.1 hn.2) hrun).imp_right fun ⟨d, hd⟩ => ?_
      obtain ⟨⟨c, hc⟩, hbytes, hvalue⟩ := hd
      exact ⟨d, ⟨c, hc.pending, hc.used⟩, hbytes, hvalue⟩
  | trailing codes =>
      refine .inl fun k hk => ?_
      obtain ⟨step, hstep, hk⟩ := List.mem_flatMap.mp hk
      have hroles : ∀ step ∈ [Step.reg (.low .mm0), .rm (.low .mm0)],
          step.role ∈ [.silent, .address, .other] := by decide
      exact Step.noImmediate_kinds (hroles step hstep) k hk
  | _ => cases hfills

/-- An instruction with operands ends somewhere. -/
theorem Tables.endsAt_of_kind {ip : UInt64} {k : OperandKind}
    (hk : k ∈ (t.decode m ip bytes).kinds) : ∃ n s, t.EndsAt m bytes n s := by
  rcases decode_cases t m bytes with ⟨len, hbad⟩ | ⟨s, hread, haccepted, -⟩
  · rw [hbad] at hk
    cases hk
  · exact endsAt_of_accepts (accepts_iff.mpr ⟨s, hread, Bool.eq_false_iff.mpr haccepted⟩)

/-- The record of the immediates that the last node reads. -/
theorem trailsOff_finish (hwindow : ∃ a, bytes.take maxLength = a ++ s.pending ∧ s.used = a.length)
    {ip : UInt64} (hdecode : t.decode m ip bytes = s'.finish m ip) (haccepted : s'.Accepted m)
    {d : List UInt8} (hd : ReadsImmediates s'.kinds d s s') {k : OperandKind}
    (hk : k.immediateBytes? = some d.length) : (t.decode m ip bytes).TrailsOff bytes d k := by
  obtain ⟨⟨c, hc⟩, -, hvalue⟩ := hd
  obtain ⟨a, ha, hused⟩ := hwindow
  have hle := t.length_decode_le_window m ip bytes
  have hlength : (t.decode m ip bytes).length = s'.used := by
    rw [hdecode, Tables.length_finish]
  have hmax : s'.used ≤ maxLength := hlength ▸ Nat.le_trans hle (List.length_take_le _ _)
  have htake := hc.take_used ha hused
  rw [List.take_take, Nat.min_eq_left hmax] at htake
  have hfinish := hdecode
  rw [State.finish, if_neg haccepted] at hfinish
  have himmediate : (t.decode m ip bytes).immediate.toNat = littleEndian d := by
    rw [hfinish]
    exact hvalue
  refine ⟨?_, ?_, himmediate, immediateValue?_eq hk himmediate⟩
  · exact Nat.le_trans hle (List.length_take_le' _ _)
  · rw [hlength, htake, hfinish, ← List.append_assoc]
    exact List.suffix_append _ _

/-- **Immediates are the last bytes of their instruction.** An instruction with an immediate of one,
two, four or eight bytes that is no shift by one ends with these bytes, but for a second immediate
byte behind them; and the value of the operand is that of the bytes, zero-extended or sign-extended
as its kind says. -/
theorem immediates_trail (t : Tables) (m : Mode) (ip : UInt64) (bytes : List UInt8)
    {k : OperandKind} (hk : k ∈ (t.decode m ip bytes).kinds) {w : Nat}
    (hw : k.immediateBytes? = some w) :
    (∃ n s, t.EndsAt m bytes n s) ∧ ∀ n s, t.EndsAt m bytes n s → n.shiftsByOne = false →
      ∃ d, d.length = w ∧ (t.decode m ip bytes).TrailsOff bytes d k := by
  refine ⟨Tables.endsAt_of_kind hk, ?_⟩
  rintro n s ⟨hcomes, -, hfills, s', hroute, haccepted, hdecode⟩ hn
  rw [hdecode, kinds_finish haccepted] at hk
  rcases immediates_route hcomes.underway hn hfills hroute with hnone | ⟨d, hd⟩
  · exact absurd hw (hnone k hk).immediateBytes?
  · have hlength := hd.bytes k hk w hw
    exact ⟨d, hlength.symm, trailsOff_finish hcomes.underway.consumed (hdecode ip) haccepted hd
      (hlength ▸ hw)⟩

end

/-- A frame of 258 bytes at level 3, whose two immediates are the last three bytes, and an addition
of a negative byte to memory in 16-bit mode. -/
theorem immediates_trail_small :
    let m₆₄ : Mode := { bitness := .bits64, options := {} }
    let m₁₆ : Mode := { bitness := .bits16, options := {} }
    let enter : Leaf := { form := .iwIb, codes := List.map Code.Enterw_imm16_imm8.offset [0, 1, 2] }
    let add : Leaf := { form := .evIb, codes := List.map Code.Add_rm16_imm8.offset [0, 1, 2] }
    let forest := Forest.fresh.push (.leaf enter) |>.push (.leaf add)
    let t : Tables := { smallTables with forest }
    let frame := t.decode m₆₄ 0 [0, 2, 1, 3, 9]
    let sum := t.decode m₁₆ 0 [240, 64, 7, 254, 9]
    .immediate16 ∈ frame.kinds ∧ .immediate8Second ∈ frame.kinds ∧
      (∃ d, d.length = 2 ∧ frame.TrailsOff [0, 2, 1, 3, 9] d .immediate16) ∧
      frame.length = 4 ∧ frame.immediate = 258 ∧ frame.immediate2 = 3 ∧
      .immediate8to16 ∈ sum.kinds ∧
      (∃ d, d.length = 1 ∧ sum.TrailsOff [240, 64, 7, 254, 9] d .immediate8to16) ∧
      sum.length = 4 ∧ sum.immediateValue? .immediate8to16 = some 65534 := by
  intro m₆₄ m₁₆ enter add forest t frame sum
  have hnodes : ∀ n ∈ t.forest.nodes, n.shiftsByOne = false := by decide
  have hframe : .immediate16 ∈ frame.kinds := by decide
  have hsum : .immediate8to16 ∈ sum.kinds := by decide
  obtain ⟨⟨n₁, s₁, h₁⟩, htrail₁⟩ := immediates_trail t m₆₄ 0 [0, 2, 1, 3, 9] hframe rfl
  obtain ⟨⟨n₂, s₂, h₂⟩, htrail₂⟩ := immediates_trail t m₁₆ 0 [240, 64, 7, 254, 9] hsum rfl
  exact ⟨hframe, by decide, htrail₁ n₁ s₁ h₁ (hnodes n₁ h₁.2.1), by decide, by decide, by decide,
    hsum, htrail₂ n₂ s₂ h₂ (hnodes n₂ h₂.2.1), by decide, by decide⟩

end OpcodeForest
