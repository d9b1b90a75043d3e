import OpcodeForest.Proofs.Corpus.Trees
import OpcodeForest.Proofs.Decode.PrefixForm

/-!
# Prefix bytes in the built-in tables

The last record of the legacy table is the one-byte map. Loading keeps its trees, so a check of
the record shows which node each prefix byte leads to.

* `builtin_hasPrefixes`: in the built-in tables each prefix byte leads to its node.
* `prefixes_normalize`: prefix bytes have a normal form there.
-/

namespace OpcodeForest

/-- In the map that the records end with, each prefix byte has its node. -/
def prefixChecks (records : List Record) : Bool :=
  match (Record.trees .legacy records)[records.length - 1]? with
  | some (.array trees) =>
      PrefixByte.all.all fun p => (trees[p.byte.toNat]?).any (·.label == p.label)
  | some (.node _) | none => false

theorem hasPrefixes_of_checks {legacy vex xop evex : List Record} (h : prefixChecks legacy)
    {t : Tables} (ht : t.DescribedBy legacy vex xop evex) : t.HasPrefixes := by
  intro p
  rw [prefixChecks] at h
  split at h
  next trees htrees =>
    obtain ⟨tree, htree, hlabel⟩ :=
      (Option.any_eq_true _ _).mp (List.all_eq_true.mp h p p.mem_all)
    exact (ht.label_oneByte htrees htree).trans (eq_of_beq hlabel)
  all_goals cases h

set_option maxRecDepth 100000 in
theorem prefixChecks_legacy : prefixChecks Corpus.Legacy.records := by
  simp only [Corpus.Legacy.records, Draft.map_eq_halves]
  decide +kernel

/-- In the built-in tables each prefix byte leads to its node. -/
theorem builtin_hasPrefixes : ∃ t, Tables.builtin = .ok t ∧ t.HasPrefixes := by
  obtain ⟨b, t, hbuiltin, -, ht⟩ := builtin_describedBy
  exact ⟨t, hbuiltin, hasPrefixes_of_checks prefixChecks_legacy ht⟩

/-- **Prefix bytes have a normal form** in the built-in tables. A walk passes the prefix bytes of a
mode, whatever their number and order, in two moves each. It is then before the next opcode byte, in
the state of their normal form: of what came before, only the rank of the segment byte and the place
in the window stay besides. The rank is never seen in a record. So sequences of one length with one
normal form decode alike, whatever follows. -/
theorem prefixes_normalize : ∃ t, Tables.builtin = .ok t ∧ ∀ m : Mode,
    (∀ b : UInt8, (∃ p : PrefixByte, p.existsIn m ∧ p.byte = b) ↔
      b ∈ [0x26, 0x2E, 0x36, 0x3E, 0x64, 0x65, 0x66, 0x67, 0xF0, 0xF2, 0xF3] ∨
        m.long ∧ 0x40 ≤ b ∧ b ≤ 0x4F) ∧
    (∀ ps : List PrefixByte, (∀ p ∈ ps, p.existsIn m) → ∀ rest : List UInt8,
      t.moves m (2 * ps.length) ({ pending := ps.map (·.byte) ++ rest }, t.restart)
        = .ok ((PrefixForm.of m ps).state (hasStrong ps) ps.length rest, t.restart) ∧
      t.read m (ps.map (·.byte) ++ rest)
        = t.walk m (t.walkBound (ps.length + rest.length) - 2 * ps.length) t.restart
            ((PrefixForm.of m ps).state (hasStrong ps) ps.length rest)) ∧
    ∀ ps qs : List PrefixByte, (∀ p ∈ ps, p.existsIn m) → (∀ q ∈ qs, q.existsIn m) →
      ps.length = qs.length → ps.length ≤ maxLength → PrefixForm.of m ps = PrefixForm.of m qs →
      ∀ (ip : UInt64) (rest : List UInt8), t.decode m ip (ps.map (·.byte) ++ rest)
        = t.decode m ip (qs.map (·.byte) ++ rest) := by
  obtain ⟨t, hbuiltin, ht⟩ := builtin_hasPrefixes
  refine ⟨t, hbuiltin, fun m => ⟨fun b => PrefixByte.exists_byte_iff, fun ps hps rest => ⟨?_, ?_⟩,
    fun ps qs hps hqs hlength hmax hform => ht.decode_prefixes hps hqs hlength hmax hform⟩⟩
  · rw [← State.afterPrefixes_nil m]
    exact ht.moves_prefixes rest [] hps
  · exact ht.read_prefixes hps rest

/-- In 64-bit mode an early REX byte, an `F3` before an `F2` and a weak segment byte beside a
strong one have no effect. -/
theorem prefixes_normalize_small : ∃ t, Tables.builtin = .ok t ∧
    let m : Mode := { bitness := .bits64, options := {} }
    let ps : List PrefixByte :=
      [.rex 8, .operandSize, .segment .fs, .repeats .rep, .repeats .repne]
    let qs : List PrefixByte :=
      [.segment .gs, .segment .fs, .operandSize, .repeats .repne, .segment .cs]
    (∀ p ∈ ps, p.existsIn m) ∧ (∀ q ∈ qs, q.existsIn m) ∧ PrefixForm.of m ps = PrefixForm.of m qs ∧
      (PrefixForm.of m ps).mandatory = .pF2 ∧
      t.decode m 0 [0x48, 0x66, 0x64, 0xF3, 0xF2, 0x0F, 0x10, 0xC1]
        = t.decode m 0 [0x65, 0x64, 0x66, 0xF2, 0x2E, 0x0F, 0x10, 0xC1] := by
  obtain ⟨t, hbuiltin, h⟩ := prefixes_normalize
  refine ⟨t, hbuiltin, ?_⟩
  intro m ps qs
  have hps : ∀ p ∈ ps, p.existsIn m := by decide
  have hqs : ∀ q ∈ qs, q.existsIn m := by decide
  have hform : PrefixForm.of m ps = PrefixForm.of m qs := by decide
  exact ⟨hps, hqs, hform, by decide,
    (h m).2.2 ps qs hps hqs rfl (by decide) hform 0 [0x0F, 0x10, 0xC1]⟩

end OpcodeForest
