import OpcodeForest.Proofs.Corpus.Tabulation
import OpcodeForest.Proofs.Decode.Leniency
import OpcodeForest.Proofs.Table.RoundTrip
import OpcodeForest.Proofs.Table.WellFormed

/-!
# The built-in tables load

The drafted records can be written, and what is written can be read back; that is a check of the
records, since reading back is settled for all records that pass it. The check also covers the
nodes that select by the options, as far as they ask about the checks of the decoder.

* `serialize_eq`: records that are written without a fault give the bytes of the writer.
* `loadMaps_of_checks`: records that pass the check load.
* `builtin_loads`: the built-in tables load, and no node of theirs asks whether checks are left out.
-/

namespace OpcodeForest

/-! ### Writing -/

/-- Writing until the first fault agrees with writing everything if there is no fault. -/
theorem Writer.foldlM_write {step : Writer → Record → Except TableError Writer}
    (hstep : ∀ w r, (w.write r).1.isOk → step w r = .ok (w.write r).2) :
    ∀ {records : List Record} {w : Writer}, (∀ o ∈ (w.writeAll records).1, o.isOk) →
    records.foldlM step w = .ok (w.writeAll records).2
  | [], _, _ => rfl
  | r :: rest, w, hok => by
      rw [Writer.writeAll_cons] at hok ⊢
      rw [List.foldlM_cons, hstep w r (hok _ List.mem_cons_self)]
      exact foldlM_write hstep fun o ho => hok o (List.mem_cons_of_mem _ ho)

/-- Records that are written without a fault give the bytes of the writer. -/
theorem Writer.serialize_eq {f : Family} {records : List Record}
    (hok : ∀ o ∈ (Writer.writeAll { family := f } records).1, o.isOk) :
    Writer.serialize f records = .ok (Writer.writeAll { family := f } records).2.bytes := by
  unfold Writer.serialize
  rw [Writer.foldlM_write ?_ hok]
  · rfl
  · intro w r h
    cases hw : w.write r with
    | mk outcome w' =>
        rw [hw] at h
        cases outcome with
        | ok n => rfl
        | error e => cases h

/-! ### Reading back -/

/-- The records can be written and read back as a table with `count` maps, and no node of theirs
asks whether checks are left out. -/
def tableChecks (f : Family) (count : Nat) (records : List Record) : Bool :=
  (Writer.writeAll { family := f } records).1.all (·.isOk) && Record.fitsAll f records
    && (Record.labelsAfter f [] records).all (·.ignoresChecks) && decide (count ≤ records.length)
    && (records.drop (records.length - count)).all (·.span == some 256)

/-- Whether a node asks for the checks is seen from its label. -/
theorem Node.ignoresChecks_label (n : Node) : n.label.ignoresChecks = n.ignoresChecks := by
  cases n with
  | byOption modRM default alternatives =>
      simp [Node.label, Node.rename, Node.ignoresChecks, Function.comp_def]
  | _ => rfl

/-- A forest as loading leaves it: the sentinels are there, and no node asks whether checks are
left out. -/
structure Forest.Loaded (f : Forest) : Prop where
  sentinels : f.Extends .fresh
  ignoresChecks : ∀ n ∈ f.nodes.toList, n.ignoresChecks

theorem Forest.loaded_fresh : Forest.fresh.Loaded := ⟨.refl _, by decide⟩

theorem loadMaps_of_checks {f : Family} {count : Nat} {records : List Record} {forest : Forest}
    (h : tableChecks f count records) (hforest : forest.Loaded) :
    ∃ maps forest', Tables.loadMaps f count (Writer.writeAll { family := f } records).2.bytes forest
      = .ok (maps, forest') ∧ forest'.Loaded := by
  simp only [tableChecks, Bool.and_eq_true, List.all_eq_true, decide_eq_true_eq, beq_iff_eq] at h
  obtain ⟨⟨⟨⟨hok, hfits⟩, hlabels⟩, hcount⟩, hroots⟩ := h
  obtain ⟨maps, forest', hread, hadds, -, -⟩ :=
    readTable_adds hforest.sentinels hok hfits hcount hroots
  refine ⟨maps, forest', by rw [Tables.loadMaps, hread], hadds.extend.trans hforest.sentinels, ?_⟩
  obtain ⟨more, hmore, hmem⟩ := hadds
  rw [hmore]
  intro n hn
  rcases List.mem_append.mp hn with hn | hn
  · exact hforest.ignoresChecks n hn
  · rw [← n.ignoresChecks_label]
    exact hlabels _ (hmem n hn)

theorem serialize_of_checks {f : Family} {count : Nat} {records : List Record}
    (h : tableChecks f count records) :
    Writer.serialize f records = .ok (Writer.writeAll { family := f } records).2.bytes := by
  simp only [tableChecks, Bool.and_eq_true] at h
  exact Writer.serialize_eq (List.all_eq_true.mp h.1.1.1.1)

/-- The four tables of records that pass the checks can be written and loaded. -/
theorem load_of_checks {legacy vex xop evex : List Record} (hlegacy : tableChecks .legacy 4 legacy)
    (hvex : tableChecks .vex 3 vex) (hxop : tableChecks .vex 3 xop)
    (hevex : tableChecks .evex 3 evex) : ∃ b t,
      Writer.serialize .legacy legacy = .ok b.legacy ∧ Writer.serialize .vex vex = .ok b.vex ∧
      Writer.serialize .vex xop = .ok b.xop ∧ Writer.serialize .evex evex = .ok b.evex ∧
      Tables.load b = .ok t ∧ t.IgnoresChecks := by
  obtain ⟨maps₁, f₁, h₁, hf₁⟩ := loadMaps_of_checks hlegacy Forest.loaded_fresh
  obtain ⟨maps₂, f₂, h₂, hf₂⟩ := loadMaps_of_checks hvex hf₁
  obtain ⟨maps₃, f₃, h₃, hf₃⟩ := loadMaps_of_checks hxop hf₂
  obtain ⟨maps₄, f₄, h₄, hf₄⟩ := loadMaps_of_checks hevex hf₃
  refine ⟨{ legacy := _, vex := _, xop := _, evex := _ }, _, serialize_of_checks hlegacy,
    serialize_of_checks hvex, serialize_of_checks hxop, serialize_of_checks hevex,
    Tables.load_eq_ok_iff.mpr ⟨maps₁, f₁, maps₂, f₂, maps₃, f₃, maps₄, f₄, h₁, h₂, h₃, h₄, rfl⟩,
    fun n hn => hf₄.ignoresChecks n (Array.mem_toList_iff.mpr hn)⟩

/-! ### The built-in tables -/

set_option maxRecDepth 100000 in
/-- The four tables, evaluated. -/
theorem tableChecks_builtin : tableChecks .legacy 4 Corpus.Legacy.records ∧
    tableChecks .vex 3 Corpus.Vex.records ∧ tableChecks .vex 3 Corpus.Xop.records ∧
    tableChecks .evex 3 Corpus.Evex.records := by
  simp only [Corpus.Legacy.records, Corpus.Vex.records, Corpus.Xop.records, Corpus.Evex.records,
    Draft.map_eq_halves]
  decide +kernel

/-- **The built-in tables load**, and no node of theirs asks whether checks are left out. -/
theorem builtin_loads : ∃ t, Tables.builtin = .ok t ∧ t.IgnoresChecks := by
  obtain ⟨hlegacy, hvex, hxop, hevex⟩ := tableChecks_builtin
  obtain ⟨b, t, hlegacy, hvex, hxop, hevex, hload, ht⟩ := load_of_checks hlegacy hvex hxop hevex
  have hblobs : Blobs.builtin = .ok b :=
    bind_eq_ok_iff.mpr ⟨_, hlegacy, bind_eq_ok_iff.mpr ⟨_, hvex,
      bind_eq_ok_iff.mpr ⟨_, hxop, bind_eq_ok_iff.mpr ⟨_, hevex, rfl⟩⟩⟩⟩
  exact ⟨t, bind_eq_ok_iff.mpr ⟨b, hblobs, hload⟩, ht⟩

/-- **Lenient decoding only accepts more**, in tables where no node asks whether checks are left
out; the built-in ones are such tables. Strict and lenient decoding read the same bytes and go on
at the same place. The strict record is the lenient one, or that of an invalid instruction of the
same length, so what lenient decoding refuses strict decoding refuses. -/
theorem lenient_accepts_more : (∃ t, Tables.builtin = .ok t ∧ t.IgnoresChecks) ∧
    ∀ d : Decoder, d.tables.IgnoresChecks →
      d.decode.1.length = d.lenient.decode.1.length ∧
      d.decode.2.position = d.lenient.decode.2.position ∧
      d.decode.2.ip = d.lenient.decode.2.ip ∧
      (d.decode.1 = d.lenient.decode.1 ∨ d.decode.1 = .bad d.lenient.decode.1.length d.ip) ∧
      (d.lenient.decode.1.isInvalid → d.decode.1.isInvalid) ∧
      ∀ bytes, d.tables.accepts d.mode bytes → d.tables.accepts d.mode.lenient bytes := by
  refine ⟨builtin_loads, fun d ht => ?_⟩
  obtain ⟨hlength, hrecord⟩ := Tables.decode_lenient ht d.mode d.ip (d.data.drop d.position)
  obtain ⟨hposition, hip⟩ := Decoder.next_lenient hlength
  refine ⟨hlength, hposition, hip, hrecord, fun hinvalid => ?_, fun _ => Tables.accepts_lenient ht⟩
  rcases hrecord with hrecord | hrecord
  · exact (congrArg Instruction.isInvalid hrecord).trans hinvalid
  · exact congrArg Instruction.isInvalid hrecord

/-- A lock byte before an instruction that cannot be locked. -/
theorem lenient_accepts_more_small :
    let d : Decoder := smallTables.decoder { bitness := .bits64, options := {} } [240, 16, 7, 9] 5
    d.tables.IgnoresChecks ∧ d.decode.1 = .bad 3 5 ∧ ¬ d.lenient.decode.1.isInvalid ∧
      d.lenient.decode.1.length = 3 ∧ d.lenient.decode.2.position = 3 := by
  intro d
  have ht : d.tables.IgnoresChecks := by
    have hall : ∀ n ∈ smallTables.forest.nodes, n.ignoresChecks := by decide
    exact hall
  have hbad : d.decode.1 = .bad 3 5 := by decide
  obtain ⟨hlength, hposition, -⟩ := lenient_accepts_more.2 d ht
  refine ⟨ht, hbad, by decide, ?_, ?_⟩
  · rw [← hlength, hbad]; rfl
  · rw [← hposition]; decide

end OpcodeForest
