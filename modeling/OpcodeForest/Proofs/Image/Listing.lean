import OpcodeForest.Listing
import OpcodeForest.Proofs.Decode.Sweep
import OpcodeForest.Proofs.Image.Lookup

/-!
# Listings of a range

The lines of a range follow each other through one segment of an image. Each of them depends on its
own address only, so a listing can be cut at any line and taken up again there.

* `Segment.line`: the line that an address of a segment has, whatever was listed before it.
* `Segment.Lists`: lines that follow each other from an address to the end of a range or segment.
* `Decoder.lists_linesWhile`: the lines that a decoder gives do.
* `Segment.Lists.append`, `Segment.Lists.unique`: such lines can be put together, and there is one
  way to list a range.
* `listing_contiguous`: what follows for the listings of an image.
-/

namespace OpcodeForest

/-! ### The line at an address -/

/-- The address where the next line starts. -/
def Line.next (l : Line) : UInt64 := l.address + UInt64.ofNat l.instruction.length

/-- The address that follows the last of the lines, or `start` if there is none. -/
def Line.after (start : UInt64) (ls : List Line) : UInt64 := (ls.getLast?.map Line.next).getD start

theorem Line.after_cons (start : UInt64) (l : Line) (ls : List Line) :
    Line.after start (l :: ls) = Line.after l.next ls := by
  rw [Line.after, List.getLast?_cons]
  cases hlast : ls.getLast? with
  | none => rw [Line.after, hlast]; rfl
  | some l' => rw [Line.after, hlast]; rfl

namespace Segment

variable {s : Segment} {t : Tables} {m : Mode} {a : UInt64} {ls : List Line}

/-- The line of the instruction that starts at `a`. -/
def line (s : Segment) (t : Tables) (m : Mode) (a : UInt64) : Line where
  address := a
  bytes := (s.bytesFrom a).take (t.decode m a (s.bytesFrom a)).length
  instruction := t.decode m a (s.bytesFrom a)

theorem length_line_le (s : Segment) (t : Tables) (m : Mode) (a : UInt64) :
    (s.line t m a).instruction.length ≤ (s.bytesFrom a).length :=
  Nat.le_trans (t.length_decode_le_window m a _) (List.length_take_le' _ _)

theorem Spans.toNat_next_line (h : s.Fits) (ha : s.Spans a) :
    (s.line t m a).next.toNat = a.toNat + (s.line t m a).instruction.length :=
  ha.toNat_add h (s.length_line_le t m a)

/-- The lines from `a` on, one after the other, up to `stop` or to the end of the segment. -/
inductive Lists (s : Segment) (t : Tables) (m : Mode) (stop : UInt64) :
    UInt64 → List Line → Prop where
  | done {a : UInt64} (h : stop ≤ a ∨ a = s.limit) : Lists s t m stop a []
  | more {a : UInt64} {ls : List Line} (hstop : a < stop) (ha : s.contains a)
      (hls : Lists s t m stop (s.line t m a).next ls) : Lists s t m stop a (s.line t m a :: ls)

end Segment

/-! ### The lines of a decoder -/

namespace Decoder

variable {d : Decoder} {s : Segment}

/-- The bytes ahead of the decoder are those of the segment from its address on. -/
structure Scans (d : Decoder) (s : Segment) : Prop where
  spans : s.Spans d.ip
  ahead : d.ahead = s.bytesFrom d.ip

theorem ahead_decode (d : Decoder) : d.decode.2.ahead = d.ahead.drop d.decode.1.length :=
  (List.drop_drop ..).symm

theorem Scans.decode_eq (h : d.Scans s) :
    d.decode.1 = (s.line d.tables d.mode d.ip).instruction :=
  congrArg (d.tables.decode d.mode d.ip) h.ahead

/-- A call leaves the decoder in the segment. -/
theorem Scans.decode (hs : s.Fits) (h : d.Scans s) : d.decode.2.Scans s := by
  have hlength : d.decode.1.length ≤ (s.bytesFrom d.ip).length := by
    rw [h.decode_eq]
    exact s.length_line_le d.tables d.mode d.ip
  have hip : d.decode.2.ip = d.ip + UInt64.ofNat d.decode.1.length :=
    congrArg (· + _) (ip_decode d)
  refine ⟨hip ▸ h.spans.add hs hlength, ?_⟩
  rw [hip, h.spans.bytesFrom_add hs hlength, ahead_decode, h.ahead]

theorem canDecode_iff : d.canDecode ↔ d.ahead ≠ [] := by
  rw [canDecode, decide_eq_true_eq, ahead, Ne, List.drop_eq_nil_iff, Nat.not_le]

theorem linesWhile_succ (keep : UInt64 → Bool) (n : Nat) (d : Decoder) :
    d.linesWhile keep (n + 1) = if d.canDecode && keep d.ip then
      ⟨d.decode.1.ip, d.ahead.take d.decode.1.length, d.decode.1⟩ :: d.decode.2.linesWhile keep n
    else [] := rfl

/-- **The lines of a decoder follow each other through the segment.** Each call takes a byte at
least, so there are no more lines than bytes ahead. -/
theorem lists_linesWhile (hs : s.Fits) (stop : UInt64) (n : Nat) : ∀ {d : Decoder},
    d.tables.Terminates d.mode → d.Scans s → d.ahead.length ≤ n →
    s.Lists d.tables d.mode stop d.ip (d.linesWhile (· < stop) n) := by
  induction n with
  | zero =>
      intro d _ hd hn
      have hend : ¬ s.contains d.ip := by
        rw [← hd.spans.bytesFrom_ne_nil hs, ← hd.ahead, not_not]
        exact List.eq_nil_of_length_eq_zero (Nat.eq_zero_of_le_zero hn)
      exact .done (.inr ((Segment.contains_or_eq_limit hs hd.spans).resolve_left hend))
  | succ n ih =>
      intro d ht hd hn
      have hcan : d.canDecode ↔ s.contains d.ip := by
        rw [canDecode_iff, hd.ahead, hd.spans.bytesFrom_ne_nil hs]
      rw [linesWhile_succ]
      split
      next hgo =>
        rw [Bool.and_eq_true, decide_eq_true_eq] at hgo
        have hmoved : d.decode.2.ahead.length ≤ n := by
          have hpos : 0 < d.decode.1.length :=
            Tables.length_decode_pos ht d.ip (canDecode_iff.mp hgo.1)
          rw [ahead_decode, List.length_drop]
          omega
        have hrest := ih (d := d.decode.2) ht (hd.decode hs) hmoved
        have hline : (⟨d.decode.1.ip, d.ahead.take d.decode.1.length, d.decode.1⟩ : Line) =
            s.line d.tables d.mode d.ip := by
          rw [ip_decode, hd.ahead, hd.decode_eq]
          rfl
        have hnext : d.decode.2.ip = (s.line d.tables d.mode d.ip).next := by
          rw [← hline, Line.next, ip_decode]
          exact congrArg (· + _) (ip_decode d)
        rw [hnext] at hrest
        rw [hline]
        exact .more hgo.2 (hcan.mp hgo.1) hrest
      next hstop =>
        rw [Bool.and_eq_true, decide_eq_true_eq, hcan] at hstop
        refine .done ?_
        rcases Segment.contains_or_eq_limit hs hd.spans with hin | hend
        · exact .inl (UInt64.not_lt.mp fun hlt => hstop ⟨hin, hlt⟩)
        · exact .inr hend

end Decoder

/-! ### What such lines are -/

namespace Segment.Lists

variable {s : Segment} {t : Tables} {m : Mode} {a stop mid : UInt64} {ls ls' : List Line}

theorem not_done (hs : s.Fits) (hstop : a < stop) (ha : s.contains a) :
    ¬ (stop ≤ a ∨ a = s.limit) := by
  rintro (hle | rfl)
  · exact UInt64.not_lt.mpr hle hstop
  · have hlt := ((contains_iff hs).mp ha).2
    rw [toNat_limit hs] at hlt
    exact Nat.lt_irrefl _ hlt

/-- **There is one way to list a range.** -/
theorem unique (hs : s.Fits) (h : s.Lists t m stop a ls) (h' : s.Lists t m stop a ls') :
    ls = ls' := by
  induction h generalizing ls' with
  | done hend =>
      cases h' with
      | done _ => rfl
      | more hstop ha _ => exact absurd hend (not_done hs hstop ha)
  | more hstop ha _ ih =>
      cases h' with
      | done hend => exact absurd hend (not_done hs hstop ha)
      | more _ _ hls' => rw [ih hls']

/-- **Lines can be put together**: the lines up to a first end, and those from where they end. -/
theorem append (hmid : mid ≤ stop) (h : s.Lists t m mid a ls)
    (h' : s.Lists t m stop (Line.after a ls) ls') : s.Lists t m stop a (ls ++ ls') := by
  induction h with
  | done _ => exact h'
  | more hlt ha _ ih =>
      rw [Line.after_cons] at h'
      exact .more (UInt64.lt_of_lt_of_le hlt hmid) ha (ih h')

/-- Lines end at the end of the range or of the segment only. -/
theorem ends (h : s.Lists t m stop a ls) :
    stop ≤ Line.after a ls ∨ Line.after a ls = s.limit := by
  induction h with
  | done hend => exact hend
  | more _ _ _ ih => rw [Line.after_cons]; exact ih

/-- Each line is the one that its address has. -/
theorem line_of_mem (h : s.Lists t m stop a ls) {l : Line} (hl : l ∈ ls) :
    l.address < stop ∧ s.contains l.address ∧ l = s.line t m l.address := by
  induction h with
  | done _ => cases hl
  | more hstop ha _ ih =>
      rcases List.mem_cons.mp hl with rfl | hl
      · exact ⟨hstop, ha, rfl⟩
      · exact ih hl

/-- The first line is at the address where the range starts, if the range has an address. -/
theorem head (hs : s.Fits) (h : s.Lists t m stop a ls) :
    ls.head?.map Line.address = if a < stop ∧ s.contains a then some a else none := by
  cases h with
  | done hend => rw [if_neg fun hin => not_done hs hin.1 hin.2 hend]; rfl
  | more hstop ha _ => rw [if_pos ⟨hstop, ha⟩]; rfl

/-- Each line starts where the one before it ends. -/
theorem isChain (hs : s.Fits) (h : s.Lists t m stop a ls) :
    ls.IsChain fun l l' => l'.address.toNat = l.address.toNat + l.instruction.length := by
  induction h with
  | done _ => exact .nil
  | more hstop ha hls ih =>
      cases hls with
      | done _ => exact .singleton _
      | more _ _ _ => exact .cons_cons ((spans_of_contains hs ha).toNat_next_line hs) ih

end Segment.Lists

/-! ### Listings of an image -/

namespace Segment

/-- No address lies in both segments. -/
def Disjoint (s s' : Segment) : Prop :=
  s.base.toNat + s.bytes.length ≤ s'.base.toNat ∨ s'.base.toNat + s'.bytes.length ≤ s.base.toNat

instance (s s' : Segment) : Decidable (s.Disjoint s') := inferInstanceAs (Decidable (_ ∨ _))

end Segment

namespace Image

variable {image : Image} {s : Segment} {a : UInt64}

/-- Every segment ends below the highest address, and no two of them share an address. -/
structure Separate (image : Image) : Prop where
  fits : ∀ s ∈ image.segments, s.Fits
  disjoint : image.segments.Pairwise Segment.Disjoint

/-- An address of a segment is in no other. -/
theorem Separate.segmentAt? (h : image.Separate) (hs : s ∈ image.segments) (ha : s.contains a) :
    image.segmentAt? a = some s := by
  obtain ⟨fits, disjoint⟩ := h
  rw [Image.segmentAt?]
  generalize image.segments = l at fits disjoint hs
  induction l with
  | nil => cases hs
  | cons s' l ih =>
      obtain ⟨hfirst, hrest⟩ := List.pairwise_cons.mp disjoint
      rcases List.mem_cons.mp hs with rfl | hmem
      · exact List.find?_cons_of_pos (p := fun s : Segment => s.contains a) ha
      · have hnot : ¬ s'.contains a := by
          intro ha'
          have hin := (Segment.contains_iff (fits s hs)).mp ha
          have hin' := (Segment.contains_iff (fits s' List.mem_cons_self)).mp ha'
          rcases hfirst s hmem with hle | hle <;> omega
        rw [List.find?_cons_of_neg (p := fun s : Segment => s.contains a) hnot]
        exact ih (fun s hs => fits s (List.mem_cons_of_mem _ hs)) hrest hmem

theorem Separate.byteAt? (h : image.Separate) (hs : s ∈ image.segments) (ha : s.contains a) :
    image.byteAt? a = (s.bytesFrom a).head? := by
  rw [Image.byteAt?, h.segmentAt? hs ha]
  rfl

/-- The bytes of a line are those of the image from its address on. -/
theorem Separate.bytes_line (h : image.Separate) (hs : s ∈ image.segments) (ha : s.contains a)
    (t : Tables) (m : Mode) :
    (s.line t m a).bytes.length = (s.line t m a).instruction.length ∧
    ∀ k < (s.line t m a).instruction.length,
      image.byteAt? (a + UInt64.ofNat k) = (s.line t m a).bytes[k]? := by
  have hfits := h.fits s hs
  have hspans := Segment.spans_of_contains hfits ha
  have hlength := s.length_line_le t m a
  refine ⟨List.length_take_of_le hlength, fun k hk => ?_⟩
  have hle : k ≤ (s.bytesFrom a).length := Nat.le_of_lt (Nat.lt_of_lt_of_le hk hlength)
  have hbytes := hspans.bytesFrom_add hfits hle
  have hin : s.contains (a + UInt64.ofNat k) := by
    rw [← (hspans.add hfits hle).bytesFrom_ne_nil hfits, hbytes, Ne, List.drop_eq_nil_iff,
      Nat.not_le]
    exact Nat.lt_of_lt_of_le hk hlength
  rw [h.byteAt? hs hin, hbytes, List.head?_drop]
  exact (List.getElem?_take_of_lt hk).symm

theorem Separate.lists_listing (h : image.Separate) (hs : s ∈ image.segments) (ha : s.contains a)
    {t : Tables} {m : Mode} (ht : t.Terminates m) (stop : UInt64) :
    s.Lists t m stop a (image.listing t m a stop) := by
  have hfits := h.fits s hs
  rw [listing, h.segmentAt? hs ha]
  exact Decoder.lists_linesWhile hfits stop _
    (d := { tables := t, mode := m, data := s.bytesFrom a, ip := a }) ht
    ⟨Segment.spans_of_contains hfits ha, rfl⟩ (Nat.le_refl _)

end Image

/-- **The listing of a range is contiguous and can be cut at any line**, in tables where every walk
ends; the built-in ones are such tables. The lines start where the range does, follow each other
without gaps, and end only at the end of the range or of the segment. Each line has the bytes of
the image at its address and the instruction that decoding from there alone gives. A range is
listed by listing it up to any address, and then from the address after the last line. -/
theorem listing_contiguous : (∃ t, Tables.builtin = .ok t ∧ ∀ m, t.Terminates m) ∧
    ∀ {image : Image} {t : Tables} {m : Mode} {s : Segment}, image.Separate → t.Terminates m →
      s ∈ image.segments → ∀ start stop : UInt64, s.contains start →
      let lines := image.listing t m start stop
      (stop ≤ start → lines = []) ∧
      (start < stop → lines.head?.map Line.address = some start) ∧
      lines.IsChain (fun l l' => l'.address.toNat = l.address.toNat + l.instruction.length) ∧
      (∀ l ∈ lines, l.address < stop ∧ s.contains l.address ∧
        l.instruction = t.decode m l.address (s.bytesFrom l.address) ∧
        l.bytes.length = l.instruction.length ∧
        ∀ k < l.instruction.length, image.byteAt? (l.address + UInt64.ofNat k) = l.bytes[k]?) ∧
      (stop ≤ Line.after start lines ∨ Line.after start lines = s.limit) ∧
      ∀ mid next, mid ≤ stop → Line.after start (image.listing t m start mid) = next →
        s.contains next → lines = image.listing t m start mid ++ image.listing t m next stop := by
  refine ⟨builtin_terminates, fun {image t m s} himage ht hs start stop hstart => ?_⟩
  have hfits := himage.fits s hs
  have hlists := himage.lists_listing hs hstart ht
  have hhead := (hlists stop).head hfits
  refine ⟨fun hle => ?_, fun hlt => ?_, (hlists stop).isChain hfits, fun l hl => ?_,
    (hlists stop).ends, fun mid next hmid hafter hnext => ?_⟩
  · rw [if_neg fun hin => UInt64.not_lt.mpr hle hin.1, Option.map_eq_none_iff] at hhead
    exact List.head?_eq_none_iff.mp hhead
  · rw [if_pos ⟨hlt, hstart⟩] at hhead
    exact hhead
  · obtain ⟨hbelow, hin, hline⟩ := (hlists stop).line_of_mem hl
    obtain ⟨hlength, hbytes⟩ := himage.bytes_line hs hin t m
    rw [← hline] at hlength hbytes
    exact ⟨hbelow, hin, congrArg Line.instruction hline, hlength, hbytes⟩
  · have hrest := himage.lists_listing hs hnext ht stop
    rw [← hafter] at hrest ⊢
    exact (hlists stop).unique hfits ((hlists mid).append hmid hrest)

/-- Two segments side by side. The lines from the start of the first one go to its end, where its
last instruction is cut short, and the range can be cut inside an instruction. -/
theorem listing_contiguous_small :
    let first : Segment := { base := 4096, bytes := [16, 7, 240, 16, 7, 16] }
    let image : Image := ⟨[first, { base := 4102, bytes := [7, 16] }]⟩
    let lines := image.listing smallTables { bitness := .bits64, options := {} }
    image.Separate ∧ (lines 4096 8192).map Line.address = [4096, 4098, 4101] ∧
      Line.after 4096 (lines 4096 8192) = first.limit ∧
      lines 4096 8192 = lines 4096 4099 ++ lines 4101 8192 := by
  intro first image lines
  have himage : image.Separate := ⟨by decide, by decide⟩
  have ht : smallTables.Terminates { bitness := .bits64, options := {} } :=
    (Tables.load_wellFormed load_smallBlobs).terminates _
  obtain ⟨-, -, -, -, hend, hsplit⟩ := listing_contiguous.2 (s := first) himage ht
    List.mem_cons_self 4096 8192 (by decide)
  refine ⟨himage, by decide, hend.resolve_left (by decide), ?_⟩
  exact hsplit 4099 4101 (by decide) (by decide) (by decide)

end OpcodeForest
