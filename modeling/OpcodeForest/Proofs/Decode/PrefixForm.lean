import OpcodeForest.Proofs.Decode.Locality
import OpcodeForest.Proofs.Decode.Retouch
import OpcodeForest.Proofs.Forest.Unfolding

/-!
# The normal form of prefix bytes

Prefix bytes may come in any number and any order. What a decoder knows after them is settled by
their normal form: which of some bytes occur, and the last one of others. A REX byte counts only
directly before the opcode.

* `PrefixForm.of_concat`, `apply_state`: one more byte, in the normal form and in the state.
* `HasPrefixes.moves_prefixes`: a walk passes a sequence and is in the state of its normal form.
* `HasPrefixes.decode_prefixes`: sequences of one length with one normal form decode alike.
-/

namespace OpcodeForest

/-! ### Prefix bytes -/

/-- The bytes that select a segment. -/
inductive SegmentByte where
  | es | cs | ss | ds | fs | gs
deriving DecidableEq, Repr

namespace SegmentByte

def byte : SegmentByte → UInt8
  | es => 0x26
  | cs => 0x2E
  | ss => 0x36
  | ds => 0x3E
  | fs => 0x64
  | gs => 0x65

def register : SegmentByte → Register
  | es => .es
  | cs => .cs
  | ss => .ss
  | ds => .ds
  | fs => .fs
  | gs => .gs

/-- Outranks the others in 64-bit mode. -/
def strong : SegmentByte → Bool
  | es | cs | ss | ds => false
  | fs | gs => true

end SegmentByte

/-- The bytes that repeat, or take part in the opcode. -/
inductive RepeatByte where
  | repne | rep
deriving DecidableEq, Repr

namespace RepeatByte

def byte : RepeatByte → UInt8
  | repne => 0xF2
  | rep => 0xF3

def mandatory : RepeatByte → Mandatory
  | repne => .pF2
  | rep => .pF3

end RepeatByte

/-- The bytes that may stand before an opcode. -/
inductive PrefixByte where
  | segment (g : SegmentByte)
  | operandSize
  | addressSize
  | lock
  | repeats (r : RepeatByte)
  | rex (bits : Fin 16)
deriving DecidableEq, Repr

namespace PrefixByte

def byte : PrefixByte → UInt8
  | segment g => g.byte
  | operandSize => 0x66
  | addressSize => 0x67
  | lock => 0xF0
  | repeats r => r.byte
  | rex bits => .ofNat (0x40 + bits)

def rex? : PrefixByte → Option (Fin 16)
  | rex bits => some bits
  | _ => none

/-- REX bytes exist in 64-bit mode only. -/
def existsIn (m : Mode) (p : PrefixByte) : Bool := p.rex?.isNone || m.long

/-- The prefix bytes of every mode. -/
def common : List PrefixByte :=
  [.es, .cs, .ss, .ds, .fs, .gs].map segment ++ [operandSize, addressSize, lock]
    ++ [.repne, .rep].map repeats

/-- Eleven prefix bytes exist in all modes; the others set extension bits. -/
theorem mem_common_iff {p : PrefixByte} : p ∈ common ↔ p.rex? = none := by
  cases p with
  | segment g => cases g <;> simp [common, rex?]
  | repeats r => cases r <;> simp [common, rex?]
  | operandSize | addressSize | lock | rex => simp [common, rex?]

theorem map_byte_common : common.map byte
    = [0x26, 0x2E, 0x36, 0x3E, 0x64, 0x65, 0x66, 0x67, 0xF0, 0xF2, 0xF3] := rfl

def all : List PrefixByte := common ++ (List.finRange 16).map rex

theorem mem_all (p : PrefixByte) : p ∈ all := by
  cases p with
  | rex bits => exact List.mem_append_right _ (List.mem_map_of_mem (List.mem_finRange bits))
  | segment | operandSize | addressSize | lock | repeats =>
      exact List.mem_append_left _ (mem_common_iff.mpr rfl)

theorem byte_rex (bits : Fin 16) : 0x40 ≤ (rex bits).byte ∧ (rex bits).byte ≤ 0x4F := by
  revert bits
  decide

/-- **The bytes that may stand before an opcode** in a mode. -/
theorem exists_byte_iff {m : Mode} {b : UInt8} : (∃ p : PrefixByte, p.existsIn m ∧ p.byte = b) ↔
    b ∈ [0x26, 0x2E, 0x36, 0x3E, 0x64, 0x65, 0x66, 0x67, 0xF0, 0xF2, 0xF3] ∨
      m.long ∧ 0x40 ≤ b ∧ b ≤ 0x4F := by
  rw [← map_byte_common]
  constructor
  · rintro ⟨p, hp, rfl⟩
    cases p with
    | rex bits => exact .inr ⟨hp, byte_rex bits⟩
    | segment | operandSize | addressSize | lock | repeats =>
        exact .inl (List.mem_map_of_mem (mem_common_iff.mpr rfl))
  · rintro (hb | ⟨hlong, hle, hge⟩)
    · obtain ⟨p, hp, rfl⟩ := List.mem_map.mp hb
      exact ⟨p, by simp [existsIn, mem_common_iff.mp hp], rfl⟩
    · have hle' : 0x40 ≤ b.toNat := hle
      have hge' : b.toNat ≤ 0x4F := hge
      refine ⟨rex ⟨b.toNat - 0x40, by omega⟩, hlong, ?_⟩
      rw [byte, Nat.add_sub_of_le hle', UInt8.ofNat_toNat]

/-- The segment, if the byte selects one of that rank. -/
def segmentOf (strong : Bool) : PrefixByte → Option SegmentByte
  | segment g => if g.strong = strong then some g else none
  | _ => none

def segment? : PrefixByte → Option SegmentByte
  | segment g => some g
  | _ => none

def repeats? : PrefixByte → Option RepeatByte
  | repeats r => some r
  | _ => none

/-- The node of a prefix byte, without its number. -/
def label : PrefixByte → Node
  | segment g => .segment g.strong g.register
  | operandSize => .operandSize
  | addressSize => .addressSize
  | lock => .lock
  | repeats .repne => .repne
  | repeats .rep => .rep
  | rex bits => .rex .invalid bits

/-- What a prefix byte does to the state. -/
def apply (m : Mode) : PrefixByte → State → State
  | segment g => .applySegment m g.strong g.register
  | operandSize => .applyOperandSize
  | addressSize => .applyAddressSize
  | lock => .applyLockByte
  | repeats .repne => .applyRepne
  | repeats .rep => .applyRep
  | rex bits => .applyRex bits

end PrefixByte

/-! ### The normal form -/

/-- What the last of the bytes that `f` picks holds. -/
def lastOf {α : Type} (f : PrefixByte → Option α) (ps : List PrefixByte) : Option α :=
  (ps.filterMap f).getLast?

/-- The last one wins. -/
theorem lastOf_concat {α : Type} (f : PrefixByte → Option α) (ps : List PrefixByte)
    (p : PrefixByte) : lastOf f (ps ++ [p]) = (f p).or (lastOf f ps) := by
  rw [lastOf, List.filterMap_append, List.getLast?_append]
  cases hp : f p <;> simp [hp, lastOf]

theorem exists_of_lastOf {α : Type} {f : PrefixByte → Option α} {ps : List PrefixByte} {a : α}
    (h : lastOf f ps = some a) : ∃ p ∈ ps, f p = some a :=
  List.mem_filterMap.mp (List.mem_of_getLast? h)

/-- The kind of segment override that was asked for. -/
theorem strong_of_lastOf {strong : Bool} {ps : List PrefixByte} {g : SegmentByte}
    (h : lastOf (PrefixByte.segmentOf strong) ps = some g) : g.strong = strong := by
  obtain ⟨p, -, hp⟩ := exists_of_lastOf h
  cases p with
  | segment g' =>
      rw [PrefixByte.segmentOf] at hp
      split at hp
      next hstrong => exact Option.some.inj hp ▸ hstrong
      next => cases hp
  | operandSize | addressSize | lock | repeats | rex => cases hp

/-- A strong segment byte is among `ps`. -/
def hasStrong (ps : List PrefixByte) : Bool := (lastOf (PrefixByte.segmentOf true) ps).isSome

/-- What of a sequence of prefix bytes matters. -/
structure PrefixForm where
  lock : Bool := false
  operandSize : Bool := false
  addressSize : Bool := false
  /-- The last `F2` or `F3`. -/
  repeats : Option RepeatByte := none
  segment : Option SegmentByte := none
  /-- The bits of a REX byte that comes last. -/
  rex : Option (Fin 16) := none
deriving DecidableEq, Repr

namespace PrefixForm

/-- The normal form of a sequence. In 64-bit mode the last strong segment byte counts, and a weak
one only if there is no strong one. -/
def of (m : Mode) (ps : List PrefixByte) : PrefixForm where
  lock := .lock ∈ ps
  operandSize := .operandSize ∈ ps
  addressSize := .addressSize ∈ ps
  repeats := lastOf PrefixByte.repeats? ps
  segment :=
    if m.long then
      (lastOf (PrefixByte.segmentOf true) ps).or (lastOf (PrefixByte.segmentOf false) ps)
    else lastOf PrefixByte.segment? ps
  rex := ps.getLast?.bind PrefixByte.rex?

/-- In 64-bit mode the normal form tells whether there is a strong segment byte. -/
theorem any_strong {m : Mode} (hlong : m.long) (ps : List PrefixByte) :
    (of m ps).segment.any (·.strong) = hasStrong ps := by
  simp only [of, hlong, if_true, hasStrong]
  cases hs : lastOf (PrefixByte.segmentOf true) ps with
  | some g => exact strong_of_lastOf hs
  | none =>
      cases hw : lastOf (PrefixByte.segmentOf false) ps with
      | some g => exact strong_of_lastOf hw
      | none => rfl

/-- The last of `F2` and `F3` takes part in the opcode, and the operand-size byte if there is
neither. -/
def mandatory (f : PrefixForm) : Mandatory :=
  match f.repeats with
  | some r => r.mandatory
  | none => if f.operandSize then .p66 else .none

/-- The record after the prefix bytes. -/
def draft (f : PrefixForm) : Instruction :=
  { segment := f.segment.elim .none SegmentByte.register
    prefixes := { lock := f.lock
                  rep := f.repeats = some .rep
                  repne := f.repeats = some .repne
                  operandSize := f.operandSize
                  addressSize := f.addressSize } }

/-- The state after `used` prefix bytes, with `rest` to come. -/
def state (f : PrefixForm) (strong : Bool) (used : Nat) (rest : List UInt8) : State :=
  { pending := rest
    used := used
    has66 := f.operandSize
    hasRex := f.rex.isSome
    w := f.rex.any (Nat.testBit · 3)
    r := f.rex.any (Nat.testBit · 2)
    x := f.rex.any (Nat.testBit · 1)
    b := f.rex.any (Nat.testBit · 0)
    mandatory := f.mandatory
    strongSegment := strong
    draft := f.draft }

/-- The normal form with one more byte, after bytes with a strong segment byte if `strong`. Any
byte undoes a REX byte before it. -/
def add (m : Mode) (strong : Bool) (f : PrefixForm) : PrefixByte → PrefixForm
  | .segment g =>
      { f with segment := if !m.long || g.strong || !strong then some g else f.segment
               rex := none }
  | .operandSize => { f with operandSize := true, rex := none }
  | .addressSize => { f with addressSize := true, rex := none }
  | .lock => { f with lock := true, rex := none }
  | .repeats r => { f with repeats := some r, rex := none }
  | .rex bits => { f with rex := some bits }

/-- **One more byte changes the normal form in one place.** -/
theorem of_concat (m : Mode) (ps : List PrefixByte) (p : PrefixByte) :
    of m (ps ++ [p]) = (of m ps).add m (hasStrong ps) p := by
  cases p with
  | segment g =>
      have hsegment : (of m (ps ++ [.segment g])).segment
          = if !m.long || g.strong || !hasStrong ps then some g else (of m ps).segment := by
        simp only [of, hasStrong, lastOf_concat, PrefixByte.segment?, PrefixByte.segmentOf]
        cases m.long with
        | false => simp
        | true =>
            obtain h | ⟨_, h⟩ := Option.eq_none_or_eq_some (lastOf (PrefixByte.segmentOf true) ps)
            · cases g.strong <;> simp [h]
            · cases g.strong <;> simp [h]
      simpa [of, add, lastOf_concat, PrefixByte.repeats?, PrefixByte.rex?] using hsegment
  | operandSize | addressSize | lock | repeats | rex =>
      simp [of, add, lastOf_concat, PrefixByte.repeats?, PrefixByte.segmentOf, PrefixByte.segment?,
        PrefixByte.rex?]

end PrefixForm

/-! ### One more byte -/

theorem hasStrong_concat (ps : List PrefixByte) (p : PrefixByte) :
    hasStrong (ps ++ [p]) = (hasStrong ps || (p.segmentOf true).isSome) := by
  rw [hasStrong, lastOf_concat, hasStrong, Option.isSome_or, Bool.or_comm]

/-- A prefix byte does to the state what it does to the normal form. -/
theorem apply_state (m : Mode) (f : PrefixForm) (strong : Bool) (used : Nat) (rest : List UInt8)
    (p : PrefixByte) : p.apply m (f.state strong used rest)
      = (f.add m strong p).state (strong || (p.segmentOf true).isSome) used rest := by
  cases p with
  | segment g =>
      have hstrong : ((PrefixByte.segment g).segmentOf true).isSome = g.strong := by
        cases g <;> rfl
      have hflag : (f.state strong used rest).strongSegment = strong := rfl
      simp only [hstrong, PrefixByte.apply, State.applySegment, PrefixForm.add, hflag]
      split <;> rfl
  | operandSize =>
      simp only [PrefixByte.segmentOf, Option.isSome_none, Bool.or_false]
      obtain ⟨_, operandSize, _, _ | r, _, _⟩ := f
      · cases operandSize <;> rfl
      · cases r <;> rfl
  | addressSize | lock | rex =>
      simp only [PrefixByte.segmentOf, Option.isSome_none, Bool.or_false]
      rfl
  | repeats r =>
      simp only [PrefixByte.segmentOf, Option.isSome_none, Bool.or_false]
      cases r <;> rfl

/-- The state after the prefix bytes `ps`. -/
def State.afterPrefixes (m : Mode) (ps : List PrefixByte) (rest : List UInt8) : State :=
  (PrefixForm.of m ps).state (hasStrong ps) ps.length rest

theorem State.afterPrefixes_nil (m : Mode) (rest : List UInt8) :
    afterPrefixes m [] rest = { pending := rest } := by
  have hform : PrefixForm.of m [] = {} := by simp [PrefixForm.of, lastOf]
  rw [afterPrefixes, hform]
  rfl

/-! ### A walk through prefix bytes -/

namespace Tables

variable {t : Tables} {m : Mode}

/-- `n` moves of a walk. -/
def moves (t : Tables) (m : Mode) : Nat → State × Next → Except Stop (State × Next)
  | 0, b => .ok b
  | n + 1, b => t.dispatch m b.2 b.1 >>= t.moves m n

/-- A walk can be taken apart after any number of moves. -/
theorem walk_moves (fuel : Nat) : ∀ (n : Nat) (b : State × Next),
    t.walk m (n + fuel) b.2 b.1 = t.moves m n b >>= fun b => t.walk m fuel b.2 b.1
  | 0, b => by rw [Nat.zero_add]; rfl
  | n + 1, b => by
      rw [Nat.add_right_comm, walk_eq_dispatch, moves, bind_assoc]
      exact congrArg _ (funext (walk_moves fuel n))

/-- Each prefix byte leads to its node. -/
def HasPrefixes (t : Tables) : Prop :=
  ∀ p : PrefixByte, (t.forest.get (t.legacy.oneByte.node p.byte)).label = p.label

/-- A prefix node applies its byte and starts over. -/
theorem dispatch_of_label {p : PrefixByte} (hp : p.existsIn m) {id : NodeId}
    (hid : (t.forest.get id).label = p.label) (s : State) :
    t.dispatch m (.child id .ifNeeded) s = .ok (p.apply m s, t.restart) := by
  rw [dispatch_child]
  generalize t.forest.get id = n at hid
  cases p with
  | rex bits =>
      cases n <;> cases hid
      exact if_pos hp
  | repeats r => cases r <;> cases n <;> cases hid <;> rfl
  | segment | operandSize | addressSize | lock =>
      cases n <;> cases hid
      rfl

/-- Two moves pass a prefix byte: to its node, and through it. -/
theorem HasPrefixes.moves_concat (ht : t.HasPrefixes) {p : PrefixByte} (hp : p.existsIn m)
    (ps : List PrefixByte) (rest : List UInt8) :
    t.moves m 2 (.afterPrefixes m ps (p.byte :: rest), t.restart)
      = .ok (.afterPrefixes m (ps ++ [p]) rest, t.restart) := by
  have hlookup : t.dispatch m t.restart (.afterPrefixes m ps (p.byte :: rest))
      = .ok ((PrefixForm.of m ps).state (hasStrong ps) (ps.length + 1) rest,
          .child (t.legacy.oneByte.node p.byte) .ifNeeded) := rfl
  rw [moves, hlookup]
  show t.moves m 1 _ = _
  rw [moves, dispatch_of_label hp (ht p), apply_state]
  show Except.ok _ = _
  rw [State.afterPrefixes, PrefixForm.of_concat, hasStrong_concat, List.length_append]
  rfl

theorem moves_add : ∀ (n k : Nat) (b : State × Next),
    t.moves m (n + k) b = t.moves m n b >>= t.moves m k
  | 0, k, b => by rw [Nat.zero_add]; rfl
  | n + 1, k, b => by
      rw [Nat.add_right_comm, moves, moves, bind_assoc]
      exact congrArg _ (funext (moves_add n k))

theorem moves_done (t : Tables) (m : Mode) (s : State) :
    ∀ n, t.moves m n (s, .done) = .ok (s, .done)
  | 0 => rfl
  | n + 1 => moves_done t m s n

/-- What every move keeps holds after several. -/
theorem moves_keep {J : Next → State → Prop}
    (hJ : ∀ next s b, J next s → t.dispatch m next s = .ok b → b.2 ≠ .done → J b.2 b.1) :
    ∀ {n : Nat} {b b' : State × Next}, J b.2 b.1 → t.moves m n b = .ok b' → b'.2 ≠ .done →
      J b'.2 b'.1
  | 0, _, _, hb, h, _ => by cases h; exact hb
  | n + 1, b, b', hb, h, hnext => by
      obtain ⟨⟨s₁, next⟩, h₁, h⟩ := bind_eq_ok_iff.mp h
      refine moves_keep hJ (hJ _ _ _ hb h₁ ?_) h hnext
      rintro rfl
      rw [moves_done] at h
      cases h
      exact hnext rfl

/-- Reading goes on where its first moves lead. -/
theorem Terminates.read_moves (ht : t.Terminates m) {window : List UInt8} {n : Nat}
    {b : State × Next} (h : t.moves m n ({ pending := window }, t.restart) = .ok b) {fuel : Nat}
    (hfuel : t.walkBound window.length ≤ fuel) : t.read m window = t.walk m fuel b.2 b.1 := by
  have hwalk := walk_moves (t := t) (m := m) fuel n ({ pending := window }, t.restart)
  rw [h, ht.walk_eq (Nat.le_trans hfuel (Nat.le_add_left fuel n))] at hwalk
  exact hwalk

/-- **A walk passes prefix bytes** and is in the state of their normal form. -/
theorem HasPrefixes.moves_prefixes (ht : t.HasPrefixes) (rest : List UInt8) :
    ∀ {ps : List PrefixByte} (before : List PrefixByte), (∀ p ∈ ps, p.existsIn m) →
      t.moves m (2 * ps.length) (.afterPrefixes m before (ps.map (·.byte) ++ rest), t.restart)
        = .ok (.afterPrefixes m (before ++ ps) rest, t.restart)
  | [], before, _ => by rw [List.append_nil]; rfl
  | p :: ps, before, hps => by
      rw [List.length_cons, Nat.mul_succ, Nat.add_comm, moves_add, List.map_cons,
        List.cons_append, ht.moves_concat (hps p List.mem_cons_self)]
      show t.moves m (2 * ps.length) _ = _
      rw [ht.moves_prefixes rest (before ++ [p]) fun q hq => hps q (List.mem_cons_of_mem p hq),
        List.append_assoc]
      rfl

/-! ### Decoding after prefix bytes -/

/-- **Prefixes first**: reading goes on after them, in the state that they leave. -/
theorem HasPrefixes.read_prefixes (ht : t.HasPrefixes) {ps : List PrefixByte}
    (hps : ∀ p ∈ ps, p.existsIn m) (rest : List UInt8) : t.read m (ps.map (·.byte) ++ rest)
      = t.walk m (t.walkBound (ps.length + rest.length) - 2 * ps.length) t.restart
          (.afterPrefixes m ps rest) := by
  have hbound : 2 * ps.length ≤ t.walkBound (ps.length + rest.length) :=
    calc 2 * ps.length ≤ 2 * (ps.length + rest.length + 1) := by omega
      _ ≤ (ps.length + rest.length + 1) * (t.forest.size + 2) := by
          rw [Nat.mul_comm]
          exact Nat.mul_le_mul_left _ (Nat.le_add_left 2 _)
  set fuel := t.walkBound (ps.length + rest.length) - 2 * ps.length
  calc t.read m (ps.map (·.byte) ++ rest)
      = t.walk m (2 * ps.length + fuel) t.restart
          (.afterPrefixes m [] (ps.map (·.byte) ++ rest)) := by
        rw [Nat.add_sub_of_le hbound, read, List.length_append, List.length_map,
          State.afterPrefixes_nil]
    _ = t.moves m (2 * ps.length) (.afterPrefixes m [] (ps.map (·.byte) ++ rest), t.restart) >>=
          fun b => t.walk m fuel b.2 b.1 := walk_moves fuel _ (_, t.restart)
    _ = t.walk m fuel t.restart (.afterPrefixes m ps rest) := by
        rw [ht.moves_prefixes rest [] hps]
        rfl

/-- The rank of the segment byte does not show in a record. -/
theorem record_strengthen (m : Mode) (ip : UInt64) (n : Nat) (r : Except Stop State) :
    record m ip n (Touch.strengthen.outcome (·.retouch .strengthen) r) = record m ip n r := by
  rcases r with (_ | _ | _) | s <;> rfl

/-- Prefix bytes with one normal form are read alike, the rank of the segment byte apart. -/
theorem HasPrefixes.read_alike (ht : t.HasPrefixes) {ps qs : List PrefixByte}
    (hps : ∀ p ∈ ps, p.existsIn m) (hqs : ∀ p ∈ qs, p.existsIn m) (hlength : ps.length = qs.length)
    (hform : PrefixForm.of m ps = PrefixForm.of m qs) (rest : List UInt8) :
    Touch.strengthen.outcome (·.retouch .strengthen) (t.read m (ps.map (·.byte) ++ rest))
      = Touch.strengthen.outcome (·.retouch .strengthen) (t.read m (qs.map (·.byte) ++ rest)) := by
  rw [ht.read_prefixes hps, ht.read_prefixes hqs, hlength]
  -- in 64-bit mode the normal form settles the rank, and outside it nothing asks for it
  cases hlong : m.long with
  | true =>
      have hstrong : hasStrong ps = hasStrong qs := by
        rw [← PrefixForm.any_strong hlong, hform, PrefixForm.any_strong hlong]
      rw [State.afterPrefixes, hform, hstrong, hlength]
      rfl
  | false =>
      rw [← walk_retouch (fun _ => hlong) rfl, ← walk_retouch (fun _ => hlong) rfl,
        State.afterPrefixes, hform, hlength]
      rfl

/-- **Prefix bytes with one normal form decode alike.** -/
theorem HasPrefixes.decode_prefixes (ht : t.HasPrefixes) {ps qs : List PrefixByte}
    (hps : ∀ p ∈ ps, p.existsIn m) (hqs : ∀ p ∈ qs, p.existsIn m) (hlength : ps.length = qs.length)
    (hmax : ps.length ≤ maxLength) (hform : PrefixForm.of m ps = PrefixForm.of m qs) (ip : UInt64)
    (rest : List UInt8) : t.decode m ip (ps.map (·.byte) ++ rest)
      = t.decode m ip (qs.map (·.byte) ++ rest) := by
  set e := rest.take (maxLength - ps.length)
  have hwindow : ∀ {rs : List PrefixByte}, rs.length = ps.length →
      (rs.map (·.byte) ++ rest).take maxLength = rs.map (·.byte) ++ e := fun hrs => by
    rw [List.take_append, List.length_map, hrs, List.take_of_length_le]
    rwa [List.length_map, hrs]
  have hcount : (ps.map (·.byte) ++ e).length = (qs.map (·.byte) ++ e).length := by
    simp [hlength]
  rw [decode_eq_record, decode_eq_record, hwindow rfl, hwindow hlength.symm, hcount]
  rw [← record_strengthen, ht.read_alike hps hqs hlength hform, record_strengthen]

end Tables

end OpcodeForest
