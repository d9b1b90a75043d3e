import Mathlib.Data.Nat.Bitwise
import OpcodeForest.Proofs.Decode.Payload
import OpcodeForest.Proofs.Decode.PrefixForm

/-!
# The two forms of VEX

What the payload byte of two-byte VEX spells can be spelled by the two payload bytes of three-byte
VEX as well. After the payloads the states are the same, but that one more byte has been read and
that another byte stands in the place of the ModRM byte. No node of a VEX map looks there before
the ModRM byte is read, so the two forms are one instruction, a byte longer in one of them.

* `State.delayed`, `walk_delayed`: a walk through a VEX map with one more byte before.
* `applyVex3_eq_applyVex2`: the payload bytes that spell the same.
* `exists_moves_prefixes`: a walk passes the bytes that the tables hold as prefixes.
* `Tables.Delays`, `Delays.decode`: bytes that open one instruction, one byte longer.
* `delays_vex`, `vex_forms_agree`: the two forms do, and their records.
-/

namespace OpcodeForest

/-! ### One more byte before -/

namespace State

/-- One more byte has been read, and `x` stands in the place of the ModRM byte. -/
def delayed (x : UInt8) (s : State) : State := { s with used := s.used + 1, modRM := x }

theorem retouch_delay (s : State) : s.retouch .delay = s.delayed s.modRM := rfl

theorem byte_delayed (x : UInt8) (s : State) :
    (s.delayed x).byte = Touch.delay.outcome (fun b => (b.1, b.2.delayed x)) s.byte := by
  unfold byte
  rw [show (s.delayed x).pending = s.pending from rfl]
  cases s.pending <;> rfl

/-- Reading the ModRM byte takes the other byte away. -/
theorem readModRM_delayed (x : UInt8) (s : State) :
    (s.delayed x).readModRM = (s.retouch .delay).readModRM := by
  rw [retouch_delay, readModRM, readModRM, byte_delayed, byte_delayed]
  cases s.byte with
  | error e => cases e <;> rfl
  | ok a => rfl

end State

theorem exists_delayed (r : Except Stop State) :
    ∃ y, Touch.delay.outcome (·.retouch .delay) r = Touch.delay.outcome (.delayed y) r := by
  cases r with
  | error e => exact ⟨0, by cases e <;> rfl⟩
  | ok s => exact ⟨s.modRM, rfl⟩

section

variable {t : Tables} {m : Mode} {maps : List OpcodeMap}

/-- A choice before the ModRM byte does not look at it, and hands on that it is still to come. -/
theorem exists_child_of_isChoice {n : Node} (hn : n.isChoice) (h : n.hasModRM = false) (s : State) :
    ∃ id, ∀ s' : State, s'.mandatory = s.mandatory → s'.length = s.length →
      t.route m n s' = .ok (s', .child id .ifNeeded) := by
  cases n with
  | byMode modRM other long =>
      cases h
      exact ⟨_, fun _ _ _ => rfl⟩
  | byOption modRM default alternatives =>
      cases h
      exact ⟨_, fun _ _ _ => rfl⟩
  | payloadPrefix modRM children =>
      cases h
      exact ⟨children.getD s.mandatory.rank .invalid, fun s' hmandatory _ => hmandatory ▸ rfl⟩
  | byLength modRM children =>
      cases h
      exact ⟨children.getD s.length .invalid, fun s' _ hlength => hlength ▸ rfl⟩
  | byForm | group | splitGroup | fineGroup | byW | byLengthRounded => cases h
  | _ => cases hn

/-- The only instructions of VEX maps without a ModRM byte have no operands either. -/
theorem form_eq_vexSimple {form : Form} (hform : .leaf form ∈ Family.vex.kinds)
    (h : form.hasModRM = false) : form = .vexSimple := by
  have hall : ∀ k ∈ Family.vex.kinds, k.form?.all fun form =>
      form.hasModRM || form == .vexSimple := by decide +kernel
  have hsome : form.hasModRM || form == .vexSimple := hall _ hform
  rw [h, Bool.false_or] at hsome
  exact of_decide_eq_true hsome

theorem leaf_delayed {l : Leaf} (hl : .leaf l.form ∈ Family.vex.kinds)
    (h : l.form.hasModRM = false) (x : UInt8) (s : State) :
    l.run m (s.delayed x) = Touch.delay.outcome (.delayed x) (l.run m s) := by
  obtain ⟨form, codes, registers, number, locks, tuple, flags⟩ := l
  obtain rfl : form = .vexSimple := form_eq_vexSimple hl h
  rfl

/-- A node that needs the ModRM byte is run after it has been read. -/
theorem walk_delayed_of_hasModRM {id : NodeId} (h : (t.forest.get id).hasModRM) (x : UInt8)
    (fuel : Nat) (s : State) : t.walk m (fuel + 1) (.child id .ifNeeded) (s.delayed x)
      = t.walk m (fuel + 1) (.child id .ifNeeded) (s.retouch .delay) := by
  have hreads : ∀ s, Tables.enter .ifNeeded (t.forest.get id) s = s.readModRM := fun s => if_pos h
  rw [walk_child, walk_child, hreads, hreads, State.readModRM_delayed]

theorem walk_of_not_hasModRM {id : NodeId} (h : (t.forest.get id).hasModRM = false) (fuel : Nat)
    (s : State) : t.walk m (fuel + 1) (.child id .ifNeeded) s
      = t.route m (t.forest.get id) s >>= fun b => t.walk m fuel b.2 b.1 := by
  have hreads : Tables.enter .ifNeeded (t.forest.get id) s = .ok s :=
    if_neg (Bool.eq_false_iff.mp h)
  rw [walk_child, hreads]
  rfl

/-- **From a node of a VEX map**, before the ModRM byte is read. The node may need it; if not, it
is no opcode, or hands over to a child, or is an instruction without operands. -/
theorem walk_child_delayed (ht : t.Holds .vex maps) (x : UInt8) :
    ∀ (fuel : Nat) {id : NodeId} (s : State), t.Meets maps id →
      ∃ y, t.walk m fuel (.child id .ifNeeded) (s.delayed x)
        = Touch.delay.outcome (.delayed y) (t.walk m fuel (.child id .ifNeeded) s)
  | 0, _, _, _ => ⟨x, rfl⟩
  | fuel + 1, id, s, hid => by
      have hholds := ht.node hid
      cases hmodRM : (t.forest.get id).hasModRM with
      | true =>
          rw [walk_delayed_of_hasModRM hmodRM, walk_retouch Bool.noConfusion rfl]
          exact exists_delayed _
      | false =>
          rw [walk_of_not_hasModRM hmodRM, walk_of_not_hasModRM hmodRM]
          generalize hn : t.forest.get id = n at hmodRM hholds
          cases hholds with
          | null | invalid => exact ⟨x, rfl⟩
          | choice hchoice =>
              obtain ⟨c, hroute⟩ := exists_child_of_isChoice (t := t) (m := m) hchoice hmodRM s
              have hc : t.Within maps (.child c .ifNeeded) :=
                within_of_isChoice (b := (s, _)) ht hid (hn ▸ hchoice) (hn ▸ hroute s rfl rfl)
              rw [hroute s rfl rfl, hroute (s.delayed x) rfl rfl]
              exact walk_child_delayed ht x fuel s hc
          | @leaf l hl =>
              refine ⟨x, ?_⟩
              rw [Tables.route, Tables.route, leaf_delayed hl hmodRM]
              cases l.run m s with
              | error e => cases e <;> rfl
              | ok s' =>
                  show t.walk m fuel .done (s'.delayed x)
                    = Touch.delay.outcome (.delayed x) (t.walk m fuel .done s')
                  rw [walk_done, walk_done]
                  rfl

/-- **A walk through a VEX map goes alike with one more byte before.** -/
theorem walk_delayed (ht : t.Holds .vex maps) (x : UInt8) (fuel : Nat) {map : OpcodeMap}
    (hmap : map ∈ maps) (s : State) : ∃ y, t.walk m fuel (.lookup map .ifNeeded) (s.delayed x)
      = Touch.delay.outcome (.delayed y) (t.walk m fuel (.lookup map .ifNeeded) s) := by
  cases fuel with
  | zero => exact ⟨x, rfl⟩
  | succ fuel =>
      rw [walk_lookup, walk_lookup, State.byte_delayed]
      cases s.byte with
      | error e => exact ⟨x, by cases e <;> rfl⟩
      | ok a => exact walk_child_delayed ht x fuel a.2 (Tables.meets_node hmap a.1)

end

/-! ### Payloads that spell the same -/

section

variable (p : UInt8)

/-- `R` stays where it is, the two bits after it are one, and so is the number of the map. -/
theorem toNat_long_first : ((p &&& 0x80) ||| 0x61).toNat = if bit p 7 then 225 else 97 := by
  have hhigh : p.toNat &&& 128 = (p.toNat.testBit 7).toNat * 128 := Nat.and_two_pow p.toNat 7
  rw [UInt8.toNat_or, UInt8.toNat_and]
  show p.toNat &&& 128 ||| 97 = _
  rw [hhigh, bit]
  cases p.toNat.testBit 7 <;> rfl

/-- `W` is zero, and the other fields stand as before. -/
theorem toNat_long_second : (p &&& 0x7F).toNat = p.toNat % 128 := by
  rw [UInt8.toNat_and]
  exact Nat.and_two_pow_sub_one_eq_mod p.toNat 7

theorem map_long_first : ((p &&& 0x80) ||| 0x61).toNat % 32 = 1 := by
  rw [toNat_long_first]
  split <;> rfl

theorem mod_long_first (h : p.toNat / 64 = 3) : ((p &&& 0x80) ||| 0x61).toNat / 64 = 3 := by
  have hfield : p.toNat / 128 % 2 = 1 := by omega
  have hbit : bit p 7 := by
    rw [bit, Nat.testBit_eq_decide_div_mod_eq]
    exact decide_eq_true hfield
  rw [toNat_long_first, if_pos hbit]

theorem bits_long_first : bit ((p &&& 0x80) ||| 0x61) 7 = bit p 7 ∧
    bit ((p &&& 0x80) ||| 0x61) 6 = true ∧ bit ((p &&& 0x80) ||| 0x61) 5 = true := by
  have hbit : ∀ n, bit ((p &&& 0x80) ||| 0x61) n = (if bit p 7 then 225 else 97).testBit n :=
    fun n => congrArg (Nat.testBit · n) (toNat_long_first p)
  rw [hbit, hbit, hbit]
  cases bit p 7 <;> exact ⟨rfl, rfl, rfl⟩

theorem fields_long_second : bit (p &&& 0x7F) 7 = false ∧
    (p &&& 0x7F).toNat / 4 % 2 = p.toNat / 4 % 2 ∧
    Mandatory.ofBits (p &&& 0x7F).toNat = Mandatory.ofBits p.toNat ∧
    State.payloadVvvv (p &&& 0x7F) = State.payloadVvvv p := by
  have hmandatory : p.toNat % 128 % 4 = p.toNat % 4 := by omega
  have hvvvv : p.toNat % 128 / 8 % 16 = p.toNat / 8 % 16 := by omega
  rw [bit, State.payloadVvvv, State.payloadVvvv, toNat_long_second, hvvvv, Mandatory.ofBits,
    Mandatory.ofBits, hmandatory]
  refine ⟨?_, by omega, rfl, rfl⟩
  exact Nat.testBit_lt_two_pow (Nat.mod_lt _ (by decide))

/-- **The long form of a payload spells what the short one does**, which leaves `X` and `B` as they
are. -/
theorem applyVex3_eq_applyVex2 {m : Mode} {s : State} (hx : s.x = false) (hb : s.b = false) :
    s.applyVex3 m ((p &&& 0x80) ||| 0x61) (p &&& 0x7F) = s.applyVex2 m p := by
  obtain ⟨h₇, h₆, h₅⟩ := bits_long_first p
  obtain ⟨hw, hlength, hmandatory, hvvvv⟩ := fields_long_second p
  have hx' : (if m.long then false else s.x) = s.x := by rw [hx, ite_self]
  have hb' : (if m.long then false else s.b) = s.b := by rw [hb, ite_self]
  rw [State.applyVex3, hw, h₇, h₆, h₅, hlength, hmandatory, hvvvv, Bool.not_true, hx', hb']
  rfl

end

/-! ### Prefix bytes of the tables -/

namespace Node

def isRex : Node → Bool
  | rex _ _ => true
  | _ => false

/-- A prefix byte in the mode. Outside 64-bit mode a REX byte is an opcode. -/
def isPrefixIn (m : Mode) (n : Node) : Bool := n.isPrefix && (m.long || !n.isRex)

end Node

section

variable {t : Tables} {m : Mode}

/-- A prefix byte leads back to the one-byte map, and undoes a REX byte if it is none itself. -/
theorem exists_dispatch_of_isPrefixIn {id : NodeId} (hid : (t.forest.get id).isPrefixIn m) (s : State) :
    ∃ s' : State, ((t.forest.get id).isRex = false → s'.x = false ∧ s'.b = false) ∧
      ∀ e, t.dispatch m (.child id .ifNeeded) { s with pending := e }
        = .ok ({ s' with pending := e }, t.restart) := by
  obtain ⟨hpasses, hmode⟩ := Bool.and_eq_true_iff.mp hid
  simp only [dispatch_child]
  generalize t.forest.get id = n at hpasses hmode
  cases n with
  | segment strong register =>
      exact ⟨s.applySegment m strong register, fun _ => ⟨rfl, rfl⟩, fun _ => rfl⟩
  | operandSize => exact ⟨s.applyOperandSize, fun _ => ⟨rfl, rfl⟩, fun _ => rfl⟩
  | addressSize => exact ⟨s.applyAddressSize, fun _ => ⟨rfl, rfl⟩, fun _ => rfl⟩
  | lock => exact ⟨s.applyLockByte, fun _ => ⟨rfl, rfl⟩, fun _ => rfl⟩
  | repne => exact ⟨s.applyRepne, fun _ => ⟨rfl, rfl⟩, fun _ => rfl⟩
  | rep => exact ⟨s.applyRep, fun _ => ⟨rfl, rfl⟩, fun _ => rfl⟩
  | rex otherwise bits =>
      have hlong : m.long := (Bool.or_false _).symm.trans hmode
      exact ⟨s.applyRex bits, Bool.noConfusion, fun _ => if_pos hlong⟩
  | _ => cases hpasses

/-- **A walk passes prefix bytes.** After them `X` and `B` are off, unless the last one is a REX
byte. -/
theorem exists_moves_prefixes (pre : List UInt8)
    (hpre : ∀ x ∈ pre, (t.forest.get (t.legacy.oneByte.node x)).isPrefixIn m) :
    ∃ s : State, ((∀ x ∈ pre.getLast?, (t.forest.get (t.legacy.oneByte.node x)).isRex = false) →
        s.x = false ∧ s.b = false) ∧
      ∀ e, t.moves m (2 * pre.length) ({ pending := pre ++ e }, t.restart)
        = .ok ({ s with pending := e }, t.restart) := by
  induction pre using List.reverseRecOn with
  | nil => exact ⟨{ pending := [] }, fun _ => ⟨rfl, rfl⟩, fun _ => rfl⟩
  | append_singleton pre x ih =>
      obtain ⟨s, -, hmoves⟩ := ih fun y hy => hpre y (List.mem_append_left _ hy)
      obtain ⟨s', hrex, hdispatch⟩ := exists_dispatch_of_isPrefixIn
        (hpre x (List.mem_append_right _ List.mem_cons_self)) { s with used := s.used + 1 }
      refine ⟨s', fun hlast => hrex (hlast x (by simp)), fun e => ?_⟩
      rw [List.length_append, List.append_assoc, Nat.mul_add, Tables.moves_add, hmoves]
      show t.dispatch m (.child (t.legacy.oneByte.node x) .ifNeeded) _ >>= t.moves m 0 = _
      rw [hdispatch]
      rfl

/-! ### From the payloads to the maps -/

theorem isTaken_of_mod {p : UInt8} (hp : m.long ∨ p.toNat / 64 = 3) {s : State} (hs : s.modRM = p) :
    m.long || s.registerForm := by
  rw [Bool.or_eq_true, State.registerForm, State.mod, hs, beq_iff_eq]
  exact hp

/-- The state after two-byte VEX with the payload byte `p`, with `e` to come. -/
def State.afterVex2 (m : Mode) (p : UInt8) (e : List UInt8) (s : State) : State :=
  State.applyVex2 m p (State.beginPayload m { s with pending := e, used := s.used + 2, modRM := p })

theorem moves_vex2 {o : NodeId} (hnode : t.forest.get (t.legacy.oneByte.node 0xC5) = .vex2 o)
    {p : UInt8} (hp : m.long ∨ p.toNat / 64 = 3) {map : OpcodeMap} (hmap : t.vex[0]? = some map)
    (s : State) (e : List UInt8) : t.moves m 2 ({ s with pending := [0xC5, p] ++ e }, t.restart)
      = .ok (s.afterVex2 m p e, .lookup map .ifNeeded) := by
  show t.dispatch m (.child (t.legacy.oneByte.node 0xC5) .ifNeeded)
    { s with pending := p :: e, used := s.used + 1 } >>= t.moves m 0 = _
  rw [dispatch_child, hnode]
  show t.route m (.vex2 o) { s with pending := e, used := s.used + 2, modRM := p } >>= t.moves m 0
    = _
  rw [Tables.route, if_pos (isTaken_of_mod hp rfl), Tables.payloadMap, hmap]
  rfl

/-- **The long form comes to the same map**, and to the same state with one more byte read. -/
theorem moves_vex3 {o : NodeId} (hnode : t.forest.get (t.legacy.oneByte.node 0xC4) = .vex3 o)
    {p : UInt8} (hp : m.long ∨ p.toNat / 64 = 3) {map : OpcodeMap} (hmap : t.vex[0]? = some map)
    {s : State} (hx : s.x = false) (hb : s.b = false) (e : List UInt8) :
    t.moves m 2
        ({ s with pending := [0xC4, (p &&& 0x80) ||| 0x61, p &&& 0x7F] ++ e }, t.restart)
      = .ok ((s.afterVex2 m p e).delayed ((p &&& 0x80) ||| 0x61), .lookup map .ifNeeded) := by
  have hp₁ := hp.imp_right (mod_long_first p)
  have hnumber := map_long_first p
  have hspells := applyVex3_eq_applyVex2 p (m := m) (s := State.beginPayload m
    { s with pending := e, used := s.used + 3, modRM := (p &&& 0x80) ||| 0x61 }) hx hb
  generalize (p &&& 0x80) ||| 0x61 = p₁ at *
  generalize p &&& 0x7F = p₂ at *
  show t.dispatch m (.child (t.legacy.oneByte.node 0xC4) .ifNeeded)
    { s with pending := p₁ :: p₂ :: e, used := s.used + 1 } >>= t.moves m 0 = _
  rw [dispatch_child, hnode]
  show t.route m (.vex3 o) { s with pending := p₂ :: e, used := s.used + 2, modRM := p₁ }
    >>= t.moves m 0 = _
  rw [Tables.route, if_pos (isTaken_of_mod hp₁ rfl), Tables.routeVex3, hnumber]
  show Tables.payloadMap t.vex 0 .ifNeeded (State.applyVex3 m p₁ p₂ (State.beginPayload m
    { s with pending := e, used := s.used + 3, modRM := p₁ })) >>= t.moves m 0 = _
  rw [hspells, Tables.payloadMap, hmap]
  rfl

end

/-! ### Records -/

/-- The record with one more byte, from the address `ip`. -/
def Instruction.delayed (ip : UInt64) (i : Instruction) : Instruction :=
  { i with length := i.length + 1, ip := ip }

namespace Tables

theorem verdict_delayed (z : UInt8) (r : Except Stop State) :
    verdict (Touch.delay.outcome (.delayed z) r) = (verdict r).map (· + 1) := by
  rcases r with (_ | _ | _) | s <;> rfl

theorem verdict_leaving (e : List UInt8) (r : Except Stop State) :
    verdict (leaving e r) = verdict r := by
  rcases r with (_ | _ | _) | s <;> rfl

/-- With one more byte and from a byte earlier, an instruction ends where it did. -/
theorem record_delayed (m : Mode) (ip : UInt64) (n : Nat) (z : UInt8) (r : Except Stop State) :
    record m ip (n + 1) (Touch.delay.outcome (.delayed z) r)
      = (record m (ip + 1) n r).delayed ip := by
  rcases r with (_ | _ | _) | s
  · rfl
  · rfl
  · rfl
  · have hend : ip + UInt64.ofNat (s.used + 1) = ip + 1 + UInt64.ofNat s.used := by
      rw [UInt64.ofNat_add, UInt64.add_assoc, UInt64.add_comm 1]
      rfl
    have hused : (s.delayed z).used = s.used + 1 := rfl
    show (s.delayed z).finish m ip = (s.finish m (ip + 1)).delayed ip
    unfold State.finish
    rw [hused, hend]
    show (if s.invalid || m.strict && s.strayLock then _ else _) = _
    split <;> rfl

/-- The bytes `y` open an instruction as the bytes `x` do, which are one less. -/
structure Delays (t : Tables) (m : Mode) (x y : List UInt8) : Prop where
  length : y.length = x.length + 1
  /-- The instruction is longer than that. -/
  starves : t.read m x = .error .starved
  reads : ∀ e, ∃ z, t.read m (y ++ e) = Touch.delay.outcome (.delayed z) (t.read m (x ++ e))

namespace Delays

variable {t : Tables} {m : Mode} {x y : List UInt8}

/-- Where no bytes are cut off. -/
theorem decode_whole (h : t.Delays m x y) (ip : UInt64) {e : List UInt8}
    (he : (x ++ e).length < maxLength) :
    t.decode m ip (y ++ e) = (t.decode m (ip + 1) (x ++ e)).delayed ip := by
  obtain ⟨z, hz⟩ := h.reads e
  have hlength : (y ++ e).length = (x ++ e).length + 1 := by
    rw [List.length_append, List.length_append, h.length]
    omega
  rw [decode_eq_record, decode_eq_record, List.take_of_length_le (by omega),
    List.take_of_length_le (Nat.le_of_lt he), hlength, hz]
  exact record_delayed m ip _ z _

/-- There is no verdict on `x` or less. -/
theorem length_le (h : t.Delays m x y) (ht : t.Terminates m) {rest : List UInt8} {n : Nat}
    (hn : verdict (t.read m ((x ++ rest).take maxLength)) = some n) : x.length ≤ n := by
  obtain ⟨-, hfollows, -⟩ := verdict_bytes ht hn
  by_contra hlt
  have hx := hfollows (x.drop n)
  rw [List.take_append_of_le_length (by omega), List.take_append_drop, h.starves] at hx
  have hnone := congrArg verdict hx
  rw [verdict_leaving, hn] at hnone
  cases hnone

/-- **The two are decoded alike**, as long as the longer one fits the window. -/
theorem decode (h : t.Delays m x y) (ht : t.Terminates m) (ip : UInt64) {rest : List UInt8}
    (hfits : (t.decode m (ip + 1) (x ++ rest)).length < maxLength) :
    t.decode m ip (y ++ rest) = (t.decode m (ip + 1) (x ++ rest)).delayed ip := by
  cases hn : verdict (t.read m ((x ++ rest).take maxLength)) with
  | none =>
      rw [decode_eq_record, length_record, hn, Option.getD_none, List.length_take] at hfits
      exact h.decode_whole ip (by omega)
  | some n =>
      rw [decode_eq_record, length_record, hn, Option.getD_some] at hfits
      have hlength := h.length
      have hmore := h.length_le ht hn
      obtain ⟨hle, hfollows, -⟩ := verdict_bytes ht hn
      -- the bytes `e'` after the instruction count in neither
      obtain ⟨e, e', rfl, he⟩ : ∃ e e', rest = e ++ e' ∧ e.length = n - x.length := by
        rw [List.length_take, List.length_append] at hle
        exact ⟨rest.take (n - x.length), rest.drop (n - x.length),
          (List.take_append_drop _ _).symm, by rw [List.length_take]; omega⟩
      have hxlength : (x ++ e).length = n := by rw [List.length_append]; omega
      have hylength : (y ++ e).length = n + 1 := by rw [List.length_append]; omega
      have hxe : (x ++ (e ++ e')).take n = x ++ e := by
        rw [← List.append_assoc, List.take_left' hxlength]
      have hx : t.decode m (ip + 1) (x ++ (e ++ e')) = t.decode m (ip + 1) (x ++ e) := by
        rw [← decode_append ht hn (ip + 1) [], List.append_nil, hxe]
      have hy : t.decode m ip (y ++ (e ++ e')) = t.decode m ip (y ++ e) := by
        have hread := hfollows []
        rw [List.append_nil, hxe] at hread
        obtain ⟨z, hz⟩ := h.reads e
        have hverdict : verdict (t.read m ((y ++ e).take maxLength)) = some (n + 1) := by
          rw [List.take_of_length_le (by omega), hz, verdict_delayed, hread, verdict_leaving, hn]
          rfl
        rw [← decode_append ht hverdict ip e', List.take_of_length_le (Nat.le_of_eq hylength),
          List.append_assoc]
      rw [hx, hy]
      exact h.decode_whole ip (by omega)

end Delays

end Tables

/-! ### The two forms -/

/-- **The two forms come to one map**, with one more byte read in the long one. -/
theorem delays_vex {blobs : Blobs} {t : Tables} (ht : Tables.load blobs = .ok t) {o₂ o₃ : NodeId}
    (h₂ : t.forest.get (t.legacy.oneByte.node 0xC5) = .vex2 o₂)
    (h₃ : t.forest.get (t.legacy.oneByte.node 0xC4) = .vex3 o₃) {m : Mode} {pre : List UInt8}
    (hpre : ∀ x ∈ pre, (t.forest.get (t.legacy.oneByte.node x)).isPrefixIn m)
    (hlast : ∀ x ∈ pre.getLast?, (t.forest.get (t.legacy.oneByte.node x)).isRex = false)
    {p : UInt8} (hp : m.long ∨ p.toNat / 64 = 3) :
    t.Delays m (pre ++ [0xC5, p]) (pre ++ [0xC4, (p &&& 0x80) ||| 0x61, p &&& 0x7F]) := by
  have hterminates := (Tables.load_wellFormed ht).terminates m
  have hcount : 0 < t.vex.length := by
    rw [(Tables.sound_of_load ht).payloads.1]
    decide
  obtain ⟨map, hmap⟩ : ∃ map, t.vex[0]? = some map := ⟨_, List.getElem?_eq_getElem hcount⟩
  obtain ⟨s, hrex, hmoves⟩ := exists_moves_prefixes pre hpre
  obtain ⟨hx, hb⟩ := hrex hlast
  -- the walk goes on from the state in which the payload leaves it
  have hreads : ∀ x e b fuel, t.moves m 2 ({ s with pending := x ++ e }, t.restart) = .ok b →
      t.walkBound (pre ++ x ++ e).length ≤ fuel →
      t.read m (pre ++ x ++ e) = t.walk m fuel b.2 b.1 := fun x e b fuel hb hfuel => by
    refine hterminates.read_moves (n := 2 * pre.length + 2) ?_ hfuel
    rw [List.append_assoc, Tables.moves_add, hmoves]
    exact hb
  refine ⟨by simp, ?_, fun e => ?_⟩
  · have hread := hreads [0xC5, p] [] _ _ (moves_vex2 h₂ hp hmap s []) (Nat.le_succ _)
    rw [List.append_nil] at hread
    exact hread
  · obtain ⟨fuel, hle₂, hle₃⟩ : ∃ fuel, t.walkBound (pre ++ [0xC5, p] ++ e).length ≤ fuel ∧
        t.walkBound (pre ++ [0xC4, (p &&& 0x80) ||| 0x61, p &&& 0x7F] ++ e).length ≤ fuel :=
      ⟨max _ _, Nat.le_max_left _ _, Nat.le_max_right _ _⟩
    rw [hreads _ e _ fuel (moves_vex2 h₂ hp hmap s e) hle₂,
      hreads _ e _ fuel (moves_vex3 h₃ hp hmap hx hb e) hle₃]
    exact walk_delayed (Tables.holds_vex ht) _ fuel
      (List.mem_append_left _ (List.mem_of_getElem? hmap)) (s.afterVex2 m p e)

/-- **The two forms of VEX agree**, in tables that load and where `C5` and `C4` lead to them. After
prefix bytes of which a REX byte is not the last, two-byte VEX with the payload byte `p` and
three-byte VEX with the payload bytes that spell the same are one instruction, as long as the longer
one fits fifteen bytes: where the longer one starts a byte earlier, the records differ in length and
address only. Outside 64-bit mode `p` has to name a register in place of a ModRM byte. -/
theorem vex_forms_agree {blobs : Blobs} {t : Tables} (ht : Tables.load blobs = .ok t)
    {o₂ o₃ : NodeId} (h₂ : t.forest.get (t.legacy.oneByte.node 0xC5) = .vex2 o₂)
    (h₃ : t.forest.get (t.legacy.oneByte.node 0xC4) = .vex3 o₃) (m : Mode) {pre : List UInt8}
    (hpre : ∀ x ∈ pre, (t.forest.get (t.legacy.oneByte.node x)).isPrefixIn m)
    (hlast : ∀ x ∈ pre.getLast?, (t.forest.get (t.legacy.oneByte.node x)).isRex = false)
    {p : UInt8} (hp : m.long ∨ p.toNat / 64 = 3) (ip : UInt64) (rest : List UInt8) :
    let i : Instruction := t.decode m (ip + 1) (pre ++ [0xC5, p] ++ rest)
    i.length ≤ 14 → t.decode m ip (pre ++ [0xC4, (p &&& 0x80) ||| 0x61, p &&& 0x7F] ++ rest)
      = { i with length := i.length + 1, ip := ip } := by
  intro i hfits
  exact (delays_vex ht h₂ h₃ hpre hlast hp).decode ((Tables.load_wellFormed ht).terminates m) ip
    (Nat.lt_succ_of_le hfits)

/-- A sum with an operand relative to the instruction pointer, after a byte that repeats, in the
two forms; the long one starts at the last address. -/
theorem vex_forms_agree_small :
    let m : Mode := { bitness := .bits64, options := .noInvalidCheck }
    let ip : UInt64 := 18446744073709551615
    let i : Instruction :=
      vectorTables.decode m (ip + 1) ([0xF2] ++ [0xC5, 0x70] ++ [0x58, 0x05, 0x10, 0, 0, 0])
    Tables.load vectorBlobs = .ok vectorTables ∧
      (vectorTables.forest.get (vectorTables.legacy.oneByte.node 0xF2)).isPrefixIn m ∧
      ¬ i.isInvalid ∧ i.ip = 0 ∧ i.length = 9 ∧ i.memory.displacement = 25 ∧
      vectorTables.decode m ip ([0xF2] ++ [0xC4, 0x61, 0x70] ++ [0x58, 0x05, 0x10, 0, 0, 0])
        = { i with length := i.length + 1, ip := ip } := by
  intro m ip i
  have hlength : i.length = 9 := by decide
  have hnode : vectorTables.forest.get (vectorTables.legacy.oneByte.node 0xF2) = .repne := rfl
  have hrepne : ∀ x ∈ [(0xF2 : UInt8)],
      (vectorTables.forest.get (vectorTables.legacy.oneByte.node x)).isPrefixIn m := by
    rw [List.forall_mem_singleton, hnode]
    rfl
  have hlast : ∀ x ∈ [(0xF2 : UInt8)].getLast?,
      (vectorTables.forest.get (vectorTables.legacy.oneByte.node x)).isRex = false := by
    intro x hx
    obtain rfl : 0xF2 = x := Option.some.inj hx
    rw [hnode]
    rfl
  have hforms := vex_forms_agree load_vectorBlobs rfl rfl m hrepne hlast (p := 0x70) (.inl rfl) ip
    [0x58, 0x05, 0x10, 0, 0, 0] (Nat.le_trans (Nat.le_of_eq hlength) (by decide))
  have hfirst : ((0x70 : UInt8) &&& 0x80) ||| 0x61 = 0x61 := by decide
  have hsecond : (0x70 : UInt8) &&& 0x7F = 0x70 := by decide
  rw [hfirst, hsecond] at hforms
  exact ⟨load_vectorBlobs, hrepne _ List.mem_cons_self, by decide, by decide, hlength, by decide,
    hforms⟩

end OpcodeForest
