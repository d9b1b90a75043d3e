import OpcodeForest.Decode.Walk

/-!
# Runs that follow each other

Two runs of the decoder are compared that start from one state. The second may have other bytes
after the ones that the first reads, may carry fewer marks, and may apply fewer checks.
`Follows s r g` says that the run `g`, as a function of the bytes ahead and of the mark it starts
with, follows the run that gives `r` from the state `s`: where the first run reads bytes and goes
on, so does the second, whatever comes after those bytes; on fewer bytes it starves; and where
the first stops, the second stops for the same reason.

* `Follows.bind`: computations that follow each other can be put one after the other.
* `Mode.Relaxes`: the modes in which the second run may be, which differ from the mode of the first
  in its checks only.
-/

namespace OpcodeForest

namespace State

/-- The state with the bytes `p` ahead and the mark `i`. -/
def alter (p : List UInt8) (i : Bool) (s : State) : State := { s with pending := p, invalid := i }

end State

/-- Results that carry the state reached. -/
class HasState (β : Type) where
  state : β → State
  /-- The result with other bytes ahead and another mark. -/
  alter : List UInt8 → Bool → β → β
  mark_alter : ∀ p i b, (state (alter p i b)).invalid = i

namespace HasState

instance : HasState State := ⟨id, State.alter, fun _ _ _ => rfl⟩

instance {α : Type} : HasState (α × State) :=
  ⟨Prod.snd, fun p i b => (b.1, b.2.alter p i), fun _ _ _ => rfl⟩

instance : HasState (State × Next) :=
  ⟨Prod.fst, fun p i b => (b.1.alter p i, b.2), fun _ _ _ => rfl⟩

end HasState

open HasState

/-- From `s` the bytes `c` are read on the way to `b`. The run `g`, started with the mark `i`,
reads the same bytes on the way to the same result with the mark `j`. -/
structure Consumes {β : Type} [HasState β] (s : State) (i : Bool)
    (g : List UInt8 → Bool → Except Stop β) (b : β) (c : List UInt8) (j : Bool) : Prop where
  pending : s.pending = c ++ (state b).pending
  used : (state b).used = s.used + c.length
  mark : j → (state b).invalid
  follows : ∀ p, g (c ++ p) i = .ok (alter p j b)
  starves : ∀ k < c.length, g (c.take k) i = .error .starved

/-- Where the second run is the first with other bytes ahead, it ends with the mark of the first. -/
theorem Consumes.follows_self {β : Type} [HasState β] {s : State} {i j : Bool}
    {g : List UInt8 → Bool → Except Stop β} {b : β} {c : List UInt8} (h : Consumes s i g b c j)
    (hself : g s.pending i = .ok b) (p : List UInt8) :
    g (c ++ p) i = .ok (alter p (state b).invalid b) := by
  have hb : alter (state b).pending j b = b := by
    have hg := h.follows (state b).pending
    rw [← h.pending, hself] at hg
    exact (Except.ok.inj hg).symm
  have hj : (state b).invalid = j :=
    (congrArg (fun b => (state b).invalid) hb).symm.trans (mark_alter _ _ _)
  rw [hj]
  exact h.follows p

/-- From `s` the bytes `c` are read, and then it is clear that they are no instruction. The run `g`,
started with the mark `i`, finds the same. -/
structure Refuses {β : Type} (s : State) (i : Bool) (g : List UInt8 → Bool → Except Stop β)
    (n : Nat) (c : List UInt8) : Prop where
  ahead : c <+: s.pending
  used : n = s.used + c.length
  follows : ∀ p, g (c ++ p) i = .error (.rejected n)
  starves : ∀ k < c.length, g (c.take k) i = .error .starved

/-- The bytes end while a first computation reads, or while a second one does. -/
theorem starves_append {β γ : Type} [HasState β] {i j : Bool}
    {g : List UInt8 → Bool → Except Stop β} {l : β → Except Stop γ} {b : β} {c c' : List UInt8}
    (hfollows : ∀ p, g (c ++ p) i = .ok (alter p j b))
    (hstarves : ∀ k < c.length, g (c.take k) i = .error .starved)
    (hstarves' : ∀ k < c'.length, l (alter (c'.take k) j b) = .error .starved) :
    ∀ k < (c ++ c').length, g ((c ++ c').take k) i >>= l = .error .starved := by
  intro n hn
  by_cases hlt : n < c.length
  · rw [List.take_append_of_le_length (Nat.le_of_lt hlt), hstarves n hlt]
    rfl
  · have hle : c.length ≤ n := Nat.le_of_not_lt hlt
    rw [List.take_append, List.take_of_length_le hle, hfollows]
    rw [List.length_append] at hn
    exact hstarves' (n - c.length) (by omega)

/-- The bytes of two runs in a row stand in a row. -/
theorem Consumes.append {β γ : Type} [HasState β] [HasState γ] {s : State} {i j j' : Bool}
    {g : List UInt8 → Bool → Except Stop β} {l : β → Except Stop γ} {b : β} {b' : γ}
    {c c' : List UInt8} (h : Consumes s i g b c j)
    (h' : Consumes (state b) j (fun p i => l (alter p i b)) b' c' j') :
    Consumes s i (fun p i => g p i >>= l) b' (c ++ c') j' where
  pending := by rw [h.pending, h'.pending, List.append_assoc]
  used := by rw [h'.used, h.used, List.length_append, Nat.add_assoc]
  mark := h'.mark
  follows p := by
    rw [List.append_assoc, h.follows]
    exact h'.follows p
  starves := starves_append h.follows h.starves h'.starves

/-- A refusal comes after the bytes that were read before it. -/
theorem Refuses.append {β γ : Type} [HasState β] {s : State} {i j : Bool}
    {g : List UInt8 → Bool → Except Stop β} {l : β → Except Stop γ} {b : β} {used : Nat}
    {c c' : List UInt8} (h' : Refuses (state b) j (fun p i => l (alter p i b)) used c')
    (h : Consumes s i g b c j) :
    Refuses s i (fun p i => g p i >>= l) used (c ++ c') where
  ahead := by rw [h.pending, List.prefix_append_right_inj]; exact h'.ahead
  used := by rw [h'.used, h.used, List.length_append, Nat.add_assoc]
  follows p := by
    rw [List.append_assoc, h.follows]
    exact h'.follows p
  starves := starves_append h.follows h.starves h'.starves

/-- The run `g` follows the run from `s` that gives `r`. -/
def Follows {β : Type} [HasState β] (s : State) (r : Except Stop β)
    (g : List UInt8 → Bool → Except Stop β) : Prop :=
  ∀ i : Bool, (i → s.invalid) →
    match r with
    | .ok b => ∃ c j, Consumes s i g b c j
    | .error (.rejected used) => ∃ c, Refuses s i g used c
    | .error e => g s.pending i = .error e

namespace Follows

variable {β γ : Type} [HasState β] [HasState γ] {s : State}

/-- A result that reads nothing and checks nothing. -/
theorem plain {b : β} {g : List UInt8 → Bool → Except Stop β}
    (hp : (state b).pending = s.pending) (hu : (state b).used = s.used)
    (hi : (state b).invalid = s.invalid) (hg : ∀ p i, g p i = .ok (alter p i b)) :
    Follows s (.ok b) g :=
  fun i h => ⟨[], i, hp.symm, hu, fun hj => hi ▸ h hj, fun p => hg p i, fun _ hk => nomatch hk⟩

/-- A result that reads nothing and marks the state if `bad`. -/
theorem marked {b : β} {g : List UInt8 → Bool → Except Stop β} {bad bad' : Bool}
    (hbad : bad' → bad) (hp : (state b).pending = s.pending) (hu : (state b).used = s.used)
    (hi : (state b).invalid = (s.invalid || bad))
    (hg : ∀ p i, g p i = .ok (alter p (i || bad') b)) : Follows s (.ok b) g := by
  refine fun i h => ⟨[], i || bad', hp.symm, hu, fun hj => ?_, fun p => hg p i,
    fun _ hk => nomatch hk⟩
  rw [hi, Bool.or_eq_true]
  rw [Bool.or_eq_true] at hj
  exact hj.imp h hbad

/-- The bytes read so far are no instruction. -/
theorem rejected (s : State) :
    Follows s (.error (.rejected s.used) : Except Stop β) fun _ _ => .error (.rejected s.used) :=
  fun _ _ => ⟨[], List.nil_prefix, rfl, fun _ => rfl, fun _ hk => nomatch hk⟩

/-- A test that has one outcome in both runs. -/
theorem ite {P : Prop} [Decidable P] {r₁ r₂ : Except Stop β}
    {g₁ g₂ : List UInt8 → Bool → Except Stop β} (h₁ : P → Follows s r₁ g₁)
    (h₂ : ¬ P → Follows s r₂ g₂) :
    Follows s (if P then r₁ else r₂) fun p i => if P then g₁ p i else g₂ p i := by
  by_cases hP : P
  · simpa only [if_pos hP] using h₁ hP
  · simpa only [if_neg hP] using h₂ hP

/-- **One after the other.** -/
theorem bind {r : Except Stop β} {g : List UInt8 → Bool → Except Stop β}
    {k l : β → Except Stop γ} (h : Follows s r g)
    (hk : ∀ b, Follows (state b) (k b) fun p i => l (alter p i b)) :
    Follows s (r >>= k) fun p i => g p i >>= l := by
  intro i hi
  have hr := h i hi
  cases r with
  | error e =>
      cases e with
      | rejected used =>
          obtain ⟨c, hc⟩ := hr
          exact ⟨c, hc.ahead, hc.used, fun p => congrArg (· >>= l) (hc.follows p),
            fun n hn => congrArg (· >>= l) (hc.starves n hn)⟩
      | starved | circular => exact congrArg (· >>= l) hr
  | ok b =>
      obtain ⟨c, j, hc⟩ := hr
      have hkb := hk b j hc.mark
      -- where the second computation stops without a verdict, so does the whole
      have hsame : ∀ e, l (alter (state b).pending j b) = .error e →
          g s.pending i >>= l = .error e := fun e he => by
        rw [hc.pending, hc.follows]
        exact he
      show match k b with | .ok b => _ | .error (.rejected used) => _ | .error e => _
      cases hb : k b with
      | error e =>
          rw [hb] at hkb
          cases e with
          | rejected used =>
              obtain ⟨c', hc'⟩ := hkb
              exact ⟨c ++ c', hc'.append hc⟩
          | starved | circular => exact hsame _ hkb
      | ok b' =>
          rw [hb] at hkb
          obtain ⟨c', j', hc'⟩ := hkb
          exact ⟨c ++ c', j', hc.append hc'⟩

end Follows

/-! ### Reading bytes -/

/-- A byte that is missing is the only reason to starve. -/
theorem follows_byte (s : State) : Follows s s.byte fun p i => (s.alter p i).byte := by
  intro i hi
  unfold State.byte
  cases hp : s.pending with
  | nil => rfl
  | cons b rest =>
      refine ⟨[b], i, hp, rfl, hi, fun p => rfl, fun k hk => ?_⟩
      obtain rfl : k = 0 := Nat.lt_one_iff.mp hk
      rfl

/-- The bytes of a number, one by one. -/
theorem follows_word (n : Nat) (s : State) :
    Follows s (s.word n) fun p i => (s.alter p i).word n := by
  intro i hi
  unfold State.word
  by_cases hn : n ≤ s.pending.length
  · have hlen : (s.pending.take n).length = n := List.length_take_of_le hn
    rw [if_pos hn]
    refine ⟨s.pending.take n, i, (List.take_append_drop n _).symm, by rw [hlen]; rfl, hi,
      fun p => ?_, fun k hk => if_neg ?_⟩
    · have hp : n ≤ ((s.alter (s.pending.take n ++ p) i).pending).length := by
        show n ≤ (s.pending.take n ++ p).length
        rw [List.length_append]; omega
      rw [if_pos hp]
      simp [State.alter, alter, hlen]
    · show ¬ n ≤ ((s.pending.take n).take k).length
      rw [List.length_take]; omega
  · rw [if_neg hn]
    exact if_neg hn

/-- The ModRM byte is a byte like the others. -/
theorem follows_readModRM (s : State) :
    Follows s s.readModRM fun p i => (s.alter p i).readModRM :=
  (follows_byte s).bind fun _ => .plain rfl rfl rfl fun _ _ => rfl

/-! ### Modes that differ in their checks -/

/-- The mode `m'` applies at most the checks of `m` and reads alike. -/
structure Mode.Relaxes (m' m : Mode) : Prop where
  bitness : m'.bitness = m.bitness
  amd : m'.options.has .amd = m.options.has .amd
  noPause : m'.options.has .noPause = m.options.has .noPause
  strict : m'.strict → m.strict

namespace Mode.Relaxes

variable {m' m : Mode} {s : State} {p : List UInt8} {i : Bool}

theorem refl (m : Mode) : m.Relaxes m := ⟨rfl, rfl, rfl, id⟩

theorem long (h : m'.Relaxes m) : m'.long = m.long := by
  rw [Mode.long, Mode.long, h.bitness]

/-- The second mode checks no more than the first. -/
theorem check (h : m'.Relaxes m) (bad : Bool) : m'.strict && bad → m.strict && bad := by
  rw [Bool.and_eq_true, Bool.and_eq_true]
  exact And.imp_left h.strict

/-- The sizes depend on the bitness, not on the checks. -/
theorem operandSize (h : m'.Relaxes m) : (s.alter p i).operandSize m' = s.operandSize m := by
  rw [State.operandSize, State.operandSize, h.bitness]
  rfl

theorem addressSize (h : m'.Relaxes m) : (s.alter p i).addressSize m' = s.addressSize m := by
  rw [State.addressSize, State.addressSize, h.bitness]
  rfl

theorem size (h : m'.Relaxes m) (sizing : Sizing) :
    sizing.size m' (s.alter p i) = sizing.size m s := by
  cases sizing <;> simp only [Sizing.size, h.operandSize, h.addressSize, h.long, h.amd] <;> rfl

/-- Nor do the registers depend on the checks. -/
theorem register (h : m'.Relaxes m) (bank : Bank) (n : Nat) :
    bank.register m' (s.alter p i) n = bank.register m s n := by
  have hfirst : bank.first m' (s.alter p i) = bank.first m s := by
    cases bank <;> simp only [Bank.first, h.size]
  rw [Bank.register, Bank.register, hfirst]
  cases bank <;> rfl

theorem pick (h : m'.Relaxes m) (l : Leaf) (rule : CodeRule) :
    rule.pick m' (s.alter p i) l = rule.pick m s l := by
  cases rule <;> simp only [CodeRule.pick, h.size]

theorem vvvv (h : m'.Relaxes m) : (s.alter p i).vvvv m' = s.vvvv m := by
  rw [State.vvvv, State.vvvv, h.long]
  rfl

end Mode.Relaxes

end OpcodeForest
