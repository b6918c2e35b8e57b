import Descent.Proofs.Coupling.Combinators

namespace Descent
variable {ε χ α : Type}

namespace Parser

def collectFor (p : Parser ε χ α) (endless : Bool) (s : Source ε) :
    Nat → Nat → Nat → List α → Nat → Action (Memory χ) (List α × Nat)
  | _, 0, _, got, i => pure (got.reverse, i)
  | 0, _ + 1, _, _, _ => .cut
  | turns + 1, left + 1, need, got, i => (p s i).handle
      (fun a =>
        if a.isZeroWidth && endless && need ≤ 1 then pure ((a.output :: got).reverse, a.stop)
        else p.collectFor endless s turns left (need - 1) (a.output :: got) a.stop)
      (fun e => if 0 < need then .fail e else pure (got.reverse, i))

-- A repetition without an upper bound gets `turns` turns besides those for the matches it asks for. Any
-- other one is rationed by its bound.
def repeatedFor (turns least most : Nat) (p : Parser ε χ α) : Parser ε χ (List α) := fun s i =>
  if most < least then .fail (.outOfBounds i)
  else do
    let (outputs, stop) ← p.collectFor (most == Count.unbounded) s
      (if most = Count.unbounded then max least 1 + turns else most) most least [] i
    pure ⟨outputs, i, stop⟩

end Parser

inductive Settles {σ : Type} (alike : σ → σ → Prop) : Reply σ × Memory χ → Reply σ × Memory χ → Prop where
  | done {a b : σ} {m : Memory χ} (result : alike a b) : Settles alike (.done a, m) (.done b, m)
  | failed {e : Failure} {m : Memory χ} : Settles alike (.failed e, m) (.failed e, m)

theorem Settles.handle {σ υ : Type} {alike : σ → σ → Prop} {alike' : υ → υ → Prop} {x y : Action (Memory χ) σ}
    {done done' : σ → Action (Memory χ) υ} {failed failed' : Failure → Action (Memory χ) υ}
    (first : ∀ m, Settles alike (x m) (y m))
    (afterDone : ∀ a b, alike a b → ∀ m, Settles alike' (done a m) (done' b m))
    (afterFailed : ∀ e f, e = f → ∀ m, Settles alike' (failed e m) (failed' f m)) (m : Memory χ) :
    Settles alike' (x.handle done failed m) (y.handle done' failed' m) := by
  have settles := first m
  unfold Action.handle
  generalize x m = one at settles ⊢
  generalize y m = two at settles ⊢
  cases settles with
  | done result => exact afterDone _ _ result _
  | failed => exact afterFailed _ _ rfl _

namespace Coupling

-- Both computations settle, and alike. Neither a cut on one side nor one on both would do.
def settled (s : Source ε) (χ : Type) : Coupling s s χ χ where
  toPlaces := .boundaries s
  Acts alike x y := ∀ m, Settles alike (x m) (y m)
  acts_pure result _ := .done result
  acts_fail failure _ := by
    cases failure
    exact .failed
  acts_handle := Settles.handle

variable {s : Source ε}

theorem traces_settled : (settled s χ).Traces :=
  traces_of_eq (fun here => here.1) (fun failure => failure) fun _ _ => .done trivial

variable {p q : Parser ε χ α} {i low gain : Nat}

-- By induction on the matches that the bound leaves. Each turn uses up a match of those needed or a
-- stretch of the source, or else the loop stops, so the ration lasts.
theorem settles_collect (endless : Bool) {turns left need : Nat} (got : List α) (boundary : s.IsBoundary i)
    (alike : 0 < left → ∀ {i'}, s.IsBoundary i' → i ≤ i' → (settled s χ).At i' i' (i' + gain) p q)
    (needed : need ≤ left) (enough : left ≤ turns ∨ endless = true ∧ max need 1 + (s.stop - i) ≤ turns)
    (reaches : low ≤ i ∨ 0 < need ∧ low ≤ i + gain) :
    (settled s χ).Acts ((settled s χ).Reaches low) (p.collectFor endless s turns left need got i)
      (q.collect endless s left need got i) := by
  induction left generalizing turns need got i with
  | zero =>
    rw [Parser.collectFor, Parser.collect_zero]
    refine (settled s χ).acts_pure ⟨rfl, ⟨rfl, boundary⟩, ?_⟩
    show low ≤ i
    omega
  | succ left ih =>
    cases turns with
    | zero => omega
    | succ turns =>
      rw [Parser.collectFor, Parser.collect_succ]
      apply (settled s χ).acts_handle (alike (Nat.succ_pos left) boundary (Nat.le_refl i))
      · intro a b spans
        cases spans.eq_of_stop_eq spans.stop.1
        have behind : s.IsBoundary a.stop := spans.stop.2
        have inside : a.stop ≤ s.stop := behind.le_stop
        have forward : i + gain ≤ a.stop := spans.low_le
        split
        · refine (settled s χ).acts_pure ⟨rfl, ⟨rfl, behind⟩, ?_⟩
          show low ≤ a.stop
          omega
        · rename_i goesOn
          apply ih
          · exact behind
          · intro _ i' boundary' later
            exact alike (Nat.succ_pos left) boundary' (by omega)
          · omega
          · rcases enough with bound | ⟨rfl, bound⟩
            · exact .inl (Nat.le_of_succ_le_succ bound)
            · have moved : i < a.stop ∨ 1 < need := by
                rw [Bool.and_true, Bool.and_eq_true, Match.isZeroWidth, beq_iff_eq, decide_eq_true_iff,
                  spans.start_left] at goesOn
                omega
              exact .inr ⟨rfl, by omega⟩
          · omega
      · intro e f failure
        cases failure
        split
        · exact (settled s χ).acts_fail rfl
        · refine (settled s χ).acts_pure ⟨rfl, ⟨rfl, boundary⟩, ?_⟩
          show low ≤ i
          omega

theorem At.repeatedFor {least most turns : Nat} (boundary : s.IsBoundary i) (enough : s.stop - i ≤ turns)
    (alike : 0 < most → least ≤ most → ∀ {i'}, s.IsBoundary i' → i ≤ i' →
      (settled s χ).At i' i' (i' + gain) p q)
    (reaches : low ≤ i ∨ 0 < least ∧ low ≤ i + gain) :
    (settled s χ).At i i low (p.repeatedFor turns least most) (q.repeated least most) := by
  unfold At Parser.repeatedFor Parser.repeated
  split
  · exact (settled s χ).acts_fail rfl
  · rename_i uncrossed
    have bounds : least ≤ most := Nat.le_of_not_lt uncrossed
    have lasts : most ≤ (if most = Count.unbounded then max least 1 + turns else most) ∨
        (most == Count.unbounded) = true ∧
          max least 1 + (s.stop - i) ≤ if most = Count.unbounded then max least 1 + turns else most := by
      by_cases endless : most = Count.unbounded
      · rw [if_pos endless]
        exact .inr ⟨beq_iff_eq.mpr endless, Nat.add_le_add_left enough _⟩
      · rw [if_neg endless]
        exact .inl (Nat.le_refl most)
    apply (settles_collect _ [] boundary (fun some => alike some bounds) bounds lasts reaches).bind
    intro a b reached
    exact (settled s χ).acts_pure ⟨reached.outputs, rfl, rfl, reached.place, reached.low_le⟩

end Coupling
end Descent
