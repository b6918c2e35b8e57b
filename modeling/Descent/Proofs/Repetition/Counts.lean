import Descent.Proofs.Repetition
import Mathlib.Order.Bounds.Basic
import Mathlib.Order.Interval.Set.Basic

namespace Descent

namespace Bound

def IsCount : Bound → Prop
  | unbounded => True
  | included n => n ≤ Count.unbounded
  | excluded n => n ≤ Count.unbounded

def AdmitsAbove : Bound → Nat → Prop
  | unbounded, _ => True
  | included k, n => k ≤ n
  | excluded k, n => k < n

def AdmitsBelow : Bound → Nat → Prop
  | unbounded, _ => True
  | included k, n => n ≤ k
  | excluded k, n => n < k

def between (low high : Bound) : Set Nat := {n | n ≤ Count.unbounded ∧ low.AdmitsAbove n ∧ high.AdmitsBelow n}

-- The lower end lies behind all counts, and the upper end admits the greatest of them.
def Saturates (low high : Bound) : Prop :=
  low = excluded Count.unbounded ∧ (high = unbounded ∨ high = included Count.unbounded)

section Counts
variable {low high : Bound}

theorem admitsAbove_iff (count : low.IsCount) {n : Nat} (inside : n ≤ Count.unbounded) :
    low.AdmitsAbove n ↔ low.least ≤ n ∧ low ≠ excluded Count.unbounded := by
  cases low with
  | unbounded => simp [AdmitsAbove, least]
  | included k => simp [AdmitsAbove, least]
  | excluded k =>
    simp only [IsCount] at count
    simp only [AdmitsAbove, least, ne_eq, excluded.injEq]
    omega

theorem between_eq_Icc (count : low.IsCount) (count' : high.IsCount) (exact : ¬ low.Saturates high) :
    low.between high = Set.Icc (low.counts high).1 (low.counts high).2 := by
  ext n
  simp only [between, Set.mem_ofPred_eq, Set.mem_Icc]
  by_cases last : low = excluded Count.unbounded
  · subst last
    rcases high with _ | k | _ | k
    · exact absurd ⟨rfl, .inl rfl⟩ exact
    · have other : k ≠ Count.unbounded := fun same => exact ⟨rfl, .inr (same ▸ rfl)⟩
      simp only [IsCount] at count'
      simp only [AdmitsAbove, AdmitsBelow, counts, least]
      omega
    · simp only [AdmitsAbove, AdmitsBelow, counts, least]
      omega
    · simp only [IsCount] at count'
      simp only [AdmitsAbove, AdmitsBelow, counts, least]
      omega
  · have above : (n ≤ Count.unbounded ∧ low.AdmitsAbove n) ↔ (n ≤ Count.unbounded ∧ low.least ≤ n) :=
      and_congr_right fun inside => by rw [admitsAbove_iff count inside, and_iff_left last]
    rw [← and_assoc, above]
    rcases high with _ | k | _ | k
    · simp only [AdmitsBelow, counts, and_true]
      exact and_comm
    · simp only [IsCount] at count'
      simp only [AdmitsBelow, counts]
      omega
    · simp only [AdmitsBelow, counts]
      omega
    · simp only [IsCount] at count'
      simp only [AdmitsBelow, counts]
      omega

theorem between_eq_empty_of_saturates (saturates : low.Saturates high) : low.between high = ∅ := by
  obtain ⟨rfl, _⟩ := saturates
  ext n
  simp only [between, AdmitsAbove, Set.mem_ofPred_eq, Set.mem_empty_iff_false, iff_false]
  omega

theorem counts_of_saturates (saturates : low.Saturates high) : low.counts high = (Count.unbounded, Count.unbounded) := by
  obtain ⟨rfl, rfl | rfl⟩ := saturates <;> rfl

end Counts
end Bound

namespace Parser
variable {ε χ α : Type}

def Rejected (p : Parser ε χ α) (low high : Bound) (s : Source ε) (i : Nat) (m : Memory χ) : Prop :=
  p.repeatedWithin low high s i m = (.failed (.outOfBounds i), m) ∧
    p.counted.repeatedWithin low high s i (m.beside 0) = (.failed (.outOfBounds i), m.beside 0)

-- What it is to repeat a parser between two ends: as often as the counts between them say, if there are any.
def RepeatsBetween (p : Parser ε χ α) (low high : Bound) (s : Source ε) (i : Nat) (m : Memory χ) : Prop :=
  (p.Rejected low high s i m ↔ low.between high = ∅) ∧
    ∀ least most, IsLeast (low.between high) least → IsGreatest (low.between high) most →
      p.repeatedWithin low high = p.repeated least most

section Ends
variable {p : Parser ε χ α} {low high : Bound} {s : Source ε} {i : Nat} {m : Memory χ}

theorem rejected_iff : p.Rejected low high s i m ↔ (low.counts high).2 < (low.counts high).1 := by
  constructor
  · intro ⟨rejected, uncalled⟩
    obtain ⟨calls, reply, m', outcome⟩ := exists_outcome p (low.counts high).1 (low.counts high).2 s i m
    obtain ⟨rfl, _⟩ := Prod.mk.inj (outcome.repeated_eq.symm.trans rejected)
    have tallies := (outcome.counted 0).repeated_eq.symm.trans uncalled
    rw [Nat.zero_add] at tallies
    obtain ⟨_, none⟩ := Memory.beside_inj (Prod.mk.inj tallies).2
    cases outcome with
    | crossed crossed => exact crossed
    | fellShort ordered reaches goesOn failed few => exact absurd none (Nat.succ_ne_zero _)
  · intro crossed
    have outcome := Outcome.crossed (p := p) (s := s) (i := i) (m := m) crossed
    exact ⟨outcome.repeated_eq, (outcome.counted 0).repeated_eq⟩

theorem repeatsBetween_of_exact (count : low.IsCount) (count' : high.IsCount) (exact : ¬ low.Saturates high) :
    p.RepeatsBetween low high s i m := by
  have interval := Bound.between_eq_Icc count count' exact
  refine ⟨?_, ?_⟩
  · rw [rejected_iff, interval, Set.Icc_eq_empty_iff, Nat.not_le]
  · intro least most isLeast isGreatest
    rw [interval] at isLeast isGreatest
    have ordered := (Set.mem_Icc.mp isLeast.1).1.trans (Set.mem_Icc.mp isLeast.1).2
    rw [isLeast.unique (isLeast_Icc ordered), isGreatest.unique (isGreatest_Icc ordered)]
    rfl

theorem not_repeatsBetween_of_saturates (saturates : low.Saturates high) : ¬ p.RepeatsBetween low high s i m := by
  intro ⟨rejected, _⟩
  have crossed := rejected_iff.mp (rejected.mpr (Bound.between_eq_empty_of_saturates saturates))
  rw [Bound.counts_of_saturates saturates] at crossed
  exact Nat.lt_irrefl _ crossed

end Ends

-- Repetitions between two ends are as they should be, unless the lower end saturates. Then the greatest count is
-- what they ask for, although no count lies between the ends.
theorem repeatsBetween_iff (p : Parser ε χ α) {low high : Bound} (count : low.IsCount) (count' : high.IsCount)
    (s : Source ε) (i : Nat) (m : Memory χ) :
    (p.RepeatsBetween low high s i m ↔ ¬ low.Saturates high) ∧
      (low.Saturates high → low.between high = ∅ ∧
        p.repeatedWithin low high = p.repeated Count.unbounded Count.unbounded) := by
  refine ⟨⟨fun repeats saturates => not_repeatsBetween_of_saturates saturates repeats,
    repeatsBetween_of_exact count count'⟩, ?_⟩
  intro saturates
  refine ⟨Bound.between_eq_empty_of_saturates saturates, ?_⟩
  unfold repeatedWithin
  rw [Bound.counts_of_saturates saturates]

theorem repeatsBetween_iff_letters :
    (Bound.excluded 1).IsCount ∧ (Bound.excluded 4).IsCount ∧ ¬ (Bound.excluded 1).Saturates (.excluded 4) ∧
      (primitive (.the 'x') : Parser Char Unit Char).RepeatsBetween (.excluded 1) (.excluded 4) (.text "xxxx") 0
        (.fresh ()) := by
  have one : (Bound.excluded 1).IsCount := show 1 ≤ Count.unbounded by decide
  have four : (Bound.excluded 4).IsCount := show 4 ≤ Count.unbounded by decide
  have exact : ¬ (Bound.excluded 1).Saturates (.excluded 4) := by simp [Bound.Saturates]
  exact ⟨one, four, exact, (repeatsBetween_iff _ one four _ _ _).1.mpr exact⟩

-- Nothing lies behind the greatest count, and still two letters are taken before the repetition fails.
theorem excluded_greatest_attempted :
    (Bound.excluded Count.unbounded).between .unbounded = ∅ ∧
      ((primitive (.the 'x') : Parser Char Unit Char).repeatedWithin (.excluded Count.unbounded) .unbounded
        (.text "xx") 0 (.fresh ())).1 = .failed (.endOfInput 2) ∧
      ¬ (primitive (.the 'x') : Parser Char Unit Char).RepeatsBetween (.excluded Count.unbounded) .unbounded
        (.text "xx") 0 (.fresh ()) := by
  have saturates : (Bound.excluded Count.unbounded).Saturates .unbounded := ⟨rfl, .inl rfl⟩
  exact ⟨Bound.between_eq_empty_of_saturates saturates, rfl, not_repeatsBetween_of_saturates saturates⟩

end Parser
end Descent
