import Descent.Proofs.Repetition

namespace Descent.Parser
variable {ε χ α : Type} {p : Parser ε χ α} {s : Source ε} {i : Nat} {m m₁ : Memory χ}

-- By induction on the matches that are still allowed. What was found before stays in front of what is found.
theorem collect_got (p : Parser ε χ α) (endless : Bool) (s : Source ε) (left need : Nat) (got : List α) (i : Nat) :
    p.collect endless s left need got i =
      p.collect endless s left need [] i >>= fun r => pure (got.reverse ++ r.1, r.2) := by
  induction left generalizing need got i with
  | zero => rw [collect_zero, collect_zero, pure_bind, List.reverse_nil, List.append_nil]
  | succ left ih =>
    rw [collect_succ, collect_succ, Action.bind_eq_handle, Action.handle_handle]
    congr 1
    · funext a
      rw [ih _ (a.output :: got), ih _ [a.output], List.reverse_cons]
      split
      · rfl
      · rw [← Action.bind_eq_handle, bind_assoc]
        simp only [pure_bind, List.append_assoc, List.reverse_singleton]
    · funext e
      split
      · rfl
      · rw [← Action.bind_eq_handle, pure_bind, List.reverse_nil, List.append_nil]

theorem collect_nil_succ (p : Parser ε χ α) (endless : Bool) (s : Source ε) (left need : Nat) (i : Nat) :
    p.collect endless s (left + 1) need [] i = (p s i).handle
      (fun a =>
        if a.isZeroWidth && endless && need ≤ 1 then pure ([a.output], a.stop)
        else p.collect endless s left (need - 1) [] a.stop >>= fun r => pure (a.output :: r.1, r.2))
      (fun e => if 0 < need then .fail e else pure ([], i)) := by
  rw [collect_succ]
  congr 1
  funext a
  rw [collect_got]
  rfl

-- By induction on the matches. Each of them is required, so the stall rule could only fire at the last one.
theorem collect_eq_outputs (p : Parser ε χ α) (endless : Bool) (s : Source ε) (n i : Nat) :
    p.collect endless s n n [] i = outputs s (List.replicate n p) i := by
  induction n generalizing i with
  | zero => rfl
  | succ n ih =>
    rw [collect_nil_succ, List.replicate_succ, outputs_cons, Action.bind_eq_handle]
    congr 1
    funext a
    rw [Nat.add_sub_cancel, ih]
    split
    · rename_i stalled
      simp only [Bool.and_eq_true, decide_eq_true_iff] at stalled
      have last : n = 0 := by omega
      subst last
      rfl
    · rfl

theorem repeatedExactly_eq_chain (p : Parser ε χ α) (n : Nat) : p.repeatedExactly n = chain (List.replicate n p) := by
  funext s i
  rw [repeatedExactly, repeated, if_neg (Nat.lt_irrefl n), collect_eq_outputs]
  rfl

-- By induction on the required matches, behind which nothing is required any more.
theorem collect_add (p : Parser ε χ α) (s : Source ε) (least more i : Nat) :
    p.collect false s (least + more) least [] i =
      p.collect false s least least [] i >>= fun r =>
        p.collect false s more 0 [] r.2 >>= fun r' => pure (r.1 ++ r'.1, r'.2) := by
  induction least generalizing i with
  | zero =>
    rw [collect_zero, pure_bind, Nat.zero_add]
    exact (bind_pure _).symm
  | succ least ih =>
    rw [Nat.add_right_comm, collect_nil_succ, collect_nil_succ, Action.bind_eq_handle, Action.handle_handle]
    congr 1
    funext a
    simp only [Bool.and_false, Bool.false_and, Bool.false_eq_true, if_false, Nat.add_sub_cancel]
    rw [ih, ← Action.bind_eq_handle]
    simp only [bind_assoc, pure_bind, List.cons_append]

theorem repeated_of_le (p : Parser ε χ α) {least most : Nat} (ordered : least ≤ most) (s : Source ε) (i : Nat) :
    p.repeated least most s i =
      p.collect (most == Count.unbounded) s most least [] i >>= fun r => pure ⟨r.1, i, r.2⟩ := by
  rw [repeated, if_neg (Nat.not_lt_of_le ordered)]

-- Below the greatest count nothing ends a repetition early, and it splits into two.
theorem repeated_eq_concat (p : Parser ε χ α) {least most : Nat} (ordered : least ≤ most)
    (bounded : most < Count.unbounded) :
    p.repeated least most = concat (p.repeatedExactly least) (p.repeated 0 (most - least)) := by
  have finite {n : Nat} (le : n ≤ most) : (n == Count.unbounded) = false := beq_eq_false_iff_ne.mpr (by omega)
  funext s i
  rw [concat_eq_andThen, andThen, repeatedExactly, repeated_of_le p (Nat.le_refl least), repeated_of_le p ordered]
  simp only [repeated_of_le p (Nat.zero_le (most - least)), finite (Nat.le_refl most), finite ordered,
    finite (Nat.sub_le most least), bind_assoc, pure_bind]
  rw [← Nat.add_sub_cancel' ordered, collect_add, Nat.add_sub_cancel_left]
  simp only [bind_assoc, pure_bind]

-- What suffices for any number of matches suffices for one or more, as long as there is one: an empty match may end
-- either of them, but not before it is among the matches.
theorem Reaches.one {most : Nat} {found : List (Match α)} {j : Nat}
    (reaches : Reaches p 0 most s i m found j m₁) : Reaches p 1 most s i m found j m₁ := by
  induction reaches with
  | start => exact .start
  | next before goesOn done ih => exact .next ih goesOn done

theorem Reaches.of_nil {least most j : Nat} (reaches : Reaches p least most s i m [] j m₁) : j = i ∧ m₁ = m := by
  generalize none : ([] : List (Match α)) = found at reaches
  cases reaches with
  | start => exact ⟨rfl, rfl⟩
  | next before goesOn done => exact absurd none.symm (List.concat_ne_nil _ _)

theorem many1_of_many {as : List α} {k j : Nat} {m' : Memory χ} (ran : p.many s i m = (.done ⟨as, k, j⟩, m')) :
    (as ≠ [] → p.many1 s i m = (.done ⟨as, k, j⟩, m')) ∧
      (as = [] → ∃ e, p s i m = (.failed e, m') ∧ p.many1 s i m = (.failed e, m')) := by
  have possible : 1 ≤ Count.unbounded := by decide
  obtain ⟨calls, reply, m'', outcome⟩ := exists_outcome p 0 Count.unbounded s i m
  obtain ⟨rfl, rfl⟩ := Prod.mk.inj (outcome.repeated_eq.symm.trans ran)
  cases outcome with
  | ended ordered reaches ends =>
    refine ⟨fun _ => (Outcome.ended possible reaches.one ends).repeated_eq, ?_⟩
    intro none
    rw [List.map_eq_nil_iff.mp none] at ends
    cases ends
  | sufficed ordered reaches goesOn failed enough =>
    refine ⟨?_, ?_⟩
    · intro some
      have one := List.length_pos_iff.mpr fun none => some (List.map_eq_nil_iff.mpr none)
      exact (Outcome.sufficed possible reaches.one goesOn failed one).repeated_eq
    · intro none
      cases List.map_eq_nil_iff.mp none
      obtain ⟨rfl, rfl⟩ := reaches.of_nil
      exact ⟨_, failed, (Outcome.fellShort possible .start goesOn failed Nat.zero_lt_one).repeated_eq⟩

theorem repetition_laws (p : Parser ε χ α) :
    (∀ n, p.repeatedExactly n = chain (List.replicate n p)) ∧
      (∀ least most, least ≤ most → most < Count.unbounded →
        p.repeated least most = concat (p.repeatedExactly least) (p.repeated 0 (most - least))) ∧
      ∀ s i m m' as k j, p.many s i m = (.done ⟨as, k, j⟩, m') →
        (as ≠ [] → p.many1 s i m = (.done ⟨as, k, j⟩, m')) ∧
          (as = [] → ∃ e, p s i m = (.failed e, m') ∧ p.many1 s i m = (.failed e, m')) :=
  ⟨p.repeatedExactly_eq_chain, fun _ _ => p.repeated_eq_concat, fun _ _ _ _ _ _ _ => many1_of_many⟩

theorem repetition_laws_letters :
    let p : Parser Char Nat Char := (primitive (.the 'x')).mapContext fun c n => (c, n + 1)
    let s := Source.text "éxxx!"
    p.repeatedExactly 3 s 2 (.fresh 0) = chain [p, p, p] s 2 (.fresh 0) ∧
      p.repeated 1 2 s 2 (.fresh 0) = concat (p.repeatedExactly 1) (p.repeated 0 1) s 2 (.fresh 0) ∧
      p.repeated 1 2 s 2 (.fresh 0) = (.done ⟨['x', 'x'], 2, 4⟩, .fresh 2) ∧
      p.many1 s 2 (.fresh 0) = (.done ⟨['x', 'x', 'x'], 2, 5⟩, .fresh 3) ∧
      ∃ e, p s 5 (.fresh 3) = (.failed e, .fresh 3) ∧ p.many1 s 5 (.fresh 3) = (.failed e, .fresh 3) := by
  intro p s
  obtain ⟨exact, splits, one⟩ := repetition_laws p
  have letters : p.many s 2 (.fresh 0) = (.done ⟨['x', 'x', 'x'], 2, 5⟩, .fresh 3) := rfl
  have none : p.many s 5 (.fresh 3) = (.done ⟨[], 5, 5⟩, .fresh 3) := rfl
  refine ⟨?_, ?_, rfl, ?_, ?_⟩
  · rw [exact]
    rfl
  · rw [splits 1 2 (by decide) (by decide)]
  · exact (one _ _ _ _ _ _ _ letters).1 (by decide)
  · exact (one _ _ _ _ _ _ _ none).2 rfl

end Descent.Parser
