import Descent.Proofs.Extent

namespace Descent.Parser
variable {ε χ α β : Type}

def FailsAt (p : Parser ε χ α) (s : Source ε) (i : Nat) (e : Failure) : Prop := ∀ m, (p s i m).1 = .failed e

-- A parser that answers at every boundary, in any memory alike, and whose matches are stretches of the source with
-- something in them.
structure Advancing (p : Parser ε χ α) (s : Source ε) : Prop where
  keeps : p.KeepsRange s
  consumes : ∀ ⦃i m m'⦄ ⦃a : Match α⦄, s.IsBoundary i → p s i m = (.done a, m') → a.isZeroWidth = false
  answers : ∀ ⦃i⦄ m, s.IsBoundary i → (p s i m).1 ≠ .unfinished
  blind : ∀ ⦃i⦄ m n, s.IsBoundary i → (p s i m).1 = (p s i n).1

variable {p : Parser ε χ α} {s : Source ε} {i j : Nat} {m m₁ : Memory χ} {found : List (Match α)} {e : Failure}

namespace Advancing

theorem lt_stop (advancing : p.Advancing s) (boundary : s.IsBoundary i) {m' : Memory χ} {a : Match α}
    (done : p s i m = (.done a, m')) : i < a.stop := by
  have whole := advancing.keeps boundary done
  have consumed := advancing.consumes boundary done
  rw [Match.isZeroWidth, whole.start, beq_eq_false_iff_ne] at consumed
  exact Nat.lt_of_le_of_ne whole.forward consumed

theorem failsAt (advancing : p.Advancing s) (boundary : s.IsBoundary i) {m' : Memory χ}
    (failed : p s i m = (.failed e, m')) : p.FailsAt s i e := by
  intro n
  rw [advancing.blind n m boundary, failed]

theorem exists_failsAt_stop (advancing : p.Advancing s) (boundary : s.IsBoundary i) (ended : s.stop ≤ i)
    (m : Memory χ) : ∃ e, p.FailsAt s i e := by
  rcases ran : p s i m with ⟨a | e | _, m'⟩
  · have inside := (advancing.keeps boundary ran).inside
    have further := advancing.lt_stop boundary ran
    omega
  · exact ⟨e, advancing.failsAt boundary ran⟩
  · exact absurd (congrArg Prod.fst ran) (advancing.answers m boundary)

-- A primitive answers in every memory alike, so it only has to consume something.
theorem primitive [DecidableEq ε] {q : Primitive ε α}
    (consumes : ∀ ⦃i a⦄, q.parse s i = .ok a → a.isZeroWidth = false) :
    (Parser.primitive q : Parser ε χ α).Advancing s where
  keeps := keepsRange_primitive q s
  consumes := by
    intro i m m' a boundary done
    simp only [Parser.primitive, Action.ofExcept] at done
    cases parsed : q.parse s i with
    | ok b =>
      rw [parsed] at done
      cases done
      exact consumes parsed
    | error e =>
      rw [parsed] at done
      cases done
  answers := by
    intro i m boundary
    simp only [Parser.primitive, Action.ofExcept]
    cases q.parse s i <;> simp
  blind := by
    intro i m n boundary
    simp only [Parser.primitive, Action.ofExcept]
    cases q.parse s i <;> rfl

theorem satisfy [DecidableEq ε] (test : ε → Bool) (s : Source ε) :
    (Parser.primitive (.satisfy test) : Parser ε χ ε).Advancing s := by
  refine primitive ?_
  intro i a parsed
  rw [Primitive.parse, Primitive.element] at parsed
  cases found : s.elementAt? i with
  | none =>
    rw [found] at parsed
    cases parsed
  | some step =>
    have further := (Source.boundary_of_elementAt? found).2.2
    simp only [found] at parsed
    split at parsed
    · cases parsed
      exact beq_eq_false_iff_ne.mpr (Nat.ne_of_lt further)
    · cases parsed

theorem mapContext_eq_done {f : α → χ → β × χ} {m' : Memory χ} {b : Match β}
    (done : p.mapContext f s i m = (.done b, m')) :
    ∃ a m₁, p s i m = (.done a, m₁) ∧ b = ⟨(f a.output m₁.context).1, a.start, a.stop⟩ := by
  obtain ⟨a, m₁, ran, goesOn⟩ := Action.bind_eq_done done
  cases goesOn
  exact ⟨a, m₁, ran, rfl⟩

theorem fst_mapContext {f : α → χ → β × χ} (same : ∀ a c c', (f a c).1 = (f a c').1) (c : χ) (m : Memory χ) :
    (p.mapContext f s i m).1 = (p s i m).1.map fun a => ⟨(f a.output c).1, a.start, a.stop⟩ := by
  rcases ran : p s i m with ⟨a | e | _, m₁⟩
  · have goesOn : p.mapContext f s i m = _ := Action.handle_of_done ran
    rw [goesOn, Reply.map, same a.output c m₁.context]
    rfl
  · exact congrArg Prod.fst (Action.handle_of_failed ran)
  · exact congrArg Prod.fst (Action.handle_of_unfinished ran)

theorem mapContext (advancing : p.Advancing s) (f : α → χ → β × χ) (same : ∀ a c c', (f a c).1 = (f a c').1) :
    (p.mapContext f).Advancing s where
  keeps := by
    intro i m m' b boundary done
    obtain ⟨a, m₁, ran, rfl⟩ := mapContext_eq_done done
    have whole := advancing.keeps boundary ran
    exact ⟨whole.start, whole.forward, whole.inside, whole.boundary⟩
  consumes := by
    intro i m m' b boundary done
    obtain ⟨a, m₁, ran, rfl⟩ := mapContext_eq_done done
    exact advancing.consumes boundary ran
  answers := by
    intro i m boundary
    have answers := advancing.answers m boundary
    rw [fst_mapContext same m.context]
    cases reply : (p s i m).1 with
    | done a => simp [Reply.map]
    | failed e => simp [Reply.map]
    | unfinished => exact absurd reply answers
  blind := by
    intro i m n boundary
    rw [fst_mapContext same m.context, fst_mapContext same m.context, advancing.blind m n boundary]

end Advancing

-- By induction on the matches, each of which takes the repetition one position on at least.
theorem Reaches.length_add_le {least most : Nat} (advancing : p.Advancing s) (boundary : s.IsBoundary i)
    (reaches : Reaches p least most s i m found j m₁) : i + found.length ≤ j := by
  induction reaches with
  | start => exact Nat.le_refl i
  | next before goesOn done ih =>
    have further := advancing.lt_stop (before.boundary advancing.keeps boundary).1 done
    rw [List.length_append, List.length_singleton]
    omega

theorem Reaches.consumed {least most : Nat} (advancing : p.Advancing s) (boundary : s.IsBoundary i)
    (reaches : Reaches p least most s i m found j m₁) : found.getLast?.any Match.isZeroWidth = false := by
  cases reaches with
  | start => rfl
  | next before goesOn done =>
    rw [List.getLast?_concat, Option.any_some]
    exact advancing.consumes (before.boundary advancing.keeps boundary).1 done

-- The repetition ends where the parser fails. Its own rules would only end it after as many matches as can be
-- counted, and then the source is used up.
theorem exists_many (advancing : p.Advancing s) (short : s.stop ≤ Count.unbounded) (boundary : s.IsBoundary i)
    (m : Memory χ) :
    ∃ found j m₁ e m', Reaches p 0 Count.unbounded s i m found j m₁ ∧ s.IsBoundary j ∧ p.FailsAt s j e ∧
      p.many s i m = (.done ⟨found.map Match.output, i, j⟩, m') := by
  obtain ⟨calls, reply, m', outcome⟩ := exists_outcome p 0 Count.unbounded s i m
  have ran : p.many s i m = (reply, m') := outcome.repeated_eq
  cases outcome with
  | crossed crossed => exact absurd crossed (Nat.not_lt_zero _)
  | ended ordered reaches ends =>
    have there := (reaches.boundary advancing.keeps boundary).1
    have far := reaches.length_add_le advancing boundary
    rw [stops, reaches.consumed advancing boundary, Bool.and_false, Bool.or_false, beq_iff_eq] at ends
    obtain ⟨e, fails⟩ := advancing.exists_failsAt_stop there (by omega) m
    exact ⟨_, _, _, e, _, reaches, there, fails, ran⟩
  | sufficed ordered reaches goesOn failed enough =>
    have there := (reaches.boundary advancing.keeps boundary).1
    exact ⟨_, _, _, _, _, reaches, there, advancing.failsAt there failed, ran⟩
  | fellShort ordered reaches goesOn failed few => exact absurd few (Nat.not_lt_zero _)
  | cutOff ordered reaches goesOn cut =>
    exact absurd (congrArg Prod.fst cut) (advancing.answers _ (reaches.boundary advancing.keeps boundary).1)

theorem FailsAt.many_eq (fails : p.FailsAt s j e) (n : Memory χ) :
    p.many s j n = (.done ⟨[], j, j⟩, (p s j n).2) := by
  have failed : p s j n = (.failed e, (p s j n).2) := Prod.ext (fails n) rfl
  exact (Outcome.sufficed (Nat.zero_le _) .start rfl failed (Nat.zero_le _)).repeated_eq

-- At most two rounds: the matches, if there are any, and then none.
theorem exists_outcome_many (advancing : p.Advancing s) (boundary : s.IsBoundary i) {m' : Memory χ}
    (reaches : Reaches p 0 Count.unbounded s i m found j m₁) (fails : p.FailsAt s j e)
    (ran : p.many s i m = (.done ⟨found.map Match.output, i, j⟩, m')) :
    ∃ rounds calls m'', rounds.flatten = found.map Match.output ∧ calls ≤ 2 ∧
      Outcome p.many 0 Count.unbounded s i m calls (.done ⟨rounds, i, j⟩) m'' := by
  have first : Reaches p.many 0 Count.unbounded s i m [⟨found.map Match.output, i, j⟩] j m' := .next .start rfl ran
  have far := reaches.length_add_le advancing boundary
  by_cases still : i = j
  · refine ⟨_, _, _, ?_, Nat.le_succ 1, .ended (Nat.zero_le _) first ?_⟩
    · simp
    · simp [stops, Match.isZeroWidth, still]
  · have goesOn : stops 0 Count.unbounded [(⟨found.map Match.output, i, j⟩ : Match (List α))] = false := by
      simp [stops, Match.isZeroWidth, still]
      decide
    have second := Reaches.next first goesOn (fails.many_eq m')
    refine ⟨_, _, _, ?_, Nat.le_refl 2, .ended (Nat.zero_le _) second ?_⟩
    · simp
    · simp [stops, Match.isZeroWidth]

-- The parser fails where its repetition ends, and so it does right behind the repetition. A repetition of the
-- repetition has the same matches over the same range.
theorem many_greedy (advancing : p.Advancing s) (short : s.stop ≤ Count.unbounded) (boundary : s.IsBoundary i)
    (m : Memory χ) :
    ∃ as j m', p.many s i m = (.done ⟨as, i, j⟩, m') ∧
      (∃ e, p.FailsAt s j e ∧ (pair p.many p s i m).1 = .failed e) ∧
      ∃ rounds calls m'', rounds.flatten = as ∧ calls ≤ 2 ∧
        p.many.many s i m = (.done ⟨rounds, i, j⟩, m'') ∧
          p.many.counted.many s i (m.beside 0) = (.done ⟨rounds, i, j⟩, m''.beside calls) := by
  obtain ⟨found, j, m₁, e, m', reaches, there, fails, ran⟩ := exists_many advancing short boundary m
  obtain ⟨rounds, calls, m'', flat, few, outcome⟩ := exists_outcome_many advancing boundary reaches fails ran
  refine ⟨_, j, m', ran, ⟨e, fails, ?_⟩, rounds, calls, m'', flat, few, outcome.repeated_eq, ?_⟩
  · have failed : p s j m' = (.failed e, (p s j m').2) := Prod.ext (fails m') rfl
    have goesOn : pair p.many p s i m = _ := Action.handle_of_done ran
    rw [goesOn]
    exact congrArg Prod.fst (Action.handle_of_failed failed)
  · have counts := (outcome.counted 0).repeated_eq
    rwa [Nat.zero_add] at counts

theorem many_greedy_digits :
    let p : Parser Char Nat Char := (primitive (.satisfy Char.isDigit)).mapContext fun c n => (c, n + 1)
    let s := Source.text "é12x"
    p.Advancing s ∧ s.stop ≤ Count.unbounded ∧ s.IsBoundary 2 ∧
      p.many s 2 (.fresh 0) = (.done ⟨['1', '2'], 2, 4⟩, .fresh 2) ∧
      (∃ e, p.FailsAt s 4 e ∧ (pair p.many p s 2 (.fresh 0)).1 = .failed e) ∧
      ∃ rounds m'', rounds.flatten = ['1', '2'] ∧ p.many.many s 2 (.fresh 0) = (.done ⟨rounds, 2, 4⟩, m'') := by
  intro p s
  have advancing : p.Advancing s := (Advancing.satisfy Char.isDigit s).mapContext _ fun _ _ _ => rfl
  have short : s.stop ≤ Count.unbounded := show 5 ≤ Count.unbounded by decide
  have boundary : s.IsBoundary 2 := rfl
  have digits : p.many s 2 (.fresh 0) = (.done ⟨['1', '2'], 2, 4⟩, .fresh 2) := rfl
  obtain ⟨as, j, m', ran, stuck, rounds, calls, m'', flat, _, again, _⟩ :=
    many_greedy advancing short boundary (.fresh 0)
  cases ran.symm.trans digits
  exact ⟨advancing, short, boundary, digits, stuck, rounds, m'', flat, again⟩

end Descent.Parser
