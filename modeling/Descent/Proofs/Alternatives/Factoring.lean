import Descent.Proofs.Context.Steady

namespace Descent
namespace Parser
variable {ε χ α β : Type} {s : Source ε} {i : Nat} {m m' : Memory χ}

section Common
variable {p : Parser ε χ α} {q r : Parser ε χ β}

-- Behind a match of the common part. The second alternative finds it again, in another memory.
theorem factored_of_done (steady : p.Steady s) (steady' : r.Steady s) {a : Match α} (done : p s i m = (.done a, m')) :
    (pair p (q.orElse r) s i m).1 = ((pair p q).orElse (pair p r) s i m).1 := by
  rcases ran : q s a.stop m' with ⟨b | e | _, m₁⟩
  · have first : pair p q s i m = (.done ⟨(a.output, b.output), a.start, b.stop⟩, m₁) := andThen_of_done done ran
    have once : pair p (q.orElse r) s i m = _ := andThen_of_done done (orElse_of_done r ran)
    rw [orElse_of_done _ first, once]
    rfl
  · obtain ⟨m₂, again⟩ := (steady i).transfer done m₁
    have first : pair p q s i m = (.failed e, m₁) := andThen_of_done done ran
    have second : pair p r s i m₁ = _ := andThen_of_done again rfl
    have once : pair p (q.orElse r) s i m = _ := andThen_of_done done (orElse_of_failed r ran)
    rw [orElse_of_failed _ first, second, once, steady' a.stop m₁ m₂]
  · have first : pair p q s i m = (.unfinished, m₁) := andThen_of_done done ran
    have once : pair p (q.orElse r) s i m = (.unfinished, m₁) := andThen_of_done done (orElse_of_unfinished r ran)
    rw [orElse_of_unfinished _ first, once]

theorem pair_orElse (steady : p.Steady s) (steady' : r.Steady s) (q : Parser ε χ β) (i : Nat) (m : Memory χ) :
    (pair p (q.orElse r) s i m).1 = ((pair p q).orElse (pair p r) s i m).1 := by
  rcases ran : p s i m with ⟨a | e | _, m'⟩
  · exact factored_of_done steady steady' ran
  · obtain ⟨m₁, again⟩ := (steady i).transfer ran m'
    have first : pair p q s i m = (.failed e, m') := Action.handle_of_failed ran
    have second : pair p r s i m' = (.failed e, m₁) := Action.handle_of_failed again
    have once : pair p (q.orElse r) s i m = (.failed e, m') := Action.handle_of_failed ran
    rw [orElse_of_failed _ first, second, once]
  · have first : pair p q s i m = (.unfinished, m') := Action.handle_of_unfinished ran
    have once : pair p (q.orElse r) s i m = (.unfinished, m') := Action.handle_of_unfinished ran
    rw [orElse_of_unfinished _ first, once]

end Common

theorem orElse_pair_of_done {p q : Parser ε χ α} {r : Parser ε χ β} {c : Match (α × β)}
    (done : pair (p.orElse q) r s i m = (.done c, m')) : (pair p r).orElse (pair q r) s i m = (.done c, m') := by
  obtain ⟨a, m₁, chosen, goesOn⟩ := Action.bind_eq_done done
  rcases Action.handle_eq_done chosen with ⟨a', m₂, ran, same⟩ | ⟨e, m₂, ran, other⟩
  · cases same
    exact orElse_of_done _ ((Action.handle_of_done ran).trans goesOn)
  · have first : pair p r s i m = (.failed e, m₂) := Action.handle_of_failed ran
    rw [orElse_of_failed _ first]
    exact (Action.handle_of_done other).trans goesOn

-- From any two memories, where the context does not show.
theorem left_factoring :
    (∀ {α β : Type} {p : Parser ε χ α} {q r : Parser ε χ β}, p.Steady s → q.Steady s → r.Steady s →
      ∀ i m n, (pair p (q.orElse r) s i m).1 = ((pair p q).orElse (pair p r) s i n).1) ∧
    ∀ {α β : Type} {p q : Parser ε χ α} {r : Parser ε χ β} {i m m' c},
      pair (p.orElse q) r s i m = (.done c, m') →
        (pair p r).orElse (pair q r) s i m = (.done c, m') ∧
          (p.Steady s → q.Steady s → r.Steady s → ∀ n, ((pair p r).orElse (pair q r) s i n).1 = .done c) := by
  refine ⟨?_, ?_⟩
  · intro α β p q r steady steady' steady'' i m n
    have whole : (pair p (q.orElse r)).Steady s := steady.andThen (steady'.orElse steady'') _
    rw [whole i m n, pair_orElse steady steady'']
  · intro α β p q r i m m' c done
    have inside := orElse_pair_of_done done
    refine ⟨inside, ?_⟩
    intro steady steady' steady'' n
    have whole : ((pair p r).orElse (pair q r)).Steady s :=
      (steady.andThen steady'' _).orElse (steady'.andThen steady'' _)
    rw [whole i n m, inside]

end Parser

theorem Parser.left_factoring_counted :
    let letter (c : Char) := ((.the c : Grammar Char Nat (fun _ : Empty => Unit) Char).counted).parser Empty.rec 0
    let s := Source.text "éabc"
    (letter 'a').Steady s ∧ (letter 'b').Steady s ∧ (letter 'c').Steady s ∧
      (pair (letter 'a') ((letter 'c').orElse (letter 'b')) s 2 (.fresh 5)).1 = .done ⟨('a', 'b'), 2, 4⟩ ∧
      ((pair (letter 'a') (letter 'c')).orElse (pair (letter 'a') (letter 'b')) s 2 (.fresh 0)).1 =
        .done ⟨('a', 'b'), 2, 4⟩ ∧
      (pair (letter 'a') (letter 'c')).orElse (pair (letter 'b') (letter 'c')) s 3 (.fresh 5) =
        (.done ⟨('b', 'c'), 3, 5⟩, .fresh 7) ∧
      (pair ((letter 'a').orElse (ignoreThen (letter 'a') (letter 'b'))) (letter 'c') s 2 (.fresh 0)).1 =
        .failed (.noMatch 3) ∧
      ((pair (letter 'a') (letter 'c')).orElse (pair (ignoreThen (letter 'a') (letter 'b')) (letter 'c')) s 2
        (.fresh 0)).1 = .done ⟨('b', 'c'), 2, 5⟩ := by
  intro letter s
  have blind (c : Char) : (.the c : Grammar Char Nat (fun _ : Empty => Unit) Char).Forall Grammar.IsBlind :=
    ⟨trivial, trivial⟩
  have steady (c : Char) : (letter c).Steady s := Grammar.steady_of_blind Empty.rec (Grammar.blind_counted (blind c)) 0 s
  obtain ⟨factored, moved⟩ := left_factoring (χ := Nat) (s := s)
  have later : pair ((letter 'a').orElse (letter 'b')) (letter 'c') s 3 (.fresh 5) =
      (.done ⟨('b', 'c'), 3, 5⟩, .fresh 7) := rfl
  refine ⟨steady 'a', steady 'b', steady 'c', ?_, rfl, (moved later).1, rfl, rfl⟩
  rw [factored (steady 'a') (steady 'c') (steady 'b') 2 (.fresh 5) (.fresh 0)]
  rfl

end Descent
