import Descent.Proofs.Sequences

namespace Descent
variable {ε χ α β γ : Type}

-- A fault that the engine knows nothing of: neither one of its failures nor one of its reasons.
structure Fault.IsForeign (fault : Fault) : Prop where
  noReason : ∀ reason, fault ≠ .reason reason
  noFailure : ∀ failure, fault ≠ .failure failure

theorem Failure.lift_of_foreign {fault : Fault} (foreign : fault.IsForeign) (i : Nat) :
    lift fault i = of (.wrapped fault) i := by
  cases fault with
  | reason reason => exact absurd rfl (foreign.noReason reason)
  | failure failure => exact absurd rfl (foreign.noFailure failure)
  | _ => rfl

namespace Parser

inductive Interpreted (f : α → Except Fault β) (p : Parser ε χ α) (s : Source ε) (i : Nat) (m : Memory χ) :
    Reply (Match β) → Memory χ → Prop where
  | accepted {a : Match α} {b : β} {m' : Memory χ} (done : p s i m = (.done a, m')) (verdict : f a.output = .ok b) :
      Interpreted f p s i m (.done ⟨b, i, a.stop⟩) m'
  | failure {a : Match α} {e : Failure} {m' : Memory χ} (done : p s i m = (.done a, m'))
      (verdict : f a.output = .error (.failure e)) : Interpreted f p s i m (.failed e) m'
  | reason {a : Match α} {reason : Reason} {m' : Memory χ} (done : p s i m = (.done a, m'))
      (verdict : f a.output = .error (.reason reason)) : Interpreted f p s i m (.failed (.of reason i)) m'
  | foreign {a : Match α} {fault : Fault} {m' : Memory χ} (done : p s i m = (.done a, m'))
      (verdict : f a.output = .error fault) (foreign : fault.IsForeign) :
      Interpreted f p s i m (.failed (.of (.wrapped fault) i)) m'
  | unmatched {e : Failure} {m' : Memory χ} (failed : p s i m = (.failed e, m')) : Interpreted f p s i m (.failed e) m'
  | cutOff {m' : Memory χ} (cut : p s i m = (.unfinished, m')) : Interpreted f p s i m .unfinished m'

section Replies
variable {p : Parser ε χ α} {f : α → Except Fault β} {s : Source ε} {i : Nat} {m m' : Memory χ} {a : Match α}

theorem tryMap_of_accepted {b : β} (done : p s i m = (.done a, m')) (verdict : f a.output = .ok b) :
    p.tryMap f s i m = (.done ⟨b, a.start, a.stop⟩, m') := by
  refine (Action.handle_of_done done).trans ?_
  rw [verdict]
  rfl

theorem tryMap_of_rejected {fault : Fault} (done : p s i m = (.done a, m')) (verdict : f a.output = .error fault) :
    p.tryMap f s i m = (.failed (.lift fault a.start), m') := by
  refine (Action.handle_of_done done).trans ?_
  rw [verdict]
  rfl

theorem tryMap_of_failed {e : Failure} (failed : p s i m = (.failed e, m')) (f : α → Except Fault β) :
    p.tryMap f s i m = (.failed e, m') :=
  Action.handle_of_failed failed

theorem tryMap_of_unfinished (cut : p s i m = (.unfinished, m')) (f : α → Except Fault β) :
    p.tryMap f s i m = (.unfinished, m') :=
  Action.handle_of_unfinished cut

theorem Interpreted.tryMap_eq {reply : Reply (Match β)} (anchored : p.AnchoredAt s i)
    (interpreted : Interpreted f p s i m reply m') : p.tryMap f s i m = (reply, m') := by
  cases interpreted with
  | accepted done verdict => rw [tryMap_of_accepted done verdict, anchored done]
  | failure done verdict => exact tryMap_of_rejected done verdict
  | reason done verdict =>
    rw [tryMap_of_rejected done verdict, anchored done]
    rfl
  | foreign done verdict foreign =>
    rw [tryMap_of_rejected done verdict, Failure.lift_of_foreign foreign, anchored done]
  | unmatched failed => exact tryMap_of_failed failed f
  | cutOff cut => exact tryMap_of_unfinished cut f

theorem exists_interpreted (f : α → Except Fault β) (p : Parser ε χ α) (s : Source ε) (i : Nat) (m : Memory χ) :
    ∃ reply m', Interpreted f p s i m reply m' := by
  rcases ran : p s i m with ⟨a | e | _, m'⟩
  · cases verdict : f a.output with
    | ok b => exact ⟨_, _, .accepted ran verdict⟩
    | error fault =>
      cases fault with
      | reason reason => exact ⟨_, _, .reason ran verdict⟩
      | failure e => exact ⟨_, _, .failure ran verdict⟩
      | _ => exact ⟨_, _, .foreign ran verdict ⟨nofun, nofun⟩⟩
  · exact ⟨_, _, .unmatched ran⟩
  · exact ⟨_, _, .cutOff ran⟩

theorem tryMap_eq_iff {reply : Reply (Match β)} (anchored : p.AnchoredAt s i) :
    p.tryMap f s i m = (reply, m') ↔ Interpreted f p s i m reply m' := by
  constructor
  · intro ran
    obtain ⟨reply', m'', interpreted⟩ := exists_interpreted f p s i m
    obtain ⟨rfl, rfl⟩ := Prod.mk.inj ((interpreted.tryMap_eq anchored).symm.trans ran)
    exact interpreted
  · exact Interpreted.tryMap_eq anchored

end Replies

section Fusion

-- A fault of the first mapping has its place before the second one could give it another.
theorem tryMap_tryMap (p : Parser ε χ α) (f : α → Except Fault β) (g : β → Except Fault γ) :
    (p.tryMap f).tryMap g = p.tryMap fun v => (f v).bind g := by
  funext s i m
  rcases ran : p s i m with ⟨a | e | _, m'⟩
  · cases verdict : f a.output with
    | error fault =>
      have whole : (f a.output).bind g = .error fault := by rw [verdict]; rfl
      rw [tryMap_of_failed (tryMap_of_rejected ran verdict), tryMap_of_rejected ran whole]
    | ok b =>
      have first := tryMap_of_accepted ran verdict
      have goesOn : (f a.output).bind g = g b := by rw [verdict]; rfl
      cases verdict' : g b with
      | error fault => rw [tryMap_of_rejected first verdict', tryMap_of_rejected ran (goesOn.trans verdict')]
      | ok c => rw [tryMap_of_accepted first verdict', tryMap_of_accepted ran (goesOn.trans verdict')]
  · rw [tryMap_of_failed (tryMap_of_failed ran f), tryMap_of_failed ran]
  · rw [tryMap_of_unfinished (tryMap_of_unfinished ran f), tryMap_of_unfinished ran]

theorem map_eq_tryMap (p : Parser ε χ α) (h : α → β) : p.map h = p.tryMap fun v => .ok (h v) := rfl

theorem tryMap_map (p : Parser ε χ α) (h : α → β) (f : β → Except Fault γ) :
    (p.map h).tryMap f = p.tryMap fun v => f (h v) := by
  rw [map_eq_tryMap, tryMap_tryMap]
  rfl

theorem map_tryMap (p : Parser ε χ α) (f : α → Except Fault β) (h : β → γ) :
    (p.tryMap f).map h = p.tryMap fun v => (f v).map h := by
  rw [map_eq_tryMap, tryMap_tryMap]
  rfl

end Fusion

-- The equations are of parsers, so of every position, and of the memory that is left. They hold whatever range a match
-- has. Where a match starts at the position of the run, that is the place of what the mapping says against it.
theorem interpretation_laws :
    (∀ (p : Parser ε χ α) (f : α → Except Fault β) (g : β → Except Fault γ),
      (p.tryMap f).tryMap g = p.tryMap fun v => (f v).bind g) ∧
    (∀ (p : Parser ε χ α) (h : α → β) (f : β → Except Fault γ), (p.map h).tryMap f = p.tryMap fun v => f (h v)) ∧
    (∀ (p : Parser ε χ α) (f : α → Except Fault β) (h : β → γ),
      (p.tryMap f).map h = p.tryMap fun v => (f v).map h) ∧
    ∀ (p : Parser ε χ α) (f : α → Except Fault β) (s : Source ε) (i : Nat) (m : Memory χ), p.AnchoredAt s i →
      ∀ reply m', p.tryMap f s i m = (reply, m') ↔ Interpreted f p s i m reply m' := by
  refine ⟨tryMap_tryMap, tryMap_map, map_tryMap, ?_⟩
  intro p f s i m anchored reply m'
  exact tryMap_eq_iff anchored

end Parser

def appraise (letters : List Char) : Except Fault Nat :=
  if letters = ['a', 'b'] then .error (.failure (.mk .endOfInput 9 (some (.noMatch 1))))
  else if letters = ['c', 'd'] then .error (.reason .outOfBounds)
  else if letters = ['e', 'f'] then .error (.text "odd")
  else .ok letters.length

theorem Parser.interpretation_laws_letters :
    let p := (Grammar.letters 2).parser Empty.rec 0
    let s := Source.text "éabcdefgh!"
    p.AnchoredAt s 2 ∧ p.AnchoredAt s 4 ∧ p.AnchoredAt s 6 ∧ p.AnchoredAt s 8 ∧ p.AnchoredAt s 10 ∧
      Interpreted appraise p s 2 (.fresh 0) (.failed (.mk .endOfInput 9 (some (.noMatch 1)))) (.fresh 2) ∧
      Interpreted appraise p s 4 (.fresh 0) (.failed (.of .outOfBounds 4)) (.fresh 2) ∧
      Interpreted appraise p s 6 (.fresh 0) (.failed (.of (.wrapped (.text "odd")) 6)) (.fresh 2) ∧
      Interpreted appraise p s 8 (.fresh 0) (.done ⟨2, 8, 10⟩) (.fresh 2) ∧
      Interpreted appraise p s 10 (.fresh 0) (.failed (.noMatch 10)) (.fresh 0) := by
  intro p s
  have anchored : p.Anchored s := Grammar.anchored_of_standard Empty.rec (Grammar.standard_letters 2) 0 s
  obtain ⟨_, _, _, verdicts⟩ := interpretation_laws (ε := Char) (χ := Nat) (α := List Char) (β := Nat) (γ := Nat)
  have interpreted (i : Nat) := verdicts p appraise s i (.fresh 0) (anchored.anchoredAt i)
  refine ⟨anchored.anchoredAt 2, anchored.anchoredAt 4, anchored.anchoredAt 6, anchored.anchoredAt 8,
    anchored.anchoredAt 10, ?_, ?_, ?_, ?_, ?_⟩
  · exact (interpreted 2 _ _).mp rfl
  · exact (interpreted 4 _ _).mp rfl
  · exact (interpreted 6 _ _).mp rfl
  · exact (interpreted 8 _ _).mp rfl
  · exact (interpreted 10 _ _).mp rfl

end Descent
