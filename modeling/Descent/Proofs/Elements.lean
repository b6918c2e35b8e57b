import Descent.Proofs.Lookahead
import Descent.Proofs.Sequences.Chains

namespace Descent
namespace Parser
open Predicate
variable {ε χ α β : Type} {s : Source ε} {i next : Nat} {m : Memory χ} {e : ε} {test test' : ε → Bool}

def Succeeds (p : Parser ε χ α) (s : Source ε) (i : Nat) (m : Memory χ) : Prop := ∃ a m', p s i m = (.done a, m')

section Lists

theorem choice_cons (p q : Parser ε χ α) (ps : List (Parser ε χ α)) :
    choice (p :: q :: ps) = p.orElse (choice (q :: ps)) := by
  rw [← List.singleton_append, choice_append, choice_singleton]

theorem just_ignoreThen (v : α) {q : Parser ε χ β} (anchored : ∀ s, q.Anchored s) : ignoreThen (just v) q = q := by
  funext s
  rw [ignoreThen_eq_flatMap]
  exact just_flatMap v (fun _ => q) (anchored s)

theorem ignoreThen_congr {p p' : Parser ε χ α} (same : p s i m = p' s i m) (q : Parser ε χ β) :
    ignoreThen p q s i m = ignoreThen p' q s i m := by
  simp only [ignoreThen, andThen, Action.bind_eq_handle, Action.handle, same]

theorem ignoreThen_chain_cons {p : Parser ε χ α} (stays : p.Stays) (ps : List (Parser ε χ α)) (q : Parser ε χ β) :
    ignoreThen (chain (p :: ps)) q = ignoreThen p (ignoreThen (chain ps) q) := by
  have first : chain (p :: ps) = prepend p (chain ps) := by
    funext s i
    exact chain_cons (fun _ _ _ done => (stays done).1) ps
  rw [first]
  simp only [prepend_eq_andThen, ignoreThen_eq_flatMap, andThen_eq_flatMap, flatMap_flatMap, flatMap_map]

end Lists

variable [DecidableEq ε]

section Tests
variable {get : ε → Option α} {a : α}

theorem extract_of_some (found : s.elementAt? i = some (e, next)) (value : get e = some a) (m : Memory χ) :
    primitive (.extract get) s i m = (.done ⟨a, i, next⟩, m) := by
  simp [primitive, Action.ofExcept, Primitive.parse, Primitive.element, found, value]

theorem extract_of_none (found : s.elementAt? i = some (e, next)) (none : get e = none) (m : Memory χ) :
    primitive (.extract get) s i m = (.failed (.noMatch i), m) := by
  simp [primitive, Action.ofExcept, Primitive.parse, Primitive.element, found, none]

theorem extract_of_missing (missing : s.elementAt? i = none) (get : ε → Option α) (m : Memory χ) :
    primitive (.extract get) s i m = (.failed (.endOfInput i), m) := by
  simp [primitive, Action.ofExcept, Primitive.parse, Primitive.element, missing]

theorem satisfy_eq_extract (test : ε → Bool) :
    (primitive (.satisfy test) : Parser ε χ ε) = primitive (.extract (Option.guard (test ·))) := rfl

theorem satisfy_of_holds (found : s.elementAt? i = some (e, next)) (holds : test e = true) (m : Memory χ) :
    primitive (.satisfy test) s i m = (.done ⟨e, i, next⟩, m) :=
  extract_of_some found (Option.guard_eq_some_iff.mpr ⟨rfl, holds⟩) m

theorem satisfy_of_fails (found : s.elementAt? i = some (e, next)) (fails : test e = false) (m : Memory χ) :
    primitive (.satisfy test) s i m = (.failed (.noMatch i), m) := by
  rw [satisfy_eq_extract]
  exact extract_of_none found (Option.guard_eq_none_iff.mpr fails) m

theorem satisfy_of_missing (missing : s.elementAt? i = none) (test : ε → Bool) (m : Memory χ) :
    primitive (.satisfy test) s i m = (.failed (.endOfInput i), m) := by
  rw [satisfy_eq_extract, extract_of_missing missing]

theorem satisfy_congr (found : s.elementAt? i = some (e, next)) (same : test e = test' e) (m : Memory χ) :
    primitive (.satisfy test) s i m = primitive (.satisfy test') s i m := by
  cases verdict : test' e with
  | true => rw [satisfy_of_holds found (same.trans verdict), satisfy_of_holds found verdict]
  | false => rw [satisfy_of_fails found (same.trans verdict), satisfy_of_fails found verdict]

theorem succeeds_satisfy_iff (found : s.elementAt? i = some (e, next)) (m : Memory χ) :
    (primitive (.satisfy test)).Succeeds s i m ↔ test e = true := by
  cases verdict : test e with
  | true => exact iff_of_true ⟨_, _, satisfy_of_holds found verdict m⟩ rfl
  | false =>
    refine iff_of_false ?_ Bool.false_ne_true
    intro ⟨_, _, done⟩
    cases (satisfy_of_fails found verdict m).symm.trans done

theorem any_eq_satisfy : (primitive .any : Parser ε χ ε) = primitive (.satisfy fun _ => true) := by
  have all : (some : ε → Option ε) = Option.guard fun _ => true := by
    funext e
    simp [Option.guard]
  funext s i
  rw [primitive, primitive, Primitive.parse, Primitive.parse, all]

theorem the_eq_satisfy (e : ε) : (primitive (.the e) : Parser ε χ ε) = primitive (.satisfy (only e)) := rfl

theorem oneOf_eq_satisfy (es : List ε) : (primitive (.oneOf es) : Parser ε χ ε) = primitive (.satisfy (inSet es)) := rfl

theorem noneOf_eq_satisfy (es : List ε) :
    (primitive (.noneOf es) : Parser ε χ ε) = primitive (.satisfy (negate (inSet es))) := by
  have others : (fun e => decide (e ∉ es)) = negate (inSet es) := by
    funext e
    rw [decide_not, negate, inSet]
  funext s i
  rw [primitive, primitive, Primitive.parse, Primitive.parse, others]

-- `some` takes nothing away from the outputs, so this says what the projections are.
theorem map_some_extract (get : ε → Option α) :
    (primitive (.extract get) : Parser ε χ α).map some = (primitive (.satisfy fun e => (get e).isSome)).map get := by
  funext s i m
  rcases found : s.elementAt? i with _ | ⟨e, next⟩
  · rw [map_of_reply (extract_of_missing found get m), map_of_reply (satisfy_of_missing found _ m)]
    rfl
  · cases value : get e with
    | none =>
      have fails : (get e).isSome = false := by rw [value, Option.isSome_none]
      rw [map_of_reply (extract_of_none found value m), map_of_reply (satisfy_of_fails found fails m)]
      rfl
    | some a =>
      have holds : (get e).isSome = true := by rw [value, Option.isSome_some]
      rw [map_of_reply (extract_of_some found value m), map_of_reply (satisfy_of_holds found holds m), Reply.map, Reply.map,
        Match.map, Match.map, value]

theorem xor_succeeds_satisfy_negate (found : s.elementAt? i = some (e, next)) (test : ε → Bool) (m : Memory χ) :
    Xor ((primitive (.satisfy test)).Succeeds s i m) ((primitive (.satisfy (negate test))).Succeeds s i m) := by
  rw [succeeds_satisfy_iff found, succeeds_satisfy_iff found, negate, Bool.not_eq_true', ← Bool.not_eq_true]
  exact xor_not_right.mpr Iff.rfl

end Tests

section Combined

theorem satisfy_orElse (test test' : ε → Bool) :
    (primitive (.satisfy test) : Parser ε χ ε).orElse (primitive (.satisfy test')) =
      primitive (.satisfy (either test test')) := by
  funext s i m
  rcases found : s.elementAt? i with _ | ⟨e, next⟩
  · rw [orElse_of_failed _ (satisfy_of_missing found test m), satisfy_of_missing found, satisfy_of_missing found]
  · cases verdict : test e with
    | true =>
      have whole : either test test' e = true := by rw [either, verdict, Bool.true_or]
      rw [orElse_of_done _ (satisfy_of_holds found verdict m), satisfy_of_holds found whole]
    | false =>
      have whole : either test test' e = test' e := by rw [either, verdict, Bool.false_or]
      rw [orElse_of_failed _ (satisfy_of_fails found verdict m), satisfy_congr found whole]

theorem ignoreThen_peek_satisfy (test test' : ε → Bool) :
    ignoreThen (primitive (.satisfy test) : Parser ε χ ε).peek (primitive (.satisfy test')) =
      primitive (.satisfy (both test test')) := by
  funext s i m
  have anchored : (primitive (.satisfy test') : Parser ε χ ε).AnchoredAt s i := (anchored_primitive _ s).anchoredAt i
  rcases found : s.elementAt? i with _ | ⟨e, next⟩
  · rw [satisfy_of_missing found]
    exact andThen_of_failed (peek_of_failed (satisfy_of_missing found test m))
  · cases verdict : test e with
    | true =>
      have whole : both test test' e = test' e := by rw [both, verdict, Bool.true_and]
      rw [ignoreThen_of_stays anchored (peek_of_done (satisfy_of_holds found verdict m)) ⟨rfl, rfl⟩,
        satisfy_congr found whole]
    | false =>
      have whole : both test test' e = false := by rw [both, verdict, Bool.false_and]
      rw [satisfy_of_fails found whole]
      exact andThen_of_failed (peek_of_failed (satisfy_of_fails found verdict m))

theorem notAhead_satisfy (found : s.elementAt? i = some (e, next)) (test : ε → Bool) (m : Memory χ) :
    (primitive (.satisfy test)).notAhead s i m = (primitive (.satisfy (negate test))).peek s i m := by
  cases verdict : test e with
  | true =>
    have denied : negate test e = false := by rw [negate, verdict, Bool.not_true]
    rw [notAhead_of_done (satisfy_of_holds found verdict m), peek_of_failed (satisfy_of_fails found denied m)]
  | false =>
    have passed : negate test e = true := by rw [negate, verdict, Bool.not_false]
    rw [notAhead_of_failed (satisfy_of_fails found verdict m), peek_of_done (satisfy_of_holds found passed m)]

-- Where nothing is left the first test is lacking as well, so it is the second one that fails.
theorem ignoreThen_notAhead_satisfy (test test' : ε → Bool) :
    ignoreThen (primitive (.satisfy test) : Parser ε χ ε).notAhead (primitive (.satisfy test')) =
      primitive (.satisfy (both (negate test) test')) := by
  funext s i m
  rcases found : s.elementAt? i with _ | ⟨e, next⟩
  · have anchored : (primitive (.satisfy test') : Parser ε χ ε).AnchoredAt s i :=
      (anchored_primitive _ s).anchoredAt i
    rw [ignoreThen_of_stays anchored (notAhead_of_failed (satisfy_of_missing found test m)) ⟨rfl, rfl⟩,
      satisfy_of_missing found, satisfy_of_missing found]
  · rw [← ignoreThen_peek_satisfy]
    exact ignoreThen_congr (notAhead_satisfy found test m) _

-- By induction on the tests. Without any a choice would not see the end of the input.
theorem satisfy_anyOf {tests : List (ε → Bool)} (some : tests ≠ []) :
    (primitive (.satisfy (anyOf tests)) : Parser ε χ ε) = choice (tests.map fun test => primitive (.satisfy test)) := by
  induction tests with
  | nil => exact absurd rfl some
  | cons test tests ih =>
    cases tests with
    | nil => rw [anyOf_singleton, List.map_singleton, choice_singleton]
    | cons test' tests =>
      rw [anyOf_cons, ← satisfy_orElse, ih (List.cons_ne_nil _ _)]
      exact (choice_cons _ _ _).symm

-- By induction on the tests. Behind all of them there may be any element.
theorem satisfy_allOf (tests : List (ε → Bool)) :
    (primitive (.satisfy (allOf tests)) : Parser ε χ ε) =
      ignoreThen (chain (tests.map fun test => peek (primitive (.satisfy test)))) (primitive .any) := by
  induction tests with
  | nil =>
    have empty : chain [] = (just [] : Parser ε χ (List Unit)) := rfl
    rw [List.map_nil, empty, just_ignoreThen [] (anchored_primitive .any), any_eq_satisfy]
    rfl
  | cons test tests ih =>
    rw [allOf_cons, ← ignoreThen_peek_satisfy, ih, List.map_cons, ignoreThen_chain_cons (stays_peek _)]

theorem oneOf_eq_choice {es : List ε} (some : es ≠ []) :
    (primitive (.oneOf es) : Parser ε χ ε) = choice (es.map fun e => primitive (.the e)) := by
  have tests : es.map only ≠ [] := List.map_eq_nil_iff.not.mpr some
  rw [oneOf_eq_satisfy, ← anyOf_map_only, satisfy_anyOf tests, List.map_map]
  rfl

theorem noneOf_eq_ignoreThen (es : List ε) :
    (primitive (.noneOf es) : Parser ε χ ε) = ignoreThen (notAhead (primitive (.oneOf es))) (primitive .any) := by
  have whole : both (negate (inSet es)) (fun _ => true) = negate (inSet es) := by
    funext e
    rw [both, Bool.and_true]
  rw [oneOf_eq_satisfy, any_eq_satisfy, ignoreThen_notAhead_satisfy, whole, noneOf_eq_satisfy]

end Combined

-- The equations are of parsers, so they hold at every position of every source and for any memory. Only an empty choice
-- differs, as it does not see the end of the input.
theorem element_parsers_agree :
    (∀ es : List ε,
      (primitive (.oneOf es) : Parser ε χ ε) = primitive (.satisfy (inSet es)) ∧
      (es ≠ [] → (primitive (.oneOf es) : Parser ε χ ε) = choice (es.map fun e => primitive (.the e))) ∧
      (primitive (.noneOf es) : Parser ε χ ε) = primitive (.satisfy (negate (inSet es))) ∧
      (primitive (.noneOf es) : Parser ε χ ε) = ignoreThen (notAhead (primitive (.oneOf es))) (primitive .any)) ∧
    (∀ tests : List (ε → Bool),
      (tests ≠ [] → (primitive (.satisfy (anyOf tests)) : Parser ε χ ε) =
        choice (tests.map fun test => primitive (.satisfy test))) ∧
      (primitive (.satisfy (allOf tests)) : Parser ε χ ε) =
        ignoreThen (chain (tests.map fun test => peek (primitive (.satisfy test)))) (primitive .any)) ∧
    (∀ {α : Type} (get : ε → Option α),
      (primitive (.extract get) : Parser ε χ α).map some = (primitive (.satisfy fun e => (get e).isSome)).map get) ∧
    ∀ (es : List ε) (s : Source ε) (i : Nat) (m : Memory χ),
      (∀ e next, s.elementAt? i = some (e, next) →
        Xor ((primitive (.oneOf es)).Succeeds s i m) ((primitive (.noneOf es)).Succeeds s i m)) ∧
      (s.elementAt? i = none →
        primitive (.oneOf es) s i m = (.failed (.endOfInput i), m) ∧
        primitive (.noneOf es) s i m = (.failed (.endOfInput i), m)) := by
  refine ⟨?_, ?_, map_some_extract, ?_⟩
  · intro es
    exact ⟨oneOf_eq_satisfy es, oneOf_eq_choice, noneOf_eq_satisfy es, noneOf_eq_ignoreThen es⟩
  · intro tests
    exact ⟨satisfy_anyOf, satisfy_allOf tests⟩
  · intro es s i m
    rw [oneOf_eq_satisfy, noneOf_eq_satisfy]
    refine ⟨?_, ?_⟩
    · intro e next found
      exact xor_succeeds_satisfy_negate found (inSet es) m
    · intro missing
      exact ⟨satisfy_of_missing missing _ m, satisfy_of_missing missing _ m⟩

theorem element_parsers_agree_signs :
    let s := Source.text "é+a"
    let signs := ['+', '-']
    let tests := [only '-', Char.isAlpha]
    signs ≠ [] ∧ tests ≠ [] ∧ s.elementAt? 2 = some ('+', 3) ∧ s.elementAt? 4 = none ∧
      (primitive (.oneOf signs) : Parser Char Nat Char) = choice (signs.map fun c => primitive (.the c)) ∧
      (primitive (.satisfy (anyOf tests)) : Parser Char Nat Char) =
        choice (tests.map fun test => primitive (.satisfy test)) ∧
      Xor ((primitive (.oneOf signs)).Succeeds s 2 (.fresh 0)) ((primitive (.noneOf signs)).Succeeds s 2 (.fresh 0)) ∧
      primitive (.noneOf signs) s 4 (.fresh 0) = (.failed (.endOfInput 4), .fresh 0) ∧
      primitive (.noneOf []) s 4 (.fresh 0) = (.failed (.endOfInput 4), .fresh 0) ∧
      choice (([] : List Char).map fun c => primitive (.the c)) s 4 (.fresh 0) = (.failed (.noMatch 4), .fresh 0) := by
  intro s signs tests
  have found : s.elementAt? 2 = some ('+', 3) := by decide
  have missing : s.elementAt? 4 = none := by decide
  obtain ⟨listed, tested, _, ends⟩ := element_parsers_agree (ε := Char) (χ := Nat)
  have some : tests ≠ [] := List.cons_ne_nil _ _
  refine ⟨by decide, some, found, missing, (listed signs).2.1 (by decide), (tested tests).1 some,
    (ends signs s 2 (.fresh 0)).1 _ _ found, ((ends signs s 4 (.fresh 0)).2 missing).2,
    ((ends [] s 4 (.fresh 0)).2 missing).2, rfl⟩

end Parser
end Descent
