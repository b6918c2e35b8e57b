import Descent.Grammar.Forms
import Descent.Proofs.Observation

namespace Descent
namespace Parser
variable {ε χ α : Type}

inductive AllFail (s : Source ε) (i : Nat) (m : Memory χ) : List (Parser ε χ α) → Failure → Memory χ → Prop where
  | none : AllFail s i m [] (.noMatch i) m
  | next {ps : List (Parser ε χ α)} {p : Parser ε χ α} {e e' : Failure} {m₁ m₂ : Memory χ}
      (before : AllFail s i m ps e m₁) (failed : p s i m₁ = (.failed e', m₂)) : AllFail s i m (ps ++ [p]) e' m₂

-- How a choice may end, with the number of alternatives that were tried, the reply and the memory that is left.
inductive Chosen (ps : List (Parser ε χ α)) (s : Source ε) (i : Nat) (m : Memory χ) :
    Nat → Reply (Match α) → Memory χ → Prop where
  | found {before after : List (Parser ε χ α)} {p : Parser ε χ α} {e : Failure} {a : Match α} {m₁ m₂ : Memory χ}
      (split : ps = before ++ p :: after) (fail : AllFail s i m before e m₁) (done : p s i m₁ = (.done a, m₂)) :
      Chosen ps s i m (before.length + 1) (.done a) m₂
  | failed {e : Failure} {m₁ : Memory χ} (fail : AllFail s i m ps e m₁) : Chosen ps s i m ps.length (.failed e) m₁
  | cutOff {before after : List (Parser ε χ α)} {p : Parser ε χ α} {e : Failure} {m₁ m₂ : Memory χ}
      (split : ps = before ++ p :: after) (fail : AllFail s i m before e m₁) (cut : p s i m₁ = (.unfinished, m₂)) :
      Chosen ps s i m (before.length + 1) .unfinished m₂

def numbered (k : Nat) (p : Parser ε χ α) : Parser ε (χ × List (Nat × Nat)) α := fun s i =>
  p.observed (fun _ log => log ++ [(k, i)]) s i

def logged (ps : List (Parser ε χ α)) : List (Parser ε (χ × List (Nat × Nat)) α) := ps.mapIdx numbered

def firsts (i n : Nat) : List (Nat × Nat) := (List.range n).map (·, i)

section Choices
variable {s : Source ε} {i : Nat} {m m' m₁ : Memory χ} {ps : List (Parser ε χ α)} {e : Failure}

theorem firsts_succ (i n : Nat) : firsts i (n + 1) = firsts i n ++ [(n, i)] := by
  rw [firsts, List.range_succ, List.map_append]
  rfl

theorem firsts_inj {n n' : Nat} (same : firsts i n = firsts i n') : n = n' := by
  have lengths := congrArg List.length same
  simpa [firsts] using lengths

theorem length_logged (ps : List (Parser ε χ α)) : (logged ps).length = ps.length := List.length_mapIdx

theorem logged_concat (ps : List (Parser ε χ α)) (p : Parser ε χ α) :
    logged (ps ++ [p]) = logged ps ++ [p.numbered ps.length] :=
  List.mapIdx_concat

theorem exists_logged_append (before : List (Parser ε χ α)) (p : Parser ε χ α) (after : List (Parser ε χ α)) :
    ∃ after', logged (before ++ p :: after) = logged before ++ p.numbered before.length :: after' := by
  refine ⟨after.mapIdx fun k => numbered (k + 1 + before.length), ?_⟩
  rw [logged, List.mapIdx_append, List.mapIdx_cons, Nat.zero_add]
  rfl

theorem numbered_beside {p : Parser ε χ α} {reply : Reply (Match α)} (ran : p s i m = (reply, m')) (k : Nat) :
    p.numbered k s i (m.beside (firsts i k)) = (reply, m'.beside (firsts i (k + 1))) := by
  rw [firsts_succ]
  exact observed_beside ran _ _

theorem AllFail.firstOf_append (fail : AllFail s i m ps e m₁) (after : List (Parser ε χ α)) :
    firstOf s i (ps ++ after) (.noMatch i) m = firstOf s i after e m₁ := by
  induction fail generalizing after with
  | none => rfl
  | next before failed ih =>
    rw [List.append_assoc, ih]
    exact Action.handle_of_failed failed

theorem AllFail.logged (fail : AllFail s i m ps e m₁) :
    AllFail s i (m.beside []) (logged ps) e (m₁.beside (firsts i ps.length)) := by
  induction fail with
  | none => exact .none
  | next before failed ih =>
    rw [logged_concat, List.length_append, List.length_singleton]
    exact .next ih (numbered_beside failed _)

theorem AllFail.exists_chosen {before : List (Parser ε χ α)} (fail : AllFail s i m before e m₁)
    (after : List (Parser ε χ α)) : ∃ calls reply m', Chosen (before ++ after) s i m calls reply m' := by
  induction after generalizing before e m₁ with
  | nil =>
    rw [List.append_nil]
    exact ⟨_, _, _, .failed fail⟩
  | cons p after ih =>
    rcases ran : p s i m₁ with ⟨a | e' | _, m₂⟩
    · exact ⟨_, _, _, .found rfl fail ran⟩
    · have later := ih (.next fail ran)
      rwa [List.append_assoc] at later
    · exact ⟨_, _, _, .cutOff rfl fail ran⟩

namespace Chosen
variable {calls : Nat} {reply : Reply (Match α)}

theorem choice_eq (chosen : Chosen ps s i m calls reply m') : choice ps s i m = (reply, m') := by
  cases chosen with
  | found split fail done =>
    subst split
    exact (fail.firstOf_append _).trans (Action.handle_of_done done)
  | failed fail =>
    have whole := fail.firstOf_append []
    rwa [List.append_nil] at whole
  | cutOff split fail cut =>
    subst split
    exact (fail.firstOf_append _).trans (Action.handle_of_unfinished cut)

theorem logged (chosen : Chosen ps s i m calls reply m') :
    Chosen (logged ps) s i (m.beside []) calls reply (m'.beside (firsts i calls)) := by
  cases chosen with
  | @found before after p _ _ _ _ split fail done =>
    obtain ⟨after', split'⟩ := exists_logged_append before p after
    have chosen := Chosen.found split' fail.logged (numbered_beside done before.length)
    rwa [← split, length_logged] at chosen
  | failed fail =>
    have chosen := Chosen.failed fail.logged
    rwa [length_logged] at chosen
  | @cutOff before after p _ _ _ split fail cut =>
    obtain ⟨after', split'⟩ := exists_logged_append before p after
    have chosen := Chosen.cutOff split' fail.logged (numbered_beside cut before.length)
    rwa [← split, length_logged] at chosen

end Chosen

theorem exists_chosen (ps : List (Parser ε χ α)) (s : Source ε) (i : Nat) (m : Memory χ) :
    ∃ calls reply m', Chosen ps s i m calls reply m' :=
  AllFail.none.exists_chosen ps

theorem chosen_iff {calls : Nat} {reply : Reply (Match α)} :
    Chosen ps s i m calls reply m' ↔
      choice ps s i m = (reply, m') ∧
        choice (logged ps) s i (m.beside []) = (reply, m'.beside (firsts i calls)) := by
  constructor
  · intro chosen
    exact ⟨chosen.choice_eq, chosen.logged.choice_eq⟩
  · intro ⟨_, logs⟩
    obtain ⟨calls', reply', m'', chosen⟩ := exists_chosen ps s i m
    obtain ⟨rfl, same⟩ := Prod.mk.inj (chosen.logged.choice_eq.symm.trans logs)
    obtain ⟨rfl, firsts⟩ := Memory.beside_inj same
    rwa [firsts_inj firsts] at chosen

end Choices

section Forms
variable {s : Source ε} {i : Nat}

-- By induction on the first alternatives. The others report a failure of their own, whatever was reported before.
theorem firstOf_append (ps : List (Parser ε χ α)) (q : Parser ε χ α) (qs : List (Parser ε χ α)) (e : Failure) :
    firstOf s i (ps ++ q :: qs) e = (firstOf s i ps e).handle pure fun e' => firstOf s i (q :: qs) e' := by
  induction ps generalizing e with
  | nil => rfl
  | cons p ps ih =>
    rw [List.cons_append, firstOf, firstOf, Action.handle_handle]
    congr 1
    funext e'
    exact ih e'

theorem choice_append (ps : List (Parser ε χ α)) (q : Parser ε χ α) (qs : List (Parser ε χ α)) :
    choice (ps ++ q :: qs) = (choice ps).orElse (choice (q :: qs)) :=
  funext fun _ => funext fun i => firstOf_append ps q qs (.noMatch i)

theorem choice_singleton (p : Parser ε χ α) : choice [p] = p :=
  funext fun s => funext fun i => Action.handle_pure_fail (p s i)

end Forms

inductive Bracketing (σ : Type) where
  | one (p : σ)
  | both (left right : Bracketing σ)

namespace Bracketing

def toList {σ : Type} : Bracketing σ → List σ
  | one p => [p]
  | both left right => left.toList ++ right.toList

def joined : Bracketing (Parser ε χ α) → Parser ε χ α
  | one p => p
  | both left right => left.joined.orElse right.joined

theorem exists_cons {σ : Type} (t : Bracketing σ) : ∃ p ps, t.toList = p :: ps := by
  induction t with
  | one p => exact ⟨p, [], rfl⟩
  | both left right ih _ =>
    obtain ⟨p, ps, split⟩ := ih
    exact ⟨p, ps ++ right.toList, by rw [toList, split, List.cons_append]⟩

theorem joined_eq (t : Bracketing (Parser ε χ α)) : t.joined = choice t.toList := by
  induction t with
  | one p => exact (choice_singleton p).symm
  | both left right ih ih' =>
    obtain ⟨q, qs, split⟩ := right.exists_cons
    rw [joined, toList, ih, ih', split, choice_append]

end Bracketing

-- A choice ends in the one way that there is, in whatever form it is written. It may be split in two wherever there
-- is an alternative behind the split. A choice of none would have a failure of its own to report.
theorem ordered_choice :
    (∀ (ps : List (Parser ε χ α)) (s : Source ε) (i : Nat) (m : Memory χ),
      (∃ calls reply m', Chosen ps s i m calls reply m') ∧
        ∀ calls reply m', Chosen ps s i m calls reply m' ↔
          choice ps s i m = (reply, m') ∧
            choice (logged ps) s i (m.beside []) = (reply, m'.beside (firsts i calls))) ∧
    (∀ (p : Parser ε χ α) (ps : List (Parser ε χ α)), cascade p ps = choice (p :: ps)) ∧
    (∀ (ps : List (Parser ε χ α)) (q : Parser ε χ α) (qs : List (Parser ε χ α)),
      choice (ps ++ q :: qs) = (choice ps).orElse (choice (q :: qs))) ∧
    ∀ t : Bracketing (Parser ε χ α), t.joined = choice t.toList :=
  ⟨fun ps s i m => ⟨exists_chosen ps s i m, fun _ _ _ => chosen_iff⟩, cascade_eq_choice, choice_append,
    Bracketing.joined_eq⟩

end Parser

theorem Grammar.parser_cascadeOf {ε χ ι α : Type} {τ : ι → Type} [DecidableEq ε] (rules : Rules ε χ τ) (depth : Nat)
    (p : Grammar ε χ τ α) (ps : Array (Grammar ε χ τ α)) :
    (cascadeOf p ps).parser rules depth = (choiceOf (#[p] ++ ps)).parser rules depth := by
  rw [parser, parser, parserWith_cascadeOf_eq_choice, parserWith_choiceOf, Array.toList_append]
  rfl

end Descent
