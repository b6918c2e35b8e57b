import Descent.Proofs.Alternatives
import Descent.Proofs.Sequences

namespace Descent
namespace Parser
variable {ε χ α β γ δ : Type}

inductive AllMatch (s : Source ε) (i : Nat) (m : Memory χ) :
    List (Parser ε χ α) → List Nat → List α → Nat → Memory χ → Prop where
  | none : AllMatch s i m [] [] [] i m
  | next {ps : List (Parser ε χ α)} {p : Parser ε χ α} {places : List Nat} {as : List α} {j : Nat} {a : Match α}
      {m₁ m₂ : Memory χ} (before : AllMatch s i m ps places as j m₁) (done : p s j m₁ = (.done a, m₂)) :
      AllMatch s i m (ps ++ [p]) (places ++ [j]) (as ++ [a.output]) a.stop m₂

inductive Chained (ps : List (Parser ε χ α)) (s : Source ε) (i : Nat) (m : Memory χ) :
    List Nat → Reply (Match (List α)) → Memory χ → Prop where
  | matched {places : List Nat} {as : List α} {j : Nat} {m₁ : Memory χ} (parts : AllMatch s i m ps places as j m₁) :
      Chained ps s i m places (.done ⟨as, i, j⟩) m₁
  | failed {before after : List (Parser ε χ α)} {p : Parser ε χ α} {places : List Nat} {as : List α} {j : Nat}
      {e : Failure} {m₁ m₂ : Memory χ} (split : ps = before ++ p :: after) (parts : AllMatch s i m before places as j m₁)
      (failed : p s j m₁ = (.failed e, m₂)) : Chained ps s i m (places ++ [j]) (.failed e) m₂
  | cutOff {before after : List (Parser ε χ α)} {p : Parser ε χ α} {places : List Nat} {as : List α} {j : Nat}
      {m₁ m₂ : Memory χ} (split : ps = before ++ p :: after) (parts : AllMatch s i m before places as j m₁)
      (cut : p s j m₁ = (.unfinished, m₂)) : Chained ps s i m (places ++ [j]) .unfinished m₂

def visits (places : List Nat) : List (Nat × Nat) := places.mapIdx Prod.mk

-- Of two parts, the first that fails is what the whole comes to, and the second one only runs behind a match.
def FailsWithPart (join : Parser ε χ α → Parser ε χ β → Parser ε χ γ) : Prop :=
  ∀ ⦃p : Parser ε χ α⦄ ⦃q : Parser ε χ β⦄ ⦃s : Source ε⦄ ⦃i : Nat⦄ ⦃m m₁ : Memory χ⦄ ⦃e : Failure⦄,
    (p s i m = (.failed e, m₁) → join p q s i m = (.failed e, m₁)) ∧
      ∀ ⦃a : Match α⦄ ⦃m₂ : Memory χ⦄, p s i m = (.done a, m₁) → q s a.stop m₁ = (.failed e, m₂) →
        join p q s i m = (.failed e, m₂)

section Places

theorem visits_concat (places : List Nat) (j : Nat) : visits (places ++ [j]) = visits places ++ [(places.length, j)] :=
  List.mapIdx_concat

theorem map_snd_visits (places : List Nat) : (visits places).map Prod.snd = places := by
  apply List.ext_getElem <;> simp [visits]

theorem visits_inj {places places' : List Nat} (same : visits places = visits places') : places = places' := by
  rw [← map_snd_visits places, same, map_snd_visits]

end Places

section Parts
variable {s : Source ε} {i j : Nat} {m m₁ m' : Memory χ} {ps : List (Parser ε χ α)} {places : List Nat} {as : List α}

theorem outputs_append (s : Source ε) (ps qs : List (Parser ε χ α)) (i : Nat) :
    outputs s (ps ++ qs) i = outputs s ps i >>= fun r => outputs s qs r.2 >>= fun r' => pure (r.1 ++ r'.1, r'.2) := by
  induction ps generalizing i with
  | nil => exact (bind_pure (outputs s qs i)).symm
  | cons p ps ih =>
    rw [List.cons_append, outputs_cons, outputs_cons, bind_assoc]
    congr 1
    funext a
    rw [ih]
    simp only [bind_assoc, pure_bind, List.cons_append]

theorem outputs_singleton (s : Source ε) (p : Parser ε χ α) (i : Nat) :
    outputs s [p] i = p s i >>= fun a => pure ([a.output], a.stop) := rfl

namespace AllMatch

theorem length_places (parts : AllMatch s i m ps places as j m₁) : places.length = ps.length := by
  induction parts with
  | none => rfl
  | next before done ih => rw [List.length_append, List.length_append, ih, List.length_singleton, List.length_singleton]

theorem outputs_eq (parts : AllMatch s i m ps places as j m₁) : outputs s ps i m = (.done (as, j), m₁) := by
  induction parts with
  | none => rfl
  | @next ps p _ _ _ a _ m₂ before done ih =>
    have last : outputs s [p] _ _ = (.done ([a.output], a.stop), m₂) := Action.handle_of_done done
    rw [outputs_append]
    exact (Action.handle_of_done ih).trans (Action.handle_of_done last)

theorem outputs_append_eq (parts : AllMatch s i m ps places as j m₁) (after : List (Parser ε χ α)) :
    outputs s (ps ++ after) i m = (outputs s after j >>= fun r => pure (as ++ r.1, r.2)) m₁ := by
  rw [outputs_append]
  exact Action.handle_of_done parts.outputs_eq

theorem numbered {p : Parser ε χ α} {reply : Reply (Match α)} (parts : AllMatch s i m ps places as j m₁)
    (ran : p s j m₁ = (reply, m')) :
    p.numbered ps.length s j (m₁.beside (visits places)) = (reply, m'.beside (visits (places ++ [j]))) := by
  rw [visits_concat, parts.length_places]
  exact observed_beside ran _ _

theorem logged (parts : AllMatch s i m ps places as j m₁) :
    AllMatch s i (m.beside []) (logged ps) places as j (m₁.beside (visits places)) := by
  induction parts with
  | none => exact .none
  | next before done ih =>
    rw [logged_concat]
    exact .next ih (before.numbered done)

theorem exists_chained {before : List (Parser ε χ α)} (parts : AllMatch s i m before places as j m₁)
    (after : List (Parser ε χ α)) : ∃ places reply m', Chained (before ++ after) s i m places reply m' := by
  induction after generalizing before places as j m₁ with
  | nil =>
    rw [List.append_nil]
    exact ⟨_, _, _, .matched parts⟩
  | cons p after ih =>
    rcases ran : p s j m₁ with ⟨a | e | _, m₂⟩
    · have later := ih (.next parts ran)
      rwa [List.append_assoc] at later
    · exact ⟨_, _, _, .failed rfl parts ran⟩
    · exact ⟨_, _, _, .cutOff rfl parts ran⟩

end AllMatch

theorem chain_of_outputs {reply : Reply (List α × Nat)} (loop : outputs s ps i m = (reply, m')) :
    chain ps s i m = (reply.map fun r => ⟨r.1, i, r.2⟩, m') :=
  Action.bind_pure_of_reply loop _

namespace Chained
variable {reply : Reply (Match (List α))}

theorem chain_eq (chained : Chained ps s i m places reply m') : chain ps s i m = (reply, m') := by
  cases chained with
  | matched parts => exact chain_of_outputs parts.outputs_eq
  | @failed before after p _ _ _ _ _ _ split parts failed =>
    subst split
    have loop := parts.outputs_append_eq (p :: after)
    rw [outputs_cons] at loop
    exact chain_of_outputs (loop.trans (Action.handle_of_failed (Action.handle_of_failed failed)))
  | @cutOff before after p _ _ _ _ _ split parts cut =>
    subst split
    have loop := parts.outputs_append_eq (p :: after)
    rw [outputs_cons] at loop
    exact chain_of_outputs (loop.trans (Action.handle_of_unfinished (Action.handle_of_unfinished cut)))

theorem logged (chained : Chained ps s i m places reply m') :
    Chained (logged ps) s i (m.beside []) places reply (m'.beside (visits places)) := by
  cases chained with
  | matched parts => exact .matched parts.logged
  | @failed before after p _ _ _ _ _ _ split parts failed =>
    obtain ⟨after', split'⟩ := exists_logged_append before p after
    exact .failed (split ▸ split') parts.logged (parts.numbered failed)
  | @cutOff before after p _ _ _ _ _ split parts cut =>
    obtain ⟨after', split'⟩ := exists_logged_append before p after
    exact .cutOff (split ▸ split') parts.logged (parts.numbered cut)

end Chained

theorem exists_chained (ps : List (Parser ε χ α)) (s : Source ε) (i : Nat) (m : Memory χ) :
    ∃ places reply m', Chained ps s i m places reply m' :=
  AllMatch.none.exists_chained ps

theorem chained_iff {reply : Reply (Match (List α))} :
    Chained ps s i m places reply m' ↔
      chain ps s i m = (reply, m') ∧ chain (logged ps) s i (m.beside []) = (reply, m'.beside (visits places)) := by
  constructor
  · intro chained
    exact ⟨chained.chain_eq, chained.logged.chain_eq⟩
  · intro ⟨_, logs⟩
    obtain ⟨places', reply', m'', chained⟩ := exists_chained ps s i m
    obtain ⟨rfl, same⟩ := Prod.mk.inj (chained.logged.chain_eq.symm.trans logs)
    obtain ⟨rfl, visited⟩ := Memory.beside_inj same
    rwa [visits_inj visited] at chained

end Parts

section Joins

theorem failsWithPart_andThen (f : α → β → γ) : FailsWithPart (andThen f : Parser ε χ α → Parser ε χ β → _) := by
  intro p q s i m m₁ e
  refine ⟨andThen_of_failed, ?_⟩
  intro a m₂ done failed
  exact andThen_of_done done failed

theorem chain_append (ps qs : List (Parser ε χ α)) : chain (ps ++ qs) = concat (chain ps) (chain qs) := by
  funext s i
  rw [concat_eq_andThen]
  simp only [chain, andThen, outputs_append, bind_assoc, pure_bind]

theorem chain_append_singleton (ps : List (Parser ε χ α)) (p : Parser ε χ α) :
    chain (ps ++ [p]) = append (chain ps) p := by
  funext s i
  rw [append_eq_andThen]
  simp only [chain, andThen, outputs_append, outputs_singleton, bind_assoc, pure_bind]

-- A chain starts where it is invoked, so its first part has to do the same.
theorem chain_cons {p : Parser ε χ α} {s : Source ε} {i : Nat} (anchored : p.AnchoredAt s i)
    (ps : List (Parser ε χ α)) : chain (p :: ps) s i = prepend p (chain ps) s i := by
  rw [prepend_eq_andThen]
  simp only [chain, andThen, outputs_cons, bind_assoc, pure_bind]
  apply Action.handle_congr_done
  intro m a m' done
  rw [anchored done]

theorem concat_assoc (p q r : Parser ε χ (List α)) : concat (concat p q) r = concat p (concat q r) := by
  simp only [concat_eq_andThen, andThen_eq_flatMap, flatMap_flatMap, flatMap_map, map_flatMap, map_map,
    List.append_assoc]

theorem concat_just_nil (p : Parser ε χ (List α)) : concat p (just []) = p := by
  funext s i
  rw [concat_eq_andThen]
  simp only [andThen, just, pure_bind, Match.zeroWidth, List.append_nil]
  exact bind_pure (p s i)

theorem concat_nil_just {p : Parser ε χ (List α)} {s : Source ε} {i : Nat} (anchored : p.AnchoredAt s i) :
    concat (just []) p s i = p s i := by
  rw [concat_eq_andThen]
  simp only [andThen, just, pure_bind, Match.zeroWidth, List.nil_append]
  refine Eq.trans ?_ (bind_pure (p s i))
  apply Action.handle_congr_done
  intro m a m' done
  rw [← anchored done]

end Joins

-- As parsers, with the memory that is left and in every case of failure. A chain ends in the one way that there is,
-- and so no part behind a failure is invoked.
theorem chain_laws :
    (∀ ps qs : List (Parser ε χ α), chain (ps ++ qs) = concat (chain ps) (chain qs)) ∧
    (∀ (p : Parser ε χ α) (ps : List (Parser ε χ α)) (s : Source ε) (i : Nat), p.AnchoredAt s i →
      chain (p :: ps) s i = prepend p (chain ps) s i) ∧
    (∀ (ps : List (Parser ε χ α)) (p : Parser ε χ α), chain (ps ++ [p]) = append (chain ps) p) ∧
    (∀ p q r : Parser ε χ (List α), concat (concat p q) r = concat p (concat q r)) ∧
    (∀ p : Parser ε χ (List α), concat p (just []) = p) ∧
    (∀ (p : Parser ε χ (List α)) (s : Source ε) (i : Nat), p.AnchoredAt s i → concat (just []) p s i = p s i) ∧
    (∀ (ps : List (Parser ε χ α)) (s : Source ε) (i : Nat) (m : Memory χ),
      (∃ places reply m', Chained ps s i m places reply m') ∧
        ∀ places reply m', Chained ps s i m places reply m' ↔
          chain ps s i m = (reply, m') ∧ chain (logged ps) s i (m.beside []) = (reply, m'.beside (visits places))) ∧
    FailsWithPart (concat : Parser ε χ (List α) → Parser ε χ (List α) → _) ∧
    FailsWithPart (append : Parser ε χ (List α) → Parser ε χ α → _) ∧
    FailsWithPart (prepend : Parser ε χ α → Parser ε χ (List α) → _) := by
  refine ⟨chain_append, fun p ps s i anchored => chain_cons anchored ps, chain_append_singleton, concat_assoc,
    concat_just_nil, fun p s i anchored => concat_nil_just anchored, ?_, ?_, ?_, ?_⟩
  · intro ps s i m
    exact ⟨exists_chained ps s i m, fun _ _ _ => chained_iff⟩
  · rw [funext fun p => funext (concat_eq_andThen p)]
    exact failsWithPart_andThen _
  · rw [funext fun p => funext (append_eq_andThen p)]
    exact failsWithPart_andThen _
  · rw [funext fun p => funext (prepend_eq_andThen p)]
    exact failsWithPart_andThen _

end Parser

def Grammar.letter (c : Char) : Grammar Char Nat (fun _ : Empty => Unit) Char := (the c).mapContext fun c k => (c, k + 1)

theorem Grammar.standard_letter (c : Char) : (letter c).Standard := ⟨trivial, trivial, trivial⟩

theorem Parser.chain_laws_letters :
    let letter (c : Char) := (Grammar.letter c).parser Empty.rec 0
    let letters (n : Nat) := (Grammar.letters n).parser Empty.rec 0
    let s := Source.text "éabc"
    (letter 'a').AnchoredAt s 2 ∧ (letters 2).AnchoredAt s 2 ∧
      chain [letter 'a', letter 'b'] s 2 = prepend (letter 'a') (chain [letter 'b']) s 2 ∧
      concat (just []) (letters 2) s 2 (.fresh 0) = (.done ⟨['a', 'b'], 2, 4⟩, .fresh 2) ∧
      Chained [letter 'a', letter 'b', letter 'x', letter 'c'] s 2 (.fresh 0) [2, 3, 4] (.failed (.noMatch 4)) (.fresh 2) ∧
      letters 2 s 2 (.fresh 0) = (.done ⟨['a', 'b'], 2, 4⟩, .fresh 2) ∧
      concat (letters 2) (letters 2) s 2 (.fresh 0) = (.failed (.endOfInput 5), .fresh 3) ∧
      append (letters 2) (letter 'x') s 2 (.fresh 0) = (.failed (.noMatch 4), .fresh 2) ∧
      letter 'x' s 2 (.fresh 0) = (.failed (.noMatch 2), .fresh 0) ∧
      prepend (letter 'x') (letters 2) s 2 (.fresh 0) = (.failed (.noMatch 2), .fresh 0) := by
  intro letter letters s
  have anchored : (letter 'a').Anchored s := Grammar.anchored_of_standard Empty.rec (Grammar.standard_letter 'a') 0 s
  have anchored' : (letters 2).Anchored s := Grammar.anchored_of_standard Empty.rec (Grammar.standard_letters 2) 0 s
  have two : letters 2 s 2 (.fresh 0) = (.done ⟨['a', 'b'], 2, 4⟩, .fresh 2) := rfl
  have none : letter 'x' s 2 (.fresh 0) = (.failed (.noMatch 2), .fresh 0) := rfl
  obtain ⟨_, first, _, _, _, unit, ends, inConcat, inAppend, inPrepend⟩ := chain_laws (ε := Char) (χ := Nat) (α := Char)
  refine ⟨anchored.anchoredAt 2, anchored'.anchoredAt 2, first _ _ s 2 (anchored.anchoredAt 2), ?_, ?_, two,
    inConcat.2 two rfl, inAppend.2 two rfl, none, inPrepend.1 none⟩
  · rw [unit (letters 2) s 2 (anchored'.anchoredAt 2), two]
  · exact ((ends _ s 2 (.fresh 0)).2 _ _ _).mpr ⟨rfl, rfl⟩

end Descent
