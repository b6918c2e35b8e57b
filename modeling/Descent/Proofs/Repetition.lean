import Descent.Parser.Repetition
import Descent.Proofs.Observation

namespace Descent
variable {ε χ α : Type}

namespace Parser

def counted (p : Parser ε χ α) : Parser ε (χ × Nat) α := p.observed fun _ n => n + 1

-- No attempt is made after these matches: no more of them are allowed, or there are enough and the last one is
-- empty, where nothing else would ever end the repetition.
def stops (least most : Nat) (found : List (Match α)) : Bool :=
  found.length == most ||
    (most == Count.unbounded && decide (max least 1 ≤ found.length) && found.getLast?.any Match.isZeroWidth)

inductive Reaches (p : Parser ε χ α) (least most : Nat) (s : Source ε) (i : Nat) (m : Memory χ) :
    List (Match α) → Nat → Memory χ → Prop where
  | start : Reaches p least most s i m [] i m
  | next {found : List (Match α)} {a : Match α} {j : Nat} {m₁ m₂ : Memory χ}
      (before : Reaches p least most s i m found j m₁) (goesOn : stops least most found = false)
      (done : p s j m₁ = (.done a, m₂)) : Reaches p least most s i m (found ++ [a]) a.stop m₂

inductive Outcome (p : Parser ε χ α) (least most : Nat) (s : Source ε) (i : Nat) (m : Memory χ) :
    Nat → Reply (Match (List α)) → Memory χ → Prop where
  | crossed (crossed : most < least) : Outcome p least most s i m 0 (.failed (.outOfBounds i)) m
  | ended {found : List (Match α)} {j : Nat} {m₁ : Memory χ} (ordered : least ≤ most)
      (reaches : Reaches p least most s i m found j m₁) (ends : stops least most found = true) :
      Outcome p least most s i m found.length (.done ⟨found.map Match.output, i, j⟩) m₁
  -- The last attempt is dropped, except for what it did to the memory.
  | sufficed {found : List (Match α)} {j : Nat} {m₁ m₂ : Memory χ} {e : Failure} (ordered : least ≤ most)
      (reaches : Reaches p least most s i m found j m₁) (goesOn : stops least most found = false)
      (failed : p s j m₁ = (.failed e, m₂)) (enough : least ≤ found.length) :
      Outcome p least most s i m (found.length + 1) (.done ⟨found.map Match.output, i, j⟩) m₂
  | fellShort {found : List (Match α)} {j : Nat} {m₁ m₂ : Memory χ} {e : Failure} (ordered : least ≤ most)
      (reaches : Reaches p least most s i m found j m₁) (goesOn : stops least most found = false)
      (failed : p s j m₁ = (.failed e, m₂)) (few : found.length < least) :
      Outcome p least most s i m (found.length + 1) (.failed e) m₂
  | cutOff {found : List (Match α)} {j : Nat} {m₁ m₂ : Memory χ} (ordered : least ≤ most)
      (reaches : Reaches p least most s i m found j m₁) (goesOn : stops least most found = false)
      (cut : p s j m₁ = (.unfinished, m₂)) : Outcome p least most s i m (found.length + 1) .unfinished m₂

inductive Attempts (p : Parser ε χ α) (least most : Nat) (s : Source ε) (i : Nat) (m : Memory χ) :
    List (Reply (Match α)) → Prop where
  | matched {found : List (Match α)} {j : Nat} {m₁ : Memory χ} (reaches : Reaches p least most s i m found j m₁) :
      Attempts p least most s i m (found.map .done)
  | missed {found : List (Match α)} {j : Nat} {m₁ : Memory χ} {reply : Reply (Match α)}
      (reaches : Reaches p least most s i m found j m₁) (missed : ∀ a, reply ≠ .done a) :
      Attempts p least most s i m (found.map .done ++ [reply])

def remaining (p : Parser ε χ α) (least most : Nat) (s : Source ε) (found : List (Match α)) (j : Nat) :
    Action (Memory χ) (List α × Nat) :=
  if stops least most found then pure (found.map Match.output, j)
  else p.collect (most == Count.unbounded) s (most - found.length) (least - found.length)
    (found.map Match.output).reverse j

section Loop
variable {p : Parser ε χ α} {least most : Nat} {s : Source ε} {i j : Nat} {m m₁ m₂ m' : Memory χ}
  {found : List (Match α)} {a : Match α}

theorem stops_append (least most : Nat) (found : List (Match α)) (a : Match α) :
    stops least most (found ++ [a]) = (found.length + 1 == most ||
      (a.isZeroWidth && most == Count.unbounded && decide (least - found.length ≤ 1))) := by
  have enough : max least 1 ≤ found.length + 1 ↔ least - found.length ≤ 1 := by omega
  simp only [stops, List.length_append, List.length_cons, List.length_nil, Nat.zero_add, enough,
    List.getLast?_concat, Option.any_some]
  cases a.isZeroWidth <;> simp

theorem collect_eq_remaining : p.collect (most == Count.unbounded) s most least [] i = p.remaining least most s [] i := by
  unfold remaining
  by_cases none : most = 0
  · subst none
    rfl
  · have goesOn : stops (α := α) least most [] = false := by
      simp [stops, Ne.symm none]
    rw [goesOn]
    rfl

-- One turn of the loop: an attempt, and what becomes of its reply.
theorem remaining_of_goesOn (bound : found.length ≤ most) (goesOn : stops least most found = false) (j : Nat) :
    p.remaining least most s found j = (p s j).handle
      (fun a => p.remaining least most s (found ++ [a]) a.stop)
      (fun e => if found.length < least then .fail e else pure (found.map Match.output, j)) := by
  have short : found.length ≠ most := by
    intro full
    simp [stops, full] at goesOn
  obtain ⟨left, rest⟩ : ∃ left, most - found.length = left + 1 := ⟨most - found.length - 1, by omega⟩
  have fewer : left = most - (found.length + 1) := by omega
  rw [remaining, goesOn, if_neg Bool.false_ne_true, rest, collect_succ]
  congr 1
  · funext a
    have outputs : a.output :: (found.map Match.output).reverse = ((found ++ [a]).map Match.output).reverse := by simp
    rw [remaining, stops_append, outputs, List.reverse_reverse, List.length_append, List.length_singleton,
      Nat.sub_add_eq least, fewer]
    by_cases stalled : (a.isZeroWidth && most == Count.unbounded && decide (least - found.length ≤ 1)) = true
    · rw [stalled, Bool.or_true, if_pos rfl]
    · rw [Bool.not_eq_true] at stalled
      rw [stalled, Bool.or_false, if_neg Bool.false_ne_true]
      by_cases full : found.length + 1 = most
      · rw [if_pos (beq_iff_eq.mpr full), full, Nat.sub_self, collect_zero, List.reverse_reverse]
      · rw [if_neg (by simpa using full)]
  · funext e
    rw [List.reverse_reverse]
    by_cases few : found.length < least
    · rw [if_pos few, if_pos (Nat.sub_pos_of_lt few)]
    · rw [if_neg few, if_neg (by omega)]

theorem Reaches.length_le (reaches : Reaches p least most s i m found j m₁) : found.length ≤ most := by
  induction reaches with
  | start => exact Nat.zero_le _
  | next before goesOn done ih =>
    simp only [stops, Bool.or_eq_false_iff, beq_eq_false_iff_ne] at goesOn
    rw [List.length_append, List.length_singleton]
    omega

-- By induction on the matches, one turn of the loop for each.
theorem Reaches.collect_eq (reaches : Reaches p least most s i m found j m₁) :
    p.collect (most == Count.unbounded) s most least [] i m = p.remaining least most s found j m₁ := by
  induction reaches with
  | start => rw [collect_eq_remaining]
  | next before goesOn done ih =>
    rw [ih, remaining_of_goesOn before.length_le goesOn]
    exact Action.handle_of_done done

theorem Reaches.observed {κ : Type} (reaches : Reaches p least most s i m found j m₁)
    (note : Reply (Match α) → κ → κ) (k : κ) :
    Reaches (p.observed note) least most s i (m.beside k) found j
      (m₁.beside ((found.map .done).foldl (fun k r => note r k) k)) := by
  induction reaches with
  | start => exact .start
  | next before goesOn done ih =>
    rw [List.map_append, List.foldl_append]
    exact .next ih goesOn (observed_beside done note _)

theorem Reaches.repeated_eq (reaches : Reaches p least most s i m found j m₁) (ordered : least ≤ most)
    (reply : Reply (List α × Nat)) (ended : p.remaining least most s found j m₁ = (reply, m₂)) :
    p.repeated least most s i m = (reply.map fun r => ⟨r.1, i, r.2⟩, m₂) := by
  exact repeated_of_collect ordered (reaches.collect_eq.trans ended)

end Loop

namespace Outcome
variable {p : Parser ε χ α} {least most : Nat} {s : Source ε} {i : Nat} {m m' : Memory χ} {calls : Nat}
  {reply : Reply (Match (List α))}

theorem repeated_eq (outcome : Outcome p least most s i m calls reply m') :
    p.repeated least most s i m = (reply, m') := by
  cases outcome with
  | crossed crossed =>
    unfold repeated
    rw [if_pos crossed]
    rfl
  | ended ordered reaches ends =>
    refine reaches.repeated_eq ordered (.done (_, _)) ?_
    rw [remaining, ends]
    rfl
  | sufficed ordered reaches goesOn failed enough =>
    refine reaches.repeated_eq ordered (.done (_, _)) ?_
    rw [remaining_of_goesOn reaches.length_le goesOn, Action.handle_of_failed failed, if_neg (Nat.not_lt_of_le enough)]
    rfl
  | fellShort ordered reaches goesOn failed few =>
    refine reaches.repeated_eq ordered (.failed _) ?_
    rw [remaining_of_goesOn reaches.length_le goesOn, Action.handle_of_failed failed, if_pos few]
    rfl
  | cutOff ordered reaches goesOn cut =>
    refine reaches.repeated_eq ordered .unfinished ?_
    rw [remaining_of_goesOn reaches.length_le goesOn, Action.handle_of_unfinished cut]

theorem observed (outcome : Outcome p least most s i m calls reply m') :
    ∃ replies, Attempts p least most s i m replies ∧ replies.length = calls ∧
      ∀ {κ : Type} (note : Reply (Match α) → κ → κ) (k : κ),
        Outcome (p.observed note) least most s i (m.beside k) calls reply
          (m'.beside (replies.foldl (fun k r => note r k) k)) := by
  cases outcome with
  | crossed crossed => exact ⟨[], .matched .start, rfl, fun _ _ => .crossed crossed⟩
  | ended ordered reaches ends =>
    exact ⟨_, .matched reaches, List.length_map _, fun note k => .ended ordered (reaches.observed note k) ends⟩
  | @sufficed found _ _ _ e ordered reaches goesOn failed enough =>
    refine ⟨found.map .done ++ [.failed e], .missed reaches (by simp), by simp, ?_⟩
    intro κ note k
    rw [List.foldl_append]
    exact .sufficed ordered (reaches.observed note k) goesOn (observed_beside failed note _) enough
  | @fellShort found _ _ _ e ordered reaches goesOn failed few =>
    refine ⟨found.map .done ++ [.failed e], .missed reaches (by simp), by simp, ?_⟩
    intro κ note k
    rw [List.foldl_append]
    exact .fellShort ordered (reaches.observed note k) goesOn (observed_beside failed note _) few
  | @cutOff found _ _ _ ordered reaches goesOn cut =>
    refine ⟨found.map .done ++ [.unfinished], .missed reaches (by simp), by simp, ?_⟩
    intro κ note k
    rw [List.foldl_append]
    exact .cutOff ordered (reaches.observed note k) goesOn (observed_beside cut note _)

theorem counted (outcome : Outcome p least most s i m calls reply m') (n : Nat) :
    Outcome p.counted least most s i (m.beside n) calls reply (m'.beside (n + calls)) := by
  obtain ⟨replies, _, rfl, observed⟩ := outcome.observed
  have counts := observed (fun _ n => n + 1) n
  rwa [List.foldl_add_const, Nat.one_mul] at counts

end Outcome

section Outcomes
variable {p : Parser ε χ α} {least most : Nat} {s : Source ε} {i : Nat} {m : Memory χ}

-- By induction on the matches that are still allowed.
theorem Reaches.exists_outcome (ordered : least ≤ most) {found : List (Match α)} {j : Nat} {m₁ : Memory χ}
    (reaches : Reaches p least most s i m found j m₁) :
    ∃ calls reply m', Outcome p least most s i m calls reply m' := by
  induction size : most - found.length generalizing found j m₁ with
  | zero =>
    have full : found.length = most := Nat.le_antisymm reaches.length_le (by omega)
    exact ⟨_, _, _, .ended ordered reaches (by simp [stops, full])⟩
  | succ left ih =>
    cases ends : stops least most found with
    | true => exact ⟨_, _, _, .ended ordered reaches ends⟩
    | false =>
      rcases ran : p s j m₁ with ⟨a | e | _, m₂⟩
      · refine ih (.next reaches ends ran) ?_
        rw [List.length_append, List.length_singleton]
        omega
      · by_cases few : found.length < least
        · exact ⟨_, _, _, .fellShort ordered reaches ends ran few⟩
        · exact ⟨_, _, _, .sufficed ordered reaches ends ran (Nat.le_of_not_lt few)⟩
      · exact ⟨_, _, _, .cutOff ordered reaches ends ran⟩

theorem exists_outcome (p : Parser ε χ α) (least most : Nat) (s : Source ε) (i : Nat) (m : Memory χ) :
    ∃ calls reply m', Outcome p least most s i m calls reply m' := by
  by_cases crossed : most < least
  · exact ⟨_, _, _, .crossed crossed⟩
  · exact Reaches.start.exists_outcome (Nat.le_of_not_lt crossed)

end Outcomes

theorem repeated_iff_outcome (p : Parser ε χ α) (least most : Nat) (s : Source ε) (i : Nat) (m : Memory χ) :
    (∃ calls reply m', Outcome p least most s i m calls reply m') ∧
      (∀ calls reply m', Outcome p least most s i m calls reply m' ↔
        p.repeated least most s i m = (reply, m') ∧
          p.counted.repeated least most s i (m.beside 0) = (reply, m'.beside calls)) ∧
      ∀ e, (p.many s i m).1 ≠ .failed e := by
  refine ⟨exists_outcome p least most s i m, ?_, ?_⟩
  · intro calls reply m'
    constructor
    · intro outcome
      have counts := (outcome.counted 0).repeated_eq
      rw [Nat.zero_add] at counts
      exact ⟨outcome.repeated_eq, counts⟩
    · intro ⟨ran, counts⟩
      obtain ⟨calls', reply', m'', outcome⟩ := exists_outcome p least most s i m
      have counts' := (outcome.counted 0).repeated_eq
      rw [Nat.zero_add, counts] at counts'
      obtain ⟨rfl, same⟩ := Prod.mk.inj counts'
      obtain ⟨rfl, rfl⟩ := Memory.beside_inj same
      exact outcome
  · intro e failed
    obtain ⟨calls, reply, m', outcome⟩ := exists_outcome p 0 Count.unbounded s i m
    have ran : p.many s i m = (reply, m') := outcome.repeated_eq
    rw [ran] at failed
    cases outcome with
    | crossed crossed => exact Nat.not_lt_zero _ crossed
    | fellShort ordered reaches goesOn failed few => exact Nat.not_lt_zero _ few
    | _ => cases failed

end Parser
end Descent
