import Descent.Grammar.Forms
import Descent.Proofs.Context.Steady
import Descent.Proofs.Sequences

namespace Descent
variable {ε χ ι α β : Type} {τ : ι → Type}

namespace Parser

def Stays (p : Parser ε χ α) : Prop :=
  ∀ ⦃s : Source ε⦄ ⦃i : Nat⦄ ⦃m m' : Memory χ⦄ ⦃a : Match α⦄, p s i m = (.done a, m') → a.start = i ∧ a.stop = i

-- Whatever made it fail, it reports a mismatch where it was invoked.
def Denies (p : Parser ε χ α) : Prop :=
  ∀ ⦃s : Source ε⦄ ⦃i : Nat⦄ ⦃m m' : Memory χ⦄ ⦃e : Failure⦄, p s i m = (.failed e, m') → e = .noMatch i

section Alone
variable {p : Parser ε χ α} {s : Source ε} {i : Nat} {m m' : Memory χ}

theorem exists_of_peek_done {a : Match Unit} (done : p.peek s i m = (.done a, m')) :
    a = .zeroWidth () i ∧ ∃ b, p s i m = (.done b, m') := by
  obtain ⟨b, m₁, ran, ends⟩ := Action.bind_eq_done done
  cases ends
  exact ⟨rfl, b, ran⟩

theorem exists_of_notAhead_done {a : Match Unit} (done : p.notAhead s i m = (.done a, m')) :
    a = .zeroWidth () i ∧ ∃ e, p s i m = (.failed e, m') := by
  rcases Action.handle_eq_done done with ⟨_, _, _, denied⟩ | ⟨e, m₁, failed, ends⟩
  · cases denied
  · cases ends
    exact ⟨rfl, e, failed⟩

theorem exists_of_notAhead_failed {e : Failure} (failed : p.notAhead s i m = (.failed e, m')) :
    e = .noMatch i ∧ ∃ a, p s i m = (.done a, m') := by
  rcases Action.handle_eq_failed failed with ⟨a, m₁, done, ends⟩ | ⟨_, _, _, stays⟩
  · cases ends
    exact ⟨rfl, a, done⟩
  · cases stays

theorem stays_peek (p : Parser ε χ α) : p.peek.Stays := by
  intro s i m m' a done
  obtain ⟨rfl, _⟩ := exists_of_peek_done done
  exact ⟨rfl, rfl⟩

theorem stays_notAhead (p : Parser ε χ α) : p.notAhead.Stays := by
  intro s i m m' a done
  obtain ⟨rfl, _⟩ := exists_of_notAhead_done done
  exact ⟨rfl, rfl⟩

theorem denies_notAhead (p : Parser ε χ α) : p.notAhead.Denies :=
  fun _ _ _ _ _ failed => (exists_of_notAhead_failed failed).1

theorem notAhead_notAhead_iff {a : Match Unit} :
    p.notAhead.notAhead s i m = (.done a, m') ↔ p.peek s i m = (.done a, m') := by
  constructor
  · intro done
    obtain ⟨rfl, e, lacks⟩ := exists_of_notAhead_done done
    obtain ⟨_, b, ran⟩ := exists_of_notAhead_failed lacks
    exact peek_of_done ran
  · intro done
    obtain ⟨rfl, b, ran⟩ := exists_of_peek_done done
    exact notAhead_of_failed (notAhead_of_done ran)

end Alone

-- By induction on the alternatives, for any failure before them. One that matches ends both loops, with success for
-- the choice and with failure for the chain.
theorem firstOf_handle_eq_outputs (s : Source ε) (i : Nat) (ps : List (Parser ε χ α)) (last : Failure) :
    (firstOf s i ps last).handle (fun _ => .fail (.noMatch i)) (fun _ => pure (Match.zeroWidth () i)) =
      outputs s (ps.map notAhead) i >>= fun r => pure ⟨(), i, r.2⟩ := by
  induction ps generalizing last with
  | nil => rfl
  | cons p ps ih =>
    rw [firstOf, Action.handle_handle, List.map_cons, outputs_cons, bind_assoc, notAhead, Action.bind_eq_handle,
      Action.handle_handle]
    congr 1
    funext e
    rw [ih e, ← Action.bind_eq_handle, pure_bind, bind_assoc]
    rfl

theorem notAny_eq_chain (ps : List (Parser ε χ α)) : notAny ps = (chain (ps.map notAhead)).discard := by
  funext s i
  rw [discard, const, map, chain, bind_assoc]
  exact firstOf_handle_eq_outputs s i ps (.noMatch i)

section Ahead
variable {p : Parser ε χ α} {q : Parser ε χ β} {s : Source ε} {i : Nat} {m m' : Memory χ}

theorem ignoreThen_of_stays {a : Match α} (anchored : q.AnchoredAt s i) (first : p s i m = (.done a, m'))
    (stays : a.start = i ∧ a.stop = i) : ignoreThen p q s i m = q s i m' := by
  rcases ran : q s i m' with ⟨b | e | _, m₁⟩
  · have goesOn : ignoreThen p q s i m = _ := andThen_of_done first (stays.2 ▸ ran)
    rw [goesOn, stays.1, ← anchored ran]
    rfl
  · exact andThen_of_done first (stays.2 ▸ ran)
  · exact andThen_of_done first (stays.2 ▸ ran)

theorem ignoreThen_peek (steady : (p s i).Steady) (anchored : p.AnchoredAt s i) (m : Memory χ) :
    (ignoreThen p.peek p s i m).1 = (p s i m).1 := by
  rcases ran : p s i m with ⟨a | e | _, m'⟩
  · obtain ⟨m₁, again⟩ := steady.transfer ran m'
    rw [ignoreThen_of_stays anchored (peek_of_done ran) ⟨rfl, rfl⟩, again]
  · have missing : ignoreThen p.peek p s i m = (.failed e, m') := andThen_of_failed (peek_of_failed ran)
    rw [missing]
  · have cut : ignoreThen p.peek p s i m = (.unfinished, m') := Action.handle_of_unfinished (peek_of_unfinished ran)
    rw [cut]

theorem ignoreThen_notAhead_ne_done (steady : (p s i).Steady) (m : Memory χ) (a : Match α) :
    (ignoreThen p.notAhead p s i m).1 ≠ .done a := by
  intro matched
  have done : ignoreThen p.notAhead p s i m = (.done a, (ignoreThen p.notAhead p s i m).2) := Prod.ext matched rfl
  obtain ⟨b, m₁, lacks, goesOn⟩ := Action.bind_eq_done done
  obtain ⟨rfl, e, failed⟩ := exists_of_notAhead_done lacks
  obtain ⟨c, m₂, ran, _⟩ := Action.bind_eq_done goesOn
  obtain ⟨m₃, again⟩ := steady.transfer failed m₁
  cases ran.symm.trans again

theorem orElse_ignoreThen_notAhead {q : Parser ε χ α} (steady : (p s i).Steady) (steady' : (q s i).Steady)
    (anchored : q.AnchoredAt s i) (m : Memory χ) :
    (p.orElse (ignoreThen p.notAhead q) s i m).1 = (p.orElse q s i m).1 := by
  rcases ran : p s i m with ⟨a | e | _, m'⟩
  · rw [orElse_of_done _ ran, orElse_of_done _ ran]
  · obtain ⟨m₁, again⟩ := steady.transfer ran m'
    rw [orElse_of_failed _ ran, orElse_of_failed _ ran,
      ignoreThen_of_stays anchored (notAhead_of_failed again) ⟨rfl, rfl⟩, steady' m₁ m']
  · rw [orElse_of_unfinished _ ran, orElse_of_unfinished _ ran]

end Ahead

-- The first laws hold of all parsers. In the others a parser runs twice, in whatever memory there is then, so it has
-- to reply alike from any memory, and its match has to start where it was invoked.
theorem lookahead_laws :
    (∀ {α : Type} (ps : List (Parser ε χ α)), notAny ps = (chain (ps.map notAhead)).discard) ∧
    (∀ {α : Type} (p : Parser ε χ α) (ps : List (Parser ε χ α)),
      (∀ s i m m' a, p.notAhead.notAhead s i m = (.done a, m') ↔ p.peek s i m = (.done a, m')) ∧
      p.peek.Stays ∧ p.notAhead.Stays ∧ (notAny ps).Stays ∧ p.notAhead.Denies ∧ (notAny ps).Denies) ∧
    ∀ {α : Type} {p : Parser ε χ α} {s : Source ε} {i : Nat}, (p s i).Steady →
      (∀ m a, (ignoreThen p.notAhead p s i m).1 ≠ .done a) ∧
      (p.AnchoredAt s i → ∀ m n, (ignoreThen p.peek p s i m).1 = (p s i n).1) ∧
      ∀ {q : Parser ε χ α}, (q s i).Steady → q.AnchoredAt s i → ∀ m n,
        (p.orElse q s i m).1 = (p.orElse (ignoreThen p.notAhead q) s i n).1 := by
  refine ⟨notAny_eq_chain, ?_, ?_⟩
  · intro α p ps
    exact ⟨fun _ _ _ _ _ => notAhead_notAhead_iff, stays_peek p, stays_notAhead p, stays_notAhead (choice ps),
      denies_notAhead p, denies_notAhead (choice ps)⟩
  · intro α p s i steady
    refine ⟨ignoreThen_notAhead_ne_done steady, ?_, ?_⟩
    · intro anchored m n
      rw [ignoreThen_peek steady anchored, steady m n]
    · intro q steady' anchored m n
      have whole : (p.orElse q s i).Steady := steady.handle .pure fun _ => steady'
      rw [orElse_ignoreThen_notAhead steady steady' anchored, whole m n]

end Parser

theorem Grammar.parser_notAny [DecidableEq ε] (rules : Rules ε χ τ) (depth : Nat) (ps : Array (Grammar ε χ τ α)) :
    (notAny ps).parser rules depth = (chainOf (ps.map notAhead)).discard.parser rules depth := by
  rw [parser, parser, parserWith_notAny, discard, const, parserWith_map, parserWith_chainOf, Parser.notAny_eq_chain,
    Array.toList_map, List.map_map, List.map_map]
  rfl

theorem Parser.lookahead_laws_counted :
    let letter (c : Char) := ((.the c : Grammar Char Nat (fun _ : Empty => Unit) Char).counted).parser Empty.rec 0
    let s := Source.text "éab"
    (letter 'a' s 2).Steady ∧ (letter 'a').AnchoredAt s 2 ∧ (letter 'b' s 2).Steady ∧
      notAny [letter 'b', letter 'a', letter 'a'] s 2 (.fresh 0) = (.failed (.noMatch 2), .fresh 1) ∧
      (letter 'a').notAhead.notAhead s 2 (.fresh 0) = (.done ⟨(), 2, 2⟩, .fresh 1) ∧
      (ignoreThen (letter 'a').notAhead (letter 'a') s 2 (.fresh 0)).1 ≠ .done ⟨'a', 2, 3⟩ ∧
      ignoreThen (letter 'a').peek (letter 'a') s 2 (.fresh 0) = (.done ⟨'a', 2, 3⟩, .fresh 2) ∧
      (ignoreThen (letter 'a').peek (letter 'a') s 2 (.fresh 0)).1 = (letter 'a' s 2 (.fresh 5)).1 ∧
      ((letter 'b').orElse (letter 'a') s 2 (.fresh 0)).1 =
        ((letter 'b').orElse (ignoreThen (letter 'b').notAhead (letter 'a')) s 2 (.fresh 5)).1 := by
  intro letter s
  have blind (c : Char) : (.the c : Grammar Char Nat (fun _ : Empty => Unit) Char).Forall Grammar.IsBlind :=
    ⟨trivial, trivial⟩
  have steady (c : Char) : (letter c s 2).Steady :=
    Grammar.steady_of_blind Empty.rec (Grammar.blind_counted (blind c)) 0 s 2
  have standard : (Grammar.counted (.the 'a' : Grammar Char Nat (fun _ : Empty => Unit) Char)).Standard :=
    ⟨trivial, trivial, trivial⟩
  have keeps : (letter 'a').KeepsRange s := Grammar.keepsRange_parser Empty.rec standard 0 s
  have anchored : (letter 'a').AnchoredAt s 2 := keeps.anchoredAt rfl
  obtain ⟨none, alone, again⟩ := lookahead_laws (ε := Char) (χ := Nat)
  obtain ⟨never, looked, _⟩ := again (steady 'a')
  obtain ⟨_, _, denied⟩ := again (steady 'b')
  refine ⟨steady 'a', anchored, steady 'b', ?_, ?_, never _ _, rfl, looked anchored _ _,
    denied (steady 'a') anchored _ _⟩
  · rw [none]
    rfl
  · rw [(alone (letter 'a') []).1]
    rfl

end Descent
