import Descent.Proofs.Extent

namespace Descent
variable {ε χ α β : Type} {s : Source ε} {i : Nat} {m m₁ : Memory χ}

structure Tally where
  matched : Nat
  missed : Nat
  deriving DecidableEq, Repr

namespace Tally

def none : Tally := ⟨0, 0⟩

def after {σ : Type} : Reply σ → Tally → Tally
  | .done _, t => ⟨t.matched + 1, t.missed⟩
  | .failed _, t => ⟨t.matched, t.missed + 1⟩
  | .unfinished, t => ⟨t.matched, t.missed + 1⟩

theorem after_of_missed {σ : Type} {reply : Reply σ} (missed : ∀ a, reply ≠ .done a) (t : Tally) :
    t.after reply = ⟨t.matched, t.missed + 1⟩ := by
  cases reply with
  | done a => exact absurd rfl (missed a)
  | failed e => rfl
  | unfinished => rfl

end Tally

namespace Parser

def tallied (p : Parser ε χ α) : Parser ε (χ × Tally) α := p.observed Tally.after

-- A computation and the same one with a tally in it, which comes to at most `bound` matches and at most one
-- attempt in vain.
def TriesAtMost {σ : Type} (bound : Nat) (x : Action (Memory χ) σ) (y : Action (Memory (χ × Tally)) σ)
    (m : Memory χ) : Prop :=
  ∃ reply m' t, x m = (reply, m') ∧ y (m.beside Tally.none) = (reply, m'.beside t) ∧ t.matched ≤ bound ∧ t.missed ≤ 1

section Reaches
variable {p : Parser ε χ α} {least : Nat} {found : List (Match α)} {j : Nat}

-- Where the repetition goes on, it has fewer matches than are needed, or its last match consumed something. By
-- induction on the matches, each of which is one more that was needed or takes the position on.
theorem Reaches.length_lt (keeps : p.KeepsRange s) (boundary : s.IsBoundary i)
    (reaches : Reaches p least Count.unbounded s i m found j m₁)
    (goesOn : stops least Count.unbounded found = false) :
    found.length < max least 1 + (s.offset j - s.offset i) := by
  induction reaches with
  | start =>
    simp only [List.length_nil]
    omega
  | @next found a j m₁ m₂ before goesOn' done ih =>
    have short := ih goesOn'
    obtain ⟨here, later⟩ := before.boundary keeps boundary
    have whole := keeps here done
    have passed := boundary.offset_le here later
    have advanced := here.offset_le whole.boundary whole.forward
    rw [stops_append, BEq.rfl, Bool.and_true, Bool.or_eq_false_iff, Bool.and_eq_false_iff, decide_eq_false_iff_not]
      at goesOn
    rw [List.length_append, List.length_singleton]
    rcases goesOn.2 with consumed | needed
    · have moved : j < a.stop := by
        have apart : a.start ≠ a.stop := by simpa [Match.isZeroWidth] using consumed
        have forward := whole.forward
        rw [whole.start] at apart
        omega
      have further := here.offset_lt whole.boundary moved
      omega
    · omega

theorem Reaches.length_le_rest (keeps : p.KeepsRange s) (boundary : s.IsBoundary i)
    (reaches : Reaches p least Count.unbounded s i m found j m₁) :
    found.length ≤ max least 1 + (s.rest i).elements.length := by
  cases reaches with
  | start => exact Nat.zero_le _
  | next before goesOn done =>
    have short := before.length_lt keeps boundary goesOn
    have all := boundary.offset_add_length_rest
    have left := (before.boundary keeps boundary).1.offset_add_length_rest
    rw [List.length_append, List.length_singleton]
    omega

end Reaches

section Tallies
variable {p : Parser ε χ α} {least most bound : Nat}

theorem tally_matches (found : List (Match α)) (t : Tally) :
    (found.map .done).foldl (fun t r => Tally.after r t) t = ⟨t.matched + found.length, t.missed⟩ := by
  induction found generalizing t with
  | nil => rfl
  | cons a found ih =>
    rw [List.map_cons, List.foldl_cons, ih, List.length_cons, Nat.add_comm found.length, ← Nat.add_assoc]
    rfl

theorem Attempts.exists_tally {replies : List (Reply (Match α))} (attempts : Attempts p least most s i m replies) :
    ∃ found j m₁ missed, Reaches p least most s i m found j m₁ ∧ missed ≤ 1 ∧
      replies.foldl (fun t r => Tally.after r t) Tally.none = ⟨found.length, missed⟩ := by
  cases attempts with
  | matched reaches =>
    refine ⟨_, _, _, 0, reaches, Nat.zero_le 1, ?_⟩
    rw [tally_matches, Tally.none, Nat.zero_add]
  | missed reaches missed =>
    refine ⟨_, _, _, 1, reaches, Nat.le_refl 1, ?_⟩
    rw [List.foldl_append, tally_matches, List.foldl_cons, List.foldl_nil, Tally.after_of_missed missed, Tally.none,
      Nat.zero_add]

theorem triesAtMost_repeated (keeps : p.KeepsRange s) (boundary : s.IsBoundary i) (least : Nat) (m : Memory χ) :
    TriesAtMost (max least 1 + (s.rest i).elements.length) (p.repeated least Count.unbounded s i)
      (p.tallied.repeated least Count.unbounded s i) m := by
  obtain ⟨calls, reply, m', outcome⟩ := exists_outcome p least Count.unbounded s i m
  obtain ⟨replies, attempts, _, observed⟩ := outcome.observed
  obtain ⟨found, j, m₁, missed, reaches, once, tally⟩ := attempts.exists_tally
  have ran := (observed Tally.after Tally.none).repeated_eq
  rw [tally] at ran
  exact ⟨reply, m', ⟨found.length, missed⟩, outcome.repeated_eq, ran, reaches.length_le_rest keeps boundary, once⟩

namespace TriesAtMost

theorem prepend {q : Parser ε χ (List α)} {q' : Parser ε (χ × Tally) (List α)} {a : Match α}
    (first : p s i m = (.done a, m₁)) (rest : TriesAtMost bound (q s a.stop) (q' s a.stop) m₁) :
    TriesAtMost bound (Parser.prepend p q s i) (Parser.prepend p.unobserved q' s i) m := by
  obtain ⟨reply, m', t, ran, ran', few, once⟩ := rest
  have first' := observed_beside first (fun _ t => t) Tally.none
  refine ⟨_, m', t, (prepend_of_done first).trans (by rw [ran]), (prepend_of_done first').trans (by rw [ran']), few, once⟩

theorem optional {p' : Parser ε (χ × Tally) α} (tries : TriesAtMost bound (p s i) (p' s i) m) (default : α) :
    TriesAtMost bound (p.optional default s i) (p'.optional default s i) m := by
  obtain ⟨reply, m', t, ran, ran', few, once⟩ := tries
  cases reply with
  | done a => exact ⟨_, m', t, Action.handle_of_done ran, Action.handle_of_done ran', few, once⟩
  | failed e => exact ⟨_, m', t, Action.handle_of_failed ran, Action.handle_of_failed ran', few, once⟩
  | unfinished => exact ⟨_, m', t, Action.handle_of_unfinished ran, Action.handle_of_unfinished ran', few, once⟩

end TriesAtMost
end Tallies

-- The bound for every repetition that has none of its own. Of a list with separators, the loop is one of pairs, and
-- starts where the first item stops.
theorem endless_tries_at_most {p : Parser ε χ α} (keeps : p.KeepsRange s) (boundary : s.IsBoundary i) (m : Memory χ) :
    let left := (s.rest i).elements.length
    (∀ least, TriesAtMost (max least 1 + left) (p.repeated least Count.unbounded s i)
      (p.tallied.repeated least Count.unbounded s i) m) ∧
    TriesAtMost (1 + left) (p.many s i) (p.tallied.many s i) m ∧
    TriesAtMost (1 + left) (p.many1 s i) (p.tallied.many1 s i) m ∧
    ∀ {β : Type} {separator : Parser ε χ β} {a : Match α} {m₁ : Memory χ}, separator.KeepsRange s →
      p s i m = (.done a, m₁) →
        let left' := (s.rest a.stop).elements.length
        let pairs := (ignoreThen separator p).tallied
        TriesAtMost (1 + left') (separatedBy1 p separator s i) (prepend p.unobserved pairs.many s i) m ∧
          TriesAtMost (1 + left') (separatedBy p separator s i)
            ((prepend p.unobserved pairs.many).optional [] s i) m := by
  refine ⟨fun least => triesAtMost_repeated keeps boundary least m, triesAtMost_repeated keeps boundary 0 m,
    triesAtMost_repeated keeps boundary 1 m, ?_⟩
  intro β separator a m₁ keeps' first
  have pairs : (ignoreThen separator p).KeepsRange s := keeps'.andThen (fun _ b => b) keeps
  have loop := triesAtMost_repeated pairs (keeps boundary first).boundary 0 m₁
  have list : TriesAtMost _ (separatedBy1 p separator s i) _ m := .prepend first loop
  exact ⟨list, list.optional []⟩

end Parser

def Grammar.hesitant : Grammar Char Nat (fun _ : Empty => Unit) (Option Char) :=
  ((just ()).mapContext fun _ n => (n, n + 1)).flatMap fun n => if n < 2 then .just none else .opt .any

theorem Grammar.standard_hesitant : hesitant.Standard := by
  refine ⟨trivial, ⟨trivial, trivial, trivial⟩, ?_⟩
  intro n
  dsimp only
  split
  · exact ⟨trivial, trivial⟩
  · exact ⟨trivial, trivial, trivial⟩

theorem Parser.endless_tries_at_most_hesitant :
    let p := Grammar.hesitant.parser Empty.rec 0
    let comma : Parser Char Nat Char := primitive (.the ',')
    let s := Source.text "éa,b,"
    TriesAtMost 7 (p.repeated 3 Count.unbounded s 2) (p.tallied.repeated 3 Count.unbounded s 2) (.fresh 0) ∧
      p.tallied.repeated 3 Count.unbounded s 2 ((Memory.fresh 0).beside Tally.none) =
        (.done ⟨[none, none, some 'a', some ',', some 'b', some ',', none], 2, 6⟩, (Memory.fresh 7).beside ⟨7, 0⟩) ∧
      TriesAtMost 4 (separatedBy1 p comma s 2) (prepend p.unobserved (ignoreThen comma p).tallied.many s 2) (.fresh 2) ∧
      prepend p.unobserved (ignoreThen comma p).tallied.many s 2 ((Memory.fresh 2).beside Tally.none) =
        (.done ⟨[some 'a', some 'b', none], 2, 6⟩, (Memory.fresh 5).beside ⟨2, 1⟩) := by
  intro p comma s
  have keeps : p.KeepsRange s := Grammar.keepsRange_parser Empty.rec Grammar.standard_hesitant 0 s
  have boundary : s.IsBoundary 2 := rfl
  have first : p s 2 (.fresh 2) = (.done ⟨some 'a', 2, 3⟩, .fresh 3) := rfl
  have keeps' : comma.KeepsRange s := keepsRange_primitive (.the ',') s
  obtain ⟨repetition, _, _, _⟩ := endless_tries_at_most keeps boundary (.fresh 0)
  obtain ⟨_, _, _, lists⟩ := endless_tries_at_most keeps boundary (.fresh 2)
  refine ⟨repetition 3, ?_, (lists keeps' first).1, ?_⟩
  · rfl
  · rfl

end Descent
