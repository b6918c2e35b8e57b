import Descent.Proofs.Context.Steady
import Descent.Proofs.Repetition.Greed
import Descent.Proofs.Repetition.Laws

namespace Descent
namespace Parser
variable {ε χ α β : Type}

inductive Continues (p : Parser ε χ α) (separator : Parser ε χ β) (s : Source ε) :
    Nat → Memory χ → Reply (List α × Nat) → Memory χ → Prop where
  | unseparated {i : Nat} {m m₁ : Memory χ} {e : Failure} (failed : separator s i m = (.failed e, m₁)) :
      Continues p separator s i m (.done ([], i)) m₁
  | dangling {i : Nat} {m m₁ m₂ : Memory χ} {b : Match β} {e : Failure} (found : separator s i m = (.done b, m₁))
      (failed : p s b.stop m₁ = (.failed e, m₂)) : Continues p separator s i m (.done ([], i)) m₂
  | stalled {i : Nat} {m m₁ m₂ : Memory χ} {b : Match β} {a : Match α} (found : separator s i m = (.done b, m₁))
      (item : p s b.stop m₁ = (.done a, m₂)) (still : a.stop = i) :
      Continues p separator s i m (.done ([a.output], a.stop)) m₂
  | next {i : Nat} {m m₁ m₂ m₃ : Memory χ} {b : Match β} {a : Match α} {reply : Reply (List α × Nat)}
      (found : separator s i m = (.done b, m₁)) (item : p s b.stop m₁ = (.done a, m₂)) (moved : a.stop ≠ i)
      (rest : Continues p separator s a.stop m₂ reply m₃) :
      Continues p separator s i m (reply.map fun r => (a.output :: r.1, r.2)) m₃
  | separatorCut {i : Nat} {m m₁ : Memory χ} (cut : separator s i m = (.unfinished, m₁)) :
      Continues p separator s i m .unfinished m₁
  | itemCut {i : Nat} {m m₁ m₂ : Memory χ} {b : Match β} (found : separator s i m = (.done b, m₁))
      (cut : p s b.stop m₁ = (.unfinished, m₂)) : Continues p separator s i m .unfinished m₂

inductive Separated (p : Parser ε χ α) (separator : Parser ε χ β) (s : Source ε) (i : Nat) (m : Memory χ) :
    Reply (Match (List α)) → Memory χ → Prop where
  | failed {m₁ : Memory χ} {e : Failure} (failed : p s i m = (.failed e, m₁)) :
      Separated p separator s i m (.failed e) m₁
  | items {m₁ m₂ : Memory χ} {a : Match α} {reply : Reply (List α × Nat)} (first : p s i m = (.done a, m₁))
      (rest : Continues p separator s a.stop m₁ reply m₂) :
      Separated p separator s i m (reply.map fun r => ⟨a.output :: r.1, i, r.2⟩) m₂
  | cutOff {m₁ : Memory χ} (cut : p s i m = (.unfinished, m₁)) : Separated p separator s i m .unfinished m₁

variable {p : Parser ε χ α} {separator : Parser ε χ β} {s : Source ε} {i : Nat} {m m' : Memory χ}

section Loop

theorem collect_endless_succ (q : Parser ε χ α) (s : Source ε) (left i : Nat) :
    q.collect true s (left + 1) 0 [] i = (q s i).handle
      (fun a =>
        if a.isZeroWidth then pure ([a.output], a.stop)
        else q.collect true s left 0 [] a.stop >>= fun r => pure (a.output :: r.1, r.2))
      (fun _ => pure ([], i)) := by
  rw [collect_nil_succ]
  simp only [Bool.and_true, Nat.zero_le, decide_true, Nat.lt_irrefl, if_false, Nat.zero_sub]

theorem Continues.next_lt {m₁ m₂ : Memory χ} {b : Match β} {a : Match α} (keeps : p.KeepsRange s)
    (keeps' : separator.KeepsRange s) (boundary : s.IsBoundary i) (found : separator s i m = (.done b, m₁))
    (item : p s b.stop m₁ = (.done a, m₂)) (moved : a.stop ≠ i) :
    s.IsBoundary a.stop ∧ (s.rest a.stop).elements.length < (s.rest i).elements.length := by
  have before := keeps' boundary found
  have behind := keeps before.boundary item
  have forward := Nat.le_trans before.forward behind.forward
  exact ⟨behind.boundary, boundary.length_rest_lt behind.boundary (Nat.lt_of_le_of_ne forward (Ne.symm moved))⟩

-- By induction on the pairs, with one turn of the loop for each.
theorem Continues.collect_eq {reply : Reply (List α × Nat)} {left : Nat} (keeps : p.KeepsRange s)
    (keeps' : separator.KeepsRange s) (continues : Continues p separator s i m reply m') (boundary : s.IsBoundary i)
    (enough : (s.rest i).elements.length < left) :
    (ignoreThen separator p).collect true s left 0 [] i m = (reply, m') := by
  obtain ⟨left, rfl⟩ : ∃ fewer, left = fewer + 1 := ⟨left - 1, by omega⟩
  rw [collect_endless_succ]
  induction continues generalizing left with
  | unseparated failed =>
    have pair : ignoreThen separator p s _ _ = _ := Action.handle_of_failed failed
    exact Action.handle_of_failed pair
  | dangling found failed =>
    have pair : ignoreThen separator p s _ _ = _ := andThen_of_done found failed
    exact Action.handle_of_failed pair
  | stalled found item still =>
    have pair : ignoreThen separator p s _ _ = _ := andThen_of_done found item
    have start := (keeps' boundary found).start
    rw [Action.handle_of_done pair, Match.isZeroWidth, if_pos (by simp [start, still])]
    rfl
  | @next _ _ _ _ _ _ a reply found item moved rest ih =>
    have pair : ignoreThen separator p s _ _ = _ := andThen_of_done found item
    have start := (keeps' boundary found).start
    obtain ⟨behind, fewer⟩ := Continues.next_lt keeps keeps' boundary found item moved
    obtain ⟨left, rfl⟩ : ∃ fewer, left = fewer + 1 := ⟨left - 1, by omega⟩
    have loop := ih behind left (by omega)
    rw [← collect_endless_succ] at loop
    rw [Action.handle_of_done pair, Match.isZeroWidth, if_neg (by simp [start, Ne.symm moved])]
    exact Action.bind_pure_of_reply loop _
  | separatorCut cut =>
    have pair : ignoreThen separator p s _ _ = _ := Action.handle_of_unfinished cut
    exact Action.handle_of_unfinished pair
  | itemCut found cut =>
    have pair : ignoreThen separator p s _ _ = _ := andThen_of_done found cut
    exact Action.handle_of_unfinished pair

-- By induction on the elements that are left. Each pair but the last one consumes some of them.
theorem exists_continues (keeps : p.KeepsRange s) (keeps' : separator.KeepsRange s) (boundary : s.IsBoundary i)
    (m : Memory χ) : ∃ reply m', Continues p separator s i m reply m' := by
  induction size : (s.rest i).elements.length using Nat.strongRecOn generalizing i m with
  | ind size ih =>
    subst size
    rcases found : separator s i m with ⟨b | e | _, m₁⟩
    · rcases item : p s b.stop m₁ with ⟨a | e | _, m₂⟩
      · by_cases still : a.stop = i
        · exact ⟨_, _, .stalled found item still⟩
        · obtain ⟨behind, fewer⟩ := Continues.next_lt keeps keeps' boundary found item still
          obtain ⟨reply, m', rest⟩ := ih _ fewer behind m₂ rfl
          exact ⟨_, _, .next found item still rest⟩
      · exact ⟨_, _, .dangling found item⟩
      · exact ⟨_, _, .itemCut found item⟩
    · exact ⟨_, _, .unseparated found⟩
    · exact ⟨_, _, .separatorCut found⟩

theorem Steady.failsAt {e : Failure} (steady : p.Steady s) (failed : p s i m = (.failed e, m')) : p.FailsAt s i e := by
  intro n
  rw [steady i n m, failed]

theorem Continues.failsAt {as : List α} {j : Nat} (keeps : p.KeepsRange s) (keeps' : separator.KeepsRange s)
    (steady : p.Steady s) (steady' : separator.Steady s)
    (consumes : ∀ ⦃k n n'⦄ ⦃c : Match (β × α)⦄, s.IsBoundary k → pair separator p s k n = (.done c, n') →
      c.isZeroWidth = false)
    (continues : Continues p separator s i m (.done (as, j)) m') (boundary : s.IsBoundary i) :
    ∃ e, (pair separator p).FailsAt s j e := by
  have whole : (pair separator p).Steady s := steady'.andThen steady _
  generalize ended : Reply.done (as, j) = reply at continues
  induction continues generalizing as with
  | unseparated failed =>
    cases ended
    have pair : pair separator p s _ _ = (.failed _, _) := Action.handle_of_failed failed
    exact ⟨_, whole.failsAt pair⟩
  | dangling found failed =>
    cases ended
    have pair : pair separator p s _ _ = (.failed _, _) := andThen_of_done found failed
    exact ⟨_, whole.failsAt pair⟩
  | stalled found item still =>
    have pair : pair separator p s _ _ = _ := andThen_of_done found item
    have consumed := consumes boundary pair
    have start := (keeps' boundary found).start
    simp [Match.isZeroWidth, start, still] at consumed
  | @next _ _ _ _ _ _ a reply found item moved rest ih =>
    obtain ⟨behind, _⟩ := Continues.next_lt keeps keeps' boundary found item moved
    cases reply with
    | done r =>
      cases ended
      exact ih behind rfl
    | failed e => cases ended
    | unfinished => cases ended
  | separatorCut cut => cases ended
  | itemCut found cut => cases ended

end Loop

namespace Separated
variable {reply : Reply (Match (List α))}

theorem separatedBy1_eq (keeps : p.KeepsRange s) (keeps' : separator.KeepsRange s) (boundary : s.IsBoundary i)
    (room : (s.rest i).elements.length < Count.unbounded) (separated : Separated p separator s i m reply m') :
    separatedBy1 p separator s i m = (reply, m') := by
  cases separated with
  | failed failed =>
    have both : pair p (many (ignoreThen separator p)) s i m = _ := Action.handle_of_failed failed
    exact Action.handle_of_failed both
  | @items _ _ a reply first rest =>
    have whole := keeps boundary first
    have fewer := boundary.length_rest_le whole.boundary whole.forward
    have loop := rest.collect_eq keeps keeps' whole.boundary (Nat.lt_of_le_of_lt fewer room)
    have pairs : many (ignoreThen separator p) s a.stop _ = _ := repeated_of_collect (Nat.zero_le _) loop
    rw [separatedBy1, prepend_of_done first, pairs, Reply.map_map, whole.start]
  | cutOff cut =>
    have both : pair p (many (ignoreThen separator p)) s i m = _ := Action.handle_of_unfinished cut
    exact Action.handle_of_unfinished both

end Separated

theorem exists_separated (keeps : p.KeepsRange s) (keeps' : separator.KeepsRange s) (boundary : s.IsBoundary i)
    (m : Memory χ) : ∃ reply m', Separated p separator s i m reply m' := by
  rcases first : p s i m with ⟨a | e | _, m₁⟩
  · obtain ⟨reply, m', rest⟩ := exists_continues keeps keeps' (keeps boundary first).boundary m₁
    exact ⟨_, _, .items first rest⟩
  · exact ⟨_, _, .failed first⟩
  · exact ⟨_, _, .cutOff first⟩

theorem separatedBy1_eq_iff {reply : Reply (Match (List α))} (keeps : p.KeepsRange s) (keeps' : separator.KeepsRange s)
    (boundary : s.IsBoundary i) (room : (s.rest i).elements.length < Count.unbounded) :
    separatedBy1 p separator s i m = (reply, m') ↔ Separated p separator s i m reply m' := by
  constructor
  · intro ran
    obtain ⟨reply', m'', separated⟩ := exists_separated keeps keeps' boundary m
    cases ran.symm.trans (separated.separatedBy1_eq keeps keeps' boundary room)
    exact separated
  · exact Separated.separatedBy1_eq keeps keeps' boundary room

theorem Continues.ne_failed {reply : Reply (List α × Nat)} (continues : Continues p separator s i m reply m') :
    ∀ e, reply ≠ .failed e := by
  induction continues with
  | next found item moved rest ih => exact Reply.map_ne_failed ih _
  | _ => nofun

theorem separatedBy_of_failed {e : Failure} (failed : p s i m = (.failed e, m')) (separator : Parser ε χ β) :
    separatedBy p separator s i m = (.done ⟨[], i, i⟩, m') := by
  have both : pair p (many (ignoreThen separator p)) s i m = _ := Action.handle_of_failed failed
  have list : separatedBy1 p separator s i m = _ := Action.handle_of_failed both
  exact Action.handle_of_failed list

theorem separatedBy1_ne_failed {a : Match α} {m₁ : Memory χ} (keeps : p.KeepsRange s) (keeps' : separator.KeepsRange s)
    (boundary : s.IsBoundary i) (room : (s.rest i).elements.length < Count.unbounded) (first : p s i m = (.done a, m₁))
    (e : Failure) : (separatedBy1 p separator s i m).1 ≠ .failed e := by
  obtain ⟨reply, m', rest⟩ := exists_continues keeps keeps' (keeps boundary first).boundary m₁
  rw [(Separated.items first rest).separatedBy1_eq keeps keeps' boundary room]
  exact Reply.map_ne_failed rest.ne_failed _ e

theorem separatedBy_eq (some : ∀ e, (separatedBy1 p separator s i m).1 ≠ .failed e) :
    separatedBy p separator s i m = separatedBy1 p separator s i m := by
  rcases list : separatedBy1 p separator s i m with ⟨a | e | _, m'⟩
  · exact Action.handle_of_done list
  · exact absurd (congrArg Prod.fst list) (some e)
  · exact Action.handle_of_unfinished list

theorem separatedBy_ne_failed (p : Parser ε χ α) (separator : Parser ε χ β) (s : Source ε) (i : Nat) (m : Memory χ)
    (e : Failure) : (separatedBy p separator s i m).1 ≠ .failed e := by
  intro failed
  have reply : separatedBy p separator s i m = (.failed e, (separatedBy p separator s i m).2) := Prod.ext failed rfl
  rcases Action.handle_eq_failed reply with ⟨a, m₁, _, listed⟩ | ⟨e', m₁, _, none⟩
  · cases listed
  · cases none

-- With an item at its start, the list is the one that there is, and nothing behind it could be added to it. Without
-- one there is no list, or one of no items. Pairs are counted up to `Count.unbounded`, so there is `room` as long as
-- fewer elements are left: more are in no text, and in no slice of values that take up a byte.
theorem separated_lists (keeps : p.KeepsRange s) (keeps' : separator.KeepsRange s) (boundary : s.IsBoundary i)
    (room : (s.rest i).elements.length < Count.unbounded) (m : Memory χ) :
    (∀ reply m', separatedBy1 p separator s i m = (reply, m') ↔ Separated p separator s i m reply m') ∧
      (∀ e, (separatedBy p separator s i m).1 ≠ .failed e) ∧
      (∀ a m₁, p s i m = (.done a, m₁) → separatedBy p separator s i m = separatedBy1 p separator s i m) ∧
      (∀ e m₁, p s i m = (.failed e, m₁) → separatedBy p separator s i m = (.done ⟨[], i, i⟩, m₁)) ∧
      (p.Steady s → separator.Steady s →
        (∀ ⦃k n n'⦄ ⦃c : Match (β × α)⦄, s.IsBoundary k → pair separator p s k n = (.done c, n') →
          c.isZeroWidth = false) →
        ∀ as k j m', separatedBy1 p separator s i m = (.done ⟨as, k, j⟩, m') →
          ∃ e, (pair separator p).FailsAt s j e) := by
  refine ⟨fun reply m' => separatedBy1_eq_iff keeps keeps' boundary room, separatedBy_ne_failed p separator s i m, ?_,
    fun e m₁ failed => separatedBy_of_failed failed separator, ?_⟩
  · intro a m₁ first
    exact separatedBy_eq (separatedBy1_ne_failed keeps keeps' boundary room first)
  · intro steady steady' consumes as k j m' ran
    generalize ended : Reply.done (⟨as, k, j⟩ : Match (List α)) = reply at ran
    cases (separatedBy1_eq_iff keeps keeps' boundary room).mp ran with
    | failed failed => cases ended
    | @items _ _ a reply first rest =>
      cases reply with
      | done r =>
        cases ended
        exact rest.failsAt keeps keeps' steady steady' consumes (keeps boundary first).boundary
      | failed e => cases ended
      | unfinished => cases ended
    | cutOff cut => cases ended

theorem isZeroWidth_pair (advancing : separator.Advancing s) (keeps : p.KeepsRange s) (boundary : s.IsBoundary i)
    {c : Match (β × α)} (done : pair separator p s i m = (.done c, m')) : c.isZeroWidth = false := by
  obtain ⟨b, m₁, found, goesOn⟩ := Action.bind_eq_done done
  obtain ⟨a, m₂, item, ends⟩ := Action.bind_eq_done goesOn
  cases ends
  have before := advancing.keeps boundary found
  have further := advancing.lt_stop boundary found
  have behind := keeps before.boundary item
  rw [Match.isZeroWidth, before.start]
  exact beq_eq_false_iff_ne.mpr (Nat.ne_of_lt (Nat.lt_of_lt_of_le further behind.forward))

end Parser

theorem Parser.separated_lists_letters :
    let counted (test : Char → Bool) :=
      (Grammar.counted (.satisfy test : Grammar Char Nat (fun _ : Empty => Unit) Char)).parser Empty.rec 0
    let p := counted Char.isAlpha
    let separator := counted (· == ',')
    let s := Source.text "éa,b,!"
    p.KeepsRange s ∧ separator.KeepsRange s ∧ s.IsBoundary 2 ∧ (s.rest 2).elements.length < Count.unbounded ∧
      Separated p separator s 2 (.fresh 0) (.done ⟨['a', 'b'], 2, 5⟩) (.fresh 4) ∧
      separatedBy p separator s 2 (.fresh 0) = (.done ⟨['a', 'b'], 2, 5⟩, .fresh 4) ∧
      (∃ e, (pair separator p).FailsAt s 5 e) ∧
      separatedBy p separator s 6 (.fresh 0) = (.done ⟨[], 6, 6⟩, .fresh 0) := by
  intro counted p separator s
  have advancing (test : Char → Bool) : (counted test).Advancing s :=
    (Advancing.satisfy test s).mapContext (fun c n => (c, n + 1)) fun _ _ _ => rfl
  have blind (test : Char → Bool) :
      (.satisfy test : Grammar Char Nat (fun _ : Empty => Unit) Char).Forall Grammar.IsBlind := ⟨trivial, trivial⟩
  have steady (test : Char → Bool) : (counted test).Steady s :=
    Grammar.steady_of_blind Empty.rec (Grammar.blind_counted (blind test)) 0 s
  have keeps : p.KeepsRange s := (advancing _).keeps
  have keeps' : separator.KeepsRange s := (advancing _).keeps
  have room : (s.rest 2).elements.length < Count.unbounded := show 5 < Count.unbounded by decide
  have room' : (s.rest 6).elements.length < Count.unbounded := show 1 < Count.unbounded by decide
  obtain ⟨exact, _, listed, _, maximal⟩ := separated_lists keeps keeps' (show s.IsBoundary 2 from rfl) room (.fresh 0)
  obtain ⟨_, _, _, none, _⟩ := separated_lists keeps keeps' (show s.IsBoundary 6 from rfl) room' (.fresh 0)
  have first : p s 2 (.fresh 0) = (.done ⟨'a', 2, 3⟩, .fresh 1) := rfl
  have list : separatedBy1 p separator s 2 (.fresh 0) = (.done ⟨['a', 'b'], 2, 5⟩, .fresh 4) := rfl
  refine ⟨keeps, keeps', rfl, room, (exact _ _).mp list, (listed _ _ first).trans list, ?_, none _ _ rfl⟩
  refine maximal (steady _) (steady _) ?_ _ _ _ _ list
  intro k n n' c boundary done
  exact isZeroWidth_pair (advancing _) keeps boundary done

end Descent
