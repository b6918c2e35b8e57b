import Descent.Format.Nesting
import Descent.Proofs.Invariant
import Descent.Proofs.Repetition

namespace Descent
variable {ε χ ι : Type} {τ : ι → Type}

namespace Invariant
variable {s : Source ε}

def onward (s : Source ε) (low : Nat) (P : Failure → Prop)
    (endOfInput : ∀ {i}, s.IsBoundary i → low ≤ i → s.isEnd i = true → P (.endOfInput i))
    (noMatch : ∀ {i}, s.IsBoundary i → low ≤ i → s.isEnd i = false → P (.noMatch i)) : Invariant s χ where
  place i := s.IsBoundary i ∧ low ≤ i
  memory _ := True
  failure := P
  place_next := by
    intro i next e here found
    obtain ⟨_, behind, forward⟩ := Source.boundary_of_elementAt? found
    exact ⟨behind, Nat.le_trans here.2 (Nat.le_of_lt forward)⟩
  endOfInput := by
    intro i here missing
    exact endOfInput here.1 here.2 (here.1.elementAt?_eq_none_iff.mp missing)
  noMatch := by
    intro i here before
    exact noMatch here.1 here.2 before

def anyFailure (s : Source ε) (low : Nat) : Invariant s χ :=
  onward s low (fun _ => True) (fun _ _ _ => trivial) fun _ _ _ => trivial

theorem admits_anyFailure (s : Source ε) (low : Nat) {α : Type} {g : Grammar ε χ τ α}
    (combinator : g.IsCombinator) : (anyFailure s low).Admits g :=
  admits_of_forall (fun _ => trivial) (fun _ => trivial) combinator

end Invariant

-- Runs a parser under watch. The alarm is raised if it is invoked elsewhere than at a boundary
-- from `low` on, or if its match would stop before it starts.
def Parser.watched {α : Type} (low : Nat) (alarm : Action (Memory χ) (Match α)) (p : Parser ε χ α) :
    Parser ε χ α := fun s i =>
  if s.IsBoundary i ∧ low ≤ i then do
    let m ← p s i
    if m.start ≤ m.stop then pure m else alarm
  else alarm

def Grammar.watch (low : Nat) (alarm : ∀ α : Type, Action (Memory χ) (Match α)) (α : Type)
    (g : Grammar ε χ τ α) : Grammar ε χ τ α :=
  .custom (fun _ : Fin 1 => g) fun parts => (parts 0).watched low (alarm α)

theorem Invariant.relates_watch [DecidableEq ε] {s : Source ε} {low : Nat}
    (alarm : ∀ α : Type, Action (Memory χ) (Match α)) {call : ∀ k, Parser ε χ (τ k)} {α : Type}
    {g : Grammar ε χ τ α} {q : Parser ε χ α} (related : (anyFailure s low).link.Relates (g.parserWith call) q) :
    (anyFailure s low).link.Relates ((g.watch low alarm α).parserWith call) q := by
  intro i j here
  obtain ⟨rfl, watched⟩ := id here
  have quiet : (g.watch low alarm α).parserWith call s i = (g.parserWith call s i >>= fun m =>
      if m.start ≤ m.stop then pure m else alarm α) := if_pos watched
  rw [quiet, ← bind_pure (q s i)]
  apply (related here).bind
  intro a b spans
  have forward : a.start ≤ a.stop := by rw [spans.start_left]; exact spans.low_le
  rw [if_pos forward]
  exact .pure spans

structure Match.Extends {α : Type} (s : Source ε) (i : Nat) (a : Match α) : Prop where
  start : a.start = i
  forward : i ≤ a.stop
  inside : a.stop ≤ s.stop
  boundary : s.IsBoundary a.stop

section Runs
variable [DecidableEq ε] {rules : Rules ε χ τ} {α : Type} {g : Grammar ε χ τ α} {s : Source ε} {i : Nat}

theorem match_extends (standard_rules : ∀ k, (rules k).Standard) (standard : g.Standard) (depth : Nat)
    (boundary : s.IsBoundary i) {m m' : Memory χ} {a : Match α}
    (done : g.parser rules depth s i m = (.done a, m')) : a.Extends s i := by
  have holds := (Invariant.anyFailure s i).holds_run
    (fun k => (standard_rules k).mono (Invariant.admits_anyFailure s i))
    (standard.mono (Invariant.admits_anyFailure s i)) depth ⟨boundary, Nat.le_refl i⟩ (m := m) trivial
  rw [done] at holds
  cases holds with
  | done start forward place _ => exact ⟨start, forward, place.1.le_stop, place.1⟩

-- The alarm may do anything at all, so runs that never differ never raise it.
theorem run_watched (standard_rules : ∀ k, (rules k).Standard) (standard : g.Standard) (depth : Nat)
    (boundary : s.IsBoundary i) (m : Memory χ) (alarm : ∀ α : Type, Action (Memory χ) (Match α)) :
    (g.rewrite (.watch i alarm)).parser (rules.rewrite (.watch i alarm)) depth s i m =
      g.parser rules depth s i m := by
  have admits {α : Type} {g : Grammar ε χ τ α} : g.IsCombinator → (Invariant.anyFailure s i).Admits g :=
    Invariant.admits_anyFailure s i
  exact (Invariant.anyFailure s i).run_rewritten (Invariant.relates_watch alarm) (fun k => (standard_rules k).mono admits)
    (standard.mono admits) depth ⟨boundary, Nat.le_refl i⟩ trivial

theorem run_between_boundaries (standard_rules : ∀ k, (rules k).Standard) (standard : g.Standard) (depth : Nat)
    (boundary : s.IsBoundary i) (m : Memory χ) :
    (∀ a m', g.parser rules depth s i m = (.done a, m') → a.Extends s i) ∧
      ∀ alarm : ∀ α : Type, Action (Memory χ) (Match α),
        (g.rewrite (.watch i alarm)).parser (rules.rewrite (.watch i alarm)) depth s i m =
          g.parser rules depth s i m := by
  refine ⟨?_, ?_⟩
  · intro a m' done
    exact match_extends standard_rules standard depth boundary done
  · intro alarm
    exact run_watched standard_rules standard depth boundary m alarm

end Runs

theorem run_between_boundaries_nested :
    (⟨2, 2, 8⟩ : Match Nat).Extends (Source.text "é(()())") 2 ∧
      (Format.Nesting.group.rewrite (.watch 2 fun _ => .cut)).parser
        (Format.Nesting.rules.rewrite (.watch 2 fun _ => .cut)) 3 (Source.text "é(()())") 2 (.fresh ()) =
          (.done ⟨2, 2, 8⟩, .fresh ()) := by
  have both := run_between_boundaries (fun _ => Format.Nesting.standard_group) Format.Nesting.standard_group 3
    (show (Source.text "é(()())").IsBoundary 2 from rfl) (.fresh ())
  exact ⟨both.1 _ _ rfl, (both.2 _).trans rfl⟩

variable {α β γ : Type} {s : Source ε}

namespace Parser

def KeepsRange (p : Parser ε χ α) (s : Source ε) : Prop :=
  ∀ ⦃i : Nat⦄ ⦃m m' : Memory χ⦄ ⦃a : Match α⦄, s.IsBoundary i → p s i m = (.done a, m') → a.Extends s i

variable {p : Parser ε χ α} {q : Parser ε χ β}

theorem KeepsRange.andThen (f : α → β → γ) (first : p.KeepsRange s) (second : q.KeepsRange s) :
    (Parser.andThen f p q).KeepsRange s := by
  intro i m m' c boundary done
  obtain ⟨a, m₁, ran, goesOn⟩ := Action.bind_eq_done done
  obtain ⟨b, m₂, ran', ends⟩ := Action.bind_eq_done goesOn
  cases ends
  have before := first boundary ran
  have behind := second before.boundary ran'
  exact ⟨before.start, Nat.le_trans before.forward behind.forward, behind.inside, behind.boundary⟩

theorem Reaches.boundary {least most i j : Nat} {m m₁ : Memory χ} {found : List (Match α)} (keeps : p.KeepsRange s)
    (boundary : s.IsBoundary i) (reaches : Reaches p least most s i m found j m₁) : s.IsBoundary j ∧ i ≤ j := by
  induction reaches with
  | start => exact ⟨boundary, Nat.le_refl i⟩
  | next before goesOn done ih =>
    have whole := keeps ih.1 done
    exact ⟨whole.boundary, Nat.le_trans ih.2 whole.forward⟩

end Parser

theorem Grammar.keepsRange_parser [DecidableEq ε] {rules : Rules ε χ τ} {g : Grammar ε χ τ α}
    (standard_rules : ∀ k, (rules k).Standard) (standard : g.Standard) (depth : Nat) (s : Source ε) :
    (g.parser rules depth).KeepsRange s :=
  fun _ _ _ _ boundary done => match_extends standard_rules standard depth boundary done

theorem Parser.keepsRange_primitive [DecidableEq ε] (p : Primitive ε α) (s : Source ε) :
    (primitive p : Parser ε χ α).KeepsRange s := by
  let rules : Rules ε χ (fun _ : Empty => Unit) := Empty.rec
  have standard : (.primitive p : Grammar ε χ (fun _ : Empty => Unit) α).Standard := ⟨trivial, trivial⟩
  have keeps : (Grammar.parser rules 0 (.primitive p)).KeepsRange s := Grammar.keepsRange_parser Empty.rec standard 0 s
  exact keeps

end Descent
