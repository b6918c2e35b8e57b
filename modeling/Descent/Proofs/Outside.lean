import Descent.Format.Nesting
import Descent.Proofs.Invariant
import Descent.Proofs.Termination.Rations

namespace Descent
variable {ε χ ι : Type} {τ : ι → Type}

def Grammar.FailsInPlace {α : Type} : Grammar ε χ τ α → Prop
  | tryMap f _ => ∀ v e, f v ≠ .error (.failure e)
  | custom .. => False
  | _ => True

namespace Invariant
variable {s : Source ε} {i : Nat}

def pinned (outside : ¬ s.IsBoundary i) : Invariant s χ where
  place j := j = i
  memory _ := True
  failure e := e.position = i
  place_next := by
    intro j next e here found
    cases here
    exact absurd (Source.boundary_of_elementAt? found).1 outside
  endOfInput := by
    intro j here _
    exact here
  noMatch := by
    intro j here _
    exact here

theorem admits_pinned {outside : ¬ s.IsBoundary i} {α : Type} {g : Grammar ε χ τ α} (inPlace : g.FailsInPlace) :
    (pinned outside).Admits g := by
  cases g with
  | primitive p =>
    cases p with
    | fail reason => exact id
    | _ => trivial
  | tryMap f p =>
    intro v fault j rejected here
    cases fault with
    | failure e => exact absurd rejected (inPlace v e)
    | _ => exact here
  | mapContext f p => exact fun _ => trivial
  | traced tag render p => exact fun _ => trivial
  | choice ps => exact fun _ _ here => here
  | notAhead p => exact id
  | repeated least most p => exact fun _ _ here => here
  | custom parts body => exact inPlace.elim
  | _ => trivial

end Invariant

namespace Parser
variable {α : Type} {p : Parser ε χ α} {s : Source ε} {i : Nat}

theorem length_collectFor {endless : Bool} {turns left need : Nat} {got : List α} {m m' : Memory χ} {r : List α × Nat}
    (done : p.collectFor endless s turns left need got i m = (.done r, m')) : r.1.length ≤ got.length + turns := by
  induction turns generalizing left need got i m with
  | zero =>
    cases left with
    | zero =>
      cases done
      simp
    | succ left => cases done
  | succ turns ih =>
    cases left with
    | zero =>
      cases done
      simp
    | succ left =>
      rw [collectFor] at done
      rcases Action.handle_eq_done done with ⟨a, m₁, _, goesOn⟩ | ⟨e, m₁, _, stops⟩
      · split at goesOn
        · cases goesOn
          simp
        · have bound := ih goesOn
          rw [List.length_cons] at bound
          omega
      · split at stops
        · cases stops
        · cases stops
          simp

-- By induction on the turns. Each of them uses up a required match, and the first one without any ends the loop.
theorem collectFor_of_still (still : ∀ {m a m'}, p s i m = (.done a, m') → a.start = i ∧ a.stop = i)
    {turns left need : Nat} (enough : max need 1 ≤ turns) (got : List α) :
    p.collectFor true s turns left need got i = p.collect true s left need got i := by
  induction turns generalizing left need got with
  | zero => omega
  | succ turns ih =>
    cases left with
    | zero => rfl
    | succ left =>
      rw [collectFor, collect_succ]
      apply Action.handle_congr_done
      intro m a m' done
      obtain ⟨start, stop⟩ := still done
      have stalled : a.isZeroWidth = true := by simp [Match.isZeroWidth, start, stop]
      by_cases last : need ≤ 1
      · simp [stalled, last]
      · simp only [stalled, last, decide_false, Bool.and_false, Bool.false_eq_true, if_false]
        rw [stop, ih (by omega)]

theorem repeatedFor_of_still (still : ∀ {m a m'}, p s i m = (.done a, m') → a.start = i ∧ a.stop = i) (least : Nat) :
    p.repeatedFor 0 least Count.unbounded s i = p.repeated least Count.unbounded s i := by
  unfold repeatedFor repeated
  rw [if_pos rfl, BEq.rfl, collectFor_of_still still (Nat.le_add_right _ 0)]

theorem length_repeatedFor {turns least : Nat} {m m' : Memory χ} {a : Match (List α)}
    (done : p.repeatedFor turns least Count.unbounded s i m = (.done a, m')) :
    a.output.length ≤ max least 1 + turns := by
  unfold repeatedFor at done
  split at done
  · cases done
  · obtain ⟨r, m₁, collected, same⟩ := Action.bind_eq_done done
    cases same
    rw [if_pos rfl] at collected
    simpa using length_collectFor collected

end Parser

section Runs
variable [DecidableEq ε] {rules : Rules ε χ τ} {α : Type} {g : Grammar ε χ τ α} {s : Source ε} {i : Nat}

theorem holds_outside (placed_rules : ∀ k, (rules k).Forall Grammar.FailsInPlace) (placed : g.Forall Grammar.FailsInPlace)
    (depth : Nat) (outside : ¬ s.IsBoundary i) (m : Memory χ) :
    (Invariant.pinned outside).Holds i (g.parser rules depth s i m) :=
  (Invariant.pinned outside).holds_run (fun k => (placed_rules k).mono Invariant.admits_pinned)
    (placed.mono Invariant.admits_pinned) depth rfl trivial

theorem still_outside (placed_rules : ∀ k, (rules k).Forall Grammar.FailsInPlace) (placed : g.Forall Grammar.FailsInPlace)
    (depth : Nat) (outside : ¬ s.IsBoundary i) {m m' : Memory χ} {a : Match α}
    (done : g.parser rules depth s i m = (.done a, m')) : a.start = i ∧ a.stop = i := by
  have holds := holds_outside placed_rules placed depth outside m
  rw [done] at holds
  cases holds with
  | done start _ place _ => exact ⟨start, place⟩

theorem run_outside_stays (placed_rules : ∀ k, (rules k).Forall Grammar.FailsInPlace)
    (placed : g.Forall Grammar.FailsInPlace) (depth : Nat) (outside : ¬ s.IsBoundary i) (m : Memory χ) :
    (∀ a m', g.parser rules depth s i m = (.done a, m') → a.start = i ∧ a.stop = i) ∧
      (∀ e m', g.parser rules depth s i m = (.failed e, m') → e.position = i) ∧
      ∀ least,
        (g.parser rules depth).repeatedFor 0 least Count.unbounded s i m =
            (g.repeated least Count.unbounded).parser rules depth s i m ∧
          ∀ a m', (g.repeated least Count.unbounded).parser rules depth s i m = (.done a, m') →
            a.output.length ≤ max least 1 := by
  refine ⟨?_, ?_, ?_⟩
  · intro a m' done
    exact still_outside placed_rules placed depth outside done
  · intro e m' failed
    have holds := holds_outside placed_rules placed depth outside m
    rw [failed] at holds
    cases holds with
    | failed failure _ => exact failure
  · intro least
    have rationed : (g.parser rules depth).repeatedFor 0 least Count.unbounded s i =
        (g.repeated least Count.unbounded).parser rules depth s i :=
      Parser.repeatedFor_of_still (still_outside placed_rules placed depth outside) least
    refine ⟨congrFun rationed m, ?_⟩
    intro a m' done
    rw [← rationed] at done
    exact Parser.length_repeatedFor done

end Runs

theorem Format.Nesting.inPlace_group : group.Forall Grammar.FailsInPlace :=
  ⟨trivial, trivial, ⟨trivial, ⟨trivial, trivial⟩, trivial, trivial, trivial⟩, trivial, trivial⟩

theorem run_outside_stays_nested :
    (Format.Nesting.parser 3 (Source.text "é(())") 1 (.fresh ())).1 = .failed (.endOfInput 1) ∧
      (Failure.endOfInput 1).position = 1 ∧
      (((Grammar.opt Format.Nesting.group).repeated 3 Count.unbounded).parser Format.Nesting.rules 3
        (Source.text "é(())") 9 (.fresh ())).1 = .done ⟨[none, none, none], 9, 9⟩ ∧
      [(none : Option Nat), none, none].length ≤ 3 ∧
      (((Grammar.opt Format.Nesting.group).parser Format.Nesting.rules 3).repeatedFor 0 3 Count.unbounded
        (Source.text "é(())") 9 (.fresh ())).1 = .done ⟨[none, none, none], 9, 9⟩ := by
  have placed := Format.Nesting.inPlace_group
  obtain ⟨_, failure, _⟩ := run_outside_stays (fun _ => placed) placed 3
    (show ¬ (Source.text "é(())").IsBoundary 1 by decide) (.fresh ())
  obtain ⟨_, _, repetition⟩ := run_outside_stays (g := .opt Format.Nesting.group) (fun _ => placed) ⟨trivial, placed⟩ 3
    (show ¬ (Source.text "é(())").IsBoundary 9 by decide) (.fresh ())
  obtain ⟨rationed, bounded⟩ := repetition 3
  have failed : Format.Nesting.parser 3 (Source.text "é(())") 1 (.fresh ()) = (.failed (.endOfInput 1), .fresh ()) := rfl
  have done : ((Grammar.opt Format.Nesting.group).repeated 3 Count.unbounded).parser Format.Nesting.rules 3
      (Source.text "é(())") 9 (.fresh ()) = (.done ⟨[none, none, none], 9, 9⟩, .fresh ()) := rfl
  exact ⟨congrArg Prod.fst failed, failure _ _ failed, congrArg Prod.fst done, bounded _ _ done,
    congrArg Prod.fst (rationed.trans done)⟩

end Descent
