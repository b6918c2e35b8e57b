import Descent.Failure.Report
import Descent.Proofs.Extent
import Descent.Script.Element

namespace Descent
variable {ε χ ι : Type} {τ : ι → Type}

namespace Grammar

def IsPlain {α : Type} : Grammar ε χ τ α → Prop
  | primitive (.fail _) | tryMap .. | custom .. => False
  | repeated least most _ => least ≤ most
  | _ => True

-- No failure because something does match, and none for want of alternatives. The end of the
-- source needs no exception, since what asks for it fails before an element only.
def IsPositive {α : Type} : Grammar ε χ τ α → Prop
  | notAhead _ => False
  | @choice _ _ _ _ _ n _ => 0 < n
  | _ => True

end Grammar

-- A failure that the source from `low` on accounts for. If `strict`, then an element that does
-- not match is at its place.
structure Failure.Founded (s : Source ε) (low : Nat) (strict : Prop) (e : Failure) : Prop where
  reason : e.reason = .noMatch ∨ e.reason = .endOfInput
  cause : e.cause? = none
  boundary : s.IsBoundary e.position
  low_le : low ≤ e.position
  ended : e.reason = .endOfInput → e.position = s.stop
  mismatch : strict → e.reason = .noMatch → s.isEnd e.position = false

namespace Failure
variable {s : Source ε} {low i : Nat} {strict : Prop}

theorem founded_endOfInput (boundary : s.IsBoundary i) (low_le : low ≤ i) (ended : s.isEnd i = true) :
    (endOfInput i).Founded s low strict where
  reason := .inr rfl
  cause := rfl
  boundary := boundary
  low_le := low_le
  ended := fun _ => Nat.le_antisymm boundary.le_stop (of_decide_eq_true ended)
  mismatch := nofun

theorem founded_noMatch (boundary : s.IsBoundary i) (low_le : low ≤ i) (before : strict → s.isEnd i = false) :
    (noMatch i).Founded s low strict where
  reason := .inl rfl
  cause := rfl
  boundary := boundary
  low_le := low_le
  ended := nofun
  mismatch := fun strict _ => before strict

end Failure

namespace Invariant

def founded (s : Source ε) (low : Nat) (strict : Prop) : Invariant s χ :=
  onward s low (Failure.Founded s low strict) Failure.founded_endOfInput
    fun boundary low_le before => Failure.founded_noMatch boundary low_le fun _ => before

theorem admits_founded {s : Source ε} {low : Nat} {strict : Prop} {α : Type} {g : Grammar ε χ τ α}
    (plain : g.IsPlain ∧ (strict → g.IsPositive)) : (founded s low strict).Admits g := by
  obtain ⟨plain, positive⟩ := plain
  cases g with
  | primitive p =>
    cases p with
    | fail reason => exact plain.elim
    | _ => trivial
  | tryMap f p => exact plain.elim
  | mapContext f p => exact fun _ => trivial
  | traced tag render p => exact fun _ => trivial
  | choice ps =>
    intro empty i here
    refine Failure.founded_noMatch here.1 here.2 ?_
    intro strict
    exact absurd empty (Nat.ne_of_gt (positive strict))
  | notAhead p =>
    intro i here
    refine Failure.founded_noMatch here.1 here.2 ?_
    intro strict
    exact (positive strict).elim
  | repeated least most p =>
    intro crossed
    exact absurd plain (Nat.not_le_of_lt crossed)
  | custom parts body => exact plain.elim
  | _ => trivial

end Invariant

section Runs
variable [DecidableEq ε] {rules : Rules ε χ τ} {α : Type} {g : Grammar ε χ τ α} {s : Source ε} {i : Nat}

theorem failure_founded {strict : Prop}
    (plain_rules : ∀ k, (rules k).Forall fun g => g.IsPlain ∧ (strict → g.IsPositive))
    (plain : g.Forall fun g => g.IsPlain ∧ (strict → g.IsPositive)) (depth : Nat) (boundary : s.IsBoundary i)
    {m m' : Memory χ} {e : Failure} (failed : g.parser rules depth s i m = (.failed e, m')) :
    e.Founded s i strict := by
  have holds := (Invariant.founded s i strict).holds_run
    (fun k => (plain_rules k).mono Invariant.admits_founded) (plain.mono Invariant.admits_founded) depth
    ⟨boundary, Nat.le_refl i⟩ (m := m) trivial
  rw [failed] at holds
  cases holds with
  | failed failure _ => exact failure

end Runs

section Report
variable {s : Source ε} {e : Failure}

theorem Failure.describe_of_unexpected? [Shown ε] {x : ε}
    (reason : e.reason = .noMatch ∨ e.reason = .endOfInput) (found : e.unexpected? s = some x) :
    e.describe s = "unexpected " ++ shown x ++ (" at offset " ++ toString (s.offset e.position)) := by
  unfold describe
  rcases reason with reason | reason
  · simp only [reason, found, offset]
  · simp only [reason, found, offset]

theorem Failure.unexpected?_eq (boundary : s.IsBoundary e.position) :
    e.unexpected? s = s.elements[s.offset e.position]? := by
  rw [unexpected?, boundary.elementAt?_eq_getElem?, Option.map_map]
  exact Option.map_id'

theorem Failure.unexpected?_eq_none_iff (boundary : s.IsBoundary e.position) :
    e.unexpected? s = none ↔ s.isEnd e.position = true := by
  rw [unexpected?, Option.map_eq_none_iff]
  exact boundary.elementAt?_eq_none_iff

end Report

theorem plain_failure [DecidableEq ε] [Shown ε] {rules : Rules ε χ τ}
    (plain_rules : ∀ k, (rules k).Forall Grammar.IsPlain) {α : Type} {g : Grammar ε χ τ α}
    (plain : g.Forall Grammar.IsPlain) (depth : Nat) {s : Source ε} {i : Nat} (boundary : s.IsBoundary i)
    {m m' : Memory χ} {e : Failure} (failed : g.parser rules depth s i m = (.failed e, m')) :
    (e.reason = .noMatch ∨ e.reason = .endOfInput) ∧ e.cause? = none ∧
      s.IsBoundary e.position ∧ i ≤ e.position ∧ e.position ≤ s.stop ∧
      (e.reason = .endOfInput → e.position = s.stop ∧ e.unexpected? s = none) ∧
      ((∀ k, (rules k).Forall Grammar.IsPositive) → g.Forall Grammar.IsPositive →
        (e.reason = .endOfInput ↔ e.position = s.stop) ∧
        (e.reason = .noMatch → ∃ x, e.unexpected? s = some x ∧ s.elements[s.offset e.position]? = some x ∧
          e.describe s = "unexpected " ++ shown x ++ (" at offset " ++ toString (s.offset e.position)))) := by
  have founded : e.Founded s i False :=
    failure_founded (fun k => (plain_rules k).mono fun plain => ⟨plain, False.elim⟩)
      (plain.mono fun plain => ⟨plain, False.elim⟩) depth boundary failed
  refine ⟨founded.reason, founded.cause, founded.boundary, founded.low_le, founded.boundary.le_stop, ?_, ?_⟩
  · intro ended
    have place := founded.ended ended
    refine ⟨place, (Failure.unexpected?_eq_none_iff founded.boundary).mpr ?_⟩
    exact decide_eq_true (Nat.le_of_eq place.symm)
  · intro positive_rules positive
    have strict : e.Founded s i True :=
      failure_founded (fun k => ((plain_rules k).and (positive_rules k)).mono fun both => ⟨both.1, fun _ => both.2⟩)
        ((plain.and positive).mono fun both => ⟨both.1, fun _ => both.2⟩) depth boundary failed
    have mismatch : e.reason = .noMatch → s.isEnd e.position = false := strict.mismatch trivial
    refine ⟨⟨founded.ended, ?_⟩, ?_⟩
    · intro place
      rcases founded.reason with reason | reason
      · have before := of_decide_eq_false (mismatch reason)
        omega
      · exact reason
    · intro reason
      have found : e.unexpected? s ≠ none := by
        rw [ne_eq, Failure.unexpected?_eq_none_iff founded.boundary, mismatch reason]
        exact Bool.false_ne_true
      obtain ⟨x, found⟩ := Option.ne_none_iff_exists'.mp found
      refine ⟨x, found, ?_, Failure.describe_of_unexpected? founded.reason found⟩
      rw [← Failure.unexpected?_eq founded.boundary, found]

namespace Format.Nesting

theorem plain_group : group.Forall Grammar.IsPlain :=
  ⟨trivial, trivial, ⟨trivial, ⟨trivial, trivial⟩, Nat.zero_le _, trivial, trivial⟩, trivial, trivial⟩

theorem positive_group : group.Forall Grammar.IsPositive :=
  ⟨trivial, trivial, ⟨trivial, ⟨trivial, trivial⟩, trivial, trivial, trivial⟩, trivial, trivial⟩

end Format.Nesting

theorem plain_failure_nested :
    (Format.Nesting.parser 3 (Source.text "é(()é") 2 (.fresh ())).1 = .failed (.noMatch 5) ∧
      (Source.text "é(()é").IsBoundary 5 ∧
      (Failure.noMatch 5).describe (Source.text "é(()é") = "unexpected 'é' at offset 4" := by
  have failed : Format.Nesting.parser 3 (Source.text "é(()é") 2 (.fresh ()) =
      (.failed (.noMatch 5), .fresh ()) := rfl
  have boundary : (Source.text "é(()é").IsBoundary 2 := rfl
  obtain ⟨_, _, behind, _, _, _, positive⟩ :=
    plain_failure (fun _ => Format.Nesting.plain_group) Format.Nesting.plain_group 3 boundary failed
  obtain ⟨_, named⟩ := positive (fun _ => Format.Nesting.positive_group) Format.Nesting.positive_group
  obtain ⟨x, found, _, described⟩ := named rfl
  have element : x = 'é' := (Option.some.inj found).symm
  refine ⟨congrArg Prod.fst failed, behind, ?_⟩
  rw [described, element]
  rfl

end Descent
