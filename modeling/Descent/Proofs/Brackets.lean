import Descent.Format.Nesting
import Descent.Proofs.Coupling.Grammar
import Descent.Run

namespace Descent
variable {ε χ ι : Type} {τ : ι → Type}

inductive Event.Closes (tag : String) : Event → Prop where
  | succeeded (consumed : Nat) (output : String) : Closes tag (.succeeded tag consumed output)
  | failed (offset : Nat) (reason : String) : Closes tag (.failed tag offset reason)

-- Groups one after the other, none of them opened before the offset `low`. Those within a group are not opened
-- before the group itself.
inductive WellNested : Nat → List Event → Prop where
  | nil {low : Nat} : WellNested low []
  | group {low offset : Nat} {tag : String} {inside after : List Event} {close : Event} (low_le : low ≤ offset)
      (nested : WellNested offset inside) (closes : close.Closes tag) (rest : WellNested low after) :
      WellNested low (.invoking tag offset :: inside ++ close :: after)

namespace WellNested
variable {low offset : Nat} {tag : String} {events more inside : List Event} {close : Event}

theorem append (first : WellNested low events) (second : WellNested low more) : WellNested low (events ++ more) := by
  induction first with
  | nil => exact second
  | group low_le nested closes _ _ ih =>
    have joined := WellNested.group low_le nested closes (ih second)
    simpa only [List.cons_append, List.append_assoc] using joined

theorem single (low_le : low ≤ offset) (nested : WellNested offset inside) (closes : close.Closes tag) :
    WellNested low (.invoking tag offset :: inside ++ [close]) :=
  .group low_le nested closes .nil

end WellNested

def Memory.Follows (low : Nat) (m m' : Memory χ) : Prop :=
  ∃ events, m'.events.toList = m.events.toList ++ events ∧ WellNested low events

namespace Memory.Follows
variable {low offset : Nat} {tag : String} {close : Event} {m m' m'' : Memory χ}

theorem of_events_eq (same : m'.events = m.events) : Follows low m m' :=
  ⟨[], by simp [same], .nil⟩

theorem trans (first : Follows low m m') (second : Follows low m' m'') : Follows low m m'' := by
  obtain ⟨events, recorded, nested⟩ := first
  obtain ⟨more, recorded', nested'⟩ := second
  exact ⟨events ++ more, by rw [recorded', recorded, List.append_assoc], nested.append nested'⟩

theorem group (low_le : low ≤ offset) (inside : Follows offset (m.record (.invoking tag offset)) m')
    (closes : close.Closes tag) : Follows low m (m'.record close) := by
  obtain ⟨events, recorded, nested⟩ := inside
  refine ⟨_, ?_, .single low_le nested closes⟩
  simp [recorded]

theorem record (follows : Follows low m m') (e : Event) :
    ∃ events, WellNested low events ∧ (m'.record e).events.toList = m.events.toList ++ events ++ [e] := by
  obtain ⟨events, recorded, nested⟩ := follows
  exact ⟨events, nested, by simp [recorded]⟩

theorem closed (inside : Follows low (m.record (.invoking tag offset)) m') (close : Event) :
    ∃ events, WellNested low events ∧
      (m'.record close).events.toList = m.events.toList ++ .invoking tag offset :: events ++ [close] := by
  obtain ⟨events, nested, recorded⟩ := inside.record close
  refine ⟨events, nested, ?_⟩
  rw [recorded, toList_events_record]
  simp

end Memory.Follows

inductive Traced (low : Nat) {σ : Type} (alike : σ → σ → Prop) (m : Memory χ) :
    Reply σ × Memory χ → Reply σ × Memory χ → Prop where
  | done {a b : σ} {m' : Memory χ} (result : alike a b) (follows : m.Follows low m') :
      Traced low alike m (.done a, m') (.done b, m')
  | failed {e : Failure} {m' : Memory χ} (follows : m.Follows low m') :
      Traced low alike m (.failed e, m') (.failed e, m')
  | unfinished {m' : Memory χ} : Traced low alike m (.unfinished, m') (.unfinished, m')

namespace Traced
variable {low : Nat} {σ υ : Type} {alike : σ → σ → Prop} {alike' : υ → υ → Prop} {m m' : Memory χ}

theorem after (follows : m.Follows low m') {x y : Reply σ × Memory χ} (traced : Traced low alike m' x y) :
    Traced low alike m x y := by
  cases traced with
  | done result follows' => exact .done result (follows.trans follows')
  | failed follows' => exact .failed (follows.trans follows')
  | unfinished => exact .unfinished

theorem handle {x y : Action (Memory χ) σ} {done done' : σ → Action (Memory χ) υ}
    {failed failed' : Failure → Action (Memory χ) υ} (first : ∀ m, Traced low alike m (x m) (y m))
    (afterDone : ∀ a b, alike a b → ∀ m, Traced low alike' m (done a m) (done' b m))
    (afterFailed : ∀ e f, e = f → ∀ m, Traced low alike' m (failed e m) (failed' f m)) (m : Memory χ) :
    Traced low alike' m (x.handle done failed m) (y.handle done' failed' m) := by
  have traced := first m
  unfold Action.handle
  generalize x m = one at traced ⊢
  generalize y m = two at traced ⊢
  cases traced with
  | done result follows => exact (afterDone _ _ result _).after follows
  | failed follows => exact (afterFailed _ _ rfl _).after follows
  | unfinished => exact .unfinished

end Traced

theorem Source.boundary_from_next {s : Source ε} {low i next : Nat} {e : ε} (here : s.IsBoundary i ∧ low ≤ s.offset i)
    (found : s.elementAt? i = some (e, next)) : s.IsBoundary next ∧ low ≤ s.offset next := by
  rw [offset_of_elementAt? found]
  exact ⟨(boundary_of_elementAt? found).2.1, Nat.le_succ_of_le here.2⟩

def Coupling.nesting (s : Source ε) (χ : Type) (low : Nat) : Coupling s s χ χ where
  toPlaces := .within s (fun i => s.IsBoundary i ∧ low ≤ s.offset i) Source.boundary_from_next
  Acts alike x y := ∀ m, Traced low alike m (x m) (y m)
  acts_pure result _ := .done result (.of_events_eq rfl)
  acts_fail failure _ := by
    cases failure
    exact .failed (.of_events_eq rfl)
  acts_handle := Traced.handle

namespace Coupling
variable {s : Source ε} {α : Type}

end Coupling

namespace Traced

theorem follows {low : Nat} {σ : Type} {alike : σ → σ → Prop} {m : Memory χ} {x : Reply σ × Memory χ}
    (traced : Traced low alike m x x) (finished : x.1 ≠ .unfinished) : m.Follows low x.2 := by
  cases traced with
  | done _ follows => exact follows
  | failed follows => exact follows
  | unfinished => exact absurd rfl finished

end Traced

section Runs
variable [DecidableEq ε] {rules : Rules ε χ τ} {α : Type} {g : Grammar ε χ τ α} {s : Source ε} {i : Nat}

end Runs

-- Which of its two events closes a trace, by what its parser replies where it is invoked.
inductive Event.Answers (s : Source ε) (i : Nat) (tag : String) {α : Type} (render : α → String) :
    Reply (Match α) → Event → Prop where
  | succeeded {a : Match α} :
      Answers s i tag render (.done a) (.succeeded tag (s.offset a.stop - s.offset i) (render a.output))
  | failed {e : Failure} :
      Answers s i tag render (.failed e) (.failed tag (s.offset e.position) e.reason.message)

namespace Action
variable {σ υ : Type} {x : Action (Memory χ) σ} {f : σ → υ} {done : σ → Event} {failed : Failure → Event} {m : Memory χ}

end Action

namespace Parser
variable {α : Type} {p : Parser ε χ α} {s : Source ε} {low : Nat} {m : Memory χ}

end Parser

end Descent
