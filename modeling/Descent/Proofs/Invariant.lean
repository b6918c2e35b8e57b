import Descent.Proofs.Link

namespace Descent
variable {ε χ ι : Type} {τ : ι → Type}

structure Invariant (s : Source ε) (χ : Type) where
  place : Nat → Prop
  memory : Memory χ → Prop
  failure : Failure → Prop
  place_next : ∀ {i next : Nat} {e : ε}, place i → s.elementAt? i = some (e, next) → place next
  endOfInput : ∀ {i : Nat}, place i → s.elementAt? i = none → failure (.endOfInput i)
  noMatch : ∀ {i : Nat}, place i → s.isEnd i = false → failure (.noMatch i)

namespace Invariant
variable {s : Source ε}

def link (I : Invariant s χ) : Link s s χ χ where
  place i j := i = j ∧ I.place i
  memory m n := m = n ∧ I.memory m
  failure e f := e = f ∧ I.failure e
  place_eq_iff := by
    intro i j i' j' here there
    rw [here.1, there.1]
  element := by
    intro i j here
    obtain ⟨rfl, here⟩ := here
    cases found : s.elementAt? i with
    | none => exact .none
    | some step => exact .some ⟨rfl, rfl, I.place_next here found⟩
  isEnd_eq := by
    intro i j here
    rw [here.1]
  endOfInput := by
    intro i j here missing
    obtain ⟨rfl, here⟩ := here
    exact ⟨rfl, I.endOfInput here missing⟩
  noMatch := by
    intro i j here before
    obtain ⟨rfl, here⟩ := here
    exact ⟨rfl, I.noMatch here before⟩

-- What an invariant asks of a part by itself: that the failures it makes and the changes it
-- makes to the memory stay within.
def Admits (I : Invariant s χ) {α : Type} : Grammar ε χ τ α → Prop
  | .primitive (.fail reason) => ∀ {i}, I.place i → I.failure (.of reason i)
  | .tryMap f _ => ∀ {v fault i}, f v = .error fault → I.place i → I.failure (.lift fault i)
  | .mapContext f _ => ∀ {v} {m : Memory χ}, I.memory m → I.memory ⟨(f v m.context).2, m.events⟩
  | .traced .. => ∀ {e} {m : Memory χ}, I.memory m → I.memory (m.record e)
  | .notAhead _ => ∀ {i}, I.place i → I.failure (.noMatch i)
  | @Grammar.choice _ _ _ _ _ n _ => n = 0 → ∀ {i}, I.place i → I.failure (.noMatch i)
  | .repeated least most _ => most < least → ∀ {i}, I.place i → I.failure (.outOfBounds i)
  | .custom .. => False
  | _ => True

theorem admits_of_forall {I : Invariant s χ} (failure : ∀ e, I.failure e) (memory : ∀ m, I.memory m) {α : Type}
    {g : Grammar ε χ τ α} (combinator : g.IsCombinator) : I.Admits g := by
  cases g with
  | primitive p =>
    cases p with
    | fail reason => exact fun _ => failure _
    | _ => trivial
  | tryMap f p => exact fun _ _ => failure _
  | mapContext f p => exact fun _ => memory _
  | traced tag render p => exact fun _ => memory _
  | choice ps => exact fun _ _ _ => failure _
  | notAhead p => exact fun _ => failure _
  | repeated least most p => exact fun _ _ _ => failure _
  | custom parts body => exact combinator.elim
  | _ => trivial

theorem records_link {I : Invariant s χ} (kept : ∀ {e} {m : Memory χ}, I.memory m → I.memory (m.record e)) :
    I.link.Records where
  invoking := by
    intro tag i j m n here memory
    obtain ⟨rfl, memory⟩ := memory
    rw [here.1]
    exact ⟨rfl, kept memory⟩
  succeeded := by
    intro tag text i j i' j' m n here there memory
    obtain ⟨rfl, memory⟩ := memory
    rw [here.1, there.1]
    exact ⟨rfl, kept memory⟩
  failed := by
    intro tag e f m n failure memory
    obtain ⟨rfl, memory⟩ := memory
    rw [failure.1]
    exact ⟨rfl, kept memory⟩

theorem fits_places {I : Invariant s χ} {α : Type} {g : Grammar ε χ τ α} (admitted : I.Admits g) :
    I.link.toPlaces.Fits g := by
  cases g with
  | primitive p =>
    cases p with
    | fail reason =>
      intro i j here
      obtain ⟨rfl, here⟩ := here
      exact ⟨rfl, admitted here⟩
    | position => exact fun here => here.1
    | _ => trivial
  | tryMap f p =>
    intro v fault i j rejected here
    obtain ⟨rfl, here⟩ := here
    exact ⟨rfl, admitted rejected here⟩
  | ranged p => exact fun here => here.1
  | choice ps =>
    intro empty i j here
    obtain ⟨rfl, here⟩ := here
    exact ⟨rfl, admitted empty here⟩
  | notAhead p =>
    intro i j here
    obtain ⟨rfl, here⟩ := here
    exact ⟨rfl, admitted here⟩
  | repeated least most p =>
    intro crossed i j here
    obtain ⟨rfl, here⟩ := here
    exact ⟨rfl, admitted crossed here⟩
  | _ => trivial

theorem keeps_link {I : Invariant s χ} {α : Type} {g : Grammar ε χ τ α} (admitted : I.Admits g) :
    I.link.Keeps g := by
  cases g with
  | mapContext f p =>
    intro v m n memory
    obtain ⟨rfl, memory⟩ := memory
    exact ⟨rfl, rfl, admitted memory⟩
  | traced tag render p => exact records_link admitted
  | custom parts body => exact admitted.elim
  | _ => trivial

theorem fits_link {I : Invariant s χ} {α : Type} {g : Grammar ε χ τ α} (admitted : I.Admits g) : I.link.Fits g :=
  ⟨fits_places admitted, keeps_link admitted⟩

theorem eq_of_replies {I : Invariant s χ} {i : Nat} {α : Type} {x y : Reply (Match α) × Memory χ}
    (replies : I.link.Replies (I.link.Spans i i i) x y) : x = y := by
  cases replies with
  | done spans memory => rw [spans.eq_of_stop_eq spans.stop.1, memory.1]
  | failed failure memory => rw [failure.1, memory.1]
  | unfinished memory => rw [memory.1]

inductive Holds (I : Invariant s χ) {α : Type} (i : Nat) : Reply (Match α) × Memory χ → Prop where
  | done {a : Match α} {m : Memory χ} (start : a.start = i) (forward : i ≤ a.stop) (place : I.place a.stop)
      (memory : I.memory m) : Holds I i (.done a, m)
  | failed {e : Failure} {m : Memory χ} (failure : I.failure e) (memory : I.memory m) : Holds I i (.failed e, m)
  | unfinished {m : Memory χ} (memory : I.memory m) : Holds I i (.unfinished, m)

theorem holds_of_replies {I : Invariant s χ} {i : Nat} {α : Type} {x y : Reply (Match α) × Memory χ}
    (replies : I.link.Replies (I.link.Spans i i i) x y) : I.Holds i x := by
  cases replies with
  | done spans memory => exact .done spans.start_left spans.low_le spans.stop.2 memory.2
  | failed failure memory => exact .failed failure.2 memory.2
  | unfinished memory => exact .unfinished memory.2

theorem holds_run [DecidableEq ε] (I : Invariant s χ) {rules : Rules ε χ τ}
    (admitted_rules : ∀ k, (rules k).Forall I.Admits) {α : Type} {g : Grammar ε χ τ α}
    (admitted : g.Forall I.Admits) (depth : Nat) {i : Nat} (here : I.place i) {m : Memory χ}
    (memory : I.memory m) : I.Holds i (g.parser rules depth s i m) := by
  have related := Link.relates_self (fun k => (admitted_rules k).mono fits_link) (admitted.mono fits_link) depth
  exact holds_of_replies (related ⟨rfl, here⟩ ⟨rfl, memory⟩)

-- A change to every part that does not show within the invariant does not show in a run.
theorem run_rewritten [DecidableEq ε] (I : Invariant s χ) {change : ∀ α : Type, Grammar ε χ τ α → Grammar ε χ τ α}
    (changes : ∀ {call : ∀ k, Parser ε χ (τ k)} {α : Type} {g : Grammar ε χ τ α} {q : Parser ε χ α},
      I.link.Relates (g.parserWith call) q → I.link.Relates ((change α g).parserWith call) q)
    {rules : Rules ε χ τ} (admitted_rules : ∀ k, (rules k).Forall I.Admits) {α : Type} {g : Grammar ε χ τ α}
    (admitted : g.Forall I.Admits) (depth : Nat) {i : Nat} (here : I.place i) {m : Memory χ} (memory : I.memory m) :
    (g.rewrite change).parser (rules.rewrite change) depth s i m = g.parser rules depth s i m := by
  have related := Link.relates_rewritten changes (fun k => (admitted_rules k).mono fits_link)
    (admitted.mono fits_link) depth
  exact eq_of_replies (related ⟨rfl, here⟩ ⟨rfl, memory⟩)

end Invariant
end Descent
