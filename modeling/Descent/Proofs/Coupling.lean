import Descent.Match
import Descent.Source.Boundary
import Descent.Trace

namespace Descent
variable {ε χ χ' : Type}

structure Places (s t : Source ε) where
  place : Nat → Nat → Prop
  failure : Failure → Failure → Prop
  -- Two places are one on either side or on none, so that both runs call the same matches empty.
  place_eq_iff : ∀ {i j i' j' : Nat}, place i j → place i' j' → (i = i' ↔ j = j')
  element : ∀ {i j : Nat}, place i j →
    Option.Rel (fun a b => a.1 = b.1 ∧ place a.2 b.2) (s.elementAt? i) (t.elementAt? j)
  isEnd_eq : ∀ {i j : Nat}, place i j → s.isEnd i = t.isEnd j
  endOfInput : ∀ {i j : Nat}, place i j → s.elementAt? i = none → failure (.endOfInput i) (.endOfInput j)
  noMatch : ∀ {i j : Nat}, place i j → s.isEnd i = false → failure (.noMatch i) (.noMatch j)

namespace Places
variable {s t : Source ε}

def within (s : Source ε) (P : Nat → Prop)
    (next : ∀ {i next : Nat} {e : ε}, P i → s.elementAt? i = some (e, next) → P next) : Places s s where
  place i j := i = j ∧ P i
  failure := Eq
  place_eq_iff := by
    intro i j i' j' here there
    rw [here.1, there.1]
  element := by
    intro i j here
    obtain ⟨rfl, here⟩ := here
    cases found : s.elementAt? i with
    | none => exact .none
    | some step => exact .some ⟨rfl, rfl, next here found⟩
  isEnd_eq := by
    intro i j here
    rw [here.1]
  endOfInput := by
    intro i j here _
    rw [here.1]
  noMatch := by
    intro i j here _
    rw [here.1]

def everywhere (s : Source ε) : Places s s := within s (fun _ => True) fun _ _ => trivial

def boundaries (s : Source ε) : Places s s :=
  within s s.IsBoundary fun _ found => (Source.boundary_of_elementAt? found).2.1

variable (P : Places s t)

inductive Verdicts {σ : Type} (alike : σ → σ → Prop) : Except Failure σ → Except Failure σ → Prop where
  | ok {a b : σ} (result : alike a b) : Verdicts alike (.ok a) (.ok b)
  | error {e f : Failure} (failure : P.failure e f) : Verdicts alike (.error e) (.error f)

-- Matches of runs from `i` and `j`: they begin there, and stop at places that correspond again
-- and lie no earlier than `low`.
structure Spans (i j low : Nat) {α : Type} (a b : Match α) : Prop where
  output : a.output = b.output
  start_left : a.start = i
  start_right : b.start = j
  stop : P.place a.stop b.stop
  low_le : low ≤ a.stop

structure Reaches (low : Nat) {σ : Type} (a b : σ × Nat) : Prop where
  outputs : a.1 = b.1
  place : P.place a.2 b.2
  low_le : low ≤ a.2

variable {P} {i j low low' : Nat}

theorem Verdicts.mono {σ : Type} {alike wider : σ → σ → Prop} {x y : Except Failure σ}
    (verdicts : P.Verdicts alike x y) (implies : ∀ a b, alike a b → wider a b) : P.Verdicts wider x y := by
  cases verdicts with
  | ok result => exact .ok (implies _ _ result)
  | error failure => exact .error failure

theorem Spans.zeroWidth (here : P.place i j) {α : Type} (output : α) :
    P.Spans i j i (.zeroWidth output i) (.zeroWidth output j) :=
  ⟨rfl, rfl, rfl, here, Nat.le_refl i⟩

theorem Spans.weaken {α : Type} {a b : Match α} (lower : low' ≤ low) (spans : P.Spans i j low a b) :
    P.Spans i j low' a b :=
  ⟨spans.output, spans.start_left, spans.start_right, spans.stop, Nat.le_trans lower spans.low_le⟩

theorem Spans.isZeroWidth_eq (here : P.place i j) {α : Type} {a b : Match α} (spans : P.Spans i j low a b) :
    a.isZeroWidth = b.isZeroWidth := by
  have same := P.place_eq_iff here spans.stop
  rw [← spans.start_left, ← spans.start_right] at same
  unfold Match.isZeroWidth
  exact Bool.eq_iff_iff.mpr (by simpa only [beq_iff_eq] using same)

theorem Spans.eq_of_stop_eq {α : Type} {a b : Match α} (spans : P.Spans i i low a b) (stop : a.stop = b.stop) :
    a = b := by
  have starts : a.start = b.start := by rw [spans.start_left, spans.start_right]
  exact Match.ext spans.output starts stop

theorem Reaches.weaken {σ : Type} {a b : σ × Nat} (lower : low' ≤ low) (reaches : P.Reaches low a b) :
    P.Reaches low' a b :=
  ⟨reaches.outputs, reaches.place, Nat.le_trans lower reaches.low_le⟩

end Places

-- The rules that combinators need. What acting alike means is up to the coupling.
structure Coupling (s t : Source ε) (χ χ' : Type) extends Places s t where
  Acts {σ : Type} : (σ → σ → Prop) → Action (Memory χ) σ → Action (Memory χ') σ → Prop
  acts_pure {σ : Type} {alike : σ → σ → Prop} {a b : σ} : alike a b → Acts alike (pure a) (pure b)
  acts_fail {σ : Type} {alike : σ → σ → Prop} {e f : Failure} :
    failure e f → Acts alike (Action.fail e) (Action.fail f)
  acts_handle {σ υ : Type} {alike : σ → σ → Prop} {alike' : υ → υ → Prop} {x : Action (Memory χ) σ}
    {y : Action (Memory χ') σ} {done : σ → Action (Memory χ) υ} {done' : σ → Action (Memory χ') υ}
    {failed : Failure → Action (Memory χ) υ} {failed' : Failure → Action (Memory χ') υ} :
    Acts alike x y → (∀ a b, alike a b → Acts alike' (done a) (done' b)) →
      (∀ e f, failure e f → Acts alike' (failed e) (failed' f)) →
      Acts alike' (x.handle done failed) (y.handle done' failed')

namespace Coupling
variable {s t : Source ε} {C : Coupling s t χ χ'} {σ υ : Type} {alike : σ → σ → Prop} {alike' : υ → υ → Prop}

theorem Acts.bind {x : Action (Memory χ) σ} {y : Action (Memory χ') σ} {next : σ → Action (Memory χ) υ}
    {next' : σ → Action (Memory χ') υ} (first : C.Acts alike x y)
    (after : ∀ a b, alike a b → C.Acts alike' (next a) (next' b)) : C.Acts alike' (x >>= next) (y >>= next') :=
  C.acts_handle first after fun _ _ failure => C.acts_fail failure

theorem Acts.mono {wider : σ → σ → Prop} {x : Action (Memory χ) σ} {y : Action (Memory χ') σ}
    (acts : C.Acts alike x y) (implies : ∀ a b, alike a b → wider a b) : C.Acts wider x y := by
  rw [← Action.handle_pure_fail x, ← Action.handle_pure_fail y]
  apply C.acts_handle acts
  · intro a b result
    exact C.acts_pure (implies a b result)
  · intro e f failure
    exact C.acts_fail failure

theorem Acts.ofExcept {x y : Except Failure σ} (verdicts : C.Verdicts alike x y) :
    C.Acts alike (.ofExcept x) (.ofExcept y) := by
  cases verdicts with
  | ok result => exact C.acts_pure result
  | error failure => exact C.acts_fail failure

end Coupling
end Descent
