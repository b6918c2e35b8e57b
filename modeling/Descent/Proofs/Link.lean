import Descent.Proofs.Coupling.Combinators
import Descent.Proofs.Coupling.Grammar

namespace Descent
variable {ε χ χ' : Type}

structure Link (s t : Source ε) (χ χ' : Type) extends Places s t where
  memory : Memory χ → Memory χ' → Prop

namespace Link
variable {s t : Source ε} {σ υ : Type}

inductive Replies (L : Link s t χ χ') (alike : σ → σ → Prop) :
    Reply σ × Memory χ → Reply σ × Memory χ' → Prop where
  | done {a b : σ} {m : Memory χ} {n : Memory χ'} (result : alike a b) (memory : L.memory m n) :
      Replies L alike (.done a, m) (.done b, n)
  | failed {e f : Failure} {m : Memory χ} {n : Memory χ'} (failure : L.failure e f) (memory : L.memory m n) :
      Replies L alike (.failed e, m) (.failed f, n)
  | unfinished {m : Memory χ} {n : Memory χ'} (memory : L.memory m n) :
      Replies L alike (.unfinished, m) (.unfinished, n)

def Acts (L : Link s t χ χ') (alike : σ → σ → Prop) (x : Action (Memory χ) σ) (y : Action (Memory χ') σ) :
    Prop :=
  ∀ ⦃m : Memory χ⦄ ⦃n : Memory χ'⦄, L.memory m n → L.Replies alike (x m) (y n)

namespace Acts
variable {L : Link s t χ χ'} {alike : σ → σ → Prop} {alike' : υ → υ → Prop}

theorem pure {a b : σ} (result : alike a b) : L.Acts alike (pure a) (pure b) :=
  fun _ _ memory => .done result memory

theorem fail {e f : Failure} (failure : L.failure e f) : L.Acts alike (.fail e) (.fail f) :=
  fun _ _ memory => .failed failure memory

theorem cut : L.Acts alike .cut .cut :=
  fun _ _ memory => .unfinished memory

-- The one rule for going on: every combinator is built from `handle`.
theorem handle {x : Action (Memory χ) σ} {y : Action (Memory χ') σ} {done : σ → Action (Memory χ) υ}
    {done' : σ → Action (Memory χ') υ} {failed : Failure → Action (Memory χ) υ}
    {failed' : Failure → Action (Memory χ') υ} (first : L.Acts alike x y)
    (afterDone : ∀ a b, alike a b → L.Acts alike' (done a) (done' b))
    (afterFailed : ∀ e f, L.failure e f → L.Acts alike' (failed e) (failed' f)) :
    L.Acts alike' (x.handle done failed) (y.handle done' failed') := by
  intro m n memory
  have replies := first memory
  unfold Action.handle
  generalize x m = one at replies ⊢
  generalize y n = two at replies ⊢
  cases replies with
  | done result memory₁ => exact afterDone _ _ result memory₁
  | failed failure memory₁ => exact afterFailed _ _ failure memory₁
  | unfinished memory₁ => exact .unfinished memory₁

theorem bind {x : Action (Memory χ) σ} {y : Action (Memory χ') σ} {next : σ → Action (Memory χ) υ}
    {next' : σ → Action (Memory χ') υ} (first : L.Acts alike x y)
    (after : ∀ a b, alike a b → L.Acts alike' (next a) (next' b)) :
    L.Acts alike' (x >>= next) (y >>= next') :=
  first.handle after fun _ _ failure => .fail failure

theorem record {e f : Event}
    (kept : ∀ {m : Memory χ} {n : Memory χ'}, L.memory m n → L.memory (m.record e) (n.record f)) : L.Acts (fun _ _ => True) (.record e) (.record f) :=
  fun _ _ memory => .done trivial (kept memory)

end Acts

def Relates (L : Link s t χ χ') {α : Type} (p : Parser ε χ α) (q : Parser ε χ' α) : Prop :=
  ∀ ⦃i j : Nat⦄, L.place i j → L.Acts (L.Spans i j i) (p s i) (q t j)

structure Records (L : Link s t χ χ') : Prop where
  invoking : ∀ {tag : String} {i j : Nat} {m : Memory χ} {n : Memory χ'}, L.place i j → L.memory m n →
    L.memory (m.record (.invoking tag (s.offset i))) (n.record (.invoking tag (t.offset j)))
  succeeded : ∀ {tag text : String} {i j i' j' : Nat} {m : Memory χ} {n : Memory χ'}, L.place i j → L.place i' j' →
    L.memory m n → L.memory (m.record (.succeeded tag (s.offset i' - s.offset i) text))
      (n.record (.succeeded tag (t.offset j' - t.offset j) text))
  failed : ∀ {tag : String} {e f : Failure} {m : Memory χ} {n : Memory χ'}, L.failure e f → L.memory m n →
    L.memory (m.record (.failed tag (s.offset e.position) e.reason.message))
      (n.record (.failed tag (t.offset f.position) f.reason.message))

def coupling (L : Link s t χ χ') : Coupling s t χ χ' where
  toPlaces := L.toPlaces
  Acts alike x y := L.Acts alike x y
  acts_pure := .pure
  acts_fail := .fail
  acts_handle := .handle

theorem relates_coupling_iff {L : Link s t χ χ'} {α : Type} {p : Parser ε χ α} {q : Parser ε χ' α} :
    L.coupling.Relates p q ↔ L.Relates p q :=
  Iff.rfl

theorem Records.traces {L : Link s t χ χ'} (records : L.Records) : L.coupling.Traces where
  invoking here := Acts.record (records.invoking here)
  succeeded here there := Acts.record (records.succeeded here there)
  failed failure := Acts.record (records.failed failure)

def everywhere (s : Source ε) (memory : Memory χ → Memory χ' → Prop) : Link s s χ χ' where
  toPlaces := .everywhere s
  memory := memory

theorem eq_of_replies_everywhere {memory : Memory χ → Memory χ' → Prop} {i : Nat} {α : Type}
    {x : Reply (Match α) × Memory χ} {y : Reply (Match α) × Memory χ'}
    (replies : (everywhere s memory).Replies ((everywhere s memory).Spans i i i) x y) :
    x.1 = y.1 ∧ memory x.2 y.2 := by
  cases replies with
  | done spans memory => exact ⟨congrArg Reply.done (spans.eq_of_stop_eq spans.stop.1), memory⟩
  | failed failure memory => exact ⟨congrArg Reply.failed failure, memory⟩
  | unfinished memory => exact ⟨rfl, memory⟩

theorem start_of_replies {L : Link s t χ χ'} {i j low : Nat} {α : Type} {x : Reply (Match α) × Memory χ}
    {b : Match α} {n : Memory χ'} (replies : L.Replies (L.Spans i j low) x (.done b, n)) : b.start = j := by
  cases replies with
  | done spans _ => exact spans.start_right

variable {ι : Type} {τ : ι → Type}

def Keeps (L : Link s t χ χ) {α : Type} : Grammar ε χ τ α → Prop
  | .mapContext f _ =>
    ∀ {v} {m n : Memory χ}, L.memory m n → (f v m.context).1 = (f v n.context).1 ∧
      L.memory ⟨(f v m.context).2, m.events⟩ ⟨(f v n.context).2, n.events⟩
  | .traced .. => L.Records
  | .custom .. => False
  | _ => True

-- What it asks of a part by itself. Most combinators only pass on what their parts do.
def Fits (L : Link s t χ χ) {α : Type} (g : Grammar ε χ τ α) : Prop := L.toPlaces.Fits g ∧ L.Keeps g

variable {L : Link s t χ χ}

section Rewritten
variable [DecidableEq ε] {change : ∀ α : Type, Grammar ε χ τ α → Grammar ε χ τ α}

theorem Keeps.carries
    (changes : ∀ {call : ∀ k, Parser ε χ (τ k)} {α : Type} {g : Grammar ε χ τ α} {q : Parser ε χ α},
      L.coupling.Relates (g.parserWith call) q → L.coupling.Relates ((change α g).parserWith call) q)
    {α : Type} {g : Grammar ε χ τ α} (keeps : L.Keeps g) : L.coupling.Carries (.ofChange change) g := by
  cases g with
  | traced tag render p =>
    intro call p q related
    exact changes fun i j here => (related here).traced (Records.traces keeps) tag render here
  | mapContext f p =>
    intro call p q related
    refine changes fun i j here => (related here).mapContext ?_
    intro v m n memory
    exact .done (keeps memory).1 (keeps memory).2
  | custom parts body => exact keeps.elim
  | _ => trivial

theorem relates_rewritten
    (changes : ∀ {call : ∀ k, Parser ε χ (τ k)} {α : Type} {g : Grammar ε χ τ α} {q : Parser ε χ α},
      L.Relates (g.parserWith call) q → L.Relates ((change α g).parserWith call) q)
    {rules : Rules ε χ τ} (fitting : ∀ k, (rules k).Forall L.Fits) {α : Type} {g : Grammar ε χ τ α}
    (fits : g.Forall L.Fits) (depth : Nat) :
    L.Relates ((g.rewrite change).parser (rules.rewrite change) depth) (g.parser rules depth) := by
  have changed {call : ∀ k, Parser ε χ (τ k)} {α : Type} {g : Grammar ε χ τ α} {q : Parser ε χ α}
      (related : L.coupling.Relates (g.parserWith call) q) :
      L.coupling.Relates ((change α g).parserWith call) q :=
    relates_coupling_iff.mpr (changes (relates_coupling_iff.mp related))
  have related := Coupling.relates_run (c := .ofChange change) Acts.cut changed
    (fun fits => ⟨fits.1, fits.2.carries changed⟩) fitting fits depth
  rw [Conversion.convert_ofChange, Conversion.convert_rules_ofChange] at related
  exact relates_coupling_iff.mp related

end Rewritten

theorem relates_self [DecidableEq ε] {rules : Rules ε χ τ} (fitting : ∀ k, (rules k).Forall L.Fits)
    {α : Type} {g : Grammar ε χ τ α} (fits : g.Forall L.Fits) (depth : Nat) :
    L.Relates (g.parser rules depth) (g.parser rules depth) := by
  have related : L.Relates ((g.rewrite fun _ p => p).parser (rules.rewrite fun _ p => p) depth)
      (g.parser rules depth) := relates_rewritten id fitting fits depth
  rwa [Grammar.rewrite_self, Rules.rewrite_self] at related

end Link
end Descent
