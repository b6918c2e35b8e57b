import Descent.Grammar

namespace Descent
variable {ε χ ι : Type} {τ : ι → Type}

namespace Grammar

-- A property of a grammar and of every grammar in it, whatever a `flatMap` may go on with
-- included. Rules that are only referred to are not looked into.
def Forall (P : ∀ {α : Type}, Grammar ε χ τ α → Prop) {α : Type} (g : Grammar ε χ τ α) : Prop :=
  P g ∧ match g with
  | primitive _ | deferred _ => True
  | map _ p | tryMap _ p | mapContext _ p | ranged p | traced _ _ p | opt p | peek p | notAhead p
  | repeated _ _ p => p.Forall P
  | flatMap p f => p.Forall P ∧ ∀ a, (f a).Forall P
  | andThen _ p q => p.Forall P ∧ q.Forall P
  | orElse p q => p.Forall P ∧ q.Forall P
  | cascade p ps => p.Forall P ∧ ∀ k, (ps k).Forall P
  | chain ps | choice ps | custom ps _ => ∀ k, (ps k).Forall P

theorem Forall.mono {P Q : ∀ {α : Type}, Grammar ε χ τ α → Prop}
    (implies : ∀ {α : Type} {g : Grammar ε χ τ α}, P g → Q g) {α : Type} {g : Grammar ε χ τ α}
    (h : g.Forall P) : g.Forall Q := by
  induction g with
  | primitive | deferred => exact ⟨implies h.1, trivial⟩
  | map _ _ ih | tryMap _ _ ih | mapContext _ _ ih | ranged _ ih | traced _ _ _ ih | opt _ ih | peek _ ih
  | notAhead _ ih | repeated _ _ _ ih => exact ⟨implies h.1, ih h.2⟩
  | flatMap _ _ ih next => exact ⟨implies h.1, ih h.2.1, fun a => next a (h.2.2 a)⟩
  | andThen _ _ _ ih ih' => exact ⟨implies h.1, ih h.2.1, ih' h.2.2⟩
  | orElse _ _ ih ih' => exact ⟨implies h.1, ih h.2.1, ih' h.2.2⟩
  | cascade _ _ ih rest => exact ⟨implies h.1, ih h.2.1, fun k => rest k (h.2.2 k)⟩
  | chain _ ih | choice _ ih | custom _ _ ih => exact ⟨implies h.1, fun k => ih k (h.2 k)⟩

theorem Forall.and {P Q : ∀ {α : Type}, Grammar ε χ τ α → Prop} {α : Type} {g : Grammar ε χ τ α}
    (one : g.Forall P) (two : g.Forall Q) : g.Forall fun g => P g ∧ Q g := by
  induction g with
  | primitive | deferred => exact ⟨⟨one.1, two.1⟩, trivial⟩
  | map _ _ ih | tryMap _ _ ih | mapContext _ _ ih | ranged _ ih | traced _ _ _ ih | opt _ ih | peek _ ih
  | notAhead _ ih | repeated _ _ _ ih => exact ⟨⟨one.1, two.1⟩, ih one.2 two.2⟩
  | flatMap _ _ ih next =>
    exact ⟨⟨one.1, two.1⟩, ih one.2.1 two.2.1, fun a => next a (one.2.2 a) (two.2.2 a)⟩
  | andThen _ _ _ ih ih' => exact ⟨⟨one.1, two.1⟩, ih one.2.1 two.2.1, ih' one.2.2 two.2.2⟩
  | orElse _ _ ih ih' => exact ⟨⟨one.1, two.1⟩, ih one.2.1 two.2.1, ih' one.2.2 two.2.2⟩
  | cascade _ _ ih rest =>
    exact ⟨⟨one.1, two.1⟩, ih one.2.1 two.2.1, fun k => rest k (one.2.2 k) (two.2.2 k)⟩
  | chain _ ih | choice _ ih | custom _ _ ih => exact ⟨⟨one.1, two.1⟩, fun k => ih k (one.2 k) (two.2 k)⟩

def IsCombinator {α : Type} : Grammar ε χ τ α → Prop
  | custom .. => False
  | _ => True

def Standard {α : Type} (g : Grammar ε χ τ α) : Prop := g.Forall IsCombinator

end Grammar

def Primitive.consumes {α : Type} : Primitive ε α → Bool
  | any | the _ | oneOf _ | noneOf _ | satisfy _ | extract _ => true
  | sequence es => !es.isEmpty
  | finish | just _ | fail _ | position => false

namespace Grammar

-- The same for grammars. Nothing is presumed of rules, nor of what a `flatMap` goes on with.
def consumes {α : Type} : Grammar ε χ τ α → Bool
  | primitive p => p.consumes
  | map _ p | tryMap _ p | mapContext _ p | ranged p | traced _ _ p | flatMap p _ => p.consumes
  | andThen _ p q => p.consumes || q.consumes
  | chain ps => (List.ofFn fun k => (ps k).consumes).any id
  | orElse p q => p.consumes && q.consumes
  | choice ps => (List.ofFn fun k => (ps k).consumes).all id
  | cascade p ps => p.consumes && (List.ofFn fun k => (ps k).consumes).all id
  | repeated least _ p => decide (0 < least) && p.consumes
  | opt _ | peek _ | notAhead _ | deferred _ | custom .. => false

-- The rules that may be entered before a part that consumes has matched satisfy `P`. Lookahead and
-- later turns of a repetition are invoked where nothing may have been consumed, too.
def LeadsTo (P : ι → Prop) {α : Type} : Grammar ε χ τ α → Prop
  | primitive _ => True
  | map _ p | tryMap _ p | mapContext _ p | ranged p | traced _ _ p | opt p | peek p | notAhead p => p.LeadsTo P
  | flatMap p f => p.LeadsTo P ∧ (p.consumes = false → ∀ a, (f a).LeadsTo P)
  | andThen _ p q => p.LeadsTo P ∧ (p.consumes = false → q.LeadsTo P)
  | chain ps => ∀ k, (∀ j < k, (ps j).consumes = false) → (ps k).LeadsTo P
  | orElse p q => p.LeadsTo P ∧ q.LeadsTo P
  | cascade p ps => p.LeadsTo P ∧ ∀ k, (ps k).LeadsTo P
  | choice ps | custom ps _ => ∀ k, (ps k).LeadsTo P
  | repeated least most p => 0 < most → least ≤ most → p.LeadsTo P
  | deferred k => P k

theorem leadsTo_of_forall {P : ι → Prop} {α : Type} (g : Grammar ε χ τ α) (all : ∀ k, P k) : g.LeadsTo P := by
  induction g with
  | primitive => trivial
  | map _ _ ih | tryMap _ _ ih | mapContext _ _ ih | ranged _ ih | traced _ _ _ ih | opt _ ih | peek _ ih
  | notAhead _ ih => exact ih
  | flatMap _ _ ih next => exact ⟨ih, fun _ => next⟩
  | andThen _ _ _ ih ih' => exact ⟨ih, fun _ => ih'⟩
  | chain _ ih => exact fun k _ => ih k
  | orElse _ _ ih ih' => exact ⟨ih, ih'⟩
  | cascade _ _ ih rest => exact ⟨ih, rest⟩
  | choice _ ih | custom _ _ ih => exact ih
  | repeated _ _ _ ih => exact fun _ _ => ih
  | deferred k => exact all k

end Grammar

def Rules.Guarded (rules : Rules ε χ τ) (rank : ι → Nat) : Prop :=
  ∀ k, (rules k).LeadsTo fun j => rank j < rank k

end Descent
