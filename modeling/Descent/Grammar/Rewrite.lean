import Descent.Grammar

namespace Descent
variable {ε χ ι : Type} {τ : ι → Type}

namespace Grammar

def around {α β : Type} (f : Parser ε χ α → Parser ε χ β) (g : Grammar ε χ τ α) : Grammar ε χ τ β :=
  custom (fun _ : Fin 1 => g) fun parts => f (parts ⟨0, Nat.one_pos⟩)

@[simp] theorem parserWith_around [DecidableEq ε] {α β : Type} (call : ∀ i, Parser ε χ (τ i))
    (f : Parser ε χ α → Parser ε χ β) (g : Grammar ε χ τ α) :
    (g.around f).parserWith call = f (g.parserWith call) := rfl

-- Changes every part of a grammar and then the grammar itself. Rules that are only referred to
-- stay as they are.
def rewrite (change : ∀ α : Type, Grammar ε χ τ α → Grammar ε χ τ α) {α : Type} :
    Grammar ε χ τ α → Grammar ε χ τ α
  | primitive p => change _ (primitive p)
  | map f p => change _ (map f (p.rewrite change))
  | tryMap f p => change _ (tryMap f (p.rewrite change))
  | mapContext f p => change _ (mapContext f (p.rewrite change))
  | ranged p => change _ (ranged (p.rewrite change))
  | traced tag render p => change _ (traced tag render (p.rewrite change))
  | flatMap p f => change _ (flatMap (p.rewrite change) fun a => (f a).rewrite change)
  | andThen f p q => change _ (andThen f (p.rewrite change) (q.rewrite change))
  | chain ps => change _ (chain fun k => (ps k).rewrite change)
  | orElse p q => change _ (orElse (p.rewrite change) (q.rewrite change))
  | choice ps => change _ (choice fun k => (ps k).rewrite change)
  | cascade p ps => change _ (cascade (p.rewrite change) fun k => (ps k).rewrite change)
  | opt p => change _ (opt (p.rewrite change))
  | peek p => change _ (peek (p.rewrite change))
  | notAhead p => change _ (notAhead (p.rewrite change))
  | repeated least most p => change _ (repeated least most (p.rewrite change))
  | deferred k => change _ (deferred k)
  | custom parts body => change _ (custom (fun k => (parts k).rewrite change) body)

theorem rewrite_self {α : Type} (g : Grammar ε χ τ α) : g.rewrite (fun _ p => p) = g := by
  induction g with
  | primitive | deferred => rfl
  | map _ _ ih | tryMap _ _ ih | mapContext _ _ ih | ranged _ ih | traced _ _ _ ih | opt _ ih | peek _ ih
  | notAhead _ ih | repeated _ _ _ ih => rw [rewrite, ih]
  | flatMap _ _ ih next => rw [rewrite, ih]; congr 1; exact funext next
  | andThen _ _ _ ih ih' => rw [rewrite, ih, ih']
  | orElse _ _ ih ih' => rw [rewrite, ih, ih']
  | cascade _ _ ih rest => rw [rewrite, ih]; congr 1; exact funext rest
  | chain _ ih | choice _ ih | custom _ _ ih => rw [rewrite]; congr 1; exact funext ih

end Grammar

namespace Rules

def rewrite (change : ∀ α : Type, Grammar ε χ τ α → Grammar ε χ τ α) (rules : Rules ε χ τ) : Rules ε χ τ :=
  fun k => (rules k).rewrite change

theorem rewrite_self (rules : Rules ε χ τ) : rules.rewrite (fun _ p => p) = rules :=
  funext fun k => (rules k).rewrite_self

end Rules

structure Conversion (ε χ χ' : Type) {ι : Type} (τ : ι → Type) where
  traced : ∀ {α : Type}, String → (α → String) → Grammar ε χ' τ α → Grammar ε χ' τ α
  mapContext : ∀ {α β : Type}, (α → χ → β × χ) → Grammar ε χ' τ α → Grammar ε χ' τ β
  custom : ∀ {α β : Type} {n : Nat}, (Fin n → Grammar ε χ' τ α) →
    ((Fin n → Parser ε χ α) → Parser ε χ β) → Grammar ε χ' τ β
  change : ∀ α : Type, Grammar ε χ' τ α → Grammar ε χ' τ α

variable {χ' : Type}

namespace Grammar

def convert (c : Conversion ε χ χ' τ) {α : Type} : Grammar ε χ τ α → Grammar ε χ' τ α
  | primitive p => c.change _ (primitive p)
  | map f p => c.change _ (map f (p.convert c))
  | tryMap f p => c.change _ (tryMap f (p.convert c))
  | mapContext f p => c.mapContext f (p.convert c)
  | ranged p => c.change _ (ranged (p.convert c))
  | traced tag render p => c.traced tag render (p.convert c)
  | flatMap p f => c.change _ (flatMap (p.convert c) fun a => (f a).convert c)
  | andThen f p q => c.change _ (andThen f (p.convert c) (q.convert c))
  | chain ps => c.change _ (chain fun k => (ps k).convert c)
  | orElse p q => c.change _ (orElse (p.convert c) (q.convert c))
  | choice ps => c.change _ (choice fun k => (ps k).convert c)
  | cascade p ps => c.change _ (cascade (p.convert c) fun k => (ps k).convert c)
  | opt p => c.change _ (opt (p.convert c))
  | peek p => c.change _ (peek (p.convert c))
  | notAhead p => c.change _ (notAhead (p.convert c))
  | repeated least most p => c.change _ (repeated least most (p.convert c))
  | deferred k => c.change _ (deferred k)
  | custom parts body => c.custom (fun k => (parts k).convert c) body

end Grammar

def Rules.convert (c : Conversion ε χ χ' τ) (rules : Rules ε χ τ) : Rules ε χ' τ := fun k => (rules k).convert c

namespace Conversion

def ofChange (change : ∀ α : Type, Grammar ε χ τ α → Grammar ε χ τ α) : Conversion ε χ χ τ where
  traced tag render p := change _ (.traced tag render p)
  mapContext f p := change _ (.mapContext f p)
  custom parts body := change _ (.custom parts body)
  change := change

theorem convert_ofChange (change : ∀ α : Type, Grammar ε χ τ α → Grammar ε χ τ α) {α : Type}
    (g : Grammar ε χ τ α) : g.convert (ofChange change) = g.rewrite change := by
  induction g with
  | primitive | deferred => rfl
  | map _ _ ih | tryMap _ _ ih | mapContext _ _ ih | ranged _ ih | traced _ _ _ ih | opt _ ih | peek _ ih
  | notAhead _ ih | repeated _ _ _ ih => rw [Grammar.convert, ih]; rfl
  | flatMap _ _ ih next => rw [Grammar.convert, ih, funext next]; rfl
  | andThen _ _ _ ih ih' => rw [Grammar.convert, ih, ih']; rfl
  | orElse _ _ ih ih' => rw [Grammar.convert, ih, ih']; rfl
  | cascade _ _ ih rest => rw [Grammar.convert, ih, funext rest]; rfl
  | chain _ ih | choice _ ih | custom _ _ ih => rw [Grammar.convert, funext ih]; rfl

theorem convert_rules_ofChange (change : ∀ α : Type, Grammar ε χ τ α → Grammar ε χ τ α) (rules : Rules ε χ τ) :
    rules.convert (ofChange change) = rules.rewrite change :=
  funext fun k => convert_ofChange change (rules k)

end Conversion
end Descent
