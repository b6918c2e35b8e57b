import Descent.Parser.Repetition

namespace Descent

-- A parser as data. The outputs of the rules it may refer to are given by `τ`.
inductive Grammar (ε χ : Type) {ι : Type} (τ : ι → Type) : Type → Type 1 where
  | primitive {α : Type} (p : Primitive ε α) : Grammar ε χ τ α
  | map {α β : Type} (f : α → β) (p : Grammar ε χ τ α) : Grammar ε χ τ β
  | tryMap {α β : Type} (f : α → Except Fault β) (p : Grammar ε χ τ α) : Grammar ε χ τ β
  | mapContext {α β : Type} (f : α → χ → β × χ) (p : Grammar ε χ τ α) : Grammar ε χ τ β
  | ranged {α : Type} (p : Grammar ε χ τ α) : Grammar ε χ τ (Match α)
  | traced {α : Type} (tag : String) (render : α → String) (p : Grammar ε χ τ α) : Grammar ε χ τ α
  | flatMap {α β : Type} (p : Grammar ε χ τ α) (f : α → Grammar ε χ τ β) : Grammar ε χ τ β
  | andThen {α β γ : Type} (f : α → β → γ) (p : Grammar ε χ τ α) (q : Grammar ε χ τ β) : Grammar ε χ τ γ
  | chain {α : Type} {n : Nat} (ps : Fin n → Grammar ε χ τ α) : Grammar ε χ τ (List α)
  | orElse {α : Type} (p q : Grammar ε χ τ α) : Grammar ε χ τ α
  | choice {α : Type} {n : Nat} (ps : Fin n → Grammar ε χ τ α) : Grammar ε χ τ α
  | cascade {α : Type} (p : Grammar ε χ τ α) {n : Nat} (ps : Fin n → Grammar ε χ τ α) : Grammar ε χ τ α
  | opt {α : Type} (p : Grammar ε χ τ α) : Grammar ε χ τ (Option α)
  | peek {α : Type} (p : Grammar ε χ τ α) : Grammar ε χ τ Unit
  | notAhead {α : Type} (p : Grammar ε χ τ α) : Grammar ε χ τ Unit
  | repeated {α : Type} (least most : Nat) (p : Grammar ε χ τ α) : Grammar ε χ τ (List α)
  | deferred (i : ι) : Grammar ε χ τ (τ i)
  | custom {α β : Type} {n : Nat} (parts : Fin n → Grammar ε χ τ α)
      (body : (Fin n → Parser ε χ α) → Parser ε χ β) : Grammar ε χ τ β

abbrev Rules (ε χ : Type) {ι : Type} (τ : ι → Type) := ∀ i, Grammar ε χ τ (τ i)

namespace Grammar
variable {ε χ ι α : Type} {τ : ι → Type}

def parserWith [DecidableEq ε] (call : ∀ i, Parser ε χ (τ i)) {α : Type} :
    Grammar ε χ τ α → Parser ε χ α := fun g s i m =>
  match g with
  | primitive p => Parser.primitive p s i m
  | map f p => Parser.map f (p.parserWith call) s i m
  | tryMap f p => Parser.tryMap f (p.parserWith call) s i m
  | mapContext f p => Parser.mapContext f (p.parserWith call) s i m
  | ranged p => Parser.ranged (p.parserWith call) s i m
  | traced tag render p => Parser.traced tag render (p.parserWith call) s i m
  | flatMap p f => Parser.flatMap (p.parserWith call) (fun a => (f a).parserWith call) s i m
  | andThen f p q => Parser.andThen f (p.parserWith call) (q.parserWith call) s i m
  | chain ps => Parser.chain (List.ofFn fun k => (ps k).parserWith call) s i m
  | orElse p q => Parser.orElse (p.parserWith call) (q.parserWith call) s i m
  | choice ps => Parser.choice (List.ofFn fun k => (ps k).parserWith call) s i m
  | cascade p ps => Parser.cascade (p.parserWith call) (List.ofFn fun k => (ps k).parserWith call) s i m
  | opt p => Parser.opt (p.parserWith call) s i m
  | peek p => Parser.peek (p.parserWith call) s i m
  | notAhead p => Parser.notAhead (p.parserWith call) s i m
  | repeated least most p => Parser.repeated least most (p.parserWith call) s i m
  | deferred k => call k s i m
  | custom parts body => body (fun k => (parts k).parserWith call) s i m

section Meaning
variable [DecidableEq ε] (call : ∀ i, Parser ε χ (τ i)) {α β γ : Type}

@[simp] theorem parserWith_primitive (p : Primitive ε α) :
    (primitive p : Grammar ε χ τ α).parserWith call = Parser.primitive p := rfl

@[simp] theorem parserWith_map (f : α → β) (p : Grammar ε χ τ α) :
    (p.map f).parserWith call = (p.parserWith call).map f := rfl

@[simp] theorem parserWith_tryMap (f : α → Except Fault β) (p : Grammar ε χ τ α) :
    (p.tryMap f).parserWith call = (p.parserWith call).tryMap f := rfl

@[simp] theorem parserWith_mapContext (f : α → χ → β × χ) (p : Grammar ε χ τ α) :
    (p.mapContext f).parserWith call = (p.parserWith call).mapContext f := rfl

@[simp] theorem parserWith_ranged (p : Grammar ε χ τ α) :
    p.ranged.parserWith call = (p.parserWith call).ranged := rfl

@[simp] theorem parserWith_traced (tag : String) (render : α → String) (p : Grammar ε χ τ α) :
    (p.traced tag render).parserWith call = (p.parserWith call).traced tag render := rfl

@[simp] theorem parserWith_flatMap (p : Grammar ε χ τ α) (f : α → Grammar ε χ τ β) :
    (p.flatMap f).parserWith call = (p.parserWith call).flatMap fun a => (f a).parserWith call := rfl

@[simp] theorem parserWith_andThen (f : α → β → γ) (p : Grammar ε χ τ α) (q : Grammar ε χ τ β) :
    (andThen f p q).parserWith call = Parser.andThen f (p.parserWith call) (q.parserWith call) := rfl

@[simp] theorem parserWith_chain {n : Nat} (ps : Fin n → Grammar ε χ τ α) :
    (chain ps).parserWith call = Parser.chain (List.ofFn fun k => (ps k).parserWith call) := rfl

@[simp] theorem parserWith_orElse (p q : Grammar ε χ τ α) :
    (p.orElse q).parserWith call = (p.parserWith call).orElse (q.parserWith call) := rfl

@[simp] theorem parserWith_choice {n : Nat} (ps : Fin n → Grammar ε χ τ α) :
    (choice ps).parserWith call = Parser.choice (List.ofFn fun k => (ps k).parserWith call) := rfl

@[simp] theorem parserWith_cascade (p : Grammar ε χ τ α) {n : Nat} (ps : Fin n → Grammar ε χ τ α) :
    (cascade p ps).parserWith call =
      Parser.cascade (p.parserWith call) (List.ofFn fun k => (ps k).parserWith call) := rfl

@[simp] theorem parserWith_opt (p : Grammar ε χ τ α) :
    p.opt.parserWith call = (p.parserWith call).opt := rfl

@[simp] theorem parserWith_peek (p : Grammar ε χ τ α) :
    p.peek.parserWith call = (p.parserWith call).peek := rfl

@[simp] theorem parserWith_notAhead (p : Grammar ε χ τ α) :
    p.notAhead.parserWith call = (p.parserWith call).notAhead := rfl

@[simp] theorem parserWith_repeated (least most : Nat) (p : Grammar ε χ τ α) :
    (p.repeated least most).parserWith call = (p.parserWith call).repeated least most := rfl

@[simp] theorem parserWith_deferred (k : ι) :
    (deferred k : Grammar ε χ τ (τ k)).parserWith call = call k := rfl

@[simp] theorem parserWith_custom {n : Nat} (parts : Fin n → Grammar ε χ τ α)
    (body : (Fin n → Parser ε χ α) → Parser ε χ β) :
    (custom parts body).parserWith call = body fun k => (parts k).parserWith call := rfl

end Meaning

end Grammar

namespace Rules
variable {ε χ ι : Type} {τ : ι → Type}

-- Depth counts the rules that are entered within one another. It is no bound on the length
-- of a source or on repetitions, which end by themselves.
def call [DecidableEq ε] (rules : Rules ε χ τ) : Nat → ∀ i, Parser ε χ (τ i)
  | 0, _, _, _ => .cut
  | depth + 1, i, s, p => (rules i).parserWith (rules.call depth) s p

end Rules

namespace Grammar
variable {ε χ ι α : Type} {τ : ι → Type}

def parser [DecidableEq ε] (rules : Rules ε χ τ) (depth : Nat) (g : Grammar ε χ τ α) : Parser ε χ α :=
  g.parserWith (rules.call depth)

end Grammar
end Descent
