import Descent.Parser

namespace Descent.Parser
variable {ε χ α β γ δ : Type}

def flatMap (p : Parser ε χ α) (f : α → Parser ε χ β) : Parser ε χ β := fun s i => do
  let m ← p s i
  m.bind fun output j => f output s j

def flatten (p : Parser ε χ (Parser ε χ α)) : Parser ε χ α := p.flatMap id

def andThen (f : α → β → γ) (p : Parser ε χ α) (q : Parser ε χ β) : Parser ε χ γ := fun s i => do
  let m ← p s i
  let n ← q s m.stop
  pure ⟨f m.output n.output, m.start, n.stop⟩

def pair (p : Parser ε χ α) (q : Parser ε χ β) : Parser ε χ (α × β) := andThen Prod.mk p q

def thenIgnore (p : Parser ε χ α) (q : Parser ε χ β) : Parser ε χ α := andThen (fun a _ => a) p q

def ignoreThen (p : Parser ε χ α) (q : Parser ε χ β) : Parser ε χ β := andThen (fun _ b => b) p q

def triple (p : Parser ε χ α) (q : Parser ε χ β) (r : Parser ε χ γ) : Parser ε χ (α × β × γ) :=
  andThen Prod.mk p (pair q r)

def delimitedBy (left : Parser ε χ α) (p : Parser ε χ β) (right : Parser ε χ γ) : Parser ε χ β :=
  ignoreThen left (thenIgnore p right)

def surroundedBy (p : Parser ε χ α) (delimiter : Parser ε χ β) : Parser ε χ α :=
  delimitedBy delimiter p delimiter

def concat (p q : Parser ε χ (List α)) : Parser ε χ (List α) := (pair p q).map fun (as, bs) => as ++ bs

def append (p : Parser ε χ (List α)) (q : Parser ε χ α) : Parser ε χ (List α) :=
  (pair p q).map fun (as, a) => as ++ [a]

def prepend (p : Parser ε χ α) (q : Parser ε χ (List α)) : Parser ε χ (List α) :=
  (pair p q).map fun (a, as) => a :: as

theorem andThen_eq_bind (f : α → β → γ) (p : Parser ε χ α) (q : Parser ε χ β) (s : Source ε) (i : Nat) :
    andThen f p q s i = p s i >>= fun m => m.bind fun output j => (q.map (f output)) s j := by
  simp only [andThen, map, Match.bind, bind_assoc, pure_bind]
  rfl

theorem map_andThen (f : α → β → γ) (g : γ → δ) (p : Parser ε χ α) (q : Parser ε χ β) :
    (andThen f p q).map g = andThen (fun a b => g (f a b)) p q := by
  funext s i
  simp only [map, andThen, bind_assoc, pure_bind]
  rfl

theorem concat_eq_andThen (p q : Parser ε χ (List α)) : concat p q = andThen (fun as bs => as ++ bs) p q :=
  map_andThen _ _ p q

theorem append_eq_andThen (p : Parser ε χ (List α)) (q : Parser ε χ α) :
    append p q = andThen (fun as a => as ++ [a]) p q :=
  map_andThen _ _ p q

theorem prepend_eq_andThen (p : Parser ε χ α) (q : Parser ε χ (List α)) :
    prepend p q = andThen (fun a as => a :: as) p q :=
  map_andThen _ _ p q

theorem andThen_of_done {f : α → β → γ} {p : Parser ε χ α} {q : Parser ε χ β} {s : Source ε} {i : Nat}
    {m m₁ m₂ : Memory χ} {a : Match α} {reply : Reply (Match β)} (first : p s i m = (.done a, m₁))
    (ran : q s a.stop m₁ = (reply, m₂)) :
    andThen f p q s i m = (reply.map fun b => ⟨f a.output b.output, a.start, b.stop⟩, m₂) := by
  have goesOn : andThen f p q s i m = _ := Action.handle_of_done first
  exact goesOn.trans (Action.bind_pure_of_reply ran _)

theorem andThen_of_failed {f : α → β → γ} {p : Parser ε χ α} {q : Parser ε χ β} {s : Source ε} {i : Nat}
    {m m₁ : Memory χ} {e : Failure} (failed : p s i m = (.failed e, m₁)) : andThen f p q s i m = (.failed e, m₁) :=
  Action.handle_of_failed failed

theorem prepend_of_done {p : Parser ε χ α} {q : Parser ε χ (List α)} {s : Source ε} {i : Nat} {m m₁ : Memory χ}
    {a : Match α} (first : p s i m = (.done a, m₁)) :
    prepend p q s i m =
      ((q s a.stop m₁).1.map fun b => ⟨a.output :: b.output, a.start, b.stop⟩, (q s a.stop m₁).2) := by
  have both : pair p q s i m = _ := andThen_of_done first rfl
  have joined : prepend p q s i m = _ := map_of_reply both _
  rw [joined, Reply.map_map]
  rfl

def outputs (s : Source ε) : List (Parser ε χ α) → Nat → Action (Memory χ) (List α × Nat)
  | [], i => pure ([], i)
  | p :: ps, i => do
    let m ← p s i
    let (rest, stop) ← outputs s ps m.stop
    pure (m.output :: rest, stop)

theorem outputs_cons (s : Source ε) (p : Parser ε χ α) (ps : List (Parser ε χ α)) (i : Nat) :
    outputs s (p :: ps) i = p s i >>= fun a => outputs s ps a.stop >>= fun r => pure (a.output :: r.1, r.2) := rfl

def chain (ps : List (Parser ε χ α)) : Parser ε χ (List α) := fun s i => do
  let (outputs, stop) ← outputs s ps i
  pure ⟨outputs, i, stop⟩

end Descent.Parser
