import Descent.Parser

namespace Descent
variable {ε χ κ α : Type}

def Memory.beside (m : Memory χ) (k : κ) : Memory (χ × κ) := ⟨(m.context, k), m.events⟩

theorem Memory.beside_inj {m m' : Memory χ} {k k' : κ} (same : m.beside k = m'.beside k') : m = m' ∧ k = k' := by
  cases m
  cases m'
  cases same
  exact ⟨rfl, rfl⟩

namespace Parser

-- The note beside the context is brought up to date after each run of the parser, which sees nothing of it.
def observed (note : Reply (Match α) → κ → κ) (p : Parser ε χ α) : Parser ε (χ × κ) α := fun s i m =>
  match p s i ⟨m.context.1, m.events⟩ with
  | (reply, m') => (reply, m'.beside (note reply m.context.2))

def unobserved (p : Parser ε χ α) : Parser ε (χ × κ) α := p.observed fun _ k => k

theorem observed_beside {p : Parser ε χ α} {s : Source ε} {i : Nat} {m m' : Memory χ} {reply : Reply (Match α)}
    (ran : p s i m = (reply, m')) (note : Reply (Match α) → κ → κ) (k : κ) :
    p.observed note s i (m.beside k) = (reply, m'.beside (note reply k)) := by
  have inner : p s i ⟨(m.beside k).context.1, (m.beside k).events⟩ = (reply, m') := ran
  rw [observed, inner]
  rfl

end Parser
end Descent
