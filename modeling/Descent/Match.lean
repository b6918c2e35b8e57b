import Descent.Source

namespace Descent

@[ext] structure Match (α : Type) where
  output : α
  start : Nat
  stop : Nat
  deriving DecidableEq, Repr

namespace Match
variable {α β : Type}

def zeroWidth (output : α) (i : Nat) : Match α := ⟨output, i, i⟩

def isZeroWidth (m : Match α) : Bool := m.start == m.stop

def map (f : α → β) (m : Match α) : Match β := ⟨f m.output, m.start, m.stop⟩

def extend (f : Match α → β) (m : Match α) : Match β := ⟨f m, m.start, m.stop⟩

def widen (m : Match α) (next : Match β) : Match β := ⟨next.output, m.start, next.stop⟩

-- Goes on at the end. The whole starts with this match and stops with the next one.
def bind {μ : Type → Type} [Monad μ] (m : Match α) (next : α → Nat → μ (Match β)) : μ (Match β) := do
  let n ← next m.output m.stop
  pure (m.widen n)

theorem widen_of_start {m : Match α} {next : Match β} (h : next.start = m.start) : m.widen next = next := by
  cases next; cases h; rfl

end Match
end Descent
