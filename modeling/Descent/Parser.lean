import Descent.Primitive
import Descent.Trace

namespace Descent

abbrev Parser (ε χ α : Type) := Source ε → Nat → Action (Memory χ) (Match α)

namespace Parser
variable {ε χ α β : Type}

def primitive [DecidableEq ε] (p : Primitive ε α) : Parser ε χ α := fun s i => .ofExcept (p.parse s i)

def just (output : α) : Parser ε χ α := fun _ i => pure (.zeroWidth output i)

def map (f : α → β) (p : Parser ε χ α) : Parser ε χ β := fun s i => do
  let m ← p s i
  pure (m.map f)

theorem map_of_reply {p : Parser ε χ α} {s : Source ε} {i : Nat} {m m' : Memory χ} {reply : Reply (Match α)}
    (ran : p s i m = (reply, m')) (f : α → β) : p.map f s i m = (reply.map (Match.map f), m') :=
  Action.bind_pure_of_reply ran _

def const (output : β) (p : Parser ε χ α) : Parser ε χ β := p.map fun _ => output

def discard (p : Parser ε χ α) : Parser ε χ Unit := p.const ()

def list (p : Parser ε χ α) : Parser ε χ (List α) := p.map ([·])

def ranged (p : Parser ε χ α) : Parser ε χ (Match α) := fun s i => do
  let m ← p s i
  pure (m.extend id)

-- Maps the output by a mapping that may reject it. A rejection is reported where the match
-- starts, unless it says itself where it belongs.
def tryMap (f : α → Except Fault β) (p : Parser ε χ α) : Parser ε χ β := fun s i => do
  let m ← p s i
  match f m.output with
  | .ok output => pure ⟨output, m.start, m.stop⟩
  | .error fault => .fail (.lift fault m.start)

def mapContext (f : α → χ → β × χ) (p : Parser ε χ α) : Parser ε χ β := fun s i => do
  let m ← p s i
  let output ← .changeContext (f m.output)
  pure ⟨output, m.start, m.stop⟩

def traced (tag : String) (render : α → String) (p : Parser ε χ α) : Parser ε χ α := fun s i => do
  .record (.invoking tag (s.offset i))
  (p s i).handle
    (fun m => do
      .record (.succeeded tag (s.offset m.stop - s.offset i) (render m.output))
      pure m)
    (fun e => do
      .record (.failed tag (s.offset e.position) e.reason.message)
      .fail e)

end Parser
end Descent
