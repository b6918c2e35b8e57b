import Descent.Action

namespace Descent

-- Something worth reporting about a parse. Places and lengths are counted in elements.
inductive Event where
  | opened (length : Nat)
  | entered
  | exited
  | invoking (tag : String) (offset : Nat)
  | succeeded (tag : String) (consumed : Nat) (output : String)
  | failed (tag : String) (offset : Nat) (reason : String)
  | parseSucceeded (consumed : Nat)
  | parseFailed (offset : Nat) (reason : String)
  deriving DecidableEq, Repr

inductive Level where
  | trace
  | debug
  deriving DecidableEq, Repr

namespace Level

def name : Level → String
  | trace => "TRACE"
  | debug => "DEBUG"

end Level

inductive Entry where
  | span (name : String) (level : Level) (fields : List (String × String))
  | enter (name : String)
  | exit (name : String)
  | message (text : String) (level : Level) (fields : List (String × String))
  deriving DecidableEq, Repr

namespace Event

def spanName : String := "parse"

def entry : Event → Entry
  | opened length => .span spanName .debug [("len", toString length)]
  | entered => .enter spanName
  | exited => .exit spanName
  | invoking tag offset => .message "invoking parser" .trace [("tag", tag), ("offset", toString offset)]
  | succeeded tag consumed output =>
    .message "parser succeeded" .debug [("tag", tag), ("consumed", toString consumed), ("output", output)]
  | failed tag offset reason =>
    .message "parser failed" .debug [("tag", tag), ("offset", toString offset), ("reason", reason)]
  | parseSucceeded consumed => .message "parse succeeded" .trace [("consumed", toString consumed)]
  | parseFailed offset reason =>
    .message "parse failed" .trace [("offset", toString offset), ("reason", reason)]

end Event

structure Memory (χ : Type) where
  context : χ
  events : Array Event

namespace Memory
variable {χ : Type}

def fresh (context : χ) : Memory χ := ⟨context, #[]⟩

def record (e : Event) (m : Memory χ) : Memory χ := ⟨m.context, m.events.push e⟩

@[simp] theorem toList_events_record (e : Event) (m : Memory χ) :
    (m.record e).events.toList = m.events.toList ++ [e] := Array.toList_push

end Memory

namespace Action
variable {χ σ : Type}

@[inline] def record (e : Event) : Action (Memory χ) Unit := change fun m => ((), m.record e)

@[inline] def changeContext (f : χ → σ × χ) : Action (Memory χ) σ :=
  change fun m => ((f m.context).1, ⟨(f m.context).2, m.events⟩)

end Action
end Descent
