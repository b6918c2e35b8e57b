import Descent.Parser

namespace Descent.Parser
variable {ε χ α : Type}

def runWith (p : Parser ε χ α) (s : Source ε) : Action (Memory χ) α :=
  (p s s.start).handle
    (fun m => do
      .record (.parseSucceeded (s.offset m.stop))
      pure m.output)
    (fun e => do
      .record (.parseFailed (s.offset e.position) e.reason.message)
      .fail e)

def parseWith (p : Parser ε χ α) (s : Source ε) : Action (Memory χ) α := do
  .record (.opened (s.offset s.stop))
  .record .entered
  (p.runWith s).handle
    (fun output => do
      .record .exited
      pure output)
    (fun e => do
      .record .exited
      .fail e)

def run (p : Parser ε Unit α) (s : Source ε) : Reply α × Memory Unit := p.runWith s (.fresh ())

def parse (p : Parser ε Unit α) (s : Source ε) : Reply α × Memory Unit := p.parseWith s (.fresh ())

theorem reply_runWith (p : Parser ε χ α) (s : Source ε) (m : Memory χ) :
    (p.runWith s m).1 = (p s s.start m).1.map Match.output := by
  unfold runWith Action.handle
  rcases p s s.start m with ⟨_ | _ | _, _⟩ <;> rfl

theorem reply_parseWith (p : Parser ε χ α) (s : Source ε) (m : Memory χ) :
    (p.parseWith s m).1 =
      (p s s.start ((m.record (.opened (s.offset s.stop))).record .entered)).1.map Match.output := by
  rw [← reply_runWith]
  change ((p.runWith s).handle _ _ ((m.record (.opened (s.offset s.stop))).record .entered)).1 = _
  unfold Action.handle
  rcases p.runWith s ((m.record (.opened (s.offset s.stop))).record .entered) with ⟨_ | _ | _, _⟩ <;> rfl

end Descent.Parser
