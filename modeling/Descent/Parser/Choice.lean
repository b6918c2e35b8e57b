import Descent.Parser

namespace Descent.Parser
variable {ε χ α : Type}

-- The failure of `p` is lost, while whatever it did to the memory stays. If both fail, the
-- failure of `q` is reported.
def orElse (p q : Parser ε χ α) : Parser ε χ α := fun s i =>
  (p s i).handle pure fun _ => q s i

theorem orElse_of_done {p : Parser ε χ α} {s : Source ε} {i : Nat} {m m' : Memory χ} {a : Match α}
    (q : Parser ε χ α) (done : p s i m = (.done a, m')) : p.orElse q s i m = (.done a, m') :=
  Action.handle_of_done done

theorem orElse_of_failed {p : Parser ε χ α} {s : Source ε} {i : Nat} {m m' : Memory χ} {e : Failure}
    (q : Parser ε χ α) (failed : p s i m = (.failed e, m')) : p.orElse q s i m = q s i m' :=
  Action.handle_of_failed failed

theorem orElse_of_unfinished {p : Parser ε χ α} {s : Source ε} {i : Nat} {m m' : Memory χ} (q : Parser ε χ α)
    (cut : p s i m = (.unfinished, m')) : p.orElse q s i m = (.unfinished, m') :=
  Action.handle_of_unfinished cut

def firstOf (s : Source ε) (i : Nat) : List (Parser ε χ α) → Failure → Action (Memory χ) (Match α)
  | [], last => .fail last
  | p :: ps, _ => (p s i).handle pure fun e => firstOf s i ps e

def choice (ps : List (Parser ε χ α)) : Parser ε χ α := fun s i => firstOf s i ps (.noMatch i)

def attempt (p : Parser ε χ α) (s : Source ε) (i : Nat) : Action (Memory χ) (Except Failure (Match α)) :=
  (p s i).handle (fun m => pure (.ok m)) fun e => pure (.error e)

def attemptNext (s : Source ε) (i : Nat) (p : Parser ε χ α) :
    Except Failure (Match α) → Action (Memory χ) (Except Failure (Match α))
  | .ok m => pure (.ok m)
  | .error _ => p.attempt s i

-- Alternatives of a number that is fixed when they are written down, one step for each.
def cascade (p : Parser ε χ α) (ps : List (Parser ε χ α)) : Parser ε χ α := fun s i => do
  let first ← p.attempt s i
  let last ← ps.foldlM (fun result p => attemptNext s i p result) first
  .ofExcept last

section Cascade
variable {s : Source ε} {i : Nat}

theorem foldlM_attemptNext_ok (ps : List (Parser ε χ α)) (a : Match α) :
    ps.foldlM (fun result p => attemptNext s i p result) (.ok a) = (pure (.ok a) : Action (Memory χ) _) := by
  induction ps with
  | nil => rfl
  | cons p ps ih => rw [List.foldlM_cons, attemptNext, pure_bind, ih]

theorem attempt_bind (p : Parser ε χ α) (next : Except Failure (Match α) → Action (Memory χ) (Match α)) :
    p.attempt s i >>= next = (p s i).handle (fun a => next (.ok a)) fun e => next (.error e) :=
  Action.handle_handle _ _ _ _ _

-- By induction on the alternatives, for any failure before them.
theorem foldlM_attemptNext_error (ps : List (Parser ε χ α)) (e : Failure) :
    ps.foldlM (fun result p => attemptNext s i p result) (.error e) >>= Action.ofExcept = firstOf s i ps e := by
  induction ps generalizing e with
  | nil => rfl
  | cons p ps ih =>
    rw [List.foldlM_cons, attemptNext, bind_assoc, attempt_bind, firstOf]
    congr 1
    · funext a
      rw [foldlM_attemptNext_ok, pure_bind]
      rfl
    · funext e'
      exact ih e'

theorem cascade_eq_choice (p : Parser ε χ α) (ps : List (Parser ε χ α)) : cascade p ps = choice (p :: ps) := by
  funext s i
  rw [cascade, attempt_bind, choice, firstOf]
  congr 1
  · funext a
    rw [foldlM_attemptNext_ok, pure_bind]
    rfl
  · funext e
    exact foldlM_attemptNext_error ps e

end Cascade

def opt (p : Parser ε χ α) : Parser ε χ (Option α) := fun s i =>
  (p s i).handle (fun m => pure (m.map some)) fun _ => pure (.zeroWidth none i)

def optional (p : Parser ε χ α) (default : α) : Parser ε χ α := p.orElse (just default)

def peek (p : Parser ε χ α) : Parser ε χ Unit := fun s i => do
  let _ ← p s i
  pure (.zeroWidth () i)

def notAhead (p : Parser ε χ α) : Parser ε χ Unit := fun s i =>
  (p s i).handle (fun _ => .fail (.noMatch i)) fun _ => pure (.zeroWidth () i)

section Lookahead
variable {p : Parser ε χ α} {s : Source ε} {i : Nat} {m m' : Memory χ}

theorem peek_of_done {a : Match α} (done : p s i m = (.done a, m')) : p.peek s i m = (.done (.zeroWidth () i), m') :=
  Action.handle_of_done done

theorem peek_of_failed {e : Failure} (failed : p s i m = (.failed e, m')) : p.peek s i m = (.failed e, m') :=
  Action.handle_of_failed failed

theorem peek_of_unfinished (cut : p s i m = (.unfinished, m')) : p.peek s i m = (.unfinished, m') :=
  Action.handle_of_unfinished cut

theorem notAhead_of_done {a : Match α} (done : p s i m = (.done a, m')) :
    p.notAhead s i m = (.failed (.noMatch i), m') :=
  Action.handle_of_done done

theorem notAhead_of_failed {e : Failure} (failed : p s i m = (.failed e, m')) :
    p.notAhead s i m = (.done (.zeroWidth () i), m') :=
  Action.handle_of_failed failed

end Lookahead

def notAny (ps : List (Parser ε χ α)) : Parser ε χ Unit := notAhead (choice ps)

end Descent.Parser
