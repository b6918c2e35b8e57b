import Descent.Parser.Choice
import Descent.Parser.Sequence

namespace Descent

-- The greatest count of matches. As an upper bound it stands for "as many as there are".
def Count.unbounded : Nat := UInt64.size - 1

inductive Bound where
  | unbounded
  | included (n : Nat)
  | excluded (n : Nat)
  deriving DecidableEq, Repr

namespace Bound

def least : Bound → Nat
  | unbounded => 0
  | included n => n
  | excluded n => min (n + 1) Count.unbounded

-- The least and the greatest count between two ends. If no count is between them the least is above the greatest,
-- except where `Count.unbounded` is excluded below and admitted above: the lower end cannot go past it, and both
-- counts are that one.
def counts (low : Bound) : Bound → Nat × Nat
  | unbounded => (low.least, Count.unbounded)
  | included n => (low.least, n)
  | excluded 0 => (max low.least 1, 0)
  | excluded (n + 1) => (low.least, n)

end Bound

namespace Parser
variable {ε χ α β : Type}

-- Collects at most `left` more matches, of which `need` are required, on top of those in
-- `got`. A failure is final while matches are required and dropped afterwards. A match that
-- consumed nothing would come again without end, so it ends an `endless` repetition.
def collect (p : Parser ε χ α) (endless : Bool) (s : Source ε) (left need : Nat) (got : List α)
    (i : Nat) : Action (Memory χ) (List α × Nat) := fun m =>
  match left with
  | 0 => (.done (got.reverse, i), m)
  | left + 1 =>
    match p s i m with
    | (.done a, m) =>
      if a.isZeroWidth && endless && need ≤ 1 then (.done ((a.output :: got).reverse, a.stop), m)
      else p.collect endless s left (need - 1) (a.output :: got) a.stop m
    | (.failed e, m) => if 0 < need then (.failed e, m) else (.done (got.reverse, i), m)
    | (.unfinished, m) => (.unfinished, m)

theorem collect_zero (p : Parser ε χ α) (endless : Bool) (s : Source ε) (need : Nat) (got : List α) (i : Nat) :
    p.collect endless s 0 need got i = pure (got.reverse, i) := rfl

theorem collect_succ (p : Parser ε χ α) (endless : Bool) (s : Source ε) (left need : Nat) (got : List α)
    (i : Nat) :
    p.collect endless s (left + 1) need got i = (p s i).handle
      (fun a =>
        if a.isZeroWidth && endless && need ≤ 1 then pure ((a.output :: got).reverse, a.stop)
        else p.collect endless s left (need - 1) (a.output :: got) a.stop)
      (fun e => if 0 < need then .fail e else pure (got.reverse, i)) := by
  funext m
  rw [collect, Action.handle]
  rcases p s i m with ⟨a | e | _, m'⟩
  · by_cases stalled : (a.isZeroWidth && endless && need ≤ 1) = true
    · simp only [stalled, if_true, Action.pure_apply]
    · simp only [stalled, if_false, Bool.false_eq_true]
  · by_cases required : 0 < need
    · simp only [required, if_true, Action.fail_apply]
    · simp only [required, if_false, Action.pure_apply]
  · rfl

def repeated (least most : Nat) (p : Parser ε χ α) : Parser ε χ (List α) := fun s i =>
  if most < least then .fail (.outOfBounds i)
  else do
    let (outputs, stop) ← p.collect (most == Count.unbounded) s most least [] i
    pure ⟨outputs, i, stop⟩

theorem repeated_of_collect {p : Parser ε χ α} {least most : Nat} {s : Source ε} {i : Nat} {m m' : Memory χ}
    {reply : Reply (List α × Nat)} (ordered : least ≤ most)
    (loop : p.collect (most == Count.unbounded) s most least [] i m = (reply, m')) :
    p.repeated least most s i m = (reply.map fun r => ⟨r.1, i, r.2⟩, m') := by
  unfold repeated
  rw [if_neg (Nat.not_lt_of_le ordered)]
  exact Action.bind_pure_of_reply loop _

def repeatedExactly (n : Nat) (p : Parser ε χ α) : Parser ε χ (List α) := p.repeated n n

def repeatedWithin (low high : Bound) (p : Parser ε χ α) : Parser ε χ (List α) :=
  p.repeated (low.counts high).1 (low.counts high).2

def many (p : Parser ε χ α) : Parser ε χ (List α) := p.repeated 0 Count.unbounded

def many1 (p : Parser ε χ α) : Parser ε χ (List α) := p.repeated 1 Count.unbounded

-- One or more matches with separators between them. A separator with no match after it is
-- left.
def separatedBy1 (p : Parser ε χ α) (separator : Parser ε χ β) : Parser ε χ (List α) :=
  prepend p (many (ignoreThen separator p))

def separatedBy (p : Parser ε χ α) (separator : Parser ε χ β) : Parser ε χ (List α) :=
  (separatedBy1 p separator).optional []

end Parser
end Descent
