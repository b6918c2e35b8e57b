import Descent.Proofs.Context.Blind

namespace Descent
variable {ε χ ι α β γ μ σ υ : Type} {τ : ι → Type}

namespace Action

def Steady (x : Action μ σ) : Prop := ∀ m n, (x m).1 = (x n).1

namespace Steady
variable {x : Action μ σ}

theorem pure (a : σ) : (Pure.pure a : Action μ σ).Steady := fun _ _ => rfl

theorem fail (e : Failure) : (Action.fail e : Action μ σ).Steady := fun _ _ => rfl

theorem transfer (steady : x.Steady) {m m' : μ} {reply : Reply σ} (ran : x m = (reply, m')) (n : μ) :
    ∃ n', x n = (reply, n') := by
  refine ⟨(x n).2, Prod.ext ?_ rfl⟩
  rw [steady n m, ran]

theorem handle (steady : x.Steady) {done : σ → Action μ υ} {failed : Failure → Action μ υ}
    (afterDone : ∀ a, (done a).Steady) (afterFailed : ∀ e, (failed e).Steady) : (x.handle done failed).Steady := by
  intro m n
  rcases ran : x m with ⟨a | e | _, m'⟩
  · obtain ⟨n', ran'⟩ := steady.transfer ran n
    rw [handle_of_done ran, handle_of_done ran', afterDone a m' n']
  · obtain ⟨n', ran'⟩ := steady.transfer ran n
    rw [handle_of_failed ran, handle_of_failed ran', afterFailed e m' n']
  · obtain ⟨n', ran'⟩ := steady.transfer ran n
    rw [handle_of_unfinished ran, handle_of_unfinished ran']

theorem bind (steady : x.Steady) {f : σ → Action μ υ} (after : ∀ a, (f a).Steady) : (x >>= f).Steady :=
  steady.handle after .fail

end Steady
end Action

namespace Parser
variable {s : Source ε}

def Steady (p : Parser ε χ α) (s : Source ε) : Prop := ∀ i, (p s i).Steady

namespace Steady
variable {p : Parser ε χ α}

theorem andThen {q : Parser ε χ β} (steady : p.Steady s) (steady' : q.Steady s) (f : α → β → γ) :
    (Parser.andThen f p q).Steady s :=
  fun i => (steady i).bind fun a => (steady' a.stop).bind fun _ => .pure _

theorem orElse {q : Parser ε χ α} (steady : p.Steady s) (steady' : q.Steady s) : (p.orElse q).Steady s :=
  fun i => (steady i).handle .pure fun _ => steady' i

end Steady
end Parser

namespace Grammar

theorem steady_of_blind [DecidableEq ε] {rules : Rules ε χ τ} {g : Grammar ε χ τ α}
    (blind_rules : ∀ k, (rules k).Forall IsBlind) (blind : g.Forall IsBlind) (depth : Nat) (s : Source ε) :
    (g.parser rules depth).Steady s :=
  fun i m n => reply_any_context blind_rules blind depth s i m n

def counted (g : Grammar ε Nat τ α) : Grammar ε Nat τ α := g.mapContext fun a n => (a, n + 1)

theorem blind_counted {g : Grammar ε Nat τ α} (blind : g.Forall IsBlind) : g.counted.Forall IsBlind :=
  ⟨fun _ _ _ => rfl, blind⟩

end Grammar
end Descent
