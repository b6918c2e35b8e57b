import Descent.Failure

namespace Descent

inductive Reply (σ : Type) where
  | done (result : σ)
  | failed (failure : Failure)
  | unfinished

namespace Reply
variable {σ τ υ : Type}

def map (f : σ → τ) : Reply σ → Reply τ
  | done a => done (f a)
  | failed e => failed e
  | unfinished => unfinished

theorem map_map (reply : Reply σ) (f : σ → τ) (g : τ → υ) : (reply.map f).map g = reply.map fun a => g (f a) := by
  cases reply <;> rfl

theorem map_ne_failed {reply : Reply σ} (others : ∀ e, reply ≠ .failed e) (f : σ → τ) (e : Failure) :
    reply.map f ≠ .failed e := by
  cases reply with
  | failed e' => exact absurd rfl (others e')
  | done a => nofun
  | unfinished => nofun

end Reply

def Action (μ σ : Type) : Type := μ → Reply σ × μ

namespace Action
variable {μ σ τ υ : Type}

-- A cut passes through. Were it handled like a failure, a deeper run could take another
-- branch, and more depth would change an answer instead of finding it.
@[inline] def handle (x : Action μ σ) (done : σ → Action μ τ) (failed : Failure → Action μ τ) :
    Action μ τ := fun m =>
  match x m with
  | (.done a, m) => done a m
  | (.failed e, m) => failed e m
  | (.unfinished, m) => (.unfinished, m)

@[inline] def fail (e : Failure) : Action μ σ := fun m => (.failed e, m)

@[inline] def cut : Action μ σ := fun m => (.unfinished, m)

instance : Monad (Action μ) where
  pure a := fun m => (.done a, m)
  bind x f := x.handle f fail

@[inline] def change (f : μ → σ × μ) : Action μ σ := fun m => (.done (f m).1, (f m).2)

@[inline] def ofExcept (r : Except Failure σ) : Action μ σ := fun m =>
  match r with
  | .ok a => (.done a, m)
  | .error e => (.failed e, m)

@[simp] theorem pure_apply (a : σ) (m : μ) : (pure a : Action μ σ) m = (.done a, m) := rfl

@[simp] theorem fail_apply (e : Failure) (m : μ) : (fail e : Action μ σ) m = (.failed e, m) := rfl

@[simp] theorem cut_apply (m : μ) : (cut : Action μ σ) m = (.unfinished, m) := rfl

theorem bind_eq_handle (x : Action μ σ) (f : σ → Action μ τ) : x >>= f = x.handle f fail := rfl

theorem handle_of_done {x : Action μ σ} {done : σ → Action μ τ} {failed : Failure → Action μ τ} {m m' : μ}
    {a : σ} (h : x m = (.done a, m')) : x.handle done failed m = done a m' := by
  simp only [handle, h]

theorem handle_of_failed {x : Action μ σ} {done : σ → Action μ τ} {failed : Failure → Action μ τ}
    {m m' : μ} {e : Failure} (h : x m = (.failed e, m')) : x.handle done failed m = failed e m' := by
  simp only [handle, h]

theorem handle_of_unfinished {x : Action μ σ} {done : σ → Action μ τ} {failed : Failure → Action μ τ}
    {m m' : μ} (h : x m = (.unfinished, m')) : x.handle done failed m = (.unfinished, m') := by
  simp only [handle, h]

theorem handle_congr_done {x : Action μ σ} {done done' : σ → Action μ τ} {failed : Failure → Action μ τ}
    (same : ∀ {m a m'}, x m = (.done a, m') → done a = done' a) : x.handle done failed = x.handle done' failed := by
  funext m
  rcases reply : x m with ⟨a | e | _, m'⟩
  · rw [handle_of_done reply, handle_of_done reply, same reply]
  · rw [handle_of_failed reply, handle_of_failed reply]
  · rw [handle_of_unfinished reply, handle_of_unfinished reply]

theorem bind_pure_of_reply {x : Action μ σ} {m m' : μ} {reply : Reply σ} (ran : x m = (reply, m')) (f : σ → τ) :
    (x >>= fun a => pure (f a)) m = (reply.map f, m') := by
  cases reply with
  | done a => exact handle_of_done ran
  | failed e => exact handle_of_failed ran
  | unfinished => exact handle_of_unfinished ran

theorem handle_eq_done {x : Action μ σ} {done : σ → Action μ τ} {failed : Failure → Action μ τ} {m m' : μ}
    {b : τ} (h : x.handle done failed m = (.done b, m')) :
    (∃ a m₁, x m = (.done a, m₁) ∧ done a m₁ = (.done b, m')) ∨
      ∃ e m₁, x m = (.failed e, m₁) ∧ failed e m₁ = (.done b, m') := by
  unfold handle at h
  rcases reply : x m with ⟨_ | _ | _, m₁⟩ <;> simp only [reply] at h
  · exact .inl ⟨_, _, rfl, h⟩
  · exact .inr ⟨_, _, rfl, h⟩
  · cases h

theorem bind_eq_done {x : Action μ σ} {f : σ → Action μ τ} {m m' : μ} {b : τ}
    (h : (x >>= f) m = (.done b, m')) : ∃ a m₁, x m = (.done a, m₁) ∧ f a m₁ = (.done b, m') := by
  rcases handle_eq_done h with before | ⟨_, _, _, failed⟩
  · exact before
  · cases failed

theorem handle_eq_failed {x : Action μ σ} {done : σ → Action μ τ} {failed : Failure → Action μ τ}
    {m m' : μ} {e : Failure} (h : x.handle done failed m = (.failed e, m')) :
    (∃ a m₁, x m = (.done a, m₁) ∧ done a m₁ = (.failed e, m')) ∨
      ∃ e₁ m₁, x m = (.failed e₁, m₁) ∧ failed e₁ m₁ = (.failed e, m') := by
  unfold handle at h
  rcases reply : x m with ⟨_ | _ | _, m₁⟩ <;> simp only [reply] at h
  · exact .inl ⟨_, _, rfl, h⟩
  · exact .inr ⟨_, _, rfl, h⟩
  · cases h

@[simp] theorem handle_pure_fail (x : Action μ σ) : x.handle pure fail = x := by
  funext m
  simp only [handle]
  rcases x m with ⟨_ | _ | _, _⟩ <;> rfl

theorem handle_handle (x : Action μ σ) (f : σ → Action μ τ) (g : Failure → Action μ τ)
    (f' : τ → Action μ υ) (g' : Failure → Action μ υ) :
    (x.handle f g).handle f' g' = x.handle (fun a => (f a).handle f' g') (fun e => (g e).handle f' g') := by
  funext m
  simp only [handle]
  rcases x m with ⟨_ | _ | _, _⟩ <;> rfl

instance : LawfulMonad (Action μ) := LawfulMonad.mk' (Action μ)
  (fun x => handle_pure_fail x)
  (fun _ _ => rfl)
  (fun x f g => handle_handle x f fail g fail)

end Action
end Descent
