import Descent.Format.Nesting
import Descent.Proofs.Coupling.Grammar
import Descent.Proofs.Link

namespace Descent
variable {ε χ ι : Type} {τ : ι → Type}

def Grammar.Moves (R : χ → χ → Prop) {α : Type} : Grammar ε χ τ α → Prop
  | mapContext f _ => ∀ v c, R c (f v c).2
  | custom .. => False
  | _ => True

def Grammar.IsContextFree {α : Type} : Grammar ε χ τ α → Prop
  | mapContext .. | custom .. => False
  | _ => True

-- Looks at the context that a parser leaves, whether it has matched or failed. The alarm is raised
-- at one that is not allowed.
def Parser.vetted {α : Type} (allowed : χ → Prop) [DecidablePred allowed] (alarm : Action (Memory χ) (Match α))
    (p : Parser ε χ α) : Parser ε χ α := fun s i m =>
  if allowed (p s i m).2.context then p s i m else alarm (p s i m).2

def Grammar.vet (allowed : χ → Prop) [DecidablePred allowed] (alarm : ∀ α : Type, Action (Memory χ) (Match α))
    (α : Type) (g : Grammar ε χ τ α) : Grammar ε χ τ α :=
  g.around (Parser.vetted allowed (alarm α))

def Link.same (s : Source ε) (χ : Type) : Link s s χ χ := everywhere s Eq

theorem Link.eq_of_replies_same {s : Source ε} {i : Nat} {α : Type} {x y : Reply (Match α) × Memory χ}
    (replies : (same s χ).Replies ((same s χ).Spans i i i) x y) : x = y := by
  obtain ⟨reply, memory⟩ := eq_of_replies_everywhere replies
  exact Prod.ext reply memory

-- The reply on the right comes from `m` and has moved the context on. The reply on the left need only be
-- like it as long as `last` can still be reached.
structure Onward (s : Source ε) (R : χ → χ → Prop) (last : χ) {σ : Type} (alike : σ → σ → Prop) (m : Memory χ)
    (x y : Reply σ × Memory χ) : Prop where
  moved : R m.context y.2.context
  possible : ∃ z, (Link.same s χ).Replies alike z y
  alike : R y.2.context last → (Link.same s χ).Replies alike x y

section Relation
variable {R : χ → χ → Prop} {s : Source ε} {last : χ} {σ υ : Type} {alike : σ → σ → Prop} {alike' : υ → υ → Prop}

theorem Onward.of_replies {m : Memory χ} {x y : Reply σ × Memory χ} (moved : R m.context y.2.context)
    (replies : (Link.same s χ).Replies alike x y) : Onward s R last alike m x y :=
  ⟨moved, ⟨x, replies⟩, fun _ => replies⟩

-- What comes after a reply moves on from the context it has left. So whatever can be reached in the
-- end could be reached then.
theorem Onward.handle (trans : ∀ a b c, R a b → R b c → R a c) {x y : Action (Memory χ) σ}
    {done done' : σ → Action (Memory χ) υ} {failed failed' : Failure → Action (Memory χ) υ}
    (first : ∀ m, Onward s R last alike m (x m) (y m))
    (afterDone : ∀ a b, alike a b → ∀ m, Onward s R last alike' m (done a m) (done' b m))
    (afterFailed : ∀ e f, e = f → ∀ m, Onward s R last alike' m (failed e m) (failed' f m)) (m : Memory χ) :
    Onward s R last alike' m (x.handle done failed m) (y.handle done' failed' m) := by
  obtain ⟨moved, ⟨z, possible⟩, like⟩ := first m
  unfold Action.handle
  generalize x m = one at like ⊢
  generalize y m = two at moved possible like ⊢
  cases possible with
  | @done a b _ n result same =>
    have onward := afterDone a b result n
    refine ⟨trans _ _ _ moved onward.moved, onward.possible, ?_⟩
    intro reaches
    cases like (trans _ _ _ onward.moved reaches) with
    | done result' same' =>
      cases same'
      exact (afterDone _ b result' n).alike reaches
  | @failed e f _ n failure same =>
    have onward := afterFailed e f failure n
    refine ⟨trans _ _ _ moved onward.moved, onward.possible, ?_⟩
    intro reaches
    cases like (trans _ _ _ onward.moved reaches) with
    | failed failure' same' =>
      cases same'
      exact (afterFailed _ f failure' n).alike reaches
  | unfinished same =>
    refine ⟨moved, ⟨_, .unfinished same⟩, ?_⟩
    intro reaches
    cases like reaches with
    | unfinished same' => exact .unfinished same'

end Relation

def Coupling.forward (s : Source ε) (R : χ → χ → Prop) (refl : ∀ c, R c c)
    (trans : ∀ a b c, R a b → R b c → R a c) (last : χ) : Coupling s s χ χ where
  toPlaces := .everywhere s
  Acts alike x y := ∀ m, Onward s R last alike m (x m) (y m)
  acts_pure result m := .of_replies (refl m.context) (.done result rfl)
  acts_fail failure m := .of_replies (refl m.context) (.failed failure rfl)
  acts_handle := Onward.handle trans

section Runs
variable {s : Source ε} {R : χ → χ → Prop} {refl : ∀ c, R c c}
  {trans : ∀ a b c, R a b → R b c → R a c} {last : χ}

theorem Coupling.traces_forward : (forward s R refl trans last).Traces :=
  traces_of_eq (fun here => here.1) (fun failure => failure) fun _ m => .of_replies (refl m.context) (.done trivial rfl)

variable [DecidableEq ε]

theorem Coupling.relates_vet [DecidablePred (R · last)] (alarm : ∀ α : Type, Action (Memory χ) (Match α))
    {call : ∀ k, Parser ε χ (τ k)} {α : Type} {g : Grammar ε χ τ α} {q : Parser ε χ α}
    (related : (forward s R refl trans last).Relates (g.parserWith call) q) :
    (forward s R refl trans last).Relates ((g.vet (R · last) alarm α).parserWith call) q := by
  intro i j here m
  have onward := related here m
  refine ⟨onward.moved, onward.possible, ?_⟩
  intro reaches
  have like := onward.alike reaches
  have allowed : R (g.parserWith call s i m).2.context last := by
    obtain ⟨rfl, _⟩ := here
    rw [Link.eq_of_replies_same like]
    exact reaches
  have quiet : (g.vet (R · last) alarm α).parserWith call s i m = g.parserWith call s i m := if_pos allowed
  rw [quiet]
  exact like

theorem Coupling.carries_vet [DecidablePred (R · last)] (alarm : ∀ α : Type, Action (Memory χ) (Match α)) {α : Type}
    {g : Grammar ε χ τ α} (moves : g.Moves R) :
    (forward s R refl trans last).Carries (.ofChange (.vet (R · last) alarm)) g := by
  cases g with
  | traced tag render p =>
    intro call p q related
    exact relates_vet alarm fun i j here => (related here).traced traces_forward tag render here
  | mapContext f p =>
    intro call p q related
    refine relates_vet alarm fun i j here => (related here).mapContext ?_
    intro v m
    exact .of_replies (moves v m.context) (.done rfl rfl)
  | custom parts body => exact moves.elim
  | _ => trivial

variable {rules : Rules ε χ τ} {α : Type} {g : Grammar ε χ τ α}

theorem run_onward (last : χ) (refl : ∀ c, R c c) (trans : ∀ a b c, R a b → R b c → R a c)
    [DecidablePred (R · last)]
    (moves_rules : ∀ k, (rules k).Forall (Grammar.Moves R)) (moves : g.Forall (Grammar.Moves R)) (depth : Nat)
    (s : Source ε) (i : Nat) (m : Memory χ) (alarm : ∀ α : Type, Action (Memory χ) (Match α)) :
    Onward s R last ((Places.everywhere s).Spans i i i) m
      ((g.rewrite (.vet (R · last) alarm)).parser (rules.rewrite (.vet (R · last) alarm)) depth s i m)
      (g.parser rules depth s i m) := by
  have cut {σ : Type} {alike : σ → σ → Prop} : (Coupling.forward s R refl trans last).Acts alike .cut .cut :=
    fun m => .of_replies (refl m.context) (.unfinished rfl)
  have related := Coupling.relates_run cut (Coupling.relates_vet alarm)
    (fun moves => ⟨Places.fits_everywhere s _, Coupling.carries_vet alarm moves⟩) moves_rules moves depth
  rw [Conversion.convert_ofChange, Conversion.convert_rules_ofChange] at related
  exact related ⟨rfl, trivial⟩ m

-- The context comes from the one before it, and so it does at the end of every part: no alarm is raised at
-- a context that would not lead to the final one.
theorem context_moves_on (rules : Rules ε χ τ) (g : Grammar ε χ τ α) (depth : Nat) (s : Source ε) (i : Nat)
    (m : Memory χ) :
    let final := (g.parser rules depth s i m).2.context
    (∀ R : χ → χ → Prop, (∀ c, R c c) → (∀ a b c, R a b → R b c → R a c) →
        (∀ k, (rules k).Forall (Grammar.Moves R)) → g.Forall (Grammar.Moves R) →
          R m.context final ∧
            ∀ [DecidablePred (R · final)] (alarm : ∀ α : Type, Action (Memory χ) (Match α)),
              (g.rewrite (.vet (R · final) alarm)).parser (rules.rewrite (.vet (R · final) alarm)) depth s i m =
                g.parser rules depth s i m) ∧
      ((∀ k, (rules k).Forall Grammar.IsContextFree) → g.Forall Grammar.IsContextFree → final = m.context) ∧
      ∀ {β : Type} (log : χ → List β),
        (∀ k, (rules k).Forall (Grammar.Moves fun c c' => log c <+: log c')) →
          g.Forall (Grammar.Moves fun c c' => log c <+: log c') → log m.context <+: log final := by
  intro final
  have moved (R : χ → χ → Prop) (refl : ∀ c, R c c) (trans : ∀ a b c, R a b → R b c → R a c)
      (moves_rules : ∀ k, (rules k).Forall (Grammar.Moves R)) (moves : g.Forall (Grammar.Moves R)) :
      R m.context final := by
    classical
    exact (run_onward final refl trans moves_rules moves depth s i m fun _ => .cut).moved
  refine ⟨?_, ?_, ?_⟩
  · intro R refl trans moves_rules moves
    refine ⟨moved R refl trans moves_rules moves, ?_⟩
    intro _ alarm
    have onward := run_onward final refl trans moves_rules moves depth s i m alarm
    exact Link.eq_of_replies_same (onward.alike (refl final))
  · intro free_rules free
    have still {α : Type} {g : Grammar ε χ τ α} (free : g.IsContextFree) : g.Moves fun c c' => c' = c := by
      cases g with
      | mapContext | custom => exact free.elim
      | _ => trivial
    exact moved (fun c c' => c' = c) (fun _ => rfl) (fun _ _ _ one two => two.trans one)
      (fun k => (free_rules k).mono still) (free.mono still)
  · intro β log moves_rules moves
    exact moved (fun c c' => log c <+: log c') (fun c => List.prefix_refl (log c))
      (fun _ _ _ one two => one.trans two) moves_rules moves

end Runs

namespace Format.Nesting

theorem moves_tallied {R : Nat → Nat → Prop} (step : ∀ closed, R closed (closed + 1)) :
    tallied.Forall (Grammar.Moves R) :=
  ⟨trivial, fun _ closed => step closed, trivial,
    ⟨trivial, ⟨trivial, trivial⟩, trivial, trivial, trivial⟩, trivial, trivial⟩

def marked : Grammar Char Nat Output (Option Nat) := .opt (.thenIgnore tallied (.the '!'))

theorem moves_marked {R : Nat → Nat → Prop} (step : ∀ closed, R closed (closed + 1)) :
    marked.Forall (Grammar.Moves R) :=
  ⟨trivial, trivial, moves_tallied step, trivial, trivial⟩

end Format.Nesting

theorem context_moves_on_nested :
    (Format.Nesting.marked.parser Format.Nesting.talliedRules 3 (Source.text "é(())") 2 (.fresh 5)).2.context = 7 ∧
      5 ≤ 7 ∧
      (Format.Nesting.marked.rewrite (.vet (· ≤ 7) fun _ => .cut)).parser
          (Format.Nesting.talliedRules.rewrite (.vet (· ≤ 7) fun _ => .cut)) 3 (Source.text "é(())") 2 (.fresh 5) =
        Format.Nesting.marked.parser Format.Nesting.talliedRules 3 (Source.text "é(())") 2 (.fresh 5) ∧
      List.replicate 5 'x' <+: List.replicate 7 'x' ∧
      ((Grammar.deferred () : Grammar Char Nat Format.Nesting.Output Nat).parser (fun _ => .position) 3
        (Source.text "é(())") 2 (.fresh 5)).2.context = 5 := by
  have final : (Format.Nesting.marked.parser Format.Nesting.talliedRules 3 (Source.text "é(())") 2
      (.fresh 5)).2.context = 7 := rfl
  obtain ⟨forward, _, logged⟩ := context_moves_on Format.Nesting.talliedRules Format.Nesting.marked 3
    (Source.text "é(())") 2 (.fresh 5)
  rw [final] at forward logged
  have step (closed : Nat) : List.replicate closed 'x' <+: List.replicate (closed + 1) 'x' :=
    ⟨['x'], List.replicate_succ'.symm⟩
  obtain ⟨moved, quiet⟩ := forward (· ≤ ·) Nat.le_refl (fun _ _ _ => Nat.le_trans)
    (fun _ => Format.Nesting.moves_tallied Nat.le_succ) (Format.Nesting.moves_marked Nat.le_succ)
  refine ⟨final, moved, quiet fun _ => .cut, ?_, ?_⟩
  · exact logged (List.replicate · 'x') (fun _ => Format.Nesting.moves_tallied step) (Format.Nesting.moves_marked step)
  · obtain ⟨_, still, _⟩ := context_moves_on (fun _ => .position) (.deferred () : Grammar Char Nat
      Format.Nesting.Output Nat) 3 (Source.text "é(())") 2 (.fresh 5)
    exact still (fun _ => ⟨trivial, trivial⟩) ⟨trivial, trivial⟩

end Descent
