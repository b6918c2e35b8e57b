import Descent.Format.Nesting
import Descent.Proofs.Coupling.Grammar
import Descent.Proofs.Link

namespace Descent
variable {ε χ ι : Type} {τ : ι → Type}

def Conversion.untraced : Conversion ε χ χ τ where
  traced _ _ p := p
  mapContext := .mapContext
  custom := .custom
  change _ g := g

namespace Link
variable {s : Source ε}

def besideTrace (s : Source ε) (χ : Type) (events : Array Event) : Link s s χ χ :=
  everywhere s fun m n => m.context = n.context ∧ m.events = events

variable {events : Array Event}

theorem Acts.beside_record {σ : Type} {alike : σ → σ → Prop} {x y : Action (Memory χ) σ}
    (acts : (besideTrace s χ events).Acts alike x y) (e : Event) :
    (besideTrace s χ events).Acts alike x (do .record e; y) := by
  intro m n memory
  exact acts (n := n.record e) memory

theorem Relates.beside_traced {α : Type} {p q : Parser ε χ α} (related : (besideTrace s χ events).Relates p q)
    (tag : String) (render : α → String) : (besideTrace s χ events).Relates p (q.traced tag render) := by
  intro i j here
  -- To hand on a reply as it came is what the trace does too, with a record before it.
  rw [← Action.handle_pure_fail (p s i)]
  apply Acts.beside_record
  apply (related here).handle
  · intro a b spans
    exact (Acts.pure spans).beside_record _
  · intro e f failure
    exact (Acts.fail failure).beside_record _

theorem carries_untraced [DecidableEq ε] {α : Type} {g : Grammar ε χ τ α} (combinator : g.IsCombinator) :
    (besideTrace s χ events).coupling.Carries .untraced g := by
  cases g with
  | traced tag render p =>
    intro call p q related
    exact Relates.beside_traced related tag render
  | mapContext f p =>
    intro call p q related i j here
    apply (related here).mapContext
    intro v m n memory
    exact .done (congrArg (fun c => (f v c).1) memory.1) ⟨congrArg (fun c => (f v c).2) memory.1, memory.2⟩
  | custom parts body => exact combinator.elim
  | _ => trivial

end Link

theorem run_untraced [DecidableEq ε] {rules : Rules ε χ τ} (standard_rules : ∀ k, (rules k).Standard) {α : Type}
    {g : Grammar ε χ τ α} (standard : g.Standard) (depth : Nat) (s : Source ε) (i : Nat) (context : χ)
    (events events' : Array Event) :
    let bare := (g.convert .untraced).parser (rules.convert .untraced) depth s i ⟨context, events⟩
    let full := g.parser rules depth s i ⟨context, events'⟩
    bare.1 = full.1 ∧ bare.2.context = full.2.context ∧ bare.2.events = events := by
  have related := Coupling.relates_run (Link.Acts.cut (L := Link.besideTrace s χ events)) id
    (fun combinator => ⟨Places.fits_everywhere s _, Link.carries_untraced combinator⟩) standard_rules standard depth
  have beside : (Link.besideTrace s χ events).memory ⟨context, events⟩ ⟨context, events'⟩ := ⟨rfl, rfl⟩
  exact Link.eq_of_replies_everywhere (related ⟨rfl, trivial⟩ beside)

theorem run_untraced_nested :
    let bare := (Format.Nesting.tallied.convert .untraced).parser (Format.Nesting.talliedRules.convert .untraced) 3
      (Source.text "é(())") 2 ⟨5, #[]⟩
    bare.1 = .done ⟨2, 2, 6⟩ ∧ bare.2.context = 7 ∧ bare.2.events = #[] := by
  have same := run_untraced (fun _ => Format.Nesting.standard_tallied) Format.Nesting.standard_tallied 3
    (Source.text "é(())") 2 5 #[] #[]
  exact ⟨same.1.trans rfl, same.2.1.trans rfl, same.2.2⟩

end Descent
