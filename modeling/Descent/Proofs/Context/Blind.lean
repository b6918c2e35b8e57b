import Descent.Format.Nesting
import Descent.Proofs.Coupling.Grammar
import Descent.Proofs.Link

namespace Descent
variable {ε χ χ' ι : Type} {τ : ι → Type}

def Grammar.IsBlind {α : Type} : Grammar ε χ τ α → Prop
  | mapContext f _ => ∀ v c c', (f v c).1 = (f v c').1
  | custom .. => False
  | _ => True

-- The same grammar where there is no context. Outputs that a context was asked for are those of `context`.
def Conversion.contextless (context : χ) : Conversion ε χ Unit τ where
  traced := .traced
  mapContext f p := p.map fun v => (f v context).1
  custom parts _ := .custom parts fun _ _ _ => .cut
  change _ g := g

namespace Link
variable {s : Source ε}

def apart (s : Source ε) (χ χ' : Type) : Link s s χ χ' := everywhere s fun _ _ => True

theorem carries_contextless [DecidableEq ε] {context : χ} {α : Type} {g : Grammar ε χ τ α} (blind : g.IsBlind) :
    (apart s Unit χ).coupling.Carries (.contextless context) g := by
  cases g with
  | traced tag render p =>
    intro call p q related i j here
    have records : (apart s Unit χ).Records := ⟨fun _ _ => trivial, fun _ _ _ => trivial, fun _ _ => trivial⟩
    exact (related here).traced records.traces tag render here
  | mapContext f p =>
    intro call p q related i j here
    apply (related here).bind
    intro a b spans m n _
    refine .done ⟨?_, spans.start_left, spans.start_right, spans.stop, spans.low_le⟩ trivial
    change (f a.output context).1 = (f b.output n.context).1
    rw [spans.output]
    exact blind b.output context n.context
  | custom parts body => exact blind.elim
  | _ => trivial

end Link

namespace Parser
variable {α β : Type} {p : Parser ε χ α} {s : Source ε} {i : Nat} {m m' : Memory χ} {e : Failure}

theorem pair_opt_of_failed (q : Parser ε χ β) (failed : p s i m = (.failed e, m'))
    (start : ∀ a n, q s i m' = (.done a, n) → a.start = i) :
    (Parser.pair p.opt q s i m).1 = (q s i m').1.map (Match.map (Prod.mk none)) := by
  have attempt : p.opt s i m = (.done (.zeroWidth none i), m') := Action.handle_of_failed failed
  rcases ran : q s i m' with ⟨b | e | _, n⟩
  · have both : Parser.pair p.opt q s i m = _ := andThen_of_done attempt ran
    rw [both, Reply.map, Reply.map, Match.map, start b n ran]
    rfl
  · exact congrArg Prod.fst (andThen_of_done attempt ran)
  · exact congrArg Prod.fst (andThen_of_done attempt ran)

end Parser

section Runs
variable [DecidableEq ε] {rules : Rules ε χ τ} {α : Type} {g : Grammar ε χ τ α}

theorem relates_contextless (blind_rules : ∀ k, (rules k).Forall Grammar.IsBlind) (blind : g.Forall Grammar.IsBlind)
    (depth : Nat) (s : Source ε) (context : χ) :
    (Link.apart s Unit χ).Relates
      ((g.convert (.contextless context)).parser (rules.convert (.contextless context)) depth)
      (g.parser rules depth) :=
  Coupling.relates_run Link.Acts.cut id
    (fun blind => ⟨Places.fits_everywhere s _, Link.carries_contextless blind⟩) blind_rules blind depth

theorem reply_contextless (blind_rules : ∀ k, (rules k).Forall Grammar.IsBlind) (blind : g.Forall Grammar.IsBlind)
    (depth : Nat) (s : Source ε) (i : Nat) (context : χ) (m : Memory Unit) (n : Memory χ) :
    ((g.convert (.contextless context)).parser (rules.convert (.contextless context)) depth s i m).1 =
      (g.parser rules depth s i n).1 := by
  have related := relates_contextless blind_rules blind depth s context
  exact (Link.eq_of_replies_everywhere (related ⟨rfl, trivial⟩ trivial)).1

theorem reply_any_context (blind_rules : ∀ k, (rules k).Forall Grammar.IsBlind) (blind : g.Forall Grammar.IsBlind)
    (depth : Nat) (s : Source ε) (i : Nat) (m n : Memory χ) :
    (g.parser rules depth s i m).1 = (g.parser rules depth s i n).1 := by
  rw [← reply_contextless blind_rules blind depth s i m.context (.fresh ()) m]
  exact reply_contextless blind_rules blind depth s i m.context (.fresh ()) n

theorem start_of_blind (blind_rules : ∀ k, (rules k).Forall Grammar.IsBlind) (blind : g.Forall Grammar.IsBlind)
    {depth : Nat} {s : Source ε} {i : Nat} {m m' : Memory χ} {a : Match α}
    (done : g.parser rules depth s i m = (.done a, m')) : a.start = i := by
  have here : (Link.apart s Unit χ).place i i := ⟨rfl, trivial⟩
  have beside : (Link.apart s Unit χ).memory (.fresh ()) m := trivial
  have replies := relates_contextless blind_rules blind depth s m.context here beside
  rw [done] at replies
  exact Link.start_of_replies replies

-- The first part is the rule. From it follow the others, about whole runs and about failed attempts.
theorem context_unseen (blind_rules : ∀ k, (rules k).Forall Grammar.IsBlind) (blind : g.Forall Grammar.IsBlind)
    (depth : Nat) (s : Source ε) :
    (∀ i (m n : Memory χ), (g.parser rules depth s i m).1 = (g.parser rules depth s i n).1) ∧
      (∀ (context : χ) (m : Memory χ),
        let bare := (g.convert (.contextless context)).parser (rules.convert (.contextless context)) depth
        ((g.parser rules depth).parseWith s m).1 = (bare.parse s).1 ∧
          ((g.parser rules depth).runWith s m).1 = (bare.parse s).1 ∧ (bare.run s).1 = (bare.parse s).1) ∧
      (∀ {β : Type} (p : Grammar ε χ τ β) {i : Nat} {m : Memory χ} {e : Failure},
        (p.parser rules depth s i m).1 = .failed e →
          ((Grammar.pair p.opt g).parser rules depth s i m).1 =
            (g.parser rules depth s i m).1.map (Match.map (Prod.mk none))) ∧
      ∀ (p : Grammar ε χ τ α) {i : Nat} {m : Memory χ} {e : Failure},
        (p.parser rules depth s i m).1 = .failed e →
          ((p.orElse g).parser rules depth s i m).1 = (g.parser rules depth s i m).1 := by
  refine ⟨reply_any_context blind_rules blind depth s, ?_, ?_, ?_⟩
  · intro context m
    have whole (m : Memory Unit) (n : Memory χ) := congrArg (Reply.map Match.output)
      (reply_contextless blind_rules blind depth s s.start context m n)
    refine ⟨?_, ?_, ?_⟩
    · rw [Parser.parse, Parser.reply_parseWith, Parser.reply_parseWith]
      exact (whole _ _).symm
    · rw [Parser.parse, Parser.reply_runWith, Parser.reply_parseWith]
      exact (whole _ _).symm
    · rw [Parser.run, Parser.parse, Parser.reply_runWith, Parser.reply_parseWith]
      exact (whole _ m).trans (whole _ m).symm
  · intro β p i m e failed
    have attempt : p.parser rules depth s i m = (.failed e, (p.parser rules depth s i m).2) := Prod.ext failed rfl
    rw [reply_any_context blind_rules blind depth s i m (p.parser rules depth s i m).2]
    exact Parser.pair_opt_of_failed _ attempt fun a n done => start_of_blind blind_rules blind done
  · intro p i m e failed
    have attempt : p.parser rules depth s i m = (.failed e, (p.parser rules depth s i m).2) := Prod.ext failed rfl
    rw [reply_any_context blind_rules blind depth s i m (p.parser rules depth s i m).2]
    exact congrArg Prod.fst (Parser.orElse_of_failed _ attempt)

end Runs

theorem Format.Nesting.blind_tallied : tallied.Forall Grammar.IsBlind :=
  ⟨trivial, fun _ _ _ => rfl, trivial, ⟨trivial, ⟨trivial, trivial⟩, trivial, trivial, trivial⟩, trivial, trivial⟩

theorem context_unseen_nested :
    ((Grammar.pair (.opt (.thenIgnore Format.Nesting.tallied (.the '!'))) Format.Nesting.tallied).parser
      Format.Nesting.talliedRules 3 (Source.text "é(())") 2 (.fresh 5)).1 = .done ⟨(none, 2), 2, 6⟩ := by
  obtain ⟨_, _, afterFailure, _⟩ := context_unseen (fun _ => Format.Nesting.blind_tallied)
    Format.Nesting.blind_tallied 3 (Source.text "é(())")
  have failed : ((Grammar.thenIgnore Format.Nesting.tallied (.the '!')).parser Format.Nesting.talliedRules 3
      (Source.text "é(())") 2 (.fresh 5)).1 = .failed (.endOfInput 6) := rfl
  have alone : (Format.Nesting.tallied.parser Format.Nesting.talliedRules 3 (Source.text "é(())") 2 (.fresh 5)).1 =
      .done ⟨2, 2, 6⟩ := rfl
  exact (afterFailure _ failed).trans (congrArg _ alone)

end Descent
