import Descent.Proofs.Invariant
import Descent.Proofs.Positions
import Descent.Proofs.Untraced

namespace Descent
variable {ε χ ι : Type} {τ : ι → Type}

namespace Source
variable {s : Source ε} {i j k : Nat}

def LeadsTo (s : Source ε) (i j : Nat) : Prop := j = i ∨ s.IsBoundary i ∧ s.IsBoundary j ∧ i ≤ j

theorem LeadsTo.next {e : ε} {next : Nat} (leads : s.LeadsTo i j) (found : s.elementAt? j = some (e, next)) :
    s.LeadsTo i next := by
  obtain ⟨here, behind, before⟩ := boundary_of_elementAt? found
  rcases leads with rfl | ⟨boundary, _, forward⟩
  · exact .inr ⟨here, behind, Nat.le_of_lt before⟩
  · exact .inr ⟨boundary, behind, Nat.le_trans forward (Nat.le_of_lt before)⟩

theorem LeadsTo.boundary (leads : s.LeadsTo i j) (boundary : s.IsBoundary i) : s.IsBoundary j := by
  rcases leads with rfl | ⟨_, there, _⟩
  · exact boundary
  · exact there

theorem LeadsTo.offset_le (here : s.LeadsTo i j) (there : s.LeadsTo i k) (forward : j ≤ k) :
    s.offset j ≤ s.offset k := by
  by_cases boundary : s.IsBoundary i
  · exact (here.boundary boundary).offset_le (there.boundary boundary) forward
  · have still {l : Nat} (leads : s.LeadsTo i l) : l = i := leads.resolve_right fun moved => boundary moved.1
    rw [still here, still there]

theorem IsBoundary.eq_offset_sub_iff (here : s.IsBoundary i) (there : s.IsBoundary j) (forward : i ≤ j) {n : Nat} :
    n = s.offset j - s.offset i ↔ s.advance i n = j ∧ n ≤ (s.rest i).elements.length := by
  have before := here.offset_le there forward
  have within := there.offset_le_length
  have total := here.offset_add_length_rest
  have arrives := here.offset_advance n
  constructor
  · intro difference
    refine ⟨(here.advance n).eq_of_offset_eq there ?_, by omega⟩
    omega
  · intro ⟨meets, inside⟩
    rw [meets] at arrives
    omega

end Source

-- Takes the difference of the offsets at the two ends of a match. The alarm is raised if there is none, because the
-- offset of the stop is the smaller one.
def Parser.metered {α : Type} (alarm : Action (Memory χ) (Match α)) (p : Parser ε χ α) : Parser ε χ α := fun s i => do
  let m ← p s i
  if s.offset i ≤ s.offset m.stop then pure m else alarm

def Grammar.meter (alarm : ∀ α : Type, Action (Memory χ) (Match α)) (α : Type) (g : Grammar ε χ τ α) :
    Grammar ε χ τ α :=
  g.around (Parser.metered (alarm α))

namespace Invariant

def leading (s : Source ε) (i : Nat) : Invariant s χ where
  place j := s.LeadsTo i j
  memory _ := True
  failure _ := True
  place_next := .next
  endOfInput _ _ := trivial
  noMatch _ _ := trivial

theorem admits_leading (s : Source ε) (i : Nat) {α : Type} {g : Grammar ε χ τ α} (combinator : g.IsCombinator) :
    (leading s i).Admits g :=
  admits_of_forall (fun _ => trivial) (fun _ => trivial) combinator

theorem relates_meter [DecidableEq ε] {s : Source ε} {i : Nat} (alarm : ∀ α : Type, Action (Memory χ) (Match α))
    {call : ∀ k, Parser ε χ (τ k)} {α : Type} {g : Grammar ε χ τ α} {q : Parser ε χ α}
    (related : (leading s i).link.Relates (g.parserWith call) q) :
    (leading s i).link.Relates ((g.meter alarm α).parserWith call) q := by
  intro j k here
  obtain ⟨rfl, leads⟩ := id here
  rw [Grammar.meter, Grammar.parserWith_around, Parser.metered, ← bind_pure (q s j)]
  apply (related here).bind
  intro a b spans
  have quiet : s.offset j ≤ s.offset a.stop := leads.offset_le spans.stop.2 spans.low_le
  rw [if_pos quiet]
  exact .pure spans

end Invariant

section Runs
variable [DecidableEq ε] {rules : Rules ε χ τ} {α : Type} {g : Grammar ε χ τ α}

theorem leadsTo_stop (standard_rules : ∀ k, (rules k).Standard) (standard : g.Standard) (depth : Nat) {s : Source ε}
    {i : Nat} {m m' : Memory χ} {a : Match α} (done : g.parser rules depth s i m = (.done a, m')) :
    s.LeadsTo i a.stop ∧ i ≤ a.stop := by
  have holds := (Invariant.leading s i).holds_run (fun k => (standard_rules k).mono (Invariant.admits_leading s i))
    (standard.mono (Invariant.admits_leading s i)) depth (.inl rfl) (m := m) trivial
  rw [done] at holds
  cases holds with
  | done _ forward place _ => exact ⟨place, forward⟩

theorem run_metered (standard_rules : ∀ k, (rules k).Standard) (standard : g.Standard) (depth : Nat) (s : Source ε)
    (i : Nat) (m : Memory χ) (alarm : ∀ α : Type, Action (Memory χ) (Match α)) :
    (g.rewrite (.meter alarm)).parser (rules.rewrite (.meter alarm)) depth s i m = g.parser rules depth s i m := by
  have admits {α : Type} {g : Grammar ε χ τ α} : g.IsCombinator → (Invariant.leading s i).Admits g :=
    Invariant.admits_leading s i
  exact (Invariant.leading s i).run_rewritten (Invariant.relates_meter alarm) (fun k => (standard_rules k).mono admits)
    (standard.mono admits) depth (.inl rfl) trivial

-- From any position whatsoever. The alarm may do anything at all, so runs that never differ never raise it, and a
-- trace around any part of the grammar has a difference to report.
theorem consumption_counted (standard_rules : ∀ k, (rules k).Standard) (standard : g.Standard) (depth : Nat)
    (s : Source ε) (i : Nat) (m : Memory χ) :
    (∀ a m', g.parser rules depth s i m = (.done a, m') →
      s.offset i ≤ s.offset a.stop ∧
        (s.IsBoundary i → ∀ n, n = s.offset a.stop - s.offset i ↔
          s.advance i n = a.stop ∧ n ≤ (s.rest i).elements.length)) ∧
      ∀ alarm : ∀ α : Type, Action (Memory χ) (Match α),
        (g.rewrite (.meter alarm)).parser (rules.rewrite (.meter alarm)) depth s i m =
          g.parser rules depth s i m := by
  refine ⟨?_, run_metered standard_rules standard depth s i m⟩
  intro a m' done
  obtain ⟨leads, forward⟩ := leadsTo_stop standard_rules standard depth done
  have start : s.LeadsTo i i := .inl rfl
  refine ⟨start.offset_le leads forward, ?_⟩
  intro boundary n
  exact boundary.eq_offset_sub_iff (leads.boundary boundary) forward

end Runs

namespace Format.Nesting

def possible : Grammar Char Nat Output (Option Nat) :=
  (Grammar.opt tallied).traced "possible" fun inner => toString (inner.getD 0)

theorem standard_possible : possible.Standard := ⟨trivial, trivial, standard_tallied⟩

end Format.Nesting

theorem consumption_counted_nested :
    let s := Source.text "é(())"
    let metered := (Format.Nesting.possible.rewrite (.meter fun _ => .cut)).parser
      (Format.Nesting.talliedRules.rewrite (.meter fun _ => .cut)) 3 s
    s.IsBoundary 2 ∧ ¬ s.IsBoundary 1 ∧ s.offset 2 ≤ s.offset 6 ∧ s.advance 2 4 = 6 ∧ 4 ≤ (s.rest 2).elements.length ∧
      metered 2 (.fresh 5) = (.done ⟨some 2, 2, 6⟩, ⟨7, #[.invoking "possible" 1, .invoking "group" 1,
        .invoking "group" 2, .invoking "group" 3, .failed "group" 3 "no match", .succeeded "group" 2 "1",
        .succeeded "group" 4 "2", .succeeded "possible" 4 "2"]⟩) ∧
      metered 1 (.fresh 5) = (.done ⟨none, 1, 1⟩, ⟨5, #[.invoking "possible" 0, .invoking "group" 0,
        .failed "group" 0 "unexpected end of input", .succeeded "possible" 0 "0"]⟩) := by
  intro s metered
  have counted (i : Nat) := consumption_counted (fun _ => Format.Nesting.standard_tallied)
    Format.Nesting.standard_possible 3 s i (.fresh 5)
  have boundary : s.IsBoundary 2 := rfl
  have ran : Format.Nesting.possible.parser Format.Nesting.talliedRules 3 (Source.text "é(())") 2 (.fresh 5) =
      (.done ⟨some 2, 2, 6⟩, ⟨7, #[.invoking "possible" 1, .invoking "group" 1,
        .invoking "group" 2, .invoking "group" 3, .failed "group" 3 "no match", .succeeded "group" 2 "1",
        .succeeded "group" 4 "2", .succeeded "possible" 4 "2"]⟩) := rfl
  have ran' : Format.Nesting.possible.parser Format.Nesting.talliedRules 3 (Source.text "é(())") 1 (.fresh 5) =
      (.done ⟨none, 1, 1⟩, ⟨5, #[.invoking "possible" 0, .invoking "group" 0,
        .failed "group" 0 "unexpected end of input", .succeeded "possible" 0 "0"]⟩) := rfl
  obtain ⟨forward, exact⟩ := (counted 2).1 _ _ ran
  obtain ⟨arrives, inside⟩ := (exact boundary 4).mp rfl
  refine ⟨boundary, by decide, forward, arrives, inside, ?_, ?_⟩
  · exact ((counted 2).2 _).trans ran
  · exact ((counted 1).2 _).trans ran'

end Descent
