import Descent.Format.Nesting
import Descent.Proofs.Link

namespace Descent
variable {ε χ ι : Type} {τ : ι → Type}

def Failure.move (place : Nat → Nat) (e : Failure) : Failure := .mk e.reason (place e.position) e.cause?

def Match.move {α : Type} (place : Nat → Nat) (a : Match α) : Match α := ⟨a.output, place a.start, place a.stop⟩

def Reply.move {α : Type} (place : Nat → Nat) : Reply (Match α) → Reply (Match α)
  | done a => done (a.move place)
  | failed e => failed (e.move place)
  | unfinished => unfinished

-- What a parser can see of `s` from its boundaries it sees of `t` from their places.
structure Source.Embeds (s t : Source ε) (place : Nat → Nat) : Prop where
  injective : ∀ {i j}, s.IsBoundary i → s.IsBoundary j → place i = place j → i = j
  elementAt? : ∀ {i}, s.IsBoundary i → t.elementAt? (place i) = (s.elementAt? i).map (Prod.map id place)
  isEnd : ∀ {i}, s.IsBoundary i → t.isEnd (place i) = s.isEnd i

namespace Link
variable {s t : Source ε} {place : Nat → Nat}

def along (embeds : s.Embeds t place) : Link s t χ χ where
  place i j := s.IsBoundary i ∧ j = place i
  memory m n := m.context = n.context
  failure e f := f = e.move place
  place_eq_iff := by
    intro i j i' j' here there
    obtain ⟨boundary, rfl⟩ := here
    obtain ⟨boundary', rfl⟩ := there
    exact ⟨congrArg place, embeds.injective boundary boundary'⟩
  element := by
    intro i j here
    obtain ⟨boundary, rfl⟩ := here
    rw [embeds.elementAt? boundary]
    cases found : s.elementAt? i with
    | none => exact .none
    | some step => exact .some ⟨rfl, (Source.boundary_of_elementAt? found).2.1, rfl⟩
  isEnd_eq := by
    intro i j here
    obtain ⟨boundary, rfl⟩ := here
    exact (embeds.isEnd boundary).symm
  endOfInput := by
    intro i j here _
    obtain ⟨_, rfl⟩ := here
    rfl
  noMatch := by
    intro i j here _
    obtain ⟨_, rfl⟩ := here
    rfl

variable {embeds : s.Embeds t place}

theorem move_of_replies {i j : Nat} {α : Type} {x y : Reply (Match α) × Memory χ} (there : j = place i)
    (replies : (along embeds).Replies ((along embeds : Link s t χ χ).Spans i j i) x y) :
    y.1 = x.1.move place ∧ y.2.context = x.2.context := by
  cases replies with
  | @done a b m n spans memory =>
    have starts : b.start = place a.start := by rw [spans.start_left, spans.start_right, there]
    have moved : b = a.move place := Match.ext spans.output.symm starts spans.stop.2
    exact ⟨congrArg Reply.done moved, Eq.symm memory⟩
  | failed failure memory => exact ⟨congrArg Reply.failed failure, Eq.symm memory⟩
  | unfinished memory => exact ⟨rfl, Eq.symm memory⟩

end Link

-- Shows no position in an output, and rejects no match with a failure that has its own place.
def Grammar.IsPlaceless {α : Type} : Grammar ε χ τ α → Prop
  | primitive .position | ranged _ | custom .. => False
  | tryMap f _ => ∀ v e, f v ≠ .error (.failure e)
  | _ => True

theorem Link.fits_places_along {s t : Source ε} {place : Nat → Nat} (embeds : s.Embeds t place) {α : Type}
    {g : Grammar ε χ τ α} (placeless : g.IsPlaceless) : (along embeds : Link s t χ χ).toPlaces.Fits g := by
  cases g with
  | primitive p =>
    cases p with
    | fail reason =>
      intro i j here
      obtain ⟨_, rfl⟩ := here
      rfl
    | position => exact placeless.elim
    | _ => trivial
  | tryMap f p =>
    intro v fault i j rejected here
    obtain ⟨_, rfl⟩ := here
    cases fault with
    | failure e => exact absurd rejected (placeless v e)
    | _ => rfl
  | ranged p => exact placeless.elim
  | choice ps =>
    intro _ i j here
    obtain ⟨_, rfl⟩ := here
    rfl
  | notAhead p =>
    intro i j here
    obtain ⟨_, rfl⟩ := here
    rfl
  | repeated least most p =>
    intro _ i j here
    obtain ⟨_, rfl⟩ := here
    rfl
  | _ => trivial

theorem Link.keeps_along {s t : Source ε} {place : Nat → Nat} (embeds : s.Embeds t place) {α : Type}
    {g : Grammar ε χ τ α} (placeless : g.IsPlaceless) : (along embeds).Keeps g := by
  cases g with
  | mapContext f p =>
    intro v m n same
    have same : m.context = n.context := same
    rw [same]
    exact ⟨rfl, rfl⟩
  | traced tag render p => exact ⟨fun _ same => same, fun _ _ same => same, fun _ same => same⟩
  | custom parts body => exact placeless.elim
  | _ => trivial

theorem Link.fits_along {s t : Source ε} {place : Nat → Nat} (embeds : s.Embeds t place) {α : Type}
    {g : Grammar ε χ τ α} (placeless : g.IsPlaceless) : (along embeds).Fits g :=
  ⟨fits_places_along embeds placeless, keeps_along embeds placeless⟩

section Runs
variable [DecidableEq ε] {rules : Rules ε χ τ} {α : Type} {g : Grammar ε χ τ α} {s t : Source ε}

theorem run_of_embeds {place : Nat → Nat} (embeds : s.Embeds t place)
    (placeless_rules : ∀ k, (rules k).Forall Grammar.IsPlaceless) (placeless : g.Forall Grammar.IsPlaceless)
    (depth : Nat) {i : Nat} (boundary : s.IsBoundary i) (m : Memory χ) :
    (g.parser rules depth t (place i) m).1 = (g.parser rules depth s i m).1.move place ∧
      (g.parser rules depth t (place i) m).2.context = (g.parser rules depth s i m).2.context := by
  have related := Link.relates_self (L := Link.along embeds)
    (fun k => (placeless_rules k).mono (Link.fits_along embeds)) (placeless.mono (Link.fits_along embeds)) depth
  exact Link.move_of_replies rfl (related ⟨boundary, rfl⟩ (rfl : m.context = m.context))

end Runs

theorem Source.embeds_slice (s : Source ε) : s.Embeds (slice s.elements) s.offset where
  injective := IsBoundary.eq_of_offset_eq
  elementAt? := by
    intro i boundary
    rw [elementAt?_slice]
    cases found : s.elements[s.offset i]? with
    | none =>
      have missing : s.elementAt? i = none := by rw [boundary.elementAt?_eq_getElem?, found]; rfl
      rw [missing]
      rfl
    | some e =>
      have step : s.elementAt? i = some (e, i + s.layout.size e) := by
        rw [boundary.elementAt?_eq_getElem?, found]
        rfl
      rw [step, Option.map_some, Option.map_some, Prod.map, offset_of_elementAt? step]
      rfl
  isEnd := by
    intro i boundary
    have ended := boundary.elementAt?_eq_none_iff
    rw [boundary.elementAt?_eq_getElem?, Option.map_eq_none_iff, List.getElem?_eq_none_iff] at ended
    rw [isEnd, stop_slice, Bool.eq_iff_iff, decide_eq_true_iff]
    exact ended

theorem Source.embeds_rest {s : Source ε} {i : Nat} (boundary : s.IsBoundary i) : (s.rest i).Embeds s (i + ·) where
  injective := fun _ _ same => Nat.add_left_cancel same
  elementAt? := by
    intro j _
    rw [elementAt?_eq, elementAt?_eq, boundary.suffix_add, Option.map_map]
    congr 1
    funext e
    exact Prod.ext rfl (Nat.add_assoc i j _)
  isEnd := by
    intro j _
    rw [isEnd, isEnd, boundary.stop_eq_add]
    exact decide_eq_decide.mpr Nat.add_le_add_iff_left

theorem text_run_eq_slice_run {rules : Rules Char χ τ} (placeless_rules : ∀ k, (rules k).Forall Grammar.IsPlaceless)
    {α : Type} {g : Grammar Char χ τ α} (placeless : g.Forall Grammar.IsPlaceless) (depth : Nat) {t : String}
    {i : Nat} (boundary : (Source.text t).IsBoundary i) (m : Memory χ) :
    (g.parser rules depth (Source.slice t.toList) ((Source.text t).offset i) m).1 =
        (g.parser rules depth (Source.text t) i m).1.move (Source.text t).offset ∧
      (g.parser rules depth (Source.slice t.toList) ((Source.text t).offset i) m).2.context =
        (g.parser rules depth (Source.text t) i m).2.context :=
  run_of_embeds (Source.text t).embeds_slice placeless_rules placeless depth boundary m

theorem Format.Nesting.placeless_group : group.Forall Grammar.IsPlaceless :=
  ⟨trivial, trivial, ⟨trivial, ⟨trivial, trivial⟩, trivial, trivial, trivial⟩, trivial, trivial⟩

theorem text_run_eq_slice_run_nested :
    (Format.Nesting.parser 3 (Source.slice ['é', '(', '(', ')', '(', ')', ')']) 1 (.fresh ())).1 =
      .done ⟨2, 1, 7⟩ := by
  have same := text_run_eq_slice_run (fun _ => Format.Nesting.placeless_group) Format.Nesting.placeless_group 3
    (show (Source.text "é(()())").IsBoundary 2 from rfl) (.fresh ())
  exact same.1.trans rfl

theorem run_eq_run_rest [DecidableEq ε] {rules : Rules ε χ τ}
    (placeless_rules : ∀ k, (rules k).Forall Grammar.IsPlaceless) {α : Type} {g : Grammar ε χ τ α}
    (placeless : g.Forall Grammar.IsPlaceless) (depth : Nat) {s : Source ε} {i : Nat}
    (boundary : s.IsBoundary i) (m : Memory χ) :
    (g.parser rules depth s i m).1 =
        (g.parser rules depth (s.rest i) (s.rest i).start m).1.move (i + ·) ∧
      (g.parser rules depth s i m).2.context =
        (g.parser rules depth (s.rest i) (s.rest i).start m).2.context :=
  run_of_embeds (Source.embeds_rest boundary) placeless_rules placeless depth Source.isBoundary_start m

theorem run_eq_run_rest_nested :
    (Format.Nesting.parser 3 (Source.text "é(()é") 2 (.fresh ())).1 = .failed (.noMatch 5) := by
  have same := run_eq_run_rest (fun _ => Format.Nesting.placeless_group) Format.Nesting.placeless_group 3
    (show (Source.text "é(()é").IsBoundary 2 from rfl) (.fresh ())
  exact same.1.trans rfl

end Descent
