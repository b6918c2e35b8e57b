import Descent.Proofs.Extent

namespace Descent
variable {ε χ ι α β γ δ : Type} {τ : ι → Type} {s : Source ε}

namespace Parser

def Anchored (p : Parser ε χ α) (s : Source ε) : Prop :=
  ∀ ⦃i : Nat⦄ ⦃m m' : Memory χ⦄ ⦃a : Match α⦄, p s i m = (.done a, m') → a.start = i

-- The same of one position. The contract of ranges asks it of boundaries.
def AnchoredAt (p : Parser ε χ α) (s : Source ε) (i : Nat) : Prop :=
  ∀ ⦃m m' : Memory χ⦄ ⦃a : Match α⦄, p s i m = (.done a, m') → a.start = i

theorem Anchored.anchoredAt {p : Parser ε χ α} (anchored : p.Anchored s) (i : Nat) : p.AnchoredAt s i :=
  fun _ _ _ done => anchored done

theorem KeepsRange.anchoredAt {p : Parser ε χ α} {i : Nat} (keeps : p.KeepsRange s) (boundary : s.IsBoundary i) :
    p.AnchoredAt s i :=
  fun _ _ _ done => (keeps boundary done).start

section Laws

theorem just_flatMap (v : α) (f : α → Parser ε χ β) (anchored : (f v).Anchored s) :
    (just v).flatMap f s = f v s := by
  funext i m
  have goesOn : (just v).flatMap f s i m = (f v s i >>= fun b => pure ((Match.zeroWidth v i).widen b)) m := rfl
  rw [goesOn, Action.bind_eq_handle]
  rcases ran : f v s i m with ⟨b | e | _, m'⟩
  · rw [Action.handle_of_done ran, Match.widen_of_start (anchored ran)]
    rfl
  · exact Action.handle_of_failed ran
  · exact Action.handle_of_unfinished ran

theorem flatMap_just (p : Parser ε χ α) : p.flatMap just = p := by
  funext s i
  exact bind_pure (p s i)

theorem flatMap_flatMap (p : Parser ε χ α) (f : α → Parser ε χ β) (g : β → Parser ε χ γ) :
    (p.flatMap f).flatMap g = p.flatMap fun a => (f a).flatMap g := by
  funext s i
  simp only [flatMap, Match.bind, bind_assoc, pure_bind]
  rfl

theorem flatMap_map (p : Parser ε χ α) (f : α → β) (g : β → Parser ε χ γ) :
    (p.map f).flatMap g = p.flatMap fun a => g (f a) := by
  funext s i
  simp only [flatMap, Match.bind, map, bind_assoc, pure_bind]
  rfl

theorem flatten_map (p : Parser ε χ α) (f : α → Parser ε χ β) : (p.map f).flatten = p.flatMap f :=
  flatMap_map p f id

theorem map_flatMap (p : Parser ε χ α) (f : α → Parser ε χ β) (g : β → γ) :
    (p.flatMap f).map g = p.flatMap fun a => (f a).map g := by
  funext s i
  simp only [flatMap, Match.bind, map, bind_assoc, pure_bind]
  rfl

theorem map_map (p : Parser ε χ α) (f : α → β) (g : β → γ) : (p.map f).map g = p.map fun a => g (f a) := by
  funext s i
  simp only [map, bind_assoc, pure_bind]
  rfl

theorem map_id (p : Parser ε χ α) : p.map (fun a => a) = p := by
  funext s i
  exact bind_pure (p s i)

end Laws

theorem andThen_eq_flatMap (f : α → β → γ) (p : Parser ε χ α) (q : Parser ε χ β) :
    andThen f p q = p.flatMap fun a => q.map (f a) := by
  funext s i
  exact andThen_eq_bind f p q s i

theorem pair_eq_flatMap (p : Parser ε χ α) (q : Parser ε χ β) : pair p q = p.flatMap fun a => q.map (Prod.mk a) :=
  andThen_eq_flatMap Prod.mk p q

theorem thenIgnore_eq_flatMap (p : Parser ε χ α) (q : Parser ε χ β) : thenIgnore p q = p.flatMap q.const :=
  andThen_eq_flatMap (fun a _ => a) p q

theorem ignoreThen_eq_flatMap (p : Parser ε χ α) (q : Parser ε χ β) : ignoreThen p q = p.flatMap fun _ => q := by
  rw [ignoreThen, andThen_eq_flatMap]
  simp only [map_id]

theorem triple_eq_flatMap (p : Parser ε χ α) (q : Parser ε χ β) (r : Parser ε χ γ) :
    triple p q r = p.flatMap fun a => q.flatMap fun b => r.map fun c => (a, b, c) := by
  simp only [triple, andThen_eq_flatMap, pair_eq_flatMap, map_flatMap, map_map]

theorem triple_eq_pair (p : Parser ε χ α) (q : Parser ε χ β) (r : Parser ε χ γ) :
    triple p q r = (pair (pair p q) r).map fun x => (x.1.1, x.1.2, x.2) := by
  simp only [triple_eq_flatMap, pair_eq_flatMap, flatMap_flatMap, flatMap_map, map_flatMap, map_map]

theorem delimitedBy_eq_flatMap (left : Parser ε χ α) (p : Parser ε χ β) (right : Parser ε χ γ) :
    delimitedBy left p right = left.flatMap fun _ => p.flatMap right.const := by
  rw [delimitedBy, ignoreThen_eq_flatMap, thenIgnore_eq_flatMap]

theorem delimitedBy_eq_triple (left : Parser ε χ α) (p : Parser ε χ β) (right : Parser ε χ γ) :
    delimitedBy left p right = (triple left p right).map fun x => x.2.1 := by
  rw [delimitedBy_eq_flatMap, triple_eq_flatMap]
  simp only [map_flatMap, map_map]
  rfl

theorem sequencing_laws :
    (∀ {α β : Type} (v : α) (f : α → Parser ε χ β) (s : Source ε), (f v).Anchored s →
      (just v).flatMap f s = f v s) ∧
    (∀ {α : Type} (p : Parser ε χ α), p.flatMap just = p) ∧
    (∀ {α β γ : Type} (p : Parser ε χ α) (f : α → Parser ε χ β) (g : β → Parser ε χ γ),
      (p.flatMap f).flatMap g = p.flatMap fun a => (f a).flatMap g) ∧
    (∀ {α β : Type} (p : Parser ε χ α) (f : α → Parser ε χ β), (p.map f).flatten = p.flatMap f) ∧
    ∀ {α β γ : Type} (p : Parser ε χ α) (q : Parser ε χ β) (r : Parser ε χ γ),
      (pair p q = p.flatMap fun a => q.map fun b => (a, b)) ∧
      (thenIgnore p q = p.flatMap fun a => q.map fun _ => a) ∧
      (ignoreThen p q = p.flatMap fun _ => q) ∧
      (triple p q r = p.flatMap fun a => q.flatMap fun b => r.map fun c => (a, b, c)) ∧
      triple p q r = (pair (pair p q) r).map (fun x => (x.1.1, x.1.2, x.2)) ∧
      (delimitedBy p q r = p.flatMap fun _ => q.flatMap fun b => r.map fun _ => b) ∧
      delimitedBy p q r = (triple p q r).map (fun x => x.2.1) ∧
      (surroundedBy q p = p.flatMap fun _ => q.flatMap fun b => p.map fun _ => b) := by
  refine ⟨fun v f s => just_flatMap v f, flatMap_just, flatMap_flatMap, flatten_map, ?_⟩
  intro α β γ p q r
  exact ⟨pair_eq_flatMap p q, thenIgnore_eq_flatMap p q, ignoreThen_eq_flatMap p q, triple_eq_flatMap p q r,
    triple_eq_pair p q r, delimitedBy_eq_flatMap p q r, delimitedBy_eq_triple p q r, delimitedBy_eq_flatMap p q p⟩

end Parser

def Invariant.anywhere (s : Source ε) : Invariant s χ where
  place _ := True
  memory _ := True
  failure _ := True
  place_next _ _ := trivial
  endOfInput _ _ := trivial
  noMatch _ _ := trivial

theorem Grammar.anchored_of_standard [DecidableEq ε] {rules : Rules ε χ τ} {g : Grammar ε χ τ α}
    (standard_rules : ∀ k, (rules k).Standard) (standard : g.Standard) (depth : Nat) (s : Source ε) :
    (g.parser rules depth).Anchored s := by
  intro i m m' a done
  have admits {β : Type} {g : Grammar ε χ τ β} (combinator : g.IsCombinator) :
      (Invariant.anywhere s : Invariant s χ).Admits g :=
    Invariant.admits_of_forall (fun _ => trivial) (fun _ => trivial) combinator
  have holds := (Invariant.anywhere s).holds_run (fun k => (standard_rules k).mono admits) (standard.mono admits) depth
    (i := i) trivial (m := m) trivial
  rw [done] at holds
  cases holds with
  | done start _ _ _ => exact start

theorem Parser.anchored_primitive [DecidableEq ε] (p : Primitive ε α) (s : Source ε) :
    (primitive p : Parser ε χ α).Anchored s := by
  let rules : Rules ε χ (fun _ : Empty => Unit) := Empty.rec
  have standard : (.primitive p : Grammar ε χ (fun _ : Empty => Unit) α).Standard := ⟨trivial, trivial⟩
  have anchored : (Grammar.parser rules 0 (.primitive p)).Anchored s :=
    Grammar.anchored_of_standard Empty.rec standard 0 s
  exact anchored

def Grammar.letters (n : Nat) : Grammar Char Nat (fun _ : Empty => Unit) (List Char) :=
  repeatedExactly n ((satisfy Char.isAlpha).mapContext fun c k => (c, k + 1))

theorem Grammar.standard_letters (n : Nat) : (letters n).Standard := ⟨trivial, trivial, trivial, trivial⟩

theorem Parser.sequencing_laws_letters :
    let letters (n : Nat) := (Grammar.letters n).parser Empty.rec 0
    let s := Source.text "éab(c)"
    (letters 2).Anchored s ∧
      (just 2).flatMap letters s 2 (.fresh 0) = (.done ⟨['a', 'b'], 2, 4⟩, .fresh 2) ∧
      delimitedBy (primitive (.the '(')) (letters 1) (primitive (.the ')')) s 4 (.fresh 2) =
        (.done ⟨['c'], 4, 7⟩, .fresh 3) := by
  intro letters s
  have anchored : (letters 2).Anchored s := Grammar.anchored_of_standard Empty.rec (Grammar.standard_letters 2) 0 s
  obtain ⟨unit, _, _, _, sequences⟩ := Parser.sequencing_laws (ε := Char) (χ := Nat)
  obtain ⟨_, _, _, _, _, delimited, _, _⟩ :=
    sequences (primitive (.the '(')) (letters 1) (primitive (.the ')'))
  refine ⟨anchored, ?_, ?_⟩
  · rw [unit 2 letters s anchored]
    rfl
  · rw [delimited]
    rfl

end Descent
