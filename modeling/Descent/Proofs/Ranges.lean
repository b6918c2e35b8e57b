import Descent.Proofs.Repetition.Laws
import Descent.Proofs.Sequences.Chains
import Mathlib.Data.List.Chain

namespace Descent
variable {ε χ α β γ δ η : Type}

def Source.between (s : Source ε) (i j : Nat) : List ε := (s.rest i).elements.take (s.offset j - s.offset i)

structure InOrder (joint : Match α → Match α → Prop) (i : Nat) (found : List (Match α)) (j : Nat) : Prop where
  none : found = [] → j = i
  first : ∀ a ∈ found.head?, a.start = i
  joints : found.IsChain joint
  last : ∀ a ∈ found.getLast?, a.stop = j

structure Tiles (s : Source ε) (i : Nat) (found : List (Match α)) (j : Nat) : Prop
    extends InOrder (fun a b => b.start = a.stop) i found j where
  boundary : s.IsBoundary j
  forward : i ≤ j
  pieces : (found.map fun a => s.between a.start a.stop).flatten = s.between i j

section Order
variable {s : Source ε} {i j k : Nat} {found : List (Match α)} {a : Match α}

theorem Source.between_self (s : Source ε) (i : Nat) : s.between i i = [] := by
  rw [between, Nat.sub_self, List.take_zero]

theorem Source.IsBoundary.between_append (first : s.IsBoundary i) (middle : s.IsBoundary j) (last : s.IsBoundary k)
    (before : i ≤ j) (behind : j ≤ k) : s.between i j ++ s.between j k = s.between i k := by
  have fewer := first.offset_le middle before
  have more := middle.offset_le last behind
  have total : s.offset k - s.offset i = (s.offset j - s.offset i) + (s.offset k - s.offset j) := by omega
  have onward : s.offset j = s.offset i + (s.offset j - s.offset i) := by omega
  simp only [between, elements_rest, first.suffix_eq_drop, middle.suffix_eq_drop]
  rw [total, List.take_add, List.drop_drop, ← onward]

theorem InOrder.concat {joint : Match α → Match α → Prop} (order : InOrder joint i found j)
    (first : found = [] → a.start = i) (joined : ∀ b ∈ found.getLast?, joint b a) :
    InOrder joint i (found ++ [a]) a.stop where
  none := fun empty => absurd empty (List.concat_ne_nil _ _)
  first := by
    cases found with
    | nil => simpa using first rfl
    | cons b found => exact order.first
  joints := by
    rw [List.isChain_append]
    refine ⟨order.joints, List.isChain_singleton a, ?_⟩
    intro b last c behind
    cases behind
    exact joined b last
  last := by simp

theorem Tiles.nil (boundary : s.IsBoundary i) : Tiles (α := α) s i [] i where
  none := fun _ => rfl
  first := nofun
  joints := List.isChain_nil
  last := nofun
  boundary := boundary
  forward := Nat.le_refl i
  pieces := (s.between_self i).symm

theorem Tiles.concat (tiles : Tiles s i found j) (boundary : s.IsBoundary i) (whole : a.Extends s j) :
    Tiles s i (found ++ [a]) a.stop where
  toInOrder := by
    refine tiles.toInOrder.concat ?_ ?_
    · intro empty
      rw [whole.start, tiles.none empty]
    · intro b last
      rw [whole.start, tiles.last b last]
  boundary := whole.boundary
  forward := Nat.le_trans tiles.forward whole.forward
  pieces := by
    rw [List.map_append, List.flatten_append, tiles.pieces, List.map_singleton, List.flatten_singleton, whole.start]
    exact boundary.between_append tiles.boundary whole.boundary tiles.forward whole.forward

end Order

namespace Parser

def ShowsRange (p : Parser ε χ (Match α)) (s : Source ε) : Prop :=
  ∀ ⦃i : Nat⦄ ⦃m m' : Memory χ⦄ ⦃c : Match (Match α)⦄, s.IsBoundary i → p s i m = (.done c, m') →
    c.output.Extends s i ∧ c.stop = c.output.stop

-- Items of a list with their ranges, and between each two of them a separator which fills the gap. Each of them ran
-- where the one before stopped, in the memory that it left.
inductive Alternates (p : Parser ε χ α) (separator : Parser ε χ β) (s : Source ε) (i : Nat) (m : Memory χ) :
    List (Match α) → Nat → Memory χ → Prop where
  | first {a : Match α} {m₁ : Memory χ} (item : p s i m = (.done a, m₁)) (whole : a.Extends s i) :
      Alternates p separator s i m [a] a.stop m₁
  | next {found : List (Match α)} {j : Nat} {b : Match β} {a : Match α} {m₁ m₂ m₃ : Memory χ}
      (before : Alternates p separator s i m found j m₁) (gap : separator s j m₁ = (.done b, m₂))
      (filled : b.Extends s j) (item : p s b.stop m₂ = (.done a, m₃)) (whole : a.Extends s b.stop) :
      Alternates p separator s i m (found ++ [a]) a.stop m₃

section Ranges
variable {p : Parser ε χ α} {q : Parser ε χ (Match α)} {separator : Parser ε χ β} {s : Source ε} {i j k : Nat}
  {m m' m₁ m₂ : Memory χ}

theorem exists_of_ranged {c : Match (Match α)} (done : p.ranged s i m = (.done c, m')) :
    ∃ a, p s i m = (.done a, m') ∧ c = ⟨a, a.start, a.stop⟩ := by
  obtain ⟨a, m₁, ran, ends⟩ := Action.bind_eq_done done
  cases ends
  exact ⟨a, ran, rfl⟩

theorem KeepsRange.showsRange (keeps : p.KeepsRange s) : p.ranged.ShowsRange s := by
  intro i m m' c boundary done
  obtain ⟨a, ran, rfl⟩ := exists_of_ranged done
  exact ⟨keeps boundary ran, rfl⟩

theorem Reaches.tiles {least most : Nat} {found : List (Match (Match α))} (shows : q.ShowsRange s)
    (boundary : s.IsBoundary i) (reaches : Reaches q least most s i m found j m₁) :
    Tiles s i (found.map Match.output) j := by
  induction reaches with
  | start => exact .nil boundary
  | next before goesOn done ih =>
    obtain ⟨whole, ends⟩ := shows ih.boundary done
    rw [List.map_append, ends]
    exact ih.concat boundary whole

theorem AllMatch.tiles {ps : List (Parser ε χ (Match α))} {places : List Nat} {as : List (Match α)}
    (shows : ∀ p ∈ ps, p.ShowsRange s) (boundary : s.IsBoundary i) (parts : AllMatch s i m ps places as j m₁) :
    Tiles s i as j := by
  induction parts with
  | none => exact .nil boundary
  | next before done ih =>
    rw [List.forall_mem_append, List.forall_mem_singleton] at shows
    have tiles := ih shows.1
    obtain ⟨whole, ends⟩ := shows.2 tiles.boundary done
    rw [ends]
    exact tiles.concat boundary whole

theorem exists_reaches {least most : Nat} {as : List α} (ran : p.repeated least most s i m = (.done ⟨as, k, j⟩, m')) :
    k = i ∧ ∃ found m₁, as = found.map Match.output ∧ Reaches p least most s i m found j m₁ := by
  obtain ⟨calls, reply, m'', outcome⟩ := exists_outcome p least most s i m
  obtain ⟨rfl, rfl⟩ := Prod.mk.inj (outcome.repeated_eq.symm.trans ran)
  cases outcome with
  | ended ordered reaches ends => exact ⟨rfl, _, _, rfl, reaches⟩
  | sufficed ordered reaches goesOn failed enough => exact ⟨rfl, _, _, rfl, reaches⟩

theorem exists_allMatch {ps : List (Parser ε χ α)} {as : List α} (ran : chain ps s i m = (.done ⟨as, k, j⟩, m')) :
    k = i ∧ ∃ places, AllMatch s i m ps places as j m' := by
  obtain ⟨places, reply, m'', chained⟩ := exists_chained ps s i m
  obtain ⟨rfl, rfl⟩ := Prod.mk.inj (chained.chain_eq.symm.trans ran)
  cases chained with
  | matched parts => exact ⟨rfl, places, parts⟩

theorem tiles_of_repeated {least most : Nat} {as : List (Match α)} (keeps : p.KeepsRange s) (boundary : s.IsBoundary i)
    (ran : p.ranged.repeated least most s i m = (.done ⟨as, k, j⟩, m')) : k = i ∧ Tiles s i as j := by
  obtain ⟨start, found, m₁, rfl, reaches⟩ := exists_reaches ran
  exact ⟨start, reaches.tiles keeps.showsRange boundary⟩

theorem tiles_of_chain {ps : List (Parser ε χ α)} {as : List (Match α)} (keeps : ∀ p ∈ ps, p.KeepsRange s)
    (boundary : s.IsBoundary i) (ran : chain (ps.map ranged) s i m = (.done ⟨as, k, j⟩, m')) :
    k = i ∧ Tiles s i as j := by
  obtain ⟨start, places, parts⟩ := exists_allMatch ran
  refine ⟨start, parts.tiles ?_ boundary⟩
  rw [List.forall_mem_map]
  exact fun p member => (keeps p member).showsRange

namespace Alternates
variable {found : List (Match α)}

theorem boundary (alternates : Alternates p separator s i m found j m₁) : s.IsBoundary j := by
  cases alternates with
  | first item whole => exact whole.boundary
  | next before gap filled item whole => exact whole.boundary

theorem ne_nil (alternates : Alternates p separator s i m found j m₁) : found ≠ [] := by
  cases alternates with
  | first item whole => exact List.cons_ne_nil _ _
  | next before gap filled item whole => exact List.concat_ne_nil _ _

theorem inOrder (alternates : Alternates p separator s i m found j m₁) :
    InOrder (fun a b => a.stop ≤ b.start) i found j := by
  induction alternates with
  | first item whole =>
    exact { none := nofun, first := by simpa using whole.start, joints := List.isChain_singleton _, last := by simp }
  | next before gap filled item whole ih =>
    refine ih.concat (fun empty => absurd empty before.ne_nil) ?_
    intro b last
    rw [ih.last b last, whole.start]
    exact filled.forward

theorem of_reaches {least most : Nat} {pairs : List (Match (Match α))} (keeps : p.KeepsRange s)
    (keeps' : separator.KeepsRange s) (before : Alternates p separator s i m found j m₁)
    (reaches : Reaches (ignoreThen separator p.ranged) least most s j m₁ pairs k m₂) :
    Alternates p separator s i m (found ++ pairs.map Match.output) k m₂ := by
  induction reaches with
  | start => rwa [List.map_nil, List.append_nil]
  | next _ goesOn done ih =>
    obtain ⟨b, m₁, gap, behind⟩ := Action.bind_eq_done done
    obtain ⟨c, m₂, ranged, ends⟩ := Action.bind_eq_done behind
    cases ends
    obtain ⟨a, item, rfl⟩ := exists_of_ranged ranged
    have filled := keeps' ih.boundary gap
    rw [List.map_append, ← List.append_assoc]
    exact .next ih gap filled item (keeps filled.boundary item)

end Alternates

theorem alternates_of_separatedBy1 {as : List (Match α)} (keeps : p.KeepsRange s) (keeps' : separator.KeepsRange s)
    (boundary : s.IsBoundary i) (ran : separatedBy1 p.ranged separator s i m = (.done ⟨as, k, j⟩, m')) :
    k = i ∧ ∃ m₁, Alternates p separator s i m as j m₁ := by
  rw [separatedBy1, prepend_eq_andThen] at ran
  obtain ⟨c, m₁, first, behind⟩ := Action.bind_eq_done ran
  obtain ⟨rest, m₂, many, ends⟩ := Action.bind_eq_done behind
  cases ends
  obtain ⟨a, item, rfl⟩ := exists_of_ranged first
  obtain ⟨_, pairs, m₃, outputs, reaches⟩ := exists_reaches many
  have whole := keeps boundary item
  have alternates := Alternates.of_reaches keeps keeps' (.first item whole) reaches
  rw [← outputs] at alternates
  exact ⟨whole.start, m₃, alternates⟩

end Ranges

section Dropped

theorem map_output_ranged (p : Parser ε χ α) : p.ranged.map Match.output = p := by
  funext s i
  simp only [map, ranged, bind_assoc, pure_bind]
  exact bind_pure (p s i)

theorem handle_map (p : Parser ε χ α) (f : α → β) (s : Source ε) (i : Nat) (done : Match β → Action (Memory χ) γ)
    (failed : Failure → Action (Memory χ) γ) :
    (p.map f s i).handle done failed = (p s i).handle (fun a => done (a.map f)) failed := by
  rw [map, Action.bind_eq_handle, Action.handle_handle]
  rfl

-- By induction on the matches that are still allowed.
theorem collect_map (p : Parser ε χ α) (f : α → β) (endless : Bool) (s : Source ε) (left need i : Nat) :
    (p.map f).collect endless s left need [] i =
      p.collect endless s left need [] i >>= fun r => pure (r.1.map f, r.2) := by
  induction left generalizing need i with
  | zero => rfl
  | succ left ih =>
    rw [collect_nil_succ, collect_nil_succ, handle_map, Action.bind_eq_handle, Action.handle_handle]
    congr 1
    · funext a
      rw [← Action.bind_eq_handle, ih]
      by_cases stalled : (a.isZeroWidth && endless && need ≤ 1) = true
      · rw [if_pos stalled]
        exact if_pos stalled
      · rw [if_neg stalled]
        refine (if_neg stalled).trans ?_
        simp only [bind_assoc, pure_bind]
        rfl
    · funext e
      split <;> rfl

theorem repeated_map (p : Parser ε χ α) (f : α → β) (least most : Nat) :
    (p.map f).repeated least most = (p.repeated least most).map (List.map f) := by
  funext s i
  by_cases crossed : most < least
  · simp only [map, repeated, if_pos crossed]
    rfl
  · have ordered := Nat.le_of_not_lt crossed
    have mapped : (p.repeated least most).map (List.map f) s i =
        p.repeated least most s i >>= fun a => pure (a.map (List.map f)) := rfl
    rw [mapped, repeated_of_le _ ordered, repeated_of_le _ ordered, collect_map]
    simp only [bind_assoc, pure_bind]
    rfl

theorem outputs_map (f : α → β) (s : Source ε) (ps : List (Parser ε χ α)) (i : Nat) :
    outputs s (ps.map (Parser.map f)) i = outputs s ps i >>= fun r => pure (r.1.map f, r.2) := by
  induction ps generalizing i with
  | nil => rfl
  | cons p ps ih =>
    rw [List.map_cons, outputs_cons, outputs_cons]
    simp only [map, bind_assoc, pure_bind, ih, Match.map, List.map_cons]

theorem chain_map (f : α → β) (ps : List (Parser ε χ α)) : chain (ps.map (Parser.map f)) = (chain ps).map (List.map f) := by
  funext s i
  simp only [chain, outputs_map, map, bind_assoc, pure_bind]
  rfl

theorem andThen_map_map (f : γ → δ → η) (g : α → γ) (h : β → δ) (p : Parser ε χ α) (q : Parser ε χ β) :
    andThen f (p.map g) (q.map h) = andThen (fun a b => f (g a) (h b)) p q := by
  simp only [andThen_eq_flatMap, flatMap_map, map_map]

theorem ignoreThen_map (f : α → β) (q : Parser ε χ γ) (p : Parser ε χ α) :
    ignoreThen q (p.map f) = (ignoreThen q p).map f := by
  simp only [ignoreThen_eq_flatMap, map_flatMap]

theorem separatedBy1_map (p : Parser ε χ α) (f : α → β) (separator : Parser ε χ γ) :
    separatedBy1 (p.map f) separator = (separatedBy1 p separator).map (List.map f) := by
  simp only [separatedBy1, many, ignoreThen_map, repeated_map, prepend_eq_andThen, andThen_map_map, map_andThen,
    List.map_cons]

theorem repeated_ranged (p : Parser ε χ α) (least most : Nat) :
    (p.ranged.repeated least most).map (List.map Match.output) = p.repeated least most := by
  rw [← repeated_map, map_output_ranged]

theorem chain_ranged (ps : List (Parser ε χ α)) : (chain (ps.map ranged)).map (List.map Match.output) = chain ps := by
  rw [← chain_map, List.map_map]
  congr 1
  exact List.map_id'' map_output_ranged ps

theorem separatedBy1_ranged (p : Parser ε χ α) (separator : Parser ε χ β) :
    (separatedBy1 p.ranged separator).map (List.map Match.output) = separatedBy1 p separator := by
  rw [← separatedBy1_map, map_output_ranged]

end Dropped

-- Of a repetition and of a chain the items are side by side, and in a list with separators these are in between. The
-- last equations are of parsers: no range, no failure and no memory tells whether the ranges were asked for.
theorem ranges_tile {p : Parser ε χ α} {s : Source ε} {i : Nat} (keeps : p.KeepsRange s) (boundary : s.IsBoundary i)
    (m : Memory χ) :
    (∀ least most as k j m', p.ranged.repeated least most s i m = (.done ⟨as, k, j⟩, m') → k = i ∧ Tiles s i as j) ∧
      (∀ ps : List (Parser ε χ α), (∀ p ∈ ps, p.KeepsRange s) → ∀ as k j m',
        chain (ps.map ranged) s i m = (.done ⟨as, k, j⟩, m') → k = i ∧ Tiles s i as j) ∧
      (∀ {β : Type} (separator : Parser ε χ β), separator.KeepsRange s → ∀ as k j m',
        separatedBy1 p.ranged separator s i m = (.done ⟨as, k, j⟩, m') →
          k = i ∧ as ≠ [] ∧ InOrder (fun a b => a.stop ≤ b.start) i as j ∧
            ∃ m₁, Alternates p separator s i m as j m₁) ∧
      (∀ least most, (p.ranged.repeated least most).map (List.map Match.output) = p.repeated least most) ∧
      (∀ ps : List (Parser ε χ α), (chain (ps.map ranged)).map (List.map Match.output) = chain ps) ∧
      ∀ {β : Type} (separator : Parser ε χ β),
        (separatedBy1 p.ranged separator).map (List.map Match.output) = separatedBy1 p separator := by
  refine ⟨?_, ?_, ?_, repeated_ranged p, chain_ranged, separatedBy1_ranged p⟩
  · intro least most as k j m' ran
    exact tiles_of_repeated keeps boundary ran
  · intro ps keeps as k j m' ran
    exact tiles_of_chain keeps boundary ran
  · intro β separator keeps' as k j m' ran
    obtain ⟨start, m₁, alternates⟩ := alternates_of_separatedBy1 keeps keeps' boundary ran
    exact ⟨start, alternates.ne_nil, alternates.inOrder, m₁, alternates⟩

end Parser

def Grammar.fewLetters : Grammar Char Nat (fun _ : Empty => Unit) (List Char) :=
  ((satisfy Char.isAlpha).mapContext fun c k => (c, k + 1)).repeated 0 2

theorem Grammar.standard_fewLetters : fewLetters.Standard := ⟨trivial, trivial, trivial, trivial⟩

theorem Parser.ranges_tile_letters :
    let p := Grammar.fewLetters.parser Empty.rec 0
    let comma : Parser Char Nat Char := primitive (.the ',')
    let s := Source.text "éab,,ç!"
    p.KeepsRange s ∧ (∀ q ∈ [p, p], q.KeepsRange s) ∧ comma.KeepsRange s ∧ s.IsBoundary 2 ∧
      p.ranged.repeated 2 3 s 2 (.fresh 0) =
        (.done ⟨[⟨['a', 'b'], 2, 4⟩, ⟨[], 4, 4⟩, ⟨[], 4, 4⟩], 2, 4⟩, .fresh 2) ∧
      Tiles s 2 [(⟨['a', 'b'], 2, 4⟩ : Match (List Char)), ⟨[], 4, 4⟩, ⟨[], 4, 4⟩] 4 ∧
      chain [p.ranged, p.ranged] s 2 (.fresh 0) = (.done ⟨[⟨['a', 'b'], 2, 4⟩, ⟨[], 4, 4⟩], 2, 4⟩, .fresh 2) ∧
      Tiles s 2 [(⟨['a', 'b'], 2, 4⟩ : Match (List Char)), ⟨[], 4, 4⟩] 4 ∧
      separatedBy1 p.ranged comma s 2 (.fresh 0) =
        (.done ⟨[⟨['a', 'b'], 2, 4⟩, ⟨[], 5, 5⟩, ⟨[], 6, 6⟩], 2, 6⟩, .fresh 2) ∧
      InOrder (fun a b => a.stop ≤ b.start) 2 [(⟨['a', 'b'], 2, 4⟩ : Match (List Char)), ⟨[], 5, 5⟩, ⟨[], 6, 6⟩] 6 ∧
      ∃ m, Alternates p comma s 2 (.fresh 0) [⟨['a', 'b'], 2, 4⟩, ⟨[], 5, 5⟩, ⟨[], 6, 6⟩] 6 m := by
  intro p comma s
  have keeps : p.KeepsRange s := Grammar.keepsRange_parser Empty.rec Grammar.standard_fewLetters 0 s
  have keeps' : comma.KeepsRange s := keepsRange_primitive _ s
  have both : ∀ q ∈ [p, p], q.KeepsRange s := by simpa using keeps
  have boundary : s.IsBoundary 2 := rfl
  have repetition : p.ranged.repeated 2 3 s 2 (.fresh 0) =
      (.done ⟨[⟨['a', 'b'], 2, 4⟩, ⟨[], 4, 4⟩, ⟨[], 4, 4⟩], 2, 4⟩, .fresh 2) := rfl
  have sequence : chain [p.ranged, p.ranged] s 2 (.fresh 0) =
      (.done ⟨[⟨['a', 'b'], 2, 4⟩, ⟨[], 4, 4⟩], 2, 4⟩, .fresh 2) := rfl
  have list : separatedBy1 p.ranged comma s 2 (.fresh 0) =
      (.done ⟨[⟨['a', 'b'], 2, 4⟩, ⟨[], 5, 5⟩, ⟨[], 6, 6⟩], 2, 6⟩, .fresh 2) := rfl
  obtain ⟨repeats, chains, lists, _⟩ := ranges_tile keeps boundary (.fresh 0)
  obtain ⟨_, _, inOrder, alternates⟩ := lists comma keeps' _ _ _ _ list
  exact ⟨keeps, both, keeps', boundary, repetition, (repeats _ _ _ _ _ _ repetition).2, sequence,
    (chains [p, p] both _ _ _ _ sequence).2, list, inOrder, alternates⟩

end Descent
