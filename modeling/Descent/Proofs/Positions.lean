import Descent.Source.Boundary
import Mathlib.Order.Hom.Basic

namespace Descent.Source
variable {ε : Type} {s : Source ε} {i j : Nat}

theorem offset_length_take (s : Source ε) (n : Nat) :
    s.offset (s.layout.length (s.elements.take n)) = min n s.elements.length := by
  rw [offset_of_split (List.take_append_drop n s.elements).symm, List.length_take]

theorem walk_of_found {e : ε} {next : Nat} (found : s.elementAt? i = some (e, next)) (n : Nat) :
    s.walk i (n + 1) = s.walk next n := by
  simp only [walk, found]

theorem walk_of_missing (missing : s.elementAt? i = none) (n : Nat) : s.walk i n = i := by
  cases n with
  | zero => rfl
  | succ n => simp only [walk, missing]

namespace IsBoundary

-- By induction on the steps. Each of them passes the first of the elements that are left, if there is one.
theorem walk_eq (boundary : s.IsBoundary i) (n : Nat) :
    s.walk i n = s.layout.length (s.elements.take (s.offset i + n)) := by
  induction n generalizing i with
  | zero => rw [walk, Nat.add_zero, boundary.length_take]
  | succ n ih =>
    cases found : s.elementAt? i with
    | none =>
      have none := boundary.elementAt?_eq_getElem?
      rw [found, eq_comm, Option.map_eq_none_iff, List.getElem?_eq_none_iff] at none
      have all : s.elements.take (s.offset i + (n + 1)) = s.elements.take (s.offset i) := by
        rw [List.take_of_length_le none, List.take_of_length_le (Nat.le_add_right_of_le none)]
      rw [walk_of_missing found, all, boundary.length_take]
    | some step =>
      obtain ⟨e, next⟩ := step
      have behind := (boundary_of_elementAt? found).2.1
      rw [walk_of_found found, ih behind, offset_of_elementAt? found, Nat.add_right_comm, Nat.add_assoc]

theorem offset_le_length (boundary : s.IsBoundary i) : s.offset i ≤ s.elements.length :=
  Nat.le_of_add_right_le (Nat.le_of_eq boundary.offset_add_length_rest)

-- In an indexed source the sum may stop short at any number that no position exceeds.
theorem walk_eq_min (boundary : s.IsBoundary i) (indexed : s.layout = .indexed) {greatest : Nat}
    (fits : s.stop ≤ greatest) (n : Nat) : s.walk i n = min (min (i + n) greatest) s.stop := by
  have all : s.stop = s.elements.length := by rw [stop_eq, indexed, Layout.length_indexed]
  have before := boundary.length_take
  rw [indexed, Layout.length_indexed, List.length_take] at before
  rw [boundary.walk_eq, indexed, Layout.length_indexed, List.length_take]
  have inside := boundary.offset_le_length
  omega

theorem advance_eq_walk (boundary : s.IsBoundary i) (n : Nat) : s.advance i n = s.walk i n := by
  unfold advance
  split
  · rename_i indexed
    rw [boundary.walk_eq_min indexed (Nat.le_add_left s.stop (i + n)) n, Nat.min_eq_left (Nat.le_add_right _ _)]
  · rfl

theorem advance_eq (boundary : s.IsBoundary i) (n : Nat) :
    s.advance i n = s.layout.length (s.elements.take (s.offset i + n)) := by
  rw [boundary.advance_eq_walk, boundary.walk_eq]

theorem advance (boundary : s.IsBoundary i) (n : Nat) : s.IsBoundary (s.advance i n) :=
  isBoundary_iff.mpr ⟨_, _, (List.take_append_drop (s.offset i + n) s.elements).symm, (boundary.advance_eq n).symm⟩

theorem offset_advance (boundary : s.IsBoundary i) (n : Nat) :
    s.offset (s.advance i n) = min (s.offset i + n) s.elements.length := by
  rw [boundary.advance_eq, offset_length_take]

theorem advance_advance (boundary : s.IsBoundary i) (m n : Nat) :
    s.advance (s.advance i m) n = s.advance i (m + n) := by
  apply ((boundary.advance m).advance n).eq_of_offset_eq (boundary.advance (m + n))
  rw [(boundary.advance m).offset_advance, boundary.offset_advance, boundary.offset_advance]
  omega

theorem offset_le_iff (here : s.IsBoundary i) (there : s.IsBoundary j) : s.offset i ≤ s.offset j ↔ i ≤ j := by
  refine ⟨fun before => ?_, here.offset_le there⟩
  exact Nat.le_of_not_lt fun behind => Nat.not_lt_of_le before (there.offset_lt here behind)

theorem elementAt?_eq_head? (boundary : s.IsBoundary i) :
    s.elementAt? i = (s.rest i).elements.head?.map fun e => (e, s.advance i 1) := by
  have first := s.elementAt?_eq i
  cases found : s.elementAt? i with
  | none =>
    rw [found, eq_comm, Option.map_eq_none_iff] at first
    rw [elements_rest, first, Option.map_none]
  | some step =>
    obtain ⟨e, next⟩ := step
    rw [found, eq_comm, Option.map_eq_some_iff] at first
    obtain ⟨e, first, same⟩ := first
    cases same
    rw [elements_rest, first, Option.map_some, boundary.advance_eq_walk, walk_of_found found]
    rfl

end IsBoundary

theorem offset_start (s : Source ε) : s.offset s.start = 0 :=
  offset_of_split (List.nil_append s.elements).symm

theorem isBoundary_advance_start (s : Source ε) (n : Nat) : s.IsBoundary (s.advance s.start n) := by
  have first : s.IsBoundary s.start := isBoundary_start
  exact first.advance n

theorem offset_advance_start {n : Nat} (inside : n ≤ s.elements.length) : s.offset (s.advance s.start n) = n := by
  have first : s.IsBoundary s.start := isBoundary_start
  rw [first.offset_advance, offset_start, Nat.zero_add, Nat.min_eq_left inside]

theorem IsBoundary.advance_start (boundary : s.IsBoundary i) : s.advance s.start (s.offset i) = i := by
  have first : s.IsBoundary s.start := isBoundary_start
  rw [first.advance_eq, offset_start, Nat.zero_add, boundary.length_take]

theorem advance_start_le_iff {n m : Nat} (inside : n ≤ s.elements.length) (inside' : m ≤ s.elements.length) :
    s.advance s.start n ≤ s.advance s.start m ↔ n ≤ m := by
  rw [← (s.isBoundary_advance_start n).offset_le_iff (s.isBoundary_advance_start m), offset_advance_start inside,
    offset_advance_start inside']

def boundaries (s : Source ε) : Fin (s.elements.length + 1) ≃o {i : Nat // s.IsBoundary i} where
  toFun n := ⟨s.advance s.start n, s.isBoundary_advance_start n⟩
  invFun i := ⟨s.offset i, Nat.lt_succ_of_le i.2.offset_le_length⟩
  left_inv n := Fin.ext (offset_advance_start (Nat.le_of_lt_succ n.2))
  right_inv i := Subtype.ext i.2.advance_start
  map_rel_iff' {n m} := advance_start_le_iff (Nat.le_of_lt_succ n.2) (Nat.le_of_lt_succ m.2)

theorem position_laws (s : Source ε) :
    (∃ places : Fin (s.elements.length + 1) ≃o {i : Nat // s.IsBoundary i},
      (∀ n, (places n : Nat) = s.advance s.start n) ∧ ∀ i, (places.symm i : Nat) = s.offset i) ∧
    ∀ i, s.IsBoundary i →
      (∀ n, s.IsBoundary (s.advance i n) ∧
        s.offset (s.advance i n) = min (s.offset i + n) s.elements.length) ∧
      (∀ m n, s.advance (s.advance i m) n = s.advance i (m + n)) ∧
      s.offset i + (s.rest i).elements.length = s.elements.length ∧
      s.elementAt? i = (s.rest i).elements.head?.map (fun e => (e, s.advance i 1)) ∧
      (s.elementAt? i = none ↔ s.isEnd i = true) ∧
      (∀ n, s.advance i n = s.walk i n) ∧
      (s.layout = .indexed → ∀ greatest, s.stop ≤ greatest → ∀ n,
        s.walk i n = min (min (i + n) greatest) s.stop) := by
  refine ⟨⟨s.boundaries, fun _ => rfl, fun _ => rfl⟩, ?_⟩
  intro i boundary
  refine ⟨?_, boundary.advance_advance, boundary.offset_add_length_rest, boundary.elementAt?_eq_head?,
    boundary.elementAt?_eq_none_iff, boundary.advance_eq_walk, ?_⟩
  · intro n
    exact ⟨boundary.advance n, boundary.offset_advance n⟩
  · intro indexed greatest fits n
    exact boundary.walk_eq_min indexed fits n

theorem position_laws_mixed :
    let s := Source.text "aé€😀"
    let words := Source.slice ["one", "two", "three"]
    s.IsBoundary 3 ∧ s.offset (s.advance 3 1) = 3 ∧ s.advance (s.advance 3 1) 5 = 10 ∧ s.advance 3 6 = 10 ∧
      2 + (s.rest 3).elements.length = 4 ∧ s.elementAt? 3 = some ('€', 6) ∧
      words.IsBoundary 1 ∧ words.walk 1 9 = 3 ∧ min (min (1 + 9) 3) words.stop = 3 := by
  intro s words
  have boundary : s.IsBoundary 3 := rfl
  have boundary' : words.IsBoundary 1 := rfl
  obtain ⟨forward, sums, rest, first, _, _, _⟩ := (position_laws s).2 3 boundary
  obtain ⟨_, _, _, _, _, _, slices⟩ := (position_laws words).2 1 boundary'
  refine ⟨boundary, (forward 1).2, ?_, rfl, rest, first, boundary', ?_, rfl⟩
  · rw [sums]
    rfl
  · exact slices rfl 3 (Nat.le_refl 3) 9

end Descent.Source
