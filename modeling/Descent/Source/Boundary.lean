import Descent.Source

namespace Descent
namespace Layout
variable {ε : Type} (l : Layout ε)

theorem length_append (before after : List ε) : l.length (before ++ after) = l.length before + l.length after := by
  induction before with
  | nil => simp [length]
  | cons e before ih => simp only [List.cons_append, length, ih]; omega

theorem suffix_cons_of_lt {e : ε} {es : List ε} {i : Nat} (pos : 0 < i) (inside : i < l.size e) :
    l.suffix (e :: es) i = [] := by
  cases i with
  | zero => omega
  | succ i => simp only [suffix, if_pos inside]

theorem suffix_cons_add (e : ε) (es : List ε) (i : Nat) : l.suffix (e :: es) (l.size e + i) = l.suffix es i := by
  have pos := l.size_pos e
  obtain ⟨k, total⟩ : ∃ k, l.size e + i = k + 1 := ⟨l.size e + i - 1, by omega⟩
  rw [total]
  simp only [suffix]
  rw [if_neg (by omega)]
  congr 1
  omega

theorem count?_zero (es : List ε) : l.count? es 0 = some 0 := by cases es <;> rfl

theorem count?_cons_of_lt {e : ε} {es : List ε} {i : Nat} (pos : 0 < i) (inside : i < l.size e) :
    l.count? (e :: es) i = none := by
  cases i with
  | zero => omega
  | succ i => simp only [count?, if_pos inside]

theorem count?_cons_add (e : ε) (es : List ε) (i : Nat) :
    l.count? (e :: es) (l.size e + i) = (l.count? es i).map (· + 1) := by
  have pos := l.size_pos e
  obtain ⟨k, total⟩ : ∃ k, l.size e + i = k + 1 := ⟨l.size e + i - 1, by omega⟩
  rw [total]
  simp only [count?]
  rw [if_neg (by omega)]
  congr 2
  omega

theorem suffix_length_append (before after : List ε) : l.suffix (before ++ after) (l.length before) = after := by
  induction before with
  | nil => exact l.suffix_zero after
  | cons e before ih => rw [List.cons_append, length, suffix_cons_add, ih]

theorem count?_length_append (before after : List ε) :
    l.count? (before ++ after) (l.length before) = some before.length := by
  induction before with
  | nil => exact l.count?_zero after
  | cons e before ih => rw [List.cons_append, length, count?_cons_add, ih]; rfl

theorem length_take_le (es : List ε) {n k : Nat} (le : n ≤ k) : l.length (es.take n) ≤ l.length (es.take k) := by
  have initial : es.take n <+: es.take k := List.take_prefix_take_left le
  obtain ⟨more, split⟩ := initial
  rw [← split, length_append]
  exact Nat.le_add_right _ _

theorem suffix_length_add (before after : List ε) (i : Nat) :
    l.suffix (before ++ after) (l.length before + i) = l.suffix after i := by
  induction before with
  | nil => rw [length, Nat.zero_add, List.nil_append]
  | cons e before ih => rw [List.cons_append, length, Nat.add_assoc, suffix_cons_add, ih]

theorem suffix_indexed (es : List ε) (i : Nat) : indexed.suffix es i = es.drop i := by
  induction es generalizing i with
  | nil => cases i <;> rfl
  | cons e es ih =>
    cases i with
    | zero => rfl
    | succ i =>
      rw [Nat.add_comm]
      exact (suffix_cons_add indexed e es i).trans ((ih i).trans (by rw [Nat.add_comm, List.drop_succ_cons]))

theorem length_indexed (es : List ε) : indexed.length es = es.length := by
  induction es with
  | nil => rfl
  | cons e es ih => rw [length, ih, List.length_cons, size, Nat.add_comm]

theorem exists_split_of_count? {es : List ε} {i n : Nat} (counted : l.count? es i = some n) :
    ∃ before after, es = before ++ after ∧ l.length before = i ∧ before.length = n := by
  induction es generalizing i n with
  | nil =>
    cases i with
    | zero => cases counted; exact ⟨[], [], rfl, rfl, rfl⟩
    | succ i => cases counted
  | cons e es ih =>
    have pos := l.size_pos e
    by_cases zero : i = 0
    · subst zero
      rw [count?_zero] at counted
      cases counted
      exact ⟨[], e :: es, rfl, rfl, rfl⟩
    · by_cases inside : i < l.size e
      · rw [l.count?_cons_of_lt (by omega) inside] at counted
        cases counted
      · obtain ⟨k, rfl⟩ : ∃ k, i = l.size e + k := ⟨i - l.size e, by omega⟩
        rw [count?_cons_add, Option.map_eq_some_iff] at counted
        obtain ⟨n, counted, rfl⟩ := counted
        obtain ⟨before, after, rfl, rfl, rfl⟩ := ih counted
        exact ⟨e :: before, after, rfl, rfl, rfl⟩

theorem suffix_eq_nil_of_count? {es : List ε} {i : Nat} (uncounted : l.count? es i = none) :
    l.suffix es i = [] := by
  induction es generalizing i with
  | nil => cases i <;> rfl
  | cons e es ih =>
    have pos := l.size_pos e
    by_cases zero : i = 0
    · subst zero
      rw [count?_zero] at uncounted
      cases uncounted
    · by_cases inside : i < l.size e
      · exact l.suffix_cons_of_lt (by omega) inside
      · obtain ⟨k, rfl⟩ : ∃ k, i = l.size e + k := ⟨i - l.size e, by omega⟩
        rw [count?_cons_add, Option.map_eq_none_iff] at uncounted
        rw [suffix_cons_add, ih uncounted]

end Layout

namespace Source
variable {ε : Type} {s : Source ε} {i : Nat}

theorem isBoundary_iff : s.IsBoundary i ↔ ∃ before after, s.elements = before ++ after ∧ s.layout.length before = i := by
  constructor
  · intro boundary
    obtain ⟨n, counted⟩ := Option.isSome_iff_exists.mp boundary
    obtain ⟨before, after, split, place, _⟩ := s.layout.exists_split_of_count? counted
    exact ⟨before, after, split, place⟩
  · rintro ⟨before, after, split, rfl⟩
    unfold IsBoundary
    rw [split, s.layout.count?_length_append]
    rfl

theorem isBoundary_start : s.IsBoundary s.start := isBoundary_iff.mpr ⟨[], s.elements, rfl, rfl⟩

theorem IsBoundary.le_stop (boundary : s.IsBoundary i) : i ≤ s.stop := by
  obtain ⟨before, after, split, rfl⟩ := isBoundary_iff.mp boundary
  rw [stop_eq, split, Layout.length_append]
  omega

theorem boundary_of_elementAt? {e : ε} {next : Nat} (found : s.elementAt? i = some (e, next)) :
    s.IsBoundary i ∧ s.IsBoundary next ∧ i < next := by
  rw [elementAt?_eq] at found
  obtain ⟨e, head, step⟩ := Option.map_eq_some_iff.mp found
  cases step
  have pos := s.layout.size_pos e
  cases counted : s.layout.count? s.elements i with
  | none =>
    rw [s.layout.suffix_eq_nil_of_count? counted] at head
    cases head
  | some n =>
    obtain ⟨before, after, split, rfl, _⟩ := s.layout.exists_split_of_count? counted
    rw [split, s.layout.suffix_length_append] at head
    obtain ⟨rest, rfl⟩ : ∃ rest, after = e :: rest := by
      cases after with
      | nil => cases head
      | cons first rest => cases head; exact ⟨rest, rfl⟩
    refine ⟨isBoundary_iff.mpr ⟨before, _, split, rfl⟩, isBoundary_iff.mpr ⟨before ++ [e], rest, ?_, ?_⟩, by omega⟩
    · rw [split, List.append_assoc]
      rfl
    · rw [Layout.length_append]
      rfl

theorem isEnd_of_elementAt? {e : ε} {next : Nat} (found : s.elementAt? i = some (e, next)) : s.isEnd i = false := by
  obtain ⟨_, behind, before⟩ := boundary_of_elementAt? found
  have within := behind.le_stop
  exact decide_eq_false (by omega)

theorem offset_of_split {before after : List ε} (split : s.elements = before ++ after) :
    s.offset (s.layout.length before) = before.length := by
  have inside : s.layout.length before ≤ s.stop := by
    rw [stop_eq, split, Layout.length_append]
    omega
  rw [offset, Nat.min_eq_left inside, split, s.layout.count?_length_append]
  rfl

theorem IsBoundary.length_take (boundary : s.IsBoundary i) :
    s.layout.length (s.elements.take (s.offset i)) = i := by
  obtain ⟨before, after, split, rfl⟩ := isBoundary_iff.mp boundary
  rw [offset_of_split split, split, List.take_left]

theorem IsBoundary.suffix_eq_drop (boundary : s.IsBoundary i) :
    s.layout.suffix s.elements i = s.elements.drop (s.offset i) := by
  obtain ⟨before, after, split, rfl⟩ := isBoundary_iff.mp boundary
  rw [offset_of_split split, split, s.layout.suffix_length_append, List.drop_left]

theorem IsBoundary.elementAt?_eq_getElem? (boundary : s.IsBoundary i) :
    s.elementAt? i = s.elements[s.offset i]?.map fun e => (e, i + s.layout.size e) := by
  rw [elementAt?_eq, boundary.suffix_eq_drop, List.head?_drop]

theorem IsBoundary.eq_of_offset_eq {j : Nat} (here : s.IsBoundary i) (there : s.IsBoundary j)
    (same : s.offset i = s.offset j) : i = j := by
  rw [← here.length_take, same, there.length_take]

theorem IsBoundary.offset_lt {j : Nat} (here : s.IsBoundary i) (there : s.IsBoundary j) (before : i < j) :
    s.offset i < s.offset j := by
  refine Nat.lt_of_not_le fun behind => Nat.not_le_of_lt before ?_
  rw [← here.length_take, ← there.length_take]
  exact s.layout.length_take_le s.elements behind

theorem IsBoundary.offset_le {j : Nat} (here : s.IsBoundary i) (there : s.IsBoundary j) (before : i ≤ j) :
    s.offset i ≤ s.offset j := by
  rcases Nat.eq_or_lt_of_le before with rfl | before
  · exact Nat.le_refl _
  · exact Nat.le_of_lt (here.offset_lt there before)

theorem IsBoundary.offset_add_length_rest (boundary : s.IsBoundary i) :
    s.offset i + (s.rest i).elements.length = s.elements.length := by
  obtain ⟨before, after, split, rfl⟩ := isBoundary_iff.mp boundary
  rw [offset_of_split split, elements_rest, split, s.layout.suffix_length_append, List.length_append]

theorem IsBoundary.length_rest_le {j : Nat} (here : s.IsBoundary i) (there : s.IsBoundary j) (before : i ≤ j) :
    (s.rest j).elements.length ≤ (s.rest i).elements.length := by
  have passed := here.offset_le there before
  have all := here.offset_add_length_rest
  have left := there.offset_add_length_rest
  omega

theorem IsBoundary.length_rest_lt {j : Nat} (here : s.IsBoundary i) (there : s.IsBoundary j) (before : i < j) :
    (s.rest j).elements.length < (s.rest i).elements.length := by
  have passed := here.offset_lt there before
  have all := here.offset_add_length_rest
  have left := there.offset_add_length_rest
  omega

theorem offset_of_elementAt? {e : ε} {next : Nat} (found : s.elementAt? i = some (e, next)) :
    s.offset next = s.offset i + 1 := by
  have here := (boundary_of_elementAt? found).1
  obtain ⟨before, after, split, rfl⟩ := isBoundary_iff.mp here
  rw [elementAt?_eq, split, s.layout.suffix_length_append] at found
  cases after with
  | nil => cases found
  | cons e after =>
    cases found
    have next_split : s.elements = (before ++ [e]) ++ after := by rw [split, List.append_assoc]; rfl
    have next_offset := offset_of_split next_split
    rw [Layout.length_append, List.length_append] at next_offset
    rw [offset_of_split split]
    exact next_offset

-- What remains at a boundary is itself a source, with the same elements at places that are
-- counted from there.
theorem IsBoundary.suffix_add (boundary : s.IsBoundary i) (j : Nat) :
    s.layout.suffix s.elements (i + j) = s.layout.suffix (s.rest i).elements j := by
  obtain ⟨before, after, split, rfl⟩ := isBoundary_iff.mp boundary
  rw [elements_rest, split, s.layout.suffix_length_add, s.layout.suffix_length_append]

theorem IsBoundary.stop_eq_add (boundary : s.IsBoundary i) : s.stop = i + (s.rest i).stop := by
  obtain ⟨before, after, split, rfl⟩ := isBoundary_iff.mp boundary
  rw [stop_eq, stop_eq, elements_rest, split, s.layout.suffix_length_append, Layout.length_append]
  rfl

theorem elementAt?_slice (es : List ε) (i : Nat) : (slice es).elementAt? i = es[i]?.map fun e => (e, i + 1) := by
  have suffix : (slice es).layout.suffix (slice es).elements i = es.drop i := Layout.suffix_indexed es i
  rw [elementAt?_eq, suffix, List.head?_drop]
  rfl

theorem stop_slice (es : List ε) : (slice es).stop = es.length :=
  (stop_eq _).trans (Layout.length_indexed es)

theorem IsBoundary.elementAt?_eq_none_iff (boundary : s.IsBoundary i) : s.elementAt? i = none ↔ s.isEnd i := by
  obtain ⟨before, after, split, rfl⟩ := isBoundary_iff.mp boundary
  rw [elementAt?_eq, split, s.layout.suffix_length_append, isEnd, stop_eq, split, Layout.length_append]
  cases after with
  | nil => simp [Layout.length]
  | cons e after =>
    have pos := s.layout.size_pos e
    constructor
    · intro missing
      cases missing
    · intro ended
      have ended := of_decide_eq_true ended
      rw [Layout.length] at ended
      omega

end Source
end Descent
