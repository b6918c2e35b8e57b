import Descent.Source.Boundary

namespace Descent
namespace Layout
variable {ε : Type}

def placed (l : Layout ε) : Nat → List ε → List (Nat × ε)
  | _, [] => []
  | i, e :: es => (i, e) :: l.placed (i + l.size e) es

theorem getElem?_placed (l : Layout ε) (i : Nat) (es : List ε) (n : Nat) :
    (l.placed i es)[n]? = es[n]?.map fun e => (i + l.length (es.take n), e) := by
  induction es generalizing i n with
  | nil => rfl
  | cons e es ih =>
    cases n with
    | zero => rfl
    | succ n =>
      rw [placed, List.getElem?_cons_succ, List.getElem?_cons_succ, List.take_succ_cons, length, ih, Nat.add_assoc]

end Layout

namespace Source
variable {ε : Type}

def cut? (s : Source ε) (n : Nat) : Option Nat :=
  (s.layout.placed s.start s.elements)[n]?.map Prod.fst

-- The part before an index. There is none where the index lies inside an element or past the end.
def before? (s : Source ε) (i : Nat) : Option (Source ε) :=
  if s.IsBoundary i then some (ofElements s.layout (s.elements.take (s.offset i))) else none

def first? (s : Source ε) (n : Nat) : Option (Source ε) :=
  match s.cut? n with
  | some i => s.before? i
  | none => some s

variable {s : Source ε} {n i : Nat}

theorem cut?_eq_none_iff : s.cut? n = none ↔ s.elements.length ≤ n := by
  rw [cut?, Option.map_eq_none_iff, Layout.getElem?_placed, Option.map_eq_none_iff, List.getElem?_eq_none_iff]

theorem eq_of_cut? (cut : s.cut? n = some i) : i = s.layout.length (s.elements.take n) := by
  rw [cut?, Layout.getElem?_placed, Option.map_map, Option.map_eq_some_iff] at cut
  obtain ⟨_, _, rfl⟩ := cut
  exact Nat.zero_add _

theorem isSome_before?_iff : (s.before? i).isSome ↔ s.IsBoundary i := by
  unfold before?
  split <;> simp_all

theorem before?_of_split {before after : List ε} (split : s.elements = before ++ after) :
    s.before? (s.layout.length before) = some (ofElements s.layout before) := by
  have boundary : s.IsBoundary (s.layout.length before) := isBoundary_iff.mpr ⟨before, after, split, rfl⟩
  rw [before?, if_pos boundary, offset_of_split split, split, List.take_left]

theorem before?_of_cut? (cut : s.cut? n = some i) :
    s.before? i = some (ofElements s.layout (s.elements.take n)) := by
  rw [eq_of_cut? cut]
  exact before?_of_split (List.take_append_drop n s.elements).symm

theorem first?_eq (s : Source ε) (n : Nat) : s.first? n = some (ofElements s.layout (s.elements.take n)) := by
  unfold first?
  cases cut : s.cut? n with
  | some i => exact before?_of_cut? cut
  | none =>
    rw [List.take_of_length_le (cut?_eq_none_iff.mp cut)]
    exact congrArg some (ext_elements rfl rfl)

end Source
end Descent
