namespace Descent

inductive Layout (ε : Type) where
  | indexed
  | encoded (size : ε → Nat) (size_pos : ∀ e, 0 < size e)

namespace Layout
variable {ε : Type}

def size : Layout ε → ε → Nat
  | .indexed, _ => 1
  | .encoded size _, e => size e

theorem size_pos (l : Layout ε) (e : ε) : 0 < l.size e := by
  cases l with
  | indexed => exact Nat.one_pos
  | encoded _ pos => exact pos e

def length (l : Layout ε) : List ε → Nat
  | [] => 0
  | e :: es => l.size e + l.length es

-- The elements from index `i` on. There are none where `i` lies inside an element or past
-- them all.
def suffix (l : Layout ε) : List ε → Nat → List ε
  | es, 0 => es
  | [], _ => []
  | e :: es, i => if i < l.size e then [] else l.suffix es (i - l.size e)

def count? (l : Layout ε) : List ε → Nat → Option Nat
  | _, 0 => some 0
  | [], _ => none
  | e :: es, i => if i < l.size e then none else (l.count? es (i - l.size e)).map (· + 1)

def cells (l : Layout ε) (es : List ε) : List (Option ε) :=
  es.flatMap fun e => some e :: List.replicate (l.size e - 1) none

@[simp] theorem suffix_zero (l : Layout ε) (es : List ε) : l.suffix es 0 = es := by
  cases es <;> rfl

theorem cells_cons (l : Layout ε) (e : ε) (es : List ε) :
    l.cells (e :: es) = some e :: (List.replicate (l.size e - 1) none ++ l.cells es) := rfl

@[simp] theorem length_cells (l : Layout ε) (es : List ε) : (l.cells es).length = l.length es := by
  induction es with
  | nil => rfl
  | cons e es ih =>
    have pos := l.size_pos e
    simp only [cells_cons, List.length_cons, List.length_append, List.length_replicate, ih, length]
    omega

theorem getElem?_cells (l : Layout ε) (es : List ε) (i : Nat) :
    ((l.cells es)[i]?).join = (l.suffix es i).head? := by
  induction es generalizing i with
  | nil => cases i <;> rfl
  | cons e es ih =>
    have pos := l.size_pos e
    cases i with
    | zero => rfl
    | succ i =>
      rw [cells_cons, suffix.eq_3 _ _ _ _ (by simp), List.getElem?_cons_succ]
      by_cases inside : i + 1 < l.size e
      · rw [if_pos inside, List.getElem?_append_left (by simp; omega),
          List.getElem?_replicate_of_lt (by omega)]
        rfl
      · rw [if_neg inside, List.getElem?_append_right (by simp; omega), ← ih]
        congr 2
        simp only [List.length_replicate]
        omega

end Layout

-- The elements decide everything. The cells are a table of them, kept so that a parser finds
-- the element at an index without walking to it.
structure Source (ε : Type) where
  layout : Layout ε
  elements : List ε
  cells : Array (Option ε)
  cells_eq : cells = (layout.cells elements).toArray

namespace Source
variable {ε : Type}

def ofElements (layout : Layout ε) (elements : List ε) : Source ε :=
  ⟨layout, elements, _, rfl⟩

-- Positions in a text count the bytes of its UTF-8 encoding, so most indices of a text
-- outside ASCII lie inside a character.
def text (t : String) : Source Char :=
  ofElements (.encoded Char.utf8Size Char.utf8Size_pos) t.toList

def slice (es : List ε) : Source ε :=
  ofElements .indexed es

theorem ext_elements {s t : Source ε} (layout : s.layout = t.layout) (elements : s.elements = t.elements) :
    s = t := by
  obtain ⟨_, _, _, rfl⟩ := s
  obtain ⟨_, _, _, rfl⟩ := t
  cases layout
  cases elements
  rfl

def start (_ : Source ε) : Nat := 0

def stop (s : Source ε) : Nat := s.cells.size

theorem stop_eq (s : Source ε) : s.stop = s.layout.length s.elements := by
  simp [stop, s.cells_eq]

def elementAt? (s : Source ε) (i : Nat) : Option (ε × Nat) :=
  match s.cells[i]? with
  | some (some e) => some (e, i + s.layout.size e)
  | _ => none

theorem elementAt?_eq (s : Source ε) (i : Nat) :
    s.elementAt? i = (s.layout.suffix s.elements i).head?.map fun e => (e, i + s.layout.size e) := by
  rw [← s.layout.getElem?_cells, elementAt?, s.cells_eq, List.getElem?_toArray]
  rcases (s.layout.cells s.elements)[i]? with _ | _ | e <;> rfl

def rest (s : Source ε) (i : Nat) : Source ε :=
  ofElements s.layout (s.layout.suffix s.elements i)

@[simp] theorem elements_rest (s : Source ε) (i : Nat) :
    (s.rest i).elements = s.layout.suffix s.elements i := rfl

-- The number of elements before a position. Past the end it counts all, and inside an
-- element none.
def offset (s : Source ε) (i : Nat) : Nat :=
  (s.layout.count? s.elements (min i s.stop)).getD 0

def IsBoundary (s : Source ε) (i : Nat) : Prop :=
  (s.layout.count? s.elements i).isSome

instance (s : Source ε) (i : Nat) : Decidable (s.IsBoundary i) :=
  inferInstanceAs (Decidable (_ = true))

def isStart (s : Source ε) (i : Nat) : Bool := i == s.start

def isEnd (s : Source ε) (i : Nat) : Bool := decide (s.stop ≤ i)

def walk (s : Source ε) : Nat → Nat → Nat
  | i, 0 => i
  | i, n + 1 =>
    match s.elementAt? i with
    | some (_, next) => s.walk next n
    | none => i

-- Moves a number of elements forward, to the end at most. An indexed source does so by one
-- sum, which also brings a position past the end back to it.
def advance (s : Source ε) (i : Nat) (n : Nat) : Nat :=
  match s.layout with
  | .indexed => min (i + n) s.stop
  | .encoded .. => s.walk i n

end Source
end Descent
