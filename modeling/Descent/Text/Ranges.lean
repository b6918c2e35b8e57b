namespace Descent.Text
namespace Ranges

-- The search stops at the first range that begins above the number, as ranges come in increasing order.
def contains : List (Nat × Nat) → Nat → Bool
  | [], _ => false
  | (low, high) :: rs, n => if n < low then false else n ≤ high || contains rs n

def isAscending : List (Nat × Nat) → Bool
  | [] => true
  | (low, high) :: rs => low ≤ high && rs.head?.all (high < ·.1) && isAscending rs

theorem lt_of_isAscending {low high : Nat} {rs : List (Nat × Nat)} (h : isAscending ((low, high) :: rs))
    {r : Nat × Nat} (member : r ∈ rs) : high < r.1 := by
  induction rs generalizing low high with
  | nil => cases member
  | cons next rs ih =>
    simp only [isAscending, List.head?_cons, Option.all_some, Bool.and_eq_true, decide_eq_true_eq] at h
    rcases List.mem_cons.mp member with rfl | later
    · exact h.1.2
    · have beyond := @ih next.1 next.2 (by simpa [isAscending] using h.2) later
      omega

theorem contains_iff {rs : List (Nat × Nat)} (ascending : isAscending rs) (n : Nat) :
    contains rs n ↔ ∃ r ∈ rs, r.1 ≤ n ∧ n ≤ r.2 := by
  induction rs with
  | nil => simp [contains]
  | cons first rs ih =>
    obtain ⟨low, high⟩ := first
    have later := @lt_of_isAscending low high rs ascending
    simp only [isAscending, Bool.and_eq_true, decide_eq_true_eq] at ascending
    unfold contains
    split
    · rename_i below
      constructor
      · intro found; cases found
      · rintro ⟨r, member, holds⟩
        rcases List.mem_cons.mp member with rfl | member
        · exact absurd holds.1 (by omega)
        · have := later member; omega
    · rename_i reached
      simp [ih ascending.2, Nat.le_of_not_lt reached]

end Ranges

-- The property White_Space of Unicode.
def blankRanges : List (Nat × Nat) :=
  [(0x9, 0xd), (0x20, 0x20), (0x85, 0x85), (0xa0, 0xa0), (0x1680, 0x1680), (0x2000, 0x200a),
   (0x2028, 0x2029), (0x202f, 0x202f), (0x205f, 0x205f), (0x3000, 0x3000)]

def isBlankCode (n : Nat) : Bool := Ranges.contains blankRanges n

def isBlank (c : Char) : Bool := isBlankCode c.toNat

theorem isBlank_iff (c : Char) : isBlank c ↔ ∃ r ∈ blankRanges, r.1 ≤ c.toNat ∧ c.toNat ≤ r.2 :=
  Ranges.contains_iff (by decide) c.toNat

theorem isBlank_of_isWhitespace (c : Char) (h : c.isWhitespace) : isBlank c := by
  simp only [Char.isWhitespace, Bool.or_eq_true, decide_eq_true_eq] at h
  rcases h with ((rfl | rfl) | rfl) | rfl <;> decide

end Descent.Text
