namespace Descent

inductive NumeralFault where
  | empty
  | invalidDigit
  | tooLarge
  | tooSmall
  deriving DecidableEq, Repr

namespace NumeralFault

def message : NumeralFault → String
  | .empty => "cannot parse integer from empty string"
  | .invalidDigit => "invalid digit found in string"
  | .tooLarge => "number too large to fit in target type"
  | .tooSmall => "number too small to fit in target type"

end NumeralFault

structure Numeral where
  radix : Nat
  least : Int
  greatest : Int

namespace Numeral

def unsigned (radix bits : Nat) : Numeral := ⟨radix, 0, Int.pow 2 bits - 1⟩

def signed (radix bits : Nat) : Numeral := ⟨radix, -Int.pow 2 (bits - 1), Int.pow 2 (bits - 1) - 1⟩

def digit? (radix : Nat) (c : Char) : Option Nat :=
  let value? :=
    if '0' ≤ c ∧ c ≤ '9' then some (c.toNat - '0'.toNat)
    else if 'a' ≤ c ∧ c ≤ 'z' then some (c.toNat - 'a'.toNat + 10)
    else if 'A' ≤ c ∧ c ≤ 'Z' then some (c.toNat - 'A'.toNat + 10)
    else none
  value?.filter (· < radix)

def bounded (n : Numeral) (value : Int) : Except NumeralFault Int :=
  if value < n.least then .error .tooSmall
  else if n.greatest < value then .error .tooLarge
  else .ok value

def digits (n : Numeral) (negative : Bool) (value : Int) : List Char → Except NumeralFault Int
  | [] => .ok value
  | c :: cs =>
    match digit? n.radix c with
    | none => .error .invalidDigit
    | some d =>
      match n.bounded (value * n.radix + if negative then -(d : Int) else d) with
      | .error e => .error e
      | .ok next => n.digits negative next cs

-- Reads a number with one sign at most. A minus is a sign only where numbers below zero
-- are.
def read (n : Numeral) : List Char → Except NumeralFault Int
  | [] => .error .empty
  | ['+'] => .error .invalidDigit
  | ['-'] => .error .invalidDigit
  | '+' :: cs => n.digits false 0 cs
  | '-' :: cs => if n.least < 0 then n.digits true 0 cs else .error .invalidDigit
  | cs => n.digits false 0 cs

theorem bounded_eq_ok {n : Numeral} {value result : Int} (h : n.bounded value = .ok result) :
    n.least ≤ result ∧ result ≤ n.greatest := by
  unfold bounded at h
  split at h
  · cases h
  · split at h
    · cases h
    · cases h; omega

theorem digits_bounds {n : Numeral} {negative : Bool} {value result : Int} {cs : List Char}
    (bounds : n.least ≤ value ∧ value ≤ n.greatest) (h : n.digits negative value cs = .ok result) :
    n.least ≤ result ∧ result ≤ n.greatest := by
  induction cs generalizing value with
  | nil => cases h; exact bounds
  | cons c cs ih =>
    simp only [digits] at h
    split at h
    · cases h
    · split at h
      · cases h
      · exact ih (bounded_eq_ok (by assumption)) h

theorem read_bounds {n : Numeral} {result : Int} {cs : List Char} (least : n.least ≤ 0) (greatest : 0 ≤ n.greatest)
    (h : n.read cs = .ok result) : n.least ≤ result ∧ result ≤ n.greatest := by
  have zero : n.least ≤ 0 ∧ 0 ≤ n.greatest := ⟨least, greatest⟩
  unfold read at h
  split at h
  · cases h
  · cases h
  · cases h
  · exact digits_bounds zero h
  · split at h
    · exact digits_bounds zero h
    · cases h
  · exact digits_bounds zero h

example : (unsigned 10 8).read ['+', '2', '5', '5'] = .ok 255 := rfl
example : (signed 10 8).read ['-', '1', '2', '9'] = .error .tooSmall := rfl
example : (unsigned 10 8).read ['3', '0', '0', 'x'] = .error .tooLarge := rfl
example : (unsigned 16 32).read ['d', '8', '0', '0'] = .ok 0xd800 := rfl

end Numeral
end Descent
