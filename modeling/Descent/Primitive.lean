import Descent.Failure
import Descent.Match

namespace Descent

namespace Predicate
variable {ε : Type}

def only [DecidableEq ε] (model : ε) (e : ε) : Bool := e = model

def inSet [DecidableEq ε] (es : List ε) (e : ε) : Bool := e ∈ es

def anyOf (tests : List (ε → Bool)) (e : ε) : Bool := tests.any (· e)

def allOf (tests : List (ε → Bool)) (e : ε) : Bool := tests.all (· e)

def negate (test : ε → Bool) (e : ε) : Bool := !test e

def either (test other : ε → Bool) (e : ε) : Bool := test e || other e

def both (test other : ε → Bool) (e : ε) : Bool := test e && other e

theorem anyOf_cons (test : ε → Bool) (tests : List (ε → Bool)) : anyOf (test :: tests) = either test (anyOf tests) :=
  funext fun _ => List.any_cons

theorem anyOf_singleton (test : ε → Bool) : anyOf [test] = test := by
  funext e; simp [anyOf]

theorem allOf_cons (test : ε → Bool) (tests : List (ε → Bool)) : allOf (test :: tests) = both test (allOf tests) :=
  funext fun _ => List.all_cons

theorem anyOf_map_only [DecidableEq ε] (es : List ε) : anyOf (es.map only) = inSet es := by
  funext e
  rw [anyOf, List.any_map, Bool.eq_iff_iff]
  simp [only, inSet]

end Predicate

inductive Primitive (ε : Type) : Type → Type 1 where
  | any : Primitive ε ε
  | the (e : ε) : Primitive ε ε
  | oneOf (es : List ε) : Primitive ε ε
  | noneOf (es : List ε) : Primitive ε ε
  | satisfy (test : ε → Bool) : Primitive ε ε
  | extract {α : Type} (get : ε → Option α) : Primitive ε α
  | sequence (es : List ε) : Primitive ε (List ε)
  | finish : Primitive ε Unit
  | just {α : Type} (output : α) : Primitive ε α
  | fail {α : Type} (reason : Reason) : Primitive ε α
  | position : Primitive ε Nat

namespace Primitive
variable {ε α : Type}

def element (get : ε → Option α) (s : Source ε) (i : Nat) : Except Failure (Match α) :=
  match s.elementAt? i with
  | none => .error (.endOfInput i)
  | some (e, next) =>
    match get e with
    | some output => .ok ⟨output, i, next⟩
    | none => .error (.noMatch i)

-- Goes through expected elements, and fails where the first of them is missing. The result
-- is the position behind the last one.
def follow [DecidableEq ε] (s : Source ε) : List ε → Nat → Except Failure Nat
  | [], i => .ok i
  | e :: es, i =>
    match s.elementAt? i with
    | none => .error (.endOfInput i)
    | some (found, next) => if found = e then follow s es next else .error (.noMatch i)

def parse [DecidableEq ε] : Primitive ε α → Source ε → Nat → Except Failure (Match α)
  | any, s, i => element some s i
  | the e, s, i => element (Option.guard (· = e)) s i
  | oneOf es, s, i => element (Option.guard (· ∈ es)) s i
  | noneOf es, s, i => element (Option.guard (· ∉ es)) s i
  | satisfy test, s, i => element (Option.guard (test ·)) s i
  | extract get, s, i => element get s i
  | sequence es, s, i => (follow s es i).map fun stop => ⟨es, i, stop⟩
  | finish, s, i => if s.isEnd i then .ok (.zeroWidth () i) else .error (.noMatch i)
  | just output, _, i => .ok (.zeroWidth output i)
  | fail reason, _, i => .error (.of reason i)
  | position, _, i => .ok (.zeroWidth i i)

end Primitive
end Descent
