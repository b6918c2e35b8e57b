import Descent.Grammar.Forms
import Descent.Run

namespace Descent.Format.Condition

structure Environment where
  vars : List (String × Bool)
  unknown : List String
  deriving DecidableEq, Repr

def resolve (name : List Char) (env : Environment) : Bool × Environment :=
  let name := String.ofList name
  if name = "true" then (true, env)
  else if name = "false" then (false, env)
  else
    match env.vars.lookup name with
    | some value => (value, env)
    | none => (false, ⟨env.vars, env.unknown ++ [name]⟩)

-- Of the letters and digits only those of ASCII.
def isNameChar (c : Char) : Bool := c.isAlphanum || c == '_'

abbrev Output (_ : Unit) : Type := Bool

abbrev Rule (α : Type) := Grammar Char Environment Output α

def token {α : Type} (p : Rule α) : Rule α := .thenIgnore p (.many (.the ' '))

def operator (symbol : List Char) : Rule Unit := token (.discard (.sequence symbol))

def name : Rule Bool := (Grammar.many1 (.satisfy isNameChar)).mapContext resolve

def group : Rule Bool := .delimitedBy (token (.the '(')) (.deferred ()) (.the ')')

def atom : Rule Bool := token (.cascadeOf group #[name])

def unary : Rule Bool :=
  (Grammar.pair (.many (operator ['!'])) atom).map fun (nots, value) => value ^^ nots.length % 2 == 1

def conjunction : Rule Bool := (Grammar.separatedBy1 unary (operator ['&', '&'])).map (·.all id)

def expression : Rule Bool := (Grammar.separatedBy1 conjunction (operator ['|', '|'])).map (·.any id)

def condition : Rule Bool := .thenIgnore (.ignoreThen (.many (.the ' ')) expression) .finish

def rules : Rules Char Environment Output := fun _ => expression

-- Evaluates a condition. Groups cannot be nested deeper than the text is long.
def evaluate (t : String) (env : Environment) : Reply Bool × Memory Environment :=
  (condition.parser rules t.length).parseWith (Source.text t) (.fresh env)

example : (evaluate "x|| !k" ⟨[("k", false)], ["w"]⟩).1 = .done true := by cbv
example : (evaluate "x|| !k" ⟨[("k", false)], ["w"]⟩).2.context.unknown = ["w", "x"] := by cbv

structure Name where
  chars : List Char
  nonempty : chars ≠ [] := by decide
  valid : chars.all isNameChar = true := by decide

mutual
inductive Expression where
  | one (c : Conjunction)
  | or (c : Conjunction) (others : Expression)

inductive Conjunction where
  | one (u : Unary)
  | and (u : Unary) (others : Conjunction)

inductive Unary where
  | mk (nots : Nat) (a : Atom)

inductive Atom where
  | name (n : Name)
  | group (e : Expression)
end

section Meaning
variable (vars : List (String × Bool))

def Name.word (n : Name) : String := String.ofList n.chars

def Name.value (n : Name) : Bool :=
  if n.word = "true" then true
  else if n.word = "false" then false
  else (vars.lookup n.word).getD false

def Name.unbound (n : Name) : List String :=
  if n.word = "true" ∨ n.word = "false" ∨ (vars.lookup n.word).isSome then [] else [n.word]

mutual
def Expression.value : Expression → Bool
  | .one c => c.value
  | .or c others => c.value || others.value

def Conjunction.value : Conjunction → Bool
  | .one u => u.value
  | .and u others => u.value && others.value

def Unary.value : Unary → Bool
  | .mk nots a => Nat.repeat not nots a.value

def Atom.value : Atom → Bool
  | .name n => n.value vars
  | .group e => e.value
end

mutual
def Expression.unbound : Expression → List String
  | .one c => c.unbound
  | .or c others => c.unbound ++ others.unbound

def Conjunction.unbound : Conjunction → List String
  | .one u => u.unbound
  | .and u others => u.unbound ++ others.unbound

def Unary.unbound : Unary → List String
  | .mk _ a => a.unbound

def Atom.unbound : Atom → List String
  | .name n => n.unbound vars
  | .group e => e.unbound
end

end Meaning

mutual
def Expression.tokens : Expression → List (List Char)
  | .one c => c.tokens
  | .or c others => c.tokens ++ ['|', '|'] :: others.tokens

def Conjunction.tokens : Conjunction → List (List Char)
  | .one u => u.tokens
  | .and u others => u.tokens ++ ['&', '&'] :: others.tokens

def Unary.tokens : Unary → List (List Char)
  | .mk nots a => List.replicate nots ['!'] ++ a.tokens

def Atom.tokens : Atom → List (List Char)
  | .name n => [n.chars]
  | .group e => ['('] :: (e.tokens ++ [[')']])
end

inductive Spaced : List (List Char) → List Char → Prop where
  | nil : Spaced [] []
  | cons {tokens : List (List Char)} {cs : List Char} (token : List Char) (gap : Nat) (others : Spaced tokens cs) :
      Spaced (token :: tokens) (token ++ List.replicate gap ' ' ++ cs)

theorem Spaced.exists_of_append {one two : List (List Char)} {cs : List Char} (spaced : Spaced (one ++ two) cs) :
    ∃ first second, cs = first ++ second ∧ Spaced one first ∧ Spaced two second := by
  induction one generalizing cs with
  | nil => exact ⟨[], cs, rfl, .nil, spaced⟩
  | cons token one ih =>
    obtain - | ⟨_, gap, others⟩ := spaced
    obtain ⟨first, second, rfl, spaced, spaced'⟩ := ih others
    exact ⟨token ++ List.replicate gap ' ' ++ first, second, by simp, .cons token gap spaced, spaced'⟩

end Descent.Format.Condition
