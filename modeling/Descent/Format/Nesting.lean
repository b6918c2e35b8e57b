import Descent.Grammar.Forms
import Descent.Grammar.Parts
import Descent.Run

namespace Descent.Format.Nesting

abbrev Output (_ : Unit) : Type := Nat

def group : Grammar Char Unit Output Nat :=
  (Grammar.thenIgnore (.ignoreThen (.the '(') (.many (.deferred ()))) (.the ')')).map List.length

theorem standard_group : group.Standard :=
  ⟨trivial, trivial, ⟨trivial, ⟨trivial, trivial⟩, trivial, trivial, trivial⟩, trivial, trivial⟩

def rules : Rules Char Unit Output := fun _ => group

-- The groups entered within one another are no more than there are parentheses.
def parser (depth : Nat) : Parser Char Unit Nat := group.parser rules depth

def parse (t : String) : Reply (Match Nat) :=
  (parser t.length (Source.text t) 0 (.fresh ())).1

example : parse "(()(()))(" = .done ⟨2, 0, 8⟩ := rfl
example : parse "(()" = .failed (.endOfInput 3) := rfl

def tallied : Grammar Char Nat Output Nat :=
  ((Grammar.thenIgnore (.ignoreThen (.the '(') (.opt (.deferred ()))) (.the ')')).mapContext
    fun inner closed => (inner.elim 1 (· + 1), closed + 1)).traced "group" toString

theorem standard_tallied : tallied.Standard :=
  ⟨trivial, trivial, trivial, ⟨trivial, ⟨trivial, trivial⟩, trivial, trivial, trivial⟩, trivial, trivial⟩

def talliedRules : Rules Char Nat Output := fun _ => tallied

example : (tallied.parser talliedRules 3 (Source.text "((()") 0 (.fresh 4)).2.context = 5 := rfl

end Descent.Format.Nesting
