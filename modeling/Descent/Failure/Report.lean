import Descent.Failure
import Descent.Source.Cut

namespace Descent

class Shown (ε : Type) where
  shown : ε → String

export Shown (shown)

namespace Failure
variable {ε : Type}

def offset (f : Failure) (s : Source ε) : Nat := s.offset f.position

def remaining (f : Failure) (s : Source ε) : Source ε := s.rest f.position

def unexpected? (f : Failure) (s : Source ε) : Option ε :=
  (s.elementAt? f.position).map Prod.fst

-- What a reader is told. A rejected value and a repetition that cannot hold speak for
-- themselves. Otherwise the element found matters, or that there was none.
def describe [Shown ε] (f : Failure) (s : Source ε) : String :=
  let place := " at offset " ++ toString (f.offset s)
  match f.reason with
  | .wrapped fault => fault.message ++ place
  | .outOfBounds => Reason.outOfBounds.message ++ place
  | .noMatch | .endOfInput =>
    match f.unexpected? s with
    | some e => "unexpected " ++ shown e ++ place
    | none => "unexpected end of input" ++ place

-- At most `limit` characters of what remains at the failure. There would be none to show if the remaining text
-- were to be cut inside a character.
def snippet? (f : Failure) (s : Source Char) (limit : Nat) : Option String :=
  ((f.remaining s).first? limit).map fun part => String.ofList part.elements

theorem snippet?_eq (f : Failure) (s : Source Char) (limit : Nat) :
    f.snippet? s limit = some (String.ofList ((f.remaining s).elements.take limit)) := by
  rw [snippet?, Source.first?_eq]
  rfl

def snippet (f : Failure) (s : Source Char) (limit : Nat) : String :=
  (f.snippet? s limit).get (by rw [snippet?_eq]; rfl)

theorem snippet?_eq_some (f : Failure) (s : Source Char) (limit : Nat) :
    f.snippet? s limit = some (f.snippet s limit) :=
  (Option.some_get _).symm

theorem snippet_eq (f : Failure) (s : Source Char) (limit : Nat) :
    f.snippet s limit = String.ofList ((f.remaining s).elements.take limit) :=
  Option.some.inj ((f.snippet?_eq_some s limit).symm.trans (f.snippet?_eq s limit))

end Failure

def NumeralFault.detail (fault : NumeralFault) : String :=
  let kind := match fault with
    | .empty => "Empty"
    | .invalidDigit => "InvalidDigit"
    | .tooLarge => "PosOverflow"
    | .tooSmall => "NegOverflow"
  "ParseIntError \x7b kind: " ++ kind ++ " \x7d"

def placeDetail (position : Nat) : String :=
  "Position(" ++ toString position ++ ")"

def Failure.fields (reason : String) (position : Nat) (cause : String) : String :=
  "ParseError \x7b reason: " ++ reason ++ ", position: " ++ placeDetail position ++ ", cause: " ++ cause
    ++ " \x7d"

mutual
def Reason.detail : Reason → String
  | .noMatch => "NoMatch"
  | .endOfInput => "EndOfInput"
  | .outOfBounds => "OutOfBounds"
  | .wrapped fault => "Wrapped(" ++ fault.detail ++ ")"

def Fault.detail : Fault → String
  | .text message => Text.quoted message
  | .numeral fault => fault.detail
  | .codePoint number => "InvalidCodePoint(" ++ toString number ++ ")"
  | .reason reason => reason.detail
  | .failure failure => failure.detail

def Failure.detail : Failure → String
  | .mk reason position none => Failure.fields reason.detail position "None"
  | .mk reason position (some cause) =>
    Failure.fields reason.detail position ("Some(" ++ cause.detail ++ ")")
end

def Failure.sources : Failure → List String
  | .mk _ _ none => []
  | .mk _ _ (some cause) => cause.message :: cause.sources

mutual
def Reason.sources : Reason → List String
  | .noMatch | .endOfInput | .outOfBounds => []
  | .wrapped fault => fault.message :: fault.sources

def Fault.sources : Fault → List String
  | .text _ | .numeral _ | .codePoint _ => []
  | .reason reason => reason.sources
  | .failure failure => failure.sources
end

end Descent
