import Descent.Numeral
import Descent.Source
import Descent.Text.Quoted

namespace Descent

mutual
inductive Reason where
  | noMatch
  | endOfInput
  | outOfBounds
  | wrapped (fault : Fault)

inductive Fault where
  | text (message : String)
  | numeral (fault : NumeralFault)
  | codePoint (number : Nat)
  | reason (reason : Reason)
  | failure (failure : Failure)

inductive Failure where
  | mk (reason : Reason) (position : Nat) (cause? : Option Failure)
end

mutual
def Reason.message : Reason → String
  | .noMatch => "no match"
  | .endOfInput => "unexpected end of input"
  | .outOfBounds => "repetition bounds out of range"
  | .wrapped fault => fault.message

def Fault.message : Fault → String
  | .text message => message
  | .numeral fault => fault.message
  | .codePoint number => "invalid code point 0x" ++ Text.hex number
  | .reason reason => reason.message
  | .failure failure => failure.message

-- The raw index, which counts bytes in a text.
def Failure.message : Failure → String
  | .mk reason position _ => reason.message ++ " at index " ++ toString position
end

namespace Failure

def reason : Failure → Reason
  | mk reason _ _ => reason

def position : Failure → Nat
  | mk _ position _ => position

def cause? : Failure → Option Failure
  | mk _ _ cause? => cause?

def of (reason : Reason) (position : Nat) : Failure := mk reason position none

def noMatch (position : Nat) : Failure := of .noMatch position

def endOfInput (position : Nat) : Failure := of .endOfInput position

def outOfBounds (position : Nat) : Failure := of .outOfBounds position

def wrap (fault : Fault) (position : Nat) : Failure := of (.wrapped fault) position

-- Places a fault at a position. A failure has its own place already, and a bare reason
-- needs no wrapping.
def lift (fault : Fault) (position : Nat) : Failure :=
  match fault with
  | .failure failure => failure
  | .reason reason => of reason position
  | fault => wrap fault position

def causedBy (failure cause : Failure) : Failure :=
  mk failure.reason failure.position (some cause)

end Failure

namespace Text

def scalar? (n : Nat) : Option Char :=
  if h : n.isValidChar then some (Char.ofNatAux n h) else none

-- Reads the number of a character. What is no number fails as such, before the character is
-- looked for.
def readCodePoint (digits : List Char) : Except Fault Char :=
  match (Numeral.unsigned 16 32).read digits with
  | .error fault => .error (.numeral fault)
  | .ok n =>
    match scalar? n.toNat with
    | some c => .ok c
    | none => .error (.codePoint n.toNat)

theorem scalar?_toNat (c : Char) : scalar? c.toNat = some c := by
  unfold scalar?
  rw [dif_pos (show c.toNat.isValidChar from c.valid)]
  rfl

example : readCodePoint ['0', '0', 'e', '9'] = .ok 'é' := rfl
example : readCodePoint ['d', '8', '0', '0'] = .error (.codePoint 0xd800) := rfl

end Text
end Descent
