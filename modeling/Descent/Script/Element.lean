import Descent.Failure.Report
import Descent.Script.Value
import Descent.Text.Ranges

namespace Descent

class Element (ε : Type) extends Shown ε where
  code : ε → Int64
  toValue : ε → Value
  -- The element with that value, where a text of one character is as good as the character.
  ofValue? : Value → Option ε
  gathered : List ε → Value
  token? : ε → Option Token

namespace Element

def listed {ε : Type} (toValue : ε → Value) (es : List ε) : Value := .list (es.map toValue)

instance : Element Char where
  shown := Text.quotedChar
  code c := Int64.ofNat c.toNat
  toValue := .char
  ofValue?
    | .char c => some c
    | .str t =>
      match t.toList with
      | [c] => some c
      | _ => none
    | _ => none
  gathered cs := .str (String.ofList cs)
  token? _ := none

instance : Element Int64 where
  shown n := toString n.toInt
  code := id
  toValue := .int
  ofValue?
    | .int n => some n
    | _ => none
  gathered := listed .int
  token? _ := none

instance : Element UInt8 where
  shown b := toString b.toNat
  code b := Int64.ofNat b.toNat
  toValue b := .int (Int64.ofNat b.toNat)
  ofValue?
    | .int n => if 0 ≤ n ∧ n ≤ 255 then some (UInt8.ofNat n.toInt.toNat) else none
    | _ => none
  gathered := listed fun b => .int (Int64.ofNat b.toNat)
  token? _ := none

instance : Element Token where
  shown := Token.detail
  code
    | .id name => -Int64.ofNat name.length
    | .num number => number
    | .sym symbol => Int64.ofNat symbol.toNat
  toValue := .token
  ofValue?
    | .token t => some t
    | _ => none
  gathered := listed .token
  token? := some

end Element

inductive ElementClass where
  | digit
  | lower
  | upper
  | word
  | hex
  | space
  | even
  | any
  | never
  | between (low high : Int64)
  deriving DecidableEq

namespace ElementClass

def ranges : ElementClass → List (Int64 × Int64)
  | digit => [(48, 57)]
  | lower => [(97, 122)]
  | upper => [(65, 90)]
  | word => [(48, 57), (65, 90), (95, 95), (97, 122)]
  | hex => [(48, 57), (65, 70), (97, 102)]
  | between low high => [(low, high)]
  | space | even | any | never => []

def contains (c : ElementClass) (n : Int64) : Bool :=
  match c with
  | space => 0 ≤ n && Text.isBlankCode n.toInt.toNat
  | even => n % 2 == 0
  | any => true
  | c => c.ranges.any fun (low, high) => low ≤ n && n ≤ high

def test {ε : Type} [Element ε] (c : ElementClass) (e : ε) : Bool := c.contains (Element.code e)

end ElementClass

inductive Projection where
  | digit
  | half
  | id
  | num
  | sym
  deriving DecidableEq

namespace Projection

def get? {ε : Type} [Element ε] (p : Projection) (e : ε) : Option Value :=
  let code := Element.code e
  match p, Element.token? e with
  | digit, _ => if ElementClass.digit.contains code then some (.int (code - 48)) else none
  | half, _ => if ElementClass.even.contains code then some (.int (code / 2)) else none
  | id, some (.id name) => some (.str name)
  | num, some (.num number) => some (.int number)
  | sym, some (.sym symbol) => some (.char symbol)
  | _, _ => none

end Projection
end Descent
