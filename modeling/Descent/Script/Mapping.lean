import Descent.Failure
import Descent.Script.Value

namespace Descent

inductive Mapping where
  | id
  | join
  | upper
  | len
  | sum
  | depth
  | nth (k : Nat)
  | reverse
  | all
  | any
  -- The truth of the second part, negated once for each item of the first.
  | negations
  | tag (name : String)
  deriving DecidableEq

namespace Mapping

def apply : Mapping → Value → Value
  | id, v => v
  | join, v => .str v.join
  | upper, v => .str (v.join.map Char.toUpper)
  | len, v => .int (Int64.ofNat v.len)
  | sum, v => .int v.num
  | depth, v => .int (v.num + 1)
  | nth k, v => v.nth k
  | reverse, .list vs => .list vs.reverse
  | reverse, v => .str (String.ofList v.join.toList.reverse)
  | all, v => .bool (v.items.all Value.truthy)
  | any, v => .bool (v.items.any Value.truthy)
  | negations, v => .bool ((v.nth 1).truthy ^^ (v.nth 0).len % 2 == 1)
  | tag name, v => .tagged name v

end Mapping

inductive Trial where
  | number (format : Numeral)
  | codePoint
  | reject (message : String)
  | because (reason : Reason)
  -- Fails at the first position inside the value, and accepts a value with none.
  | failAt (reason : Reason) (cause? : Option Reason)
  | nonEmpty (message : String)
  | max (greatest : Int64)

namespace Trial

def apply : Trial → Value → Except Fault Value
  | number format, v =>
    match format.read v.join.toList with
    | .ok n => .ok (.int (Int64.ofInt n))
    | .error fault => .error (.numeral fault)
  | codePoint, v => (Text.readCodePoint v.join.toList).map .char
  | reject message, _ => .error (.text message)
  | because reason, _ => .error (.reason reason)
  | failAt reason cause?, v =>
    match v.firstPosition?, cause? with
    | none, _ => .ok v
    | some i, none => .error (.failure (.of reason i))
    | some i, some cause => .error (.failure ((Failure.of reason i).causedBy (.of cause i)))
  | nonEmpty message, v => if v.len = 0 then .error (.text message) else .ok v
  | max greatest, v =>
    if greatest < v.num then
      .error (.text (toString v.num.toInt ++ " exceeds " ++ toString greatest.toInt))
    else .ok v

end Trial
end Descent
