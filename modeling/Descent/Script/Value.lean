import Descent.Source
import Descent.Text.Quoted

namespace Descent

inductive Token where
  | id (name : String)
  | num (number : Int64)
  | sym (symbol : Char)
  deriving DecidableEq

def Token.detail : Token → String
  | id name => "Id(" ++ Text.quoted name ++ ")"
  | num number => "Num(" ++ toString number.toInt ++ ")"
  | sym symbol => "Sym(" ++ Text.quotedChar symbol ++ ")"

inductive Value where
  | unit
  | bool (b : Bool)
  | int (n : Int64)
  | char (c : Char)
  | str (t : String)
  | token (t : Token)
  | list (vs : List Value)
  | pair (a b : Value)
  | triple (a b c : Value)
  | none
  | some (v : Value)
  | position (i : Nat)
  | ranged (start stop : Nat) (v : Value)
  | tagged (tag : String) (v : Value)

namespace Value

mutual
def same : Value → Value → Bool
  | unit, unit => true
  | bool a, bool b => a == b
  | int a, int b => a == b
  | char a, char b => a == b
  | str a, str b => a == b
  | token a, token b => a == b
  | list vs, list ws => sameList vs ws
  | pair a b, pair a' b' => same a a' && same b b'
  | triple a b c, triple a' b' c' => same a a' && same b b' && same c c'
  | none, none => true
  | some v, some w => same v w
  | position i, position j => i == j
  | ranged i j v, ranged i' j' w => i == i' && j == j' && same v w
  | tagged t v, tagged t' w => t == t' && same v w
  | _, _ => false

def sameList : List Value → List Value → Bool
  | [], [] => true
  | v :: vs, w :: ws => same v w && sameList vs ws
  | _, _ => false
end

mutual
theorem same_iff (v w : Value) : same v w = true ↔ v = w := by
  match v with
  | unit | none => cases w <;> simp [same]
  | bool _ | int _ | char _ | str _ | token _ | position _ => cases w <;> simp [same]
  | list vs => cases w <;> simp [same, sameList_iff vs]
  | pair a b => cases w <;> simp [same, same_iff a, same_iff b]
  | triple a b c => cases w <;> simp [same, same_iff a, same_iff b, same_iff c, and_assoc]
  | some v => cases w <;> simp [same, same_iff v]
  | ranged _ _ v => cases w <;> simp [same, same_iff v, and_assoc]
  | tagged _ v => cases w <;> simp [same, same_iff v]

theorem sameList_iff (vs ws : List Value) : sameList vs ws = true ↔ vs = ws := by
  match vs with
  | [] => cases ws <;> simp [sameList]
  | v :: vs => cases ws <;> simp [sameList, same_iff v, sameList_iff vs]
end

instance : DecidableEq Value := fun v w => decidable_of_iff _ (same_iff v w)

mutual
-- Adds the text of a value to a text: its characters and digits, without anything between
-- them.
def joinTo (text : String) : Value → String
  | unit | none => text
  | bool b => text ++ toString b
  | int n => text ++ toString n.toInt
  | char c => text.push c
  | str t => text ++ t
  | token (.id name) => text ++ name
  | token (.num number) => text ++ toString number.toInt
  | token (.sym symbol) => text.push symbol
  | list vs => joinAllTo text vs
  | pair a b => b.joinTo (a.joinTo text)
  | triple a b c => c.joinTo (b.joinTo (a.joinTo text))
  | some v => v.joinTo text
  | position i => text ++ toString i
  | ranged _ _ v => v.joinTo text
  | tagged _ v => v.joinTo text

def joinAllTo (text : String) : List Value → String
  | [] => text
  | v :: vs => joinAllTo (v.joinTo text) vs
end

def join (v : Value) : String := v.joinTo ""

mutual
-- The number of a value: parts are summed, a digit is its value, and a text has none.
def num : Value → Int64
  | bool b => if b then 1 else 0
  | int n => n
  | char c => if '0' ≤ c ∧ c ≤ '9' then Int64.ofNat (c.toNat - '0'.toNat) else 0
  | token (.num number) => number
  | list vs => numAll 0 vs
  | pair a b => a.num + b.num
  | triple a b c => a.num + b.num + c.num
  | some v => v.num
  | position i => Int64.ofNat i
  | ranged _ _ v => v.num
  | tagged _ v => v.num
  | unit | none | str _ | token (.id _) | token (.sym _) => 0

def numAll (sum : Int64) : List Value → Int64
  | [] => sum
  | v :: vs => numAll (sum + v.num) vs
end

def items : Value → List Value
  | list vs => vs
  | v => [v]

-- How many items a list has, or how many characters the text of another value.
def len : Value → Nat
  | list vs => vs.length
  | v => v.join.length

def truthy (v : Value) : Bool := v.num != 0

-- A part of a pair, a triple or a list, counted from zero. A missing part is the unit.
def nth : Value → Nat → Value
  | pair a _, 0 => a
  | pair _ b, 1 => b
  | pair _ _, _ => unit
  | triple a _ _, 0 => a
  | triple _ b _, 1 => b
  | triple _ _ c, 2 => c
  | triple _ _ _, _ => unit
  | v, k => v.items.getD k unit

mutual
def firstPosition? : Value → Option Nat
  | position i => .some i
  | list vs => firstPositionAmong? vs
  | pair a b => a.firstPosition? <|> b.firstPosition?
  | triple a b c => a.firstPosition? <|> b.firstPosition? <|> c.firstPosition?
  | some v => v.firstPosition?
  | ranged _ _ v => v.firstPosition?
  | tagged _ v => v.firstPosition?
  | _ => .none

def firstPositionAmong? : List Value → Option Nat
  | [] => .none
  | v :: vs => v.firstPosition? <|> firstPositionAmong? vs
end

def writtenChar (c : Char) : String :=
  if c == '"' then "\\\""
  else if c == '\\' then "\\\\"
  else if c == '\n' then "\\n"
  else if c == '\r' then "\\r"
  else if c == '\t' then "\\t"
  else if c == '\x08' then "\\b"
  else if c == '\x0c' then "\\f"
  else if c.toNat < 0x10 then "\\u000" ++ Text.hex c.toNat
  else if c.toNat < 0x20 then "\\u00" ++ Text.hex c.toNat
  else c.toString

def writtenText (t : String) : String :=
  t.toList.foldl (fun written c => written ++ writtenChar c) "\"" ++ "\""

mutual
def writeTo (line : String) : Value → String
  | unit => line ++ "null"
  | bool b => line ++ toString b
  | int n => line ++ toString n.toInt
  | char c => line ++ writtenText c.toString
  | str t => line ++ writtenText t
  | token (.id name) => line ++ "\x7b\"id\":" ++ writtenText name ++ "\x7d"
  | token (.num number) => line ++ "\x7b\"num\":" ++ toString number.toInt ++ "\x7d"
  | token (.sym symbol) => line ++ "\x7b\"sym\":" ++ writtenText symbol.toString ++ "\x7d"
  | list vs => writeItemsTo (line ++ "[") "" vs ++ "]"
  | pair a b => b.writeTo (a.writeTo (line ++ "\x7b\"pair\":[") ++ ",") ++ "]\x7d"
  | triple a b c =>
    c.writeTo (b.writeTo (a.writeTo (line ++ "\x7b\"triple\":[") ++ ",") ++ ",") ++ "]\x7d"
  | none => line ++ "\x7b\"none\":null\x7d"
  | some v => v.writeTo (line ++ "\x7b\"some\":") ++ "\x7d"
  | position i => line ++ "\x7b\"pos\":" ++ toString i ++ "\x7d"
  | ranged start stop v =>
    v.writeTo (line ++ "\x7b\"range\":[" ++ toString start ++ "," ++ toString stop ++ "],\"value\":") ++ "\x7d"
  | tagged tag v => v.writeTo (line ++ "\x7b\"tag\":" ++ writtenText tag ++ ",\"value\":") ++ "\x7d"

def writeItemsTo (line comma : String) : List Value → String
  | [] => line
  | v :: vs => writeItemsTo (v.writeTo (line ++ comma)) "," vs
end

def written (v : Value) : String := v.writeTo ""

example : (pair (list [int (-1), char '"']) (some unit)).written =
    "\x7b\"pair\":[[-1,\"\\\"\"],\x7b\"some\":null\x7d]\x7d" := by decide

end Value
end Descent
