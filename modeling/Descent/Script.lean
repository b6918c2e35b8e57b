import Descent.Grammar.Forms
import Descent.Script.Element
import Descent.Script.Mapping
import Descent.Script.Notes

namespace Descent

abbrev Script (ε χ : Type) := Grammar ε χ (fun _ : String => Value) Value

abbrev ScriptRules (ε χ : Type) := Rules ε χ (fun _ : String => Value)

namespace Script
variable {ε χ : Type}

open Grammar (optional)

inductive Default where
  | list
  | str
  | int
  | opt
  deriving DecidableEq

namespace Default

def value : Default → Value
  | list => .list []
  | str => .str ""
  | int => .int 0
  | opt => .none

def adapt : Default → Value → Value
  | list, v => .list v.items
  | str, v => .str v.join
  | int, v => .int v.num
  | opt, v => .some v

end Default

section Outputs
variable {τ : String → Type} {α β γ : Type}

def ofElement [Element ε] (p : Grammar ε χ τ ε) : Grammar ε χ τ Value := p.map Element.toValue

def ofUnit (p : Grammar ε χ τ Unit) : Grammar ε χ τ Value := p.const .unit

def ofList (p : Grammar ε χ τ (List Value)) : Grammar ε χ τ Value := p.map .list

end Outputs

def satisfy [Element ε] (test : ε → Bool) : Script ε χ := ofElement (.satisfy test)

def sequence [Element ε] (es : List ε) : Script ε χ := (Grammar.sequence es).map (Element.listed Element.toValue)

def position : Script ε χ := Grammar.position.map .position

def items (p : Script ε χ) : Grammar ε χ (fun _ : String => Value) (List Value) := p.map Value.items

def pair (p q : Script ε χ) : Script ε χ := .andThen .pair p q

def triple (p q r : Script ε χ) : Script ε χ := (Grammar.triple p q r).map fun (a, b, c) => .triple a b c

def concat (p q : Script ε χ) : Script ε χ := ofList (.concat p.items q.items)

def append (p q : Script ε χ) : Script ε χ := ofList (.append p.items q)

def prepend (p q : Script ε χ) : Script ε χ := ofList (.prepend p q.items)

def opt (p : Script ε χ) : Script ε χ := (Grammar.opt p).map (·.elim .none .some)

def orDefault (p : Script ε χ) (d : Default) : Script ε χ := (p.map d.adapt).optional d.value

def ranged (p : Script ε χ) : Script ε χ := (Grammar.ranged p).map fun m => .ranged m.start m.stop m.output

def traced (tag : String) (p : Script ε χ) : Script ε χ := Grammar.traced tag Value.written p

def times (p q : Script ε χ) : Script ε χ :=
  p.flatMap fun v => ofList (q.repeatedExactly v.num.toInt.toNat)

def keep (p q : Script ε χ) : Script ε χ := p.flatMap fun v => q.map (.pair v)

def again [Element ε] (p : Script ε χ) : Script ε χ :=
  p.flatMap fun v =>
    match Element.ofValue? v with
    | some e => ofElement (.the e)
    | none => .fail .noMatch

def select (p : Script ε χ) (scripts : List (String × Script ε χ)) : Script ε χ :=
  p.flatMap fun v => (scripts.lookup v.join).getD (.fail .noMatch)

def nesting : Nat := 1000000

def parser [DecidableEq ε] (rules : ScriptRules ε χ) (p : Script ε χ) : Parser ε χ Value :=
  Grammar.parser rules nesting p

-- Rules from a list of them. A name without a rule matches nothing.
def rulesOf (rules : List (String × Script ε χ)) : ScriptRules ε χ := fun name =>
  (rules.lookup name).getD (.fail .noMatch)

def leaf (p : Parser ε χ Value) : Script ε χ :=
  .custom (fun k : Fin 0 => (k.elim0 : Script ε χ)) fun _ => p

def skip (n : Nat) : Script ε χ := leaf fun s i => pure ⟨.unit, i, s.advance i n⟩

def rest [Element ε] : Script ε χ :=
  leaf fun s i => pure ⟨Element.gathered (s.rest i).elements, i, s.stop⟩

def atStart : Script ε χ :=
  leaf fun s i => if s.isStart i then pure (.zeroWidth .unit i) else .fail (.noMatch i)

def countBelow [Notebook χ] (name : String) (limit : Int64) : Script ε χ :=
  leaf fun _ i => do
    let n ← .changeContext fun c => (Notebook.reading name c, c)
    if n < limit then pure (.zeroWidth (.int n) i)
    else .fail (.wrap (.text (name ++ " reached " ++ toString limit.toInt)) i)

def because (p : Script ε χ) (reason : Reason) : Script ε χ :=
  .custom (fun _ : Fin 1 => p) fun parts s i =>
    (parts ⟨0, Nat.zero_lt_one⟩ s i).handle pure fun e => .fail ((Failure.of reason i).causedBy e)

-- The match that reaches farther, the earlier one if they reach as far.
def farther (best? : Option (Match Value)) (m : Match Value) : Match Value :=
  match best? with
  | some best => if best.stop < m.stop then m else best
  | none => m

def deeper (e next : Failure) : Failure := if e.position < next.position then next else e

def longestOf (s : Source ε) (i : Nat) : List (Parser ε χ Value) → Option (Match Value) → Failure →
    Action (Memory χ) (Match Value)
  | [], some best, _ => pure best
  | [], none, e => .fail e
  | p :: ps, best?, e =>
    (p s i).handle
      (fun m => longestOf s i ps (some (farther best? m)) e)
      (fun next => longestOf s i ps best? (deeper e next))

-- The longest match among several scripts. If all fail, the failure that lies farthest on.
def longest (ps : Array (Script ε χ)) : Script ε χ :=
  .custom (fun k : Fin ps.size => ps[k]) fun parts s i =>
    longestOf s i (List.ofFn parts) none (.noMatch i)

end Script
end Descent
