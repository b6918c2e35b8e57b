import Descent.Failure
import Descent.Grammar.Forms
import Descent.Run
import Descent.Text.Ranges
import Mathlib.Data.List.Forall2

namespace Descent.Format

inductive Json where
  | null
  | bool (b : Bool)
  | number (literal : String)
  | string (s : String)
  | array (items : List Json)
  | object (members : List (String × Json))

namespace Json

abbrev Output (_ : Unit) : Type := Json

abbrev Rule (α : Type) := Grammar Char Unit Output α

def blanks : Rule Unit := .discard (.many (.satisfy Text.isBlank))

def token {α : Type} (p : Rule α) : Rule α := .thenIgnore p blanks

def isHexDigit (c : Char) : Bool := (Numeral.digit? 16 c).isSome

def unicode : Rule Char :=
  .tryMap Text.readCodePoint (.ignoreThen (.the 'u') (.repeatedExactly 4 (.satisfy isHexDigit)))

def escape : Rule Char :=
  .ignoreThen (.the '\\') (.cascadeOf (.the '"') #[
    .the '\\', .the '/',
    .const '\x08' (.the 'b'), .const '\x0c' (.the 'f'), .const '\n' (.the 'n'), .const '\r' (.the 'r'),
    .const '\t' (.the 't'), unicode])

def text : Rule String :=
  (Grammar.delimitedBy (.the '"') (.many (.cascadeOf (.noneOf ['"', '\\']) #[escape])) (.the '"')).map
    String.ofList

def literal : Rule (List Char) :=
  let digits := Grammar.many1 (.satisfy fun c => '0' ≤ c && c ≤ '9')
  let sign := Grammar.optional (.list (.the '-')) []
  let fraction := Grammar.optional (.prepend (.the '.') digits) []
  let exponentSign := Grammar.optional (.list (.oneOf ['+', '-'])) []
  let exponent := Grammar.optional (.concat (.list (.oneOf ['e', 'E'])) (.concat exponentSign digits)) []
  .concat (.concat sign digits) (.concat fraction exponent)

def items : Rule (List Json) :=
  .delimitedBy (token (.the '[')) (.separatedBy (.deferred ()) (token (.the ','))) (.the ']')

def member : Rule (String × Json) :=
  .pair (.thenIgnore (token text) (token (.the ':'))) (.deferred ())

def members : Rule (List (String × Json)) :=
  .delimitedBy (token (.the '\x7b')) (.separatedBy member (token (.the ','))) (.the '\x7d')

def value : Rule Json :=
  token (.cascadeOf (.const null (.sequence ['n', 'u', 'l', 'l'])) #[
    .map bool (.cascadeOf (.const true (.sequence ['t', 'r', 'u', 'e']))
      #[.const false (.sequence ['f', 'a', 'l', 's', 'e'])]),
    .map (fun cs => number (String.ofList cs)) literal,
    .map string text,
    .map array items,
    .map object members])

def document : Rule Json := .thenIgnore (.ignoreThen blanks value) .finish

def rules : Rules Char Unit Output := fun _ => value

-- Reads a document. Values cannot be nested deeper than the text is long.
def parse (t : String) : Reply Json :=
  ((document.parser rules t.length).parse (Source.text t)).1

example : parse "[-1, \"\\u0061\"]" = .done (array [number "-1", string "a"]) := by cbv
example : parse "\"\\ud800\"" = .failed (.noMatch 0) := by cbv

structure Gap where
  chars : List Char
  blank : chars.all Text.isBlank = true := by decide

def shortEscapes : List (Char × Char) :=
  [('"', '"'), ('\\', '\\'), ('/', '/'), ('b', '\x08'), ('f', '\x0c'), ('n', '\n'), ('r', '\r'), ('t', '\t')]

def hexDigit (upper : Bool) (n : Nat) : Char := if upper then (Nat.digitChar n).toUpper else Nat.digitChar n

def codeDigits (c : Char) (upper₁ upper₂ upper₃ upper₄ : Bool) : List Char :=
  [hexDigit upper₁ (c.toNat / 0x1000), hexDigit upper₂ (c.toNat / 0x100 % 0x10),
    hexDigit upper₃ (c.toNat / 0x10 % 0x10), hexDigit upper₄ (c.toNat % 0x10)]

inductive SpellsChar (c : Char) : List Char → Prop where
  | raw (plain : c ∉ ['"', '\\']) : SpellsChar c [c]
  | short {letter : Char} (listed : shortEscapes.lookup letter = some c) : SpellsChar c ['\\', letter]
  | code (small : c.toNat < 0x10000) (upper₁ upper₂ upper₃ upper₄ : Bool) :
      SpellsChar c ('\\' :: 'u' :: codeDigits c upper₁ upper₂ upper₃ upper₄)

inductive SpellsText (t : String) : List Char → Prop where
  | mk {pieces : List (List Char)} (spelled : List.Forall₂ SpellsChar t.toList pieces) :
      SpellsText t ('"' :: pieces.flatten ++ ['"'])

inductive Listed {α : Type} (writes : α → List Char → Prop) : List α → List Char → Prop where
  | nil : Listed writes [] []
  | one {a : α} {cs : List Char} (written : writes a cs) : Listed writes [a] cs
  | cons {a b : α} {as : List α} {cs more : List Char} (written : writes a cs) (gap : Gap)
      (others : Listed writes (b :: as) more) : Listed writes (a :: b :: as) (cs ++ (',' :: gap.chars ++ more))

inductive WritesMember (writes : Json → List Char → Prop) : String × Json → List Char → Prop where
  | mk {name : String} {v : Json} {spelling cs : List Char} (spelled : SpellsText name spelling) (gap gap' : Gap)
      (written : writes v cs) : WritesMember writes (name, v) (spelling ++ gap.chars ++ (':' :: gap'.chars) ++ cs)

-- The last token of a value comes with the blanks behind it.
inductive Writes : Json → List Char → Prop where
  | null (gap : Gap) : Writes .null (['n', 'u', 'l', 'l'] ++ gap.chars)
  | yes (gap : Gap) : Writes (.bool true) (['t', 'r', 'u', 'e'] ++ gap.chars)
  | no (gap : Gap) : Writes (.bool false) (['f', 'a', 'l', 's', 'e'] ++ gap.chars)
  | string {t : String} {spelling : List Char} (spelled : SpellsText t spelling) (gap : Gap) :
      Writes (.string t) (spelling ++ gap.chars)
  | array {items : List Json} {cs : List Char} (gap : Gap) (listed : Listed Writes items cs) (gap' : Gap) :
      Writes (.array items) ('[' :: gap.chars ++ (cs ++ [']']) ++ gap'.chars)
  | object {members : List (String × Json)} {cs : List Char} (gap : Gap)
      (listed : Listed (WritesMember Writes) members cs) (gap' : Gap) :
      Writes (.object members) ('\x7b' :: gap.chars ++ (cs ++ ['\x7d']) ++ gap'.chars)

inductive WritesDocument (v : Json) : List Char → Prop where
  | mk {cs : List Char} (gap : Gap) (written : Writes v cs) : WritesDocument v (gap.chars ++ cs)

inductive Numberless : Json → Prop where
  | null : Numberless .null
  | bool (b : Bool) : Numberless (.bool b)
  | string (t : String) : Numberless (.string t)
  | array {items : List Json} (each : ∀ v ∈ items, Numberless v) : Numberless (.array items)
  | object {members : List (String × Json)} (each : ∀ m ∈ members, Numberless m.2) : Numberless (.object members)

theorem exists_spellsChar (c : Char) : ∃ cs, SpellsChar c cs := by
  by_cases plain : c ∈ ['"', '\\']
  · simp only [List.mem_cons, List.not_mem_nil, or_false] at plain
    rcases plain with rfl | rfl
    · exact ⟨['\\', '"'], .short rfl⟩
    · exact ⟨['\\', '\\'], .short rfl⟩
  · exact ⟨_, .raw plain⟩

theorem exists_spellsText (t : String) : ∃ cs, SpellsText t cs := by
  choose piece spelled using exists_spellsChar
  have pieces : List.Forall₂ SpellsChar t.toList (t.toList.map piece) :=
    List.forall₂_map_right_iff.mpr (List.forall₂_same.mpr fun c _ => spelled c)
  exact ⟨_, .mk pieces⟩

theorem exists_listed {α : Type} {writes : α → List Char → Prop} {as : List α} (each : ∀ a ∈ as, ∃ cs, writes a cs) :
    ∃ cs, Listed writes as cs := by
  induction as with
  | nil => exact ⟨[], .nil⟩
  | cons a as ih =>
    obtain ⟨cs, written⟩ := each a List.mem_cons_self
    obtain ⟨more, listed⟩ := ih fun a member => each a (List.mem_cons_of_mem _ member)
    cases as with
    | nil => exact ⟨cs, .one written⟩
    | cons b as => exact ⟨_, .cons written ⟨[], rfl⟩ listed⟩

theorem Numberless.exists_writes {v : Json} (numberless : Numberless v) : ∃ cs, Writes v cs := by
  have tight : Gap := ⟨[], rfl⟩
  induction numberless with
  | null => exact ⟨_, .null tight⟩
  | bool b =>
    cases b with
    | false => exact ⟨_, .no tight⟩
    | true => exact ⟨_, .yes tight⟩
  | string t =>
    obtain ⟨_, spelled⟩ := exists_spellsText t
    exact ⟨_, .string spelled tight⟩
  | array _ ih =>
    obtain ⟨_, listed⟩ := exists_listed ih
    exact ⟨_, .array tight listed tight⟩
  | @object members _ ih =>
    have each : ∀ m ∈ members, ∃ cs, WritesMember Writes m cs := by
      intro m member
      obtain ⟨_, spelled⟩ := exists_spellsText m.1
      obtain ⟨_, written⟩ := ih m member
      exact ⟨_, .mk spelled tight tight written⟩
    obtain ⟨_, listed⟩ := exists_listed each
    exact ⟨_, .object tight listed tight⟩

end Json
end Descent.Format
