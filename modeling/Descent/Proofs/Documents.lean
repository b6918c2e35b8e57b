import Descent.Format.Json
import Descent.Proofs.Reading.Combinators

namespace Descent.Format.Json

def Solid (cs : List Char) : Prop := ∀ c ∈ cs.head?, Text.isBlank c = false

theorem Solid.nil : Solid [] := nofun

theorem Solid.cons {c : Char} (visible : Text.isBlank c = false) (cs : List Char) : Solid (c :: cs) := by
  intro first same
  cases same
  exact visible

def Reads {α : Type} (p : Parser Char Unit α) (writes : α → List Char → Prop) (n : Nat) : Prop :=
  ∀ a cs, writes a cs → cs.length ≤ n → ∀ rest, Solid rest → p.Takes cs rest () a ()

def letters : List (Parser Char Unit Char) :=
  [.primitive (.the '"'), .primitive (.the '\\'), .primitive (.the '/'), .const '\x08' (.primitive (.the 'b')),
    .const '\x0c' (.primitive (.the 'f')), .const '\n' (.primitive (.the 'n')), .const '\r' (.primitive (.the 'r')),
    .const '\t' (.primitive (.the 't'))]

section Meaning
variable (call : ∀ i, Parser Char Unit (Output i)) {α : Type}

def character : Parser Char Unit Char := .choice [.primitive (.noneOf ['"', '\\']), escape.parserWith call]

theorem parserWith_blanks : blanks.parserWith call = (Parser.primitive (.satisfy Text.isBlank)).many.discard := by
  rw [blanks, Grammar.discard, Grammar.const, Grammar.parserWith_map, Grammar.parserWith_many, Grammar.satisfy,
    Grammar.parserWith_primitive]
  rfl

theorem parserWith_token (p : Rule α) :
    (token p).parserWith call = Parser.thenIgnore (p.parserWith call) (blanks.parserWith call) := by
  rw [token, Grammar.thenIgnore, Grammar.parserWith_andThen]
  rfl

theorem parserWith_unicode : unicode.parserWith call = (Parser.ignoreThen (.primitive (.the 'u'))
    ((Parser.primitive (.satisfy isHexDigit)).repeatedExactly 4)).tryMap Text.readCodePoint := by
  rw [unicode, Grammar.parserWith_tryMap, Grammar.ignoreThen, Grammar.parserWith_andThen, Grammar.repeatedExactly,
    Grammar.parserWith_repeated, Grammar.the, Grammar.satisfy, Grammar.parserWith_primitive,
    Grammar.parserWith_primitive]
  rfl

theorem parserWith_escape : escape.parserWith call = Parser.ignoreThen (.primitive (.the '\\'))
    (.choice (letters ++ [unicode.parserWith call])) := by
  rw [escape, Grammar.ignoreThen, Grammar.parserWith_andThen, Grammar.parserWith_cascadeOf_eq_choice]
  rfl

theorem parserWith_text : text.parserWith call =
    (Parser.delimitedBy (.primitive (.the '"')) (character call).many (.primitive (.the '"'))).map String.ofList := by
  rw [text, Grammar.parserWith_map, Grammar.parserWith_delimitedBy, Grammar.parserWith_many,
    Grammar.parserWith_cascadeOf_eq_choice]
  rfl

def nulls : Parser Char Unit Json := .const null (.primitive (.sequence ['n', 'u', 'l', 'l']))

def booleans : Parser Char Unit Json :=
  .map bool (.choice [.const true (.primitive (.sequence ['t', 'r', 'u', 'e'])),
    .const false (.primitive (.sequence ['f', 'a', 'l', 's', 'e']))])

def numbers : Parser Char Unit Json := (literal.parserWith call).map fun cs => number (String.ofList cs)

def strings : Parser Char Unit Json := (text.parserWith call).map string

def arrays : Parser Char Unit Json := (items.parserWith call).map array

def objects : Parser Char Unit Json := (members.parserWith call).map object

theorem parserWith_value : value.parserWith call = Parser.thenIgnore
    (.choice [nulls, booleans, numbers call, strings call, arrays call, objects call]) (blanks.parserWith call) := by
  have truths : ((Grammar.const true (.sequence ['t', 'r', 'u', 'e']) : Rule Bool).cascadeOf
      #[.const false (.sequence ['f', 'a', 'l', 's', 'e'])]).parserWith call =
        .choice [.const true (.primitive (.sequence ['t', 'r', 'u', 'e'])),
          .const false (.primitive (.sequence ['f', 'a', 'l', 's', 'e']))] :=
    Grammar.parserWith_cascadeOf_eq_choice call _ _
  rw [value, parserWith_token, Grammar.parserWith_cascadeOf_eq_choice, booleans, ← truths]
  rfl

theorem parserWith_document : document.parserWith call =
    .thenIgnore (.ignoreThen (blanks.parserWith call) (value.parserWith call)) (.primitive .finish) := by
  rw [document, Grammar.thenIgnore, Grammar.ignoreThen, Grammar.parserWith_andThen, Grammar.parserWith_andThen,
    Grammar.finish, Grammar.parserWith_primitive]
  rfl

end Meaning

section Codes

theorem digit?_hexDigit : ∀ upper : Bool, ∀ n < 16, Numeral.digit? 16 (hexDigit upper n) = some n := by decide

theorem isHexDigit_hexDigit (upper : Bool) {n : Nat} (small : n < 16) : isHexDigit (hexDigit upper n) = true := by
  rw [isHexDigit, digit?_hexDigit upper n small]
  rfl

theorem read_of_isSome {numeral : Numeral} {c : Char} (digit : (Numeral.digit? numeral.radix c).isSome = true)
    (cs : List Char) : numeral.read (c :: cs) = numeral.digits false 0 (c :: cs) := by
  unfold Numeral.read
  split
  all_goals simp_all [Numeral.digit?]

theorem bounded_of_lt {n : Nat} (fits : n < 4294967296) : (Numeral.unsigned 16 32).bounded n = .ok n := by
  have least : (Numeral.unsigned 16 32).least = 0 := rfl
  have greatest : (Numeral.unsigned 16 32).greatest = 4294967295 := rfl
  rw [Numeral.bounded, least, greatest, if_neg (by omega), if_neg (by omega)]

theorem digits_hexDigit (upper : Bool) {value n : Nat} (small : n < 16) (fits : value * 16 + n < 4294967296)
    (cs : List Char) :
    (Numeral.unsigned 16 32).digits false value (hexDigit upper n :: cs) =
      (Numeral.unsigned 16 32).digits false (value * 16 + n : Nat) cs := by
  have radix : (Numeral.unsigned 16 32).radix = 16 := rfl
  have next := bounded_of_lt fits
  rw [Int.natCast_add, Int.natCast_mul] at next ⊢
  simp only [Numeral.digits, radix, digit?_hexDigit upper n small, Bool.false_eq_true, if_false, next]

theorem readCodePoint_codeDigits {c : Char} (small : c.toNat < 0x10000) (upper₁ upper₂ upper₃ upper₄ : Bool) :
    Text.readCodePoint (codeDigits c upper₁ upper₂ upper₃ upper₄) = .ok c := by
  have first : (Numeral.digit? (Numeral.unsigned 16 32).radix (hexDigit upper₁ (c.toNat / 0x1000))).isSome = true :=
    isHexDigit_hexDigit upper₁ (by omega)
  have read : (Numeral.unsigned 16 32).read (codeDigits c upper₁ upper₂ upper₃ upper₄) = .ok (c.toNat : Int) := by
    rw [codeDigits, read_of_isSome first, ← Int.natCast_zero, digits_hexDigit _ (by omega) (by omega),
      digits_hexDigit _ (by omega) (by omega), digits_hexDigit _ (by omega) (by omega),
      digits_hexDigit _ (by omega) (by omega), Numeral.digits]
    congr 2
    omega
  rw [Text.readCodePoint, read]
  simp only [Int.toNat_natCast, Text.scalar?_toNat]

theorem isHexDigit_of_mem {c : Char} (small : c.toNat < 0x10000) (upper₁ upper₂ upper₃ upper₄ : Bool) :
    ∀ d ∈ codeDigits c upper₁ upper₂ upper₃ upper₄, isHexDigit d = true := by
  simp only [codeDigits, List.forall_mem_cons]
  exact ⟨isHexDigit_hexDigit _ (by omega), isHexDigit_hexDigit _ (by omega), isHexDigit_hexDigit _ (by omega),
    isHexDigit_hexDigit _ (by omega), List.forall_mem_nil _⟩

end Codes

section Strings
variable {call : ∀ i, Parser Char Unit (Output i)} {rest cs : List Char} {c : Char} {t : String}

theorem takes_unicode (small : c.toNat < 0x10000) (upper₁ upper₂ upper₃ upper₄ : Bool) :
    (unicode.parserWith call).Takes ('u' :: codeDigits c upper₁ upper₂ upper₃ upper₄) rest () c () := by
  have digits : ((Parser.primitive (.satisfy isHexDigit) : Parser Char Unit Char).repeatedExactly 4).Takes
      (codeDigits c upper₁ upper₂ upper₃ upper₄) rest () (codeDigits c upper₁ upper₂ upper₃ upper₄) () :=
    Parser.takes_repeatedExactly_satisfy (isHexDigit_of_mem small upper₁ upper₂ upper₃ upper₄)
  have marked := Parser.Takes.andThen (fun _ ds => ds) (Parser.takes_the (e := 'u')) digits
  rw [parserWith_unicode]
  exact marked.tryMap (readCodePoint_codeDigits small upper₁ upper₂ upper₃ upper₄)

theorem letters_stand : List.Forall₂ (fun entry p => p.StandsFor () entry.1 entry.2) shortEscapes letters :=
  .cons .the (.cons .the (.cons .the (.cons (.const .the _) (.cons (.const .the _) (.cons (.const .the _)
    (.cons (.const .the _) (.cons (.const .the _) .nil)))))))

theorem takes_escape_short {letter : Char} (listed : shortEscapes.lookup letter = some c) :
    (escape.parserWith call).Takes ['\\', letter] rest () c () := by
  rw [parserWith_escape]
  exact Parser.Takes.andThen _ Parser.takes_the (Parser.StandsFor.choice letters_stand listed _)

theorem takes_escape_code (small : c.toNat < 0x10000) (upper₁ upper₂ upper₃ upper₄ : Bool) :
    (escape.parserWith call).Takes ('\\' :: 'u' :: codeDigits c upper₁ upper₂ upper₃ upper₄) rest () c () := by
  have other : ∀ entry ∈ shortEscapes, 'u' ≠ entry.1 := by decide
  have refuse (rest : List Char) : ∀ p ∈ letters, p.Refuses ('u' :: rest) () :=
    Parser.StandsFor.refuse_each letters_stand fun entry member same => other entry member (Option.some.inj same)
  have code : (unicode.parserWith call).Takes ('u' :: codeDigits c upper₁ upper₂ upper₃ upper₄) rest () c () :=
    takes_unicode small upper₁ upper₂ upper₃ upper₄
  rw [parserWith_escape]
  exact Parser.Takes.andThen _ Parser.takes_the (Parser.Takes.choice_append (refuse _) (code.choice_cons []))

theorem refuses_escape (plain : rest.head? ≠ some '\\') : (escape.parserWith call).Refuses rest () := by
  rw [parserWith_escape]
  exact (Parser.refuses_the plain).andThen _ _

theorem SpellsChar.ne_nil (spelled : SpellsChar c cs) : cs ≠ [] := by
  cases spelled <;> exact List.cons_ne_nil _ _

theorem takes_character (spelled : SpellsChar c cs) (rest : List Char) : (character call).Takes cs rest () c () := by
  have refuses (more : List Char) :
      (Parser.primitive (.noneOf ['"', '\\']) : Parser Char Unit Char).Refuses ('\\' :: more) () :=
    Parser.refuses_noneOf (by simp)
  cases spelled with
  | raw plain => exact (Parser.takes_noneOf plain).choice_cons _
  | short listed => exact (refuses _).choice_cons ((takes_escape_short listed).choice_cons [])
  | code small upper₁ upper₂ upper₃ upper₄ =>
    exact (refuses _).choice_cons ((takes_escape_code small upper₁ upper₂ upper₃ upper₄).choice_cons [])

theorem refuses_character (rest : List Char) : (character call).Refuses ('"' :: rest) () := by
  apply Parser.Refuses.choice
  simp only [List.forall_mem_cons]
  exact ⟨Parser.refuses_noneOf (by simp), refuses_escape (by simp), List.forall_mem_nil _⟩

theorem takes_text (spelled : SpellsText t cs) : (text.parserWith call).Takes cs rest () t () := by
  obtain @⟨pieces, spelled⟩ := spelled
  have characters : (character call).many.Takes pieces.flatten ('"' :: rest) () t.toList () :=
    (Parser.takesEach_flatten (spelled.imp fun c cs spelled => ⟨spelled.ne_nil, takes_character spelled⟩)
      (refuses_character rest)).many
  have read := (characters.enclosed '"').map String.ofList
  rw [String.ofList_toList] at read
  rw [parserWith_text]
  exact read

theorem refuses_text (other : rest.head? ≠ some '"') : (text.parserWith call).Refuses rest () := by
  rw [parserWith_text]
  exact ((Parser.refuses_the other).delimitedBy _ _).map _

end Strings

section Tokens
variable {call : ∀ i, Parser Char Unit (Output i)} {α : Type} {p : Rule α} {taken rest : List Char} {a : α}
  {mark : Char}

theorem takes_blanks (gap : Gap) (solid : Solid rest) : (blanks.parserWith call).Takes gap.chars rest () () () := by
  rw [parserWith_blanks]
  exact (Parser.takesEach_satisfy (List.all_eq_true.mp gap.blank) solid).many.map _

theorem takes_token (gap : Gap) (takes : (p.parserWith call).Takes taken (gap.chars ++ rest) () a ())
    (solid : Solid rest) : ((token p).parserWith call).Takes (taken ++ gap.chars) rest () a () := by
  rw [parserWith_token]
  exact takes.andThen _ (takes_blanks gap solid)

theorem refuses_token (refuses : (p.parserWith call).Refuses rest ()) :
    ((token p).parserWith call).Refuses rest () := by
  rw [parserWith_token]
  exact refuses.andThen _ _

theorem takes_mark (gap : Gap) (solid : Solid rest) :
    ((token (.the mark)).parserWith call).Takes (mark :: gap.chars) rest () mark () :=
  takes_token (p := Grammar.the mark) gap Parser.takes_the solid

theorem refuses_mark (other : rest.head? ≠ some mark) : ((token (.the mark)).parserWith call).Refuses rest () :=
  refuses_token (p := Grammar.the mark) (Parser.refuses_the other)

end Tokens

section Lists
variable {call : ∀ i, Parser Char Unit (Output i)} {α : Type} {p : Rule α} {writes : α → List Char → Prop} {n : Nat}
  {as : List α} {cs rest : List Char}

theorem Listed.solid (begins : ∀ a cs, writes a cs → ∀ rest, Solid (cs ++ rest)) (listed : Listed writes as cs)
    (solid : Solid rest) : Solid (cs ++ rest) := by
  cases listed with
  | nil => exact solid
  | one written => exact begins _ _ written rest
  | cons written gap others =>
    rw [List.append_assoc]
    exact begins _ _ written _

theorem takesBetween_listed (begins : ∀ a cs, writes a cs → ∀ rest, Solid (cs ++ rest))
    (reads : Reads (p.parserWith call) writes n) (listed : Listed writes as cs) (nonempty : as ≠ [])
    (fits : cs.length ≤ n) (last : rest.head? ≠ some ',') (solid : Solid rest) :
    (p.parserWith call).TakesBetween ((token (.the ',')).parserWith call) rest cs () as () := by
  induction listed with
  | nil => exact absurd rfl nonempty
  | one written => exact .one (reads _ _ written fits rest solid) (refuses_mark last)
  | @cons a b as cs more written gap others ih =>
    simp only [List.length_append] at fits
    have goesOn := ih (List.cons_ne_nil b as) (by omega)
    have comma : Solid (',' :: gap.chars ++ (more ++ rest)) := .cons (by decide) _
    exact .cons (reads a cs written (by omega) _ comma) (List.cons_ne_nil ',' _)
      (takes_mark gap (others.solid begins solid)) goesOn

theorem takes_listed (begins : ∀ a cs, writes a cs → ∀ rest, Solid (cs ++ rest))
    (reads : Reads (p.parserWith call) writes n) (ends : (p.parserWith call).Refuses rest ())
    (listed : Listed writes as cs) (fits : cs.length ≤ n) (last : rest.head? ≠ some ',') (solid : Solid rest) :
    ((Grammar.separatedBy p (token (.the ','))).parserWith call).Takes cs rest () as () := by
  rw [Grammar.parserWith_separatedBy]
  cases as with
  | nil =>
    cases listed
    exact ends.separatedBy _
  | cons a as =>
    have between := takesBetween_listed begins reads listed (List.cons_ne_nil a as) fits last solid
    exact between.separatedBy1.orElse _

theorem takes_bracketed {left right : Char} (begins : ∀ a cs, writes a cs → ∀ rest, Solid (cs ++ rest))
    (reads : Reads (p.parserWith call) writes n) (ends : (p.parserWith call).Refuses (right :: rest) ()) (gap : Gap)
    (listed : Listed writes as cs) (fits : cs.length ≤ n) (other : right ≠ ',') (visible : Text.isBlank right = false) :
    ((Grammar.delimitedBy (token (.the left)) (.separatedBy p (token (.the ','))) (.the right)).parserWith call).Takes
      (left :: gap.chars ++ (cs ++ [right])) rest () as () := by
  have solid : Solid (right :: rest) := .cons visible rest
  have last : (right :: rest).head? ≠ some ',' := fun same => other (Option.some.inj same)
  have inside := takes_listed begins reads ends listed fits last solid
  have opened : Solid (cs ++ [right] ++ rest) := by
    rw [List.append_assoc]
    exact listed.solid begins solid
  rw [Grammar.parserWith_delimitedBy]
  exact (takes_mark gap opened).delimitedBy inside Parser.takes_the

theorem refuses_bracketed {left right : Char} (other : rest.head? ≠ some left) :
    ((Grammar.delimitedBy (token (.the left)) (.separatedBy p (token (.the ','))) (.the right)).parserWith call).Refuses
      rest () := by
  rw [Grammar.parserWith_delimitedBy]
  exact (refuses_mark other).delimitedBy _ _

end Lists

section Alternatives
variable {call : ∀ i, Parser Char Unit (Output i)} {rest : List Char}

def isDigit (c : Char) : Bool := '0' ≤ c && c ≤ '9'

theorem refuses_nulls (other : rest.head? ≠ some 'n') : nulls.Refuses rest () :=
  (Parser.refuses_sequence other).map _

theorem refuses_booleans (yes : rest.head? ≠ some 't') (no : rest.head? ≠ some 'f') : booleans.Refuses rest () := by
  apply Parser.Refuses.map
  apply Parser.Refuses.choice
  simp only [List.forall_mem_cons]
  exact ⟨(Parser.refuses_sequence yes).map _, (Parser.refuses_sequence no).map _, List.forall_mem_nil _⟩

theorem refuses_numbers (sign : rest.head? ≠ some '-') (digit : ∀ c ∈ rest.head?, isDigit c = false) :
    (numbers call).Refuses rest () := by
  have unsigned :
      ((Grammar.optional (.list (.the '-')) [] : Rule (List Char)).parserWith call).Takes [] rest () [] () :=
    ((Parser.refuses_the sign).map _).optional []
  have undigited : ((Grammar.many1 (.satisfy isDigit) : Rule (List Char)).parserWith call).Refuses rest () := by
    rw [Grammar.parserWith_many1]
    exact (Parser.refuses_satisfy digit).many1
  have absent := Parser.Refuses.andThen_of_takes Prod.mk unsigned undigited
  unfold numbers literal Grammar.concat Grammar.pair
  rw [Grammar.parserWith_map, Grammar.parserWith_andThen, Grammar.parserWith_map, Grammar.parserWith_andThen]
  exact (((absent.map _).andThen _ _).map _).map _

theorem refuses_strings (other : rest.head? ≠ some '"') : (strings call).Refuses rest () :=
  (refuses_text other).map _

theorem refuses_arrays (other : rest.head? ≠ some '[') : (arrays call).Refuses rest () :=
  (refuses_bracketed other).map _

theorem refuses_objects (other : rest.head? ≠ some '\x7b') : (objects call).Refuses rest () :=
  (refuses_bracketed other).map _

theorem refuses_value : (value.parserWith call).Refuses (']' :: rest) () := by
  rw [parserWith_value]
  apply Parser.Refuses.andThen
  apply Parser.Refuses.choice
  simp only [List.forall_mem_cons]
  exact ⟨refuses_nulls (by simp), refuses_booleans (by simp) (by simp), refuses_numbers (by simp) (by simp [isDigit]),
    refuses_strings (by simp), refuses_arrays (by simp), refuses_objects (by simp), List.forall_mem_nil _⟩

theorem refuses_member : (member.parserWith call).Refuses ('\x7d' :: rest) () := by
  have other : ((token text).parserWith call).Refuses ('\x7d' :: rest) () := refuses_token (refuses_text (by simp))
  unfold member Grammar.thenIgnore Grammar.pair
  rw [Grammar.parserWith_andThen, Grammar.parserWith_andThen]
  exact (other.andThen _ _).andThen _ _

end Alternatives

section Values
variable {call : ∀ i, Parser Char Unit (Output i)} {taken rest cs : List Char} {v : Json} {n : Nat}

theorem takes_value_of (gap : Gap)
    (chosen : (Parser.choice [nulls, booleans, numbers call, strings call, arrays call, objects call]).Takes taken
      (gap.chars ++ rest) () v ()) (solid : Solid rest) :
    (value.parserWith call).Takes (taken ++ gap.chars) rest () v () := by
  rw [parserWith_value]
  exact chosen.andThen _ (takes_blanks gap solid)

theorem takes_null (gap : Gap) (solid : Solid rest) :
    (value.parserWith call).Takes (['n', 'u', 'l', 'l'] ++ gap.chars) rest () null () :=
  takes_value_of gap ((Parser.takes_sequence.map _).choice_cons _) solid

theorem takes_yes (gap : Gap) (solid : Solid rest) :
    (value.parserWith call).Takes (['t', 'r', 'u', 'e'] ++ gap.chars) rest () (bool true) () := by
  have yes : booleans.Takes ['t', 'r', 'u', 'e'] (gap.chars ++ rest) () (bool true) () :=
    ((Parser.takes_sequence.map _).choice_cons _).map _
  exact takes_value_of gap ((refuses_nulls (by simp)).choice_cons (yes.choice_cons _)) solid

theorem takes_no (gap : Gap) (solid : Solid rest) :
    (value.parserWith call).Takes (['f', 'a', 'l', 's', 'e'] ++ gap.chars) rest () (bool false) () := by
  have yes : (Parser.const true (.primitive (.sequence ['t', 'r', 'u', 'e'])) : Parser Char Unit Bool).Refuses
      (['f', 'a', 'l', 's', 'e'] ++ (gap.chars ++ rest)) () :=
    (Parser.refuses_sequence (by simp)).map _
  have no : booleans.Takes ['f', 'a', 'l', 's', 'e'] (gap.chars ++ rest) () (bool false) () :=
    (yes.choice_cons ((Parser.takes_sequence.map _).choice_cons [])).map _
  exact takes_value_of gap ((refuses_nulls (by simp)).choice_cons (no.choice_cons _)) solid

theorem refuse_words {first : Char} (others : first ∉ ['n', 't', 'f', '-']) (digit : isDigit first = false) :
    ∀ p ∈ [nulls, booleans, numbers call], p.Refuses (first :: rest) () := by
  simp only [List.mem_cons, List.not_mem_nil, or_false, not_or] at others
  obtain ⟨n, t, f, sign⟩ := others
  simp only [List.forall_mem_cons]
  exact ⟨refuses_nulls (by simpa using n), refuses_booleans (by simpa using t) (by simpa using f),
    refuses_numbers (by simpa using sign) (by simpa using digit), List.forall_mem_nil _⟩

theorem takes_string {t : String} (spelled : SpellsText t cs) (gap : Gap) (solid : Solid rest) :
    (value.parserWith call).Takes (cs ++ gap.chars) rest () (string t) () := by
  have text : (strings call).Takes cs (gap.chars ++ rest) () (string t) () := (takes_text spelled).map _
  obtain ⟨_⟩ := spelled
  exact takes_value_of gap (.choice_append (refuse_words (by simp) (by decide)) (text.choice_cons _)) solid

theorem SpellsText.solid {t : String} (spelled : SpellsText t cs) (rest : List Char) : Solid (cs ++ rest) := by
  obtain ⟨_⟩ := spelled
  exact .cons (by decide) _

theorem Writes.ne_nil (written : Writes v cs) : cs ≠ [] := by
  cases written with
  | string spelled gap =>
    obtain ⟨_⟩ := spelled
    exact List.cons_ne_nil _ _
  | _ => exact List.cons_ne_nil _ _

theorem Writes.solid (written : Writes v cs) (rest : List Char) : Solid (cs ++ rest) := by
  cases written with
  | string spelled gap =>
    rw [List.append_assoc]
    exact spelled.solid _
  | _ => exact .cons (by decide) _

theorem WritesMember.solid {writes : Json → List Char → Prop} {m : String × Json} (written : WritesMember writes m cs)
    (rest : List Char) : Solid (cs ++ rest) := by
  obtain ⟨spelled, gap, gap', written⟩ := written
  simp only [List.append_assoc]
  exact spelled.solid _

theorem takes_array {items : List Json} (reads : Reads (call ()) Writes n)
    (ends : ∀ rest, (call ()).Refuses (']' :: rest) ()) (gap : Gap) (listed : Listed Writes items cs) (fits : cs.length ≤ n) (gap' : Gap) (solid : Solid rest) :
    (value.parserWith call).Takes ('[' :: gap.chars ++ (cs ++ [']']) ++ gap'.chars) rest () (array items) () := by
  have inside : (arrays call).Takes ('[' :: gap.chars ++ (cs ++ [']'])) (gap'.chars ++ rest) () (array items) () :=
    (takes_bracketed (p := .deferred ()) (fun v cs written => written.solid) reads (ends _) gap listed fits (by decide)
      (by decide)).map _
  have strings : (strings call).Refuses ('[' :: gap.chars ++ (cs ++ [']']) ++ (gap'.chars ++ rest)) () :=
    refuses_strings (by simp)
  exact takes_value_of gap' (.choice_append (refuse_words (by simp) (by decide))
    (strings.choice_cons (inside.choice_cons _))) solid

theorem reads_member (reads : Reads (call ()) Writes n) : Reads (member.parserWith call) (WritesMember Writes) n := by
  intro m cs written fits rest solid
  obtain @⟨name, v, spelling, cs, spelled, gap, gap', written⟩ := written
  simp only [List.length_append] at fits
  have colon : ((token (.the ':')).parserWith call).Takes (':' :: gap'.chars) (cs ++ rest) () ':' () :=
    takes_mark gap' (written.solid rest)
  have named : ((token text).parserWith call).Takes (spelling ++ gap.chars) (':' :: gap'.chars ++ (cs ++ rest)) ()
      name () :=
    takes_token gap (takes_text spelled) (.cons (by decide) _)
  exact (named.andThen (fun name _ => name) colon).andThen Prod.mk (reads v cs written (by omega) rest solid)

theorem takes_object {members : List (String × Json)} (reads : Reads (call ()) Writes n) (gap : Gap)
    (listed : Listed (WritesMember Writes) members cs) (fits : cs.length ≤ n) (gap' : Gap) (solid : Solid rest) :
    (value.parserWith call).Takes ('\x7b' :: gap.chars ++ (cs ++ ['\x7d']) ++ gap'.chars) rest ()
      (object members) () := by
  have inside : (objects call).Takes ('\x7b' :: gap.chars ++ (cs ++ ['\x7d'])) (gap'.chars ++ rest) ()
      (object members) () :=
    (takes_bracketed (p := member) (fun m cs written => written.solid) (reads_member reads) refuses_member gap listed
      fits (by decide) (by decide)).map _
  have strings : (strings call).Refuses ('\x7b' :: gap.chars ++ (cs ++ ['\x7d']) ++ (gap'.chars ++ rest)) () :=
    refuses_strings (by simp)
  have arrays : (arrays call).Refuses ('\x7b' :: gap.chars ++ (cs ++ ['\x7d']) ++ (gap'.chars ++ rest)) () :=
    refuses_arrays (by simp)
  exact takes_value_of gap' (.choice_append (refuse_words (by simp) (by decide))
    (strings.choice_cons (arrays.choice_cons (inside.choice_cons [])))) solid

-- By induction on the depth: what is within a list is shorter than the list, by its brackets.
theorem reads_value (d : Nat) : Reads (value.parserWith (rules.call d)) Writes d := by
  induction d with
  | zero =>
    intro v cs written fits rest solid
    exact absurd (List.length_eq_zero_iff.mp (Nat.le_zero.mp fits)) written.ne_nil
  | succ d ih =>
    have inside : Reads (rules.call (d + 1) ()) Writes d := ih
    intro v cs written fits rest solid
    cases written with
    | null gap => exact takes_null gap solid
    | yes gap => exact takes_yes gap solid
    | no gap => exact takes_no gap solid
    | string spelled gap => exact takes_string spelled gap solid
    | array gap listed gap' =>
      simp only [List.length_append, List.length_cons] at fits
      exact takes_array inside (fun _ => refuses_value) gap listed (by omega) gap' solid
    | object gap listed gap' =>
      simp only [List.length_append, List.length_cons] at fits
      exact takes_object inside gap listed (by omega) gap' solid

theorem takes_document {d : Nat} (written : WritesDocument v cs) (fits : cs.length ≤ d) :
    (document.parser rules d).Takes cs [] () v () := by
  obtain @⟨cs, gap, written⟩ := written
  rw [List.length_append] at fits
  have value := reads_value d v cs written (by omega) [] .nil
  have blanks : (blanks.parserWith (rules.call d)).Takes gap.chars (cs ++ []) () () () :=
    takes_blanks gap (written.solid [])
  have read := (blanks.andThen (fun _ v => v) value).andThen (fun v _ => v) Parser.takes_finish
  rw [List.append_nil] at read
  rw [Grammar.parser, parserWith_document]
  exact read

end Values

-- A text is no longer than positions can say. Any depth will do that allows for as many lists within one another as
-- there are characters.
theorem document_reads_back {v : Json} {t : String} (written : WritesDocument v t.toList)
    (short : (Source.text t).stop ≤ Count.unbounded) {depth : Nat} (deep : t.length ≤ depth) :
    ((document.parser rules depth).parse (Source.text t)).1 = .done v := by
  rw [← String.length_toList] at deep
  have takes := takes_document written deep
  obtain ⟨events, run⟩ := Parser.Takes.parseWith (s := Source.text t) (m := .fresh ()) takes short
  exact congrArg Prod.fst run

theorem document_reads_back_nested :
    let v := object [("é\n", array [bool true, array [], null]), ("é\n", string "\"x")]
    let t := " \x7b\"\\u00e9\\n\" :[true , [ ],\tnull]\n,\"\\u00E9\\n\":\"\\\"x\" \x7d"
    WritesDocument v t.toList ∧ ((document.parser rules t.length).parse (Source.text t)).1 = .done v := by
  intro v t
  let tight : Gap := { chars := [] }
  let space : Gap := { chars := [' '] }
  have lower : List.Forall₂ SpellsChar "é\n".toList [['\\', 'u', '0', '0', 'e', '9'], ['\\', 'n']] :=
    .cons (.code (by decide) false false false false) (.cons (.short rfl) .nil)
  have upper : List.Forall₂ SpellsChar "é\n".toList [['\\', 'u', '0', '0', 'E', '9'], ['\\', 'n']] :=
    .cons (.code (by decide) false false true false) (.cons (.short rfl) .nil)
  have quoted : List.Forall₂ SpellsChar "\"x".toList [['\\', '"'], ['x']] :=
    .cons (.short rfl) (.cons (.raw (by decide)) .nil)
  have items : Listed Writes [bool true, array [], null] "true , [ ],\tnull".toList :=
    .cons (Writes.yes space) space
      (.cons (Writes.array space .nil tight) { chars := ['\t'] } (.one (Writes.null tight)))
  have first : Writes (array [bool true, array [], null]) "[true , [ ],\tnull]\n".toList :=
    .array tight items { chars := ['\n'] }
  have second : Writes (string "\"x") "\"\\\"x\" ".toList := .string (.mk quoted) space
  have members : Listed (WritesMember Writes) [("é\n", array [bool true, array [], null]), ("é\n", string "\"x")]
      "\"\\u00e9\\n\" :[true , [ ],\tnull]\n,\"\\u00E9\\n\":\"\\\"x\" ".toList :=
    .cons (WritesMember.mk (.mk lower) space tight first) tight (.one (WritesMember.mk (.mk upper) tight tight second))
  have written : WritesDocument v " \x7b\"\\u00e9\\n\" :[true , [ ],\tnull]\n,\"\\u00E9\\n\":\"\\\"x\" \x7d".toList :=
    .mk space (.object tight members tight)
  exact ⟨written, document_reads_back written (by decide) (Nat.le_refl _)⟩

end Descent.Format.Json
