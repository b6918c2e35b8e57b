import Descent.Format.Csv
import Descent.Proofs.Reading.Combinators

namespace Descent.Format.Csv

def letter : Parser Char Unit Char :=
  .choice [.primitive (.noneOf ['"']), .const '"' (.pair (.primitive (.the '"')) (.primitive (.the '"')))]

section Meaning
variable (call : ∀ i, Parser Char Unit (Output i))

theorem parserWith_quoted : quoted.parserWith call =
    Parser.delimitedBy (.primitive (.the '"')) letter.many (.primitive (.the '"')) := by
  rw [quoted, Grammar.surroundedBy, Grammar.parserWith_delimitedBy, Grammar.parserWith_many,
    Grammar.parserWith_cascadeOf_eq_choice]
  rfl

theorem parserWith_bare : bare.parserWith call = (Parser.primitive (.noneOf [',', '"', '\n'])).many := by
  rw [bare, Grammar.parserWith_many, Grammar.noneOf, Grammar.parserWith_primitive]

theorem parserWith_field : field.parserWith call =
    (Parser.choice [quoted.parserWith call, bare.parserWith call]).map String.ofList := by
  rw [field, Grammar.parserWith_map, Grammar.parserWith_cascadeOf_eq_choice]
  rfl

theorem parserWith_record : record.parserWith call =
    Parser.ignoreThen (Parser.primitive .finish).notAhead
      (Parser.separatedBy1 (field.parserWith call) (.primitive (.the ','))) := by
  rw [record, Grammar.ignoreThen, Grammar.parserWith_andThen, Grammar.parserWith_notAhead,
    Grammar.parserWith_separatedBy1, Grammar.finish, Grammar.the, Grammar.parserWith_primitive, Grammar.parserWith_primitive]
  rfl

theorem parserWith_table : table.parserWith call =
    Parser.thenIgnore
      (.thenIgnore (.separatedBy (record.parserWith call) (.primitive (.the '\n'))) (Parser.primitive (.the '\n')).opt)
      (.primitive .finish) := by
  rw [table, Grammar.thenIgnore, Grammar.thenIgnore, Grammar.parserWith_andThen, Grammar.parserWith_andThen,
    Grammar.parserWith_separatedBy, Grammar.parserWith_opt, Grammar.finish, Grammar.the, Grammar.parserWith_primitive,
    Grammar.parserWith_primitive]
  rfl

end Meaning

section Fields
variable {call : ∀ i, Parser Char Unit (Output i)} {rest cs : List Char} {text : String}

theorem takes_letter (c : Char) (rest : List Char) : letter.Takes (inQuotes c) rest () c () := by
  by_cases quote : c = '"'
  · subst quote
    have refuses : (Parser.primitive (.noneOf ['"']) : Parser Char Unit Char).Refuses (['"', '"'] ++ rest) () :=
      Parser.refuses_noneOf (by simp)
    have first : (Parser.primitive (.the '"') : Parser Char Unit Char).Takes ['"'] (['"'] ++ rest) () '"' () :=
      Parser.takes_the
    have twice := (first.andThen Prod.mk Parser.takes_the).map fun _ => '"'
    exact refuses.choice_cons (twice.choice_cons [])
  · rw [inQuotes, if_neg quote]
    exact (Parser.takes_noneOf (by simpa using quote)).choice_cons _

theorem inQuotes_ne_nil (c : Char) : inQuotes c ≠ [] := by
  unfold inQuotes
  split <;> exact List.cons_ne_nil _ _

-- A quote that is not followed by another one ends the field.
theorem refuses_letter (alone : rest.head? ≠ some '"') : letter.Refuses ('"' :: rest) () := by
  apply Parser.Refuses.choice
  intro p member
  simp only [List.mem_cons, List.not_mem_nil, or_false] at member
  rcases member with rfl | rfl
  · exact Parser.refuses_noneOf (by simp)
  · have once : (Parser.primitive (.the '"') : Parser Char Unit Char).Takes ['"'] rest () '"' () := Parser.takes_the
    exact (Parser.Refuses.andThen_of_takes Prod.mk once (Parser.refuses_the alone)).map _

theorem takes_quoted (cs : List Char) (alone : rest.head? ≠ some '"') :
    (quoted.parserWith call).Takes ('"' :: cs.flatMap inQuotes ++ ['"']) rest () cs () := by
  have pieces : List.Forall₂ (fun c piece => piece ≠ [] ∧ ∀ rest, letter.Takes piece rest () c ()) cs (cs.map inQuotes) := by
    rw [List.forall₂_map_right_iff, List.forall₂_same]
    exact fun c _ => ⟨inQuotes_ne_nil c, takes_letter c⟩
  have inside : letter.many.Takes (cs.flatMap inQuotes) ('"' :: rest) () cs () :=
    (Parser.takesEach_flatten pieces (refuses_letter alone)).many
  rw [parserWith_quoted]
  exact inside.enclosed '"'

theorem refuses_quoted (unquoted : rest.head? ≠ some '"') : (quoted.parserWith call).Refuses rest () := by
  rw [parserWith_quoted]
  exact (Parser.refuses_the unquoted).delimitedBy _ _

theorem takes_bare (plain : ∀ c ∈ cs, c ∉ [',', '"', '\n']) (stop : ∀ c ∈ rest.head?, c ∈ [',', '\n']) :
    (bare.parserWith call).Takes cs rest () cs () := by
  have listed : ∀ c ∈ rest.head?, c ∈ [',', '"', '\n'] := by
    intro c first
    have among := stop c first
    simp only [List.mem_cons, List.not_mem_nil, or_false] at among ⊢
    exact among.imp_right .inr
  rw [parserWith_bare]
  exact (Parser.takesEach_noneOf plain listed).many

theorem unquoted_of_plain (plain : ∀ c ∈ cs, c ∉ [',', '"', '\n']) (stop : ∀ c ∈ rest.head?, c ∈ [',', '\n']) :
    (cs ++ rest).head? ≠ some '"' := by
  intro quote
  cases cs with
  | nil => simpa using stop '"' quote
  | cons c cs =>
    cases quote
    exact plain '"' List.mem_cons_self (by simp)

theorem takes_field (written : WritesField text cs) (stop : ∀ c ∈ rest.head?, c ∈ [',', '\n']) :
    (field.parserWith call).Takes cs rest () text () := by
  have choice : (Parser.choice [quoted.parserWith call, bare.parserWith call]).Takes cs rest () text.toList () := by
    cases written with
    | quoted => exact (takes_quoted text.toList fun quote => by simpa using stop '"' quote).choice_cons _
    | bare plain =>
      exact (refuses_quoted (unquoted_of_plain plain stop)).choice_cons ((takes_bare plain stop).choice_cons [])
  have read := choice.map String.ofList
  rw [String.ofList_toList] at read
  rw [parserWith_field]
  exact read

end Fields

section Records
variable {call : ∀ i, Parser Char Unit (Output i)} {rest cs : List Char} {texts : List String}

theorem refuses_record : (record.parserWith call).Refuses [] () := by
  have ended : (Parser.primitive .finish : Parser Char Unit Unit).Takes [] [] () () () := Parser.takes_finish
  rw [parserWith_record]
  exact ended.notAhead.andThen _ _

theorem WritesField.eq_empty {text : String} (written : WritesField text []) : text = "" := by
  generalize nothing : [] = cs at written
  cases written with
  | quoted => cases nothing
  | bare plain => exact String.toList_eq_nil_iff.mp nothing.symm

-- Otherwise it could not be told from the end of the table.
theorem WritesRecord.ne_nil (written : WritesRecord texts cs) : cs ≠ [] := by
  obtain ⟨nonempty, written, shows⟩ := written
  cases written with
  | nil => exact absurd rfl nonempty
  | cons first others =>
    rw [Parser.intercalate_cons]
    cases others with
    | cons _ _ => simp
    | nil =>
      intro empty
      rw [List.flatMap_nil, List.append_nil] at empty
      subst empty
      rw [first.eq_empty] at shows
      cases shows rfl

theorem takes_record (written : WritesRecord texts cs) (stop : ∀ c ∈ rest.head?, c = '\n') :
    (record.parserWith call).Takes cs rest () texts () := by
  have some : cs ++ rest ≠ [] := List.append_ne_nil_of_left_ne_nil written.ne_nil rest
  have begins : (Parser.primitive .finish).notAhead.Takes [] (cs ++ rest) () () () := (Parser.refuses_finish some).notAhead
  have last : rest.head? ≠ .some ',' := fun comma => by simpa using stop ',' comma
  obtain ⟨nonempty, written, shows⟩ := written
  have each := written.imp fun text cs written next (goes : Parser.Goes ',' rest next) =>
    show (field.parserWith call).Takes cs next () text () from takes_field written (by
      intro c first
      rcases goes with rfl | comma
      · exact List.mem_cons_of_mem _ (List.mem_singleton.mpr (stop c first))
      · cases comma.symm.trans first
        exact List.mem_cons_self)
  have fields := Parser.separatedBy1_intercalate nonempty each ((Parser.refuses_the last).andThen _ _)
  rw [parserWith_record]
  exact begins.andThen _ fields

end Records

section Tables
variable {call : ∀ i, Parser Char Unit (Output i)} {rest cs : List Char} {rows : List (List String)}

theorem takes_records {lines : List (List Char)} (nonempty : rows ≠ []) (written : List.Forall₂ WritesRecord rows lines)
    (last : rest = [] ∨ rest = ['\n']) :
    (Parser.separatedBy (record.parserWith call) (.primitive (.the '\n'))).Takes (['\n'].intercalate lines) rest () rows () := by
  have each := written.imp fun texts cs written next (goes : Parser.Goes '\n' rest next) =>
    show (record.parserWith call).Takes cs next () texts () from takes_record written (by
      intro c first
      rcases goes with rfl | line
      · rcases last with rfl | rfl
        · cases first
        · cases first
          rfl
      · cases line.symm.trans first
        rfl)
  have stops : (Parser.ignoreThen (.primitive (.the '\n')) (record.parserWith call)).Refuses rest () := by
    rcases last with rfl | rfl
    · exact (Parser.refuses_the (by simp)).andThen _ _
    · have line : (Parser.primitive (.the '\n') : Parser Char Unit Char).Takes ['\n'] [] () '\n' () := Parser.takes_the
      exact Parser.Refuses.andThen_of_takes _ line refuses_record
  exact (Parser.separatedBy1_intercalate nonempty each stops).orElse _

theorem takes_table_of_records {behind : List Char} {line : Option Char}
    (records : (Parser.separatedBy (record.parserWith call) (.primitive (.the '\n'))).Takes cs behind () rows ())
    (ends : (Parser.primitive (.the '\n')).opt.Takes behind [] () line ()) :
    (table.parserWith call).Takes (cs ++ behind) [] () rows () := by
  rw [← List.append_nil behind] at records
  have read := (records.andThen (fun rows _ => rows) ends).andThen (fun rows _ => rows) Parser.takes_finish
  rw [List.append_nil] at read
  rw [parserWith_table]
  exact read

theorem takes_table (written : WritesTable rows cs) : (table.parserWith call).Takes cs [] () rows () := by
  have ended : (Parser.primitive (.the '\n') : Parser Char Unit Char).opt.Takes [] [] () none () :=
    (Parser.refuses_the (by simp)).opt
  have line : (Parser.primitive (.the '\n') : Parser Char Unit Char).opt.Takes ['\n'] [] () (some '\n') () :=
    Parser.takes_the.opt
  cases written with
  | closed nonempty written => exact takes_table_of_records (takes_records nonempty written (.inr rfl)) line
  | @plain lines written =>
    rw [← List.append_nil (['\n'].intercalate lines)]
    refine takes_table_of_records ?_ ended
    cases written with
    | nil => exact refuses_record.separatedBy _
    | cons first others => exact takes_records (List.cons_ne_nil _ _) (.cons first others) (.inl rfl)

end Tables

-- A text is no longer than positions can say.
theorem table_reads_back {rows : List (List String)} {t : String} (written : WritesTable rows t.toList)
    (short : (Source.text t).stop ≤ Count.unbounded) : parse t = .done rows := by
  have takes : (table.parser rules 0).Takes t.toList [] () rows () := takes_table written
  obtain ⟨events, run⟩ := Parser.Takes.parseWith (s := Source.text t) (m := .fresh ()) takes short
  exact congrArg Prod.fst run

theorem table_reads_back_mixed :
    WritesTable [["a\",b", ""], [""], ["", "c d"]] "\"a\"\",b\",\n\"\"\n,\"c d\"\n".toList ∧
      parse "\"a\"\",b\",\n\"\"\n,\"c d\"\n" = .done [["a\",b", ""], [""], ["", "c d"]] := by
  have empty : WritesField "" [] := .bare (by simp)
  have first : WritesRecord ["a\",b", ""] "\"a\"\",b\",".toList :=
    .mk (by simp) (.cons .quoted (.cons empty .nil)) (by simp)
  have second : WritesRecord [""] "\"\"".toList := .mk (by simp) (.cons .quoted .nil) (by simp)
  have third : WritesRecord ["", "c d"] ",\"c d\"".toList := .mk (by simp) (.cons empty (.cons .quoted .nil)) (by simp)
  have written : WritesTable [["a\",b", ""], [""], ["", "c d"]] "\"a\"\",b\",\n\"\"\n,\"c d\"\n".toList :=
    .closed (by simp) (.cons first (.cons second (.cons third .nil)))
  exact ⟨written, table_reads_back written (by decide)⟩

end Descent.Format.Csv
