import Descent.Grammar.Forms
import Descent.Run
import Mathlib.Data.List.Forall2

namespace Descent.Format.Csv

abbrev Output : Empty → Type := Empty.elim

abbrev Rule (α : Type) := Grammar Char Unit Output α

def quoted : Rule (List Char) :=
  .surroundedBy
    (.many (.cascadeOf (.noneOf ['"']) #[.const '"' (.pair (.the '"') (.the '"'))]))
    (.the '"')

def bare : Rule (List Char) := .many (.noneOf [',', '"', '\n'])

def field : Rule String := (Grammar.cascadeOf quoted #[bare]).map String.ofList

-- A record does not begin at the end of the text, so that a last line break opens none.
def record : Rule (List String) :=
  .ignoreThen (.notAhead .finish) (.separatedBy1 field (.the ','))

def table : Rule (List (List String)) :=
  .thenIgnore (.thenIgnore (.separatedBy record (.the '\n')) (.opt (.the '\n'))) .finish

def rules : Rules Char Unit Output := nofun

def parse (t : String) : Reply (List (List String)) :=
  ((table.parser rules 0).parse (Source.text t)).1

example : parse "a,\"b,\"\"\",\n" = .done [["a", "b,\"", ""]] := rfl
example : parse "a,b\"c" = .failed (.noMatch 3) := rfl

def inQuotes (c : Char) : List Char := if c = '"' then ['"', '"'] else [c]

def quote (field : String) : List Char := '"' :: field.toList.flatMap inQuotes ++ ['"']

inductive WritesField (field : String) : List Char → Prop where
  | quoted : WritesField field (quote field)
  | bare (plain : ∀ c ∈ field.toList, c ∉ [',', '"', '\n']) : WritesField field field.toList

-- A single empty field is in quotes, since it would not show otherwise.
inductive WritesRecord (record : List String) : List Char → Prop where
  | mk {fields : List (List Char)} (nonempty : record ≠ []) (written : List.Forall₂ WritesField record fields)
      (shows : record = [""] → fields = [quote ""]) : WritesRecord record ([','].intercalate fields)

inductive WritesTable (table : List (List String)) : List Char → Prop where
  | plain {lines : List (List Char)} (written : List.Forall₂ WritesRecord table lines) :
      WritesTable table (['\n'].intercalate lines)
  | closed {lines : List (List Char)} (nonempty : table ≠ []) (written : List.Forall₂ WritesRecord table lines) :
      WritesTable table (['\n'].intercalate lines ++ ['\n'])

theorem writesTable_quoted {table : List (List String)} (nonempty : ∀ record ∈ table, record ≠ []) :
    WritesTable table (['\n'].intercalate (table.map fun record => [','].intercalate (record.map quote))) := by
  refine .plain (List.forall₂_map_right_iff.mpr (List.forall₂_same.mpr fun record member => ?_))
  refine .mk (nonempty record member) (List.forall₂_map_right_iff.mpr (List.forall₂_same.mpr fun _ _ => .quoted)) ?_
  rintro rfl
  rfl

end Descent.Format.Csv
