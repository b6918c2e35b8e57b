import Descent.Script.Value

namespace Descent

class Notebook (χ : Type) where
  log : Value → χ → χ
  count : String → χ → Int64 × χ
  reading : String → χ → Int64
  assign : String → Value → χ → χ
  bound? : String → χ → Option Value
  missing : String → χ → χ

structure Notes where
  log : Array Value
  counts : List (String × Int64)
  vars : List (String × Value)
  unknown : Array String

namespace Notes

def put {α : Type} (name : String) (value : α) : List (String × α) → List (String × α)
  | [] => [(name, value)]
  | (key, old) :: rest => if key = name then (name, value) :: rest else (key, old) :: put name value rest

def withVars (vars : List (String × Value)) : Notes :=
  ⟨#[], [], vars.foldl (fun vars (name, value) => put name value vars) [], #[]⟩

def reading (notes : Notes) (name : String) : Int64 := (notes.counts.lookup name).getD 0

end Notes

instance : Notebook Notes where
  log v notes := ⟨notes.log.push v, notes.counts, notes.vars, notes.unknown⟩
  count name notes :=
    let n := notes.reading name + 1
    (n, ⟨notes.log, Notes.put name n notes.counts, notes.vars, notes.unknown⟩)
  reading name notes := notes.reading name
  assign name v notes := ⟨notes.log, notes.counts, Notes.put name v notes.vars, notes.unknown⟩
  bound? name notes := notes.vars.lookup name
  missing name notes := ⟨notes.log, notes.counts, notes.vars, notes.unknown.push name⟩

instance : Notebook Unit where
  log _ _ := ()
  count _ _ := (0, ())
  reading _ _ := 0
  assign _ _ _ := ()
  bound? _ _ := none
  missing _ _ := ()

inductive Effect where
  | log (tag : String)
  | count (name : String)
  | assign (name : String)
  | lookup
  deriving DecidableEq

namespace Effect

-- What a name stands for. An unbound one counts as false and is written down as missing.
def resolve {χ : Type} [Notebook χ] (name : String) (c : χ) : Value × χ :=
  if name = "true" then (.bool true, c)
  else if name = "false" then (.bool false, c)
  else
    match Notebook.bound? name c with
    | some v => (v, c)
    | none => (.bool false, Notebook.missing name c)

def apply {χ : Type} [Notebook χ] : Effect → Value → χ → Value × χ
  | log tag, v, c => (v, Notebook.log (.tagged tag v) c)
  | count name, _, c =>
    let (n, c) := Notebook.count name c
    (.int n, c)
  | assign name, v, c => (v, Notebook.assign name v c)
  | lookup, v, c => resolve v.join c

end Effect
end Descent
