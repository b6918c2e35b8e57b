import Descent.Grammar

namespace Descent.Grammar
variable {ε χ ι α β γ : Type} {τ : ι → Type}

def any : Grammar ε χ τ ε := primitive .any

def the (e : ε) : Grammar ε χ τ ε := primitive (.the e)

def oneOf (es : List ε) : Grammar ε χ τ ε := primitive (.oneOf es)

def noneOf (es : List ε) : Grammar ε χ τ ε := primitive (.noneOf es)

def satisfy (test : ε → Bool) : Grammar ε χ τ ε := primitive (.satisfy test)

def extract (get : ε → Option α) : Grammar ε χ τ α := primitive (.extract get)

def sequence (es : List ε) : Grammar ε χ τ (List ε) := primitive (.sequence es)

def finish : Grammar ε χ τ Unit := primitive .finish

def just (output : α) : Grammar ε χ τ α := primitive (.just output)

def fail (reason : Reason) : Grammar ε χ τ α := primitive (.fail reason)

def failWith (fault : Fault) : Grammar ε χ τ α := fail (.wrapped fault)

def position : Grammar ε χ τ Nat := primitive .position

def const (output : β) (p : Grammar ε χ τ α) : Grammar ε χ τ β := p.map fun _ => output

def discard (p : Grammar ε χ τ α) : Grammar ε χ τ Unit := p.const ()

def list (p : Grammar ε χ τ α) : Grammar ε χ τ (List α) := p.map ([·])

def pair (p : Grammar ε χ τ α) (q : Grammar ε χ τ β) : Grammar ε χ τ (α × β) := andThen Prod.mk p q

def thenIgnore (p : Grammar ε χ τ α) (q : Grammar ε χ τ β) : Grammar ε χ τ α := andThen (fun a _ => a) p q

def ignoreThen (p : Grammar ε χ τ α) (q : Grammar ε χ τ β) : Grammar ε χ τ β := andThen (fun _ b => b) p q

def triple (p : Grammar ε χ τ α) (q : Grammar ε χ τ β) (r : Grammar ε χ τ γ) : Grammar ε χ τ (α × β × γ) :=
  andThen Prod.mk p (pair q r)

def delimitedBy (left : Grammar ε χ τ α) (p : Grammar ε χ τ β) (right : Grammar ε χ τ γ) :
    Grammar ε χ τ β :=
  ignoreThen left (thenIgnore p right)

def surroundedBy (p : Grammar ε χ τ α) (delimiter : Grammar ε χ τ β) : Grammar ε χ τ α :=
  delimitedBy delimiter p delimiter

def concat (p q : Grammar ε χ τ (List α)) : Grammar ε χ τ (List α) :=
  (pair p q).map fun (as, bs) => as ++ bs

def append (p : Grammar ε χ τ (List α)) (q : Grammar ε χ τ α) : Grammar ε χ τ (List α) :=
  (pair p q).map fun (as, a) => as ++ [a]

def prepend (p : Grammar ε χ τ α) (q : Grammar ε χ τ (List α)) : Grammar ε χ τ (List α) :=
  (pair p q).map fun (a, as) => a :: as

def chainOf (ps : Array (Grammar ε χ τ α)) : Grammar ε χ τ (List α) := chain fun k : Fin ps.size => ps[k]

def choiceOf (ps : Array (Grammar ε χ τ α)) : Grammar ε χ τ α := choice fun k : Fin ps.size => ps[k]

def cascadeOf (p : Grammar ε χ τ α) (ps : Array (Grammar ε χ τ α)) : Grammar ε χ τ α :=
  cascade p fun k : Fin ps.size => ps[k]

def notAny (ps : Array (Grammar ε χ τ α)) : Grammar ε χ τ Unit := notAhead (choiceOf ps)

def optional (p : Grammar ε χ τ α) (default : α) : Grammar ε χ τ α := p.orElse (just default)

def repeatedExactly (n : Nat) (p : Grammar ε χ τ α) : Grammar ε χ τ (List α) := p.repeated n n

def repeatedWithin (low high : Bound) (p : Grammar ε χ τ α) : Grammar ε χ τ (List α) :=
  p.repeated (low.counts high).1 (low.counts high).2

def many (p : Grammar ε χ τ α) : Grammar ε χ τ (List α) := p.repeated 0 Count.unbounded

def many1 (p : Grammar ε χ τ α) : Grammar ε χ τ (List α) := p.repeated 1 Count.unbounded

def separatedBy1 (p : Grammar ε χ τ α) (separator : Grammar ε χ τ β) : Grammar ε χ τ (List α) :=
  prepend p (many (ignoreThen separator p))

def separatedBy (p : Grammar ε χ τ α) (separator : Grammar ε χ τ β) : Grammar ε χ τ (List α) :=
  (separatedBy1 p separator).optional []

section Meaning
variable [DecidableEq ε] (call : ∀ i, Parser ε χ (τ i))

theorem parserWith_just (output : α) :
    (just output : Grammar ε χ τ α).parserWith call = Parser.just output :=
  parserWith_primitive call (.just output)

theorem parserWith_choiceOf (ps : Array (Grammar ε χ τ α)) :
    (choiceOf ps).parserWith call = Parser.choice (ps.toList.map (parserWith call)) := by
  rw [choiceOf, parserWith_choice]
  congr 1
  apply List.ext_getElem <;> simp

theorem parserWith_chainOf (ps : Array (Grammar ε χ τ α)) :
    (chainOf ps).parserWith call = Parser.chain (ps.toList.map (parserWith call)) := by
  rw [chainOf, parserWith_chain]
  congr 1
  apply List.ext_getElem <;> simp

theorem parserWith_notAny (ps : Array (Grammar ε χ τ α)) :
    (notAny ps).parserWith call = Parser.notAny (ps.toList.map (parserWith call)) := by
  rw [notAny, parserWith_notAhead, parserWith_choiceOf, Parser.notAny]

theorem parserWith_cascadeOf (p : Grammar ε χ τ α) (ps : Array (Grammar ε χ τ α)) :
    (cascadeOf p ps).parserWith call = Parser.cascade (p.parserWith call) (ps.toList.map (parserWith call)) := by
  rw [cascadeOf, parserWith_cascade]
  congr 1
  apply List.ext_getElem <;> simp

theorem parserWith_cascadeOf_eq_choice (p : Grammar ε χ τ α) (ps : Array (Grammar ε χ τ α)) :
    (cascadeOf p ps).parserWith call = Parser.choice (p.parserWith call :: ps.toList.map (parserWith call)) := by
  rw [parserWith_cascadeOf, Parser.cascade_eq_choice]

theorem parserWith_delimitedBy (left : Grammar ε χ τ α) (p : Grammar ε χ τ β) (right : Grammar ε χ τ γ) :
    (delimitedBy left p right).parserWith call =
      Parser.delimitedBy (left.parserWith call) (p.parserWith call) (right.parserWith call) := by
  simp only [delimitedBy, ignoreThen, thenIgnore, parserWith_andThen, Parser.delimitedBy, Parser.ignoreThen,
    Parser.thenIgnore]

theorem parserWith_many (p : Grammar ε χ τ α) : p.many.parserWith call = (p.parserWith call).many :=
  parserWith_repeated call 0 Count.unbounded p

theorem parserWith_many1 (p : Grammar ε χ τ α) : p.many1.parserWith call = (p.parserWith call).many1 :=
  parserWith_repeated call 1 Count.unbounded p

theorem parserWith_separatedBy1 (p : Grammar ε χ τ α) (separator : Grammar ε χ τ β) :
    (separatedBy1 p separator).parserWith call =
      Parser.separatedBy1 (p.parserWith call) (separator.parserWith call) := by
  simp only [separatedBy1, prepend, pair, ignoreThen, parserWith_map, parserWith_andThen, parserWith_many,
    Parser.separatedBy1, Parser.prepend, Parser.pair, Parser.ignoreThen]

theorem parserWith_separatedBy (p : Grammar ε χ τ α) (separator : Grammar ε χ τ β) :
    (separatedBy p separator).parserWith call =
      Parser.separatedBy (p.parserWith call) (separator.parserWith call) := by
  simp only [separatedBy, optional, parserWith_orElse, parserWith_separatedBy1, parserWith_just,
    Parser.separatedBy, Parser.optional]

end Meaning
end Descent.Grammar
