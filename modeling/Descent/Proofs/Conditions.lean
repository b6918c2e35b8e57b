import Descent.Format.Condition
import Descent.Proofs.Reading

namespace Descent.Format.Condition

namespace Environment

def note (env : Environment) (names : List String) : Environment := ⟨env.vars, env.unknown ++ names⟩

@[simp] theorem vars_note (env : Environment) (names : List String) : (env.note names).vars = env.vars := rfl

@[simp] theorem note_note (env : Environment) (names more : List String) :
    (env.note names).note more = env.note (names ++ more) := by
  simp [note]

end Environment

theorem resolve_eq (n : Name) (env : Environment) :
    resolve n.chars env = (n.value env.vars, env.note (n.unbound env.vars)) := by
  unfold resolve Name.value Name.unbound Name.word Environment.note
  by_cases yes : String.ofList n.chars = "true"
  · simp [yes]
  · by_cases no : String.ofList n.chars = "false"
    · simp [no]
    · cases found : env.vars.lookup (String.ofList n.chars) with
      | none => simp [yes, no, found]
      | some value => simp [yes, no, found]

def Follow (allowed rest : List Char) : Prop := ∀ c ∈ rest.head?, c ∈ allowed

namespace Follow
variable {allowed more rest : List Char} {c : Char}

theorem nil : Follow allowed [] := nofun

theorem cons (member : c ∈ allowed) : Follow allowed (c :: rest) := by
  intro first same
  cases same
  exact member

theorem mono (follow : Follow allowed rest) (wider : allowed ⊆ more) : Follow more rest :=
  fun c first => wider (follow c first)

theorem head?_ne (follow : Follow allowed rest) (absent : c ∉ allowed) : rest.head? ≠ some c :=
  fun first => absent (follow c first)

theorem gap (follow : Follow allowed rest) (n : Nat) : Follow (' ' :: allowed) (List.replicate n ' ' ++ rest) := by
  cases n with
  | zero => exact follow.mono (List.subset_cons_self _ _)
  | succ n => exact .cons List.mem_cons_self

end Follow

section Tokens
variable (call : ∀ i, Parser Char Environment (Output i)) {α : Type} {p : Rule α} {taken rest : List Char}
  {env env' : Environment} {a : α}

theorem parserWith_token (p : Rule α) :
    (token p).parserWith call = Parser.thenIgnore (p.parserWith call) (Parser.primitive (.the ' ')).many := by
  simp only [token, Grammar.thenIgnore, Grammar.the, Grammar.parserWith_andThen, Grammar.parserWith_many,
    Grammar.parserWith_primitive, Parser.thenIgnore]

theorem parserWith_name : name.parserWith call =
    (Parser.primitive (.satisfy isNameChar)).many1.mapContext resolve := by
  rw [name, Grammar.parserWith_mapContext, Grammar.parserWith_many1, Grammar.satisfy, Grammar.parserWith_primitive]

variable {call}

theorem takes_token (takes : (p.parserWith call).Takes taken (List.replicate n ' ' ++ rest) env a env')
    (other : rest.head? ≠ some ' ') : ((token p).parserWith call).Takes (taken ++ List.replicate n ' ') rest env a env' := by
  rw [parserWith_token]
  exact takes.andThen _ (Parser.takesEach_the n other).many

theorem refuses_token (refuses : (p.parserWith call).Refuses rest env) : ((token p).parserWith call).Refuses rest env := by
  rw [parserWith_token]
  exact refuses.andThen _ _

theorem takes_operator (symbol : List Char) (other : rest.head? ≠ some ' ') :
    ((operator symbol).parserWith call).Takes (symbol ++ List.replicate n ' ') rest env () env :=
  takes_token (p := Grammar.discard (.sequence symbol)) (Parser.takes_sequence.map _) other

theorem refuses_operator {first : Char} {more : List Char} (other : rest.head? ≠ some first) :
    ((operator (first :: more)).parserWith call).Refuses rest env :=
  refuses_token (p := Grammar.discard (.sequence (first :: more))) ((Parser.refuses_sequence other).map _)

theorem takes_name (n : Name) (stop : ∀ c ∈ rest.head?, isNameChar c = false) :
    (name.parserWith call).Takes n.chars rest env (n.value env.vars) (env.note (n.unbound env.vars)) := by
  have chars := (Parser.takesEach_satisfy (c := env) (List.all_eq_true.mp n.valid) stop).many1 n.nonempty
  have resolved := chars.mapContext resolve
  rw [resolve_eq] at resolved
  rw [parserWith_name]
  exact resolved

end Tokens

def Begins (test : Char → Bool) (cs : List Char) : Prop := ∃ first more, cs = first :: more ∧ test first = true

namespace Begins
variable {test test' : Char → Bool} {c : Char} {cs : List Char}

theorem append (begins : Begins test cs) (rest : List Char) : Begins test (cs ++ rest) := by
  obtain ⟨first, more, rfl, holds⟩ := begins
  exact ⟨first, more ++ rest, rfl, holds⟩

theorem mono (begins : Begins test cs) (wider : ∀ c, test c = true → test' c = true) : Begins test' cs := by
  obtain ⟨first, more, same, holds⟩ := begins
  exact ⟨first, more, same, wider first holds⟩

theorem head?_ne (begins : Begins test cs) (excluded : test c = false) (rest : List Char) :
    (cs ++ rest).head? ≠ some c := by
  obtain ⟨first, more, rfl, holds⟩ := begins
  intro same
  cases same
  exact Bool.noConfusion (holds.symm.trans excluded)

end Begins

def beginsAtom (c : Char) : Bool := isNameChar c || c == '('

def beginsUnary (c : Char) : Bool := beginsAtom c || c == '!'

section First
variable {cs : List Char}

theorem Name.begins (n : Name) : Begins isNameChar n.chars := by
  obtain ⟨first, more, split⟩ := List.exists_cons_of_ne_nil n.nonempty
  exact ⟨first, more, split, List.all_eq_true.mp n.valid first (split ▸ List.mem_cons_self)⟩

theorem Atom.begins (a : Atom) (spaced : Spaced a.tokens cs) : Begins beginsAtom cs := by
  cases a with
  | name n =>
    obtain - | ⟨_, gap, others⟩ := spaced
    rw [List.append_assoc]
    exact (n.begins.mono fun c valid => by simp [beginsAtom, valid]).append _
  | group e =>
    obtain - | ⟨_, gap, others⟩ := spaced
    exact ⟨'(', _, rfl, rfl⟩

theorem Unary.begins (u : Unary) (spaced : Spaced u.tokens cs) : Begins beginsUnary cs := by
  obtain ⟨nots, a⟩ := u
  cases nots with
  | zero => exact (a.begins spaced).mono fun c first => by simp [beginsUnary, first]
  | succ nots =>
    obtain - | ⟨_, gap, others⟩ := spaced
    exact ⟨'!', _, rfl, rfl⟩

theorem Conjunction.begins (c : Conjunction) (spaced : Spaced c.tokens cs) : Begins beginsUnary cs := by
  cases c with
  | one u => exact u.begins spaced
  | and u others =>
    obtain ⟨one, two, rfl, spaced, _⟩ := spaced.exists_of_append
    exact (u.begins spaced).append two

theorem Expression.begins (e : Expression) (spaced : Spaced e.tokens cs) : Begins beginsUnary cs := by
  cases e with
  | one c => exact c.begins spaced
  | or c others =>
    obtain ⟨one, two, rfl, spaced, _⟩ := spaced.exists_of_append
    exact (c.begins spaced).append two

end First

section Rules
variable {call : ∀ i, Parser Char Environment (Output i)} {cs rest : List Char} {env env' : Environment}
  {values : List Bool}

theorem takes_conjunction
    (operands : (unary.parserWith call).TakesBetween ((operator ['&', '&']).parserWith call) rest cs env values env') :
    (conjunction.parserWith call).Takes cs rest env (values.all id) env' := by
  rw [conjunction, Grammar.parserWith_map, Grammar.parserWith_separatedBy1]
  exact operands.separatedBy1.map _

theorem takes_expression
    (conjunctions : (conjunction.parserWith call).TakesBetween ((operator ['|', '|']).parserWith call) rest cs env values
      env') :
    (expression.parserWith call).Takes cs rest env (values.any id) env' := by
  rw [expression, Grammar.parserWith_map, Grammar.parserWith_separatedBy1]
  exact conjunctions.separatedBy1.map _

theorem repeat_not (n : Nat) (b : Bool) : Nat.repeat not n b = (b ^^ n % 2 == 1) := by
  induction n with
  | zero => simp [Nat.repeat]
  | succ n ih =>
    rw [Nat.repeat, ih, Nat.add_mod]
    rcases Nat.mod_two_eq_zero_or_one n with even | odd
    · simp [even]
    · simp [odd]

theorem takesEach_nots {n : Nat} (spaced : Spaced (List.replicate n ['!']) cs) (other : rest.head? ≠ some ' ')
    (stop : rest.head? ≠ some '!') :
    ((operator ['!']).parserWith call).TakesEach rest cs env (List.replicate n ()) env := by
  induction n generalizing cs with
  | zero =>
    cases spaced
    exact .nil (refuses_operator stop)
  | succ n ih =>
    obtain - | ⟨_, gap, others⟩ := spaced
    have each := ih others
    refine .cons (List.cons_ne_nil '!' _) (takes_operator ['!'] ?_) each
    cases n with
    | zero =>
      cases others
      exact other
    | succ n =>
      obtain - | ⟨_, gap', others'⟩ := others
      simp

theorem takes_unary {nots : Nat} {a : Atom} {b : Bool} {nots' cs' : List Char}
    (spaced : Spaced (List.replicate nots ['!']) nots') (spaced' : Spaced a.tokens cs')
    (takes : (atom.parserWith call).Takes cs' rest env b env') :
    (unary.parserWith call).Takes (nots' ++ cs') rest env (Nat.repeat not nots b) env' := by
  have first := a.begins spaced'
  have each : ((operator ['!']).parserWith call).TakesEach (cs' ++ rest) nots' env (List.replicate nots ()) env :=
    takesEach_nots spaced (first.head?_ne (by decide) rest) (first.head?_ne (by decide) rest)
  have operand := Parser.Takes.andThen Prod.mk each.many takes
  have read := operand.map fun pair => pair.2 ^^ pair.1.length % 2 == 1
  rw [List.length_replicate] at read
  rw [unary, Grammar.parserWith_map, Grammar.pair, Grammar.parserWith_andThen, Grammar.parserWith_many, repeat_not]
  exact read

theorem parserWith_group : group.parserWith call =
    Parser.ignoreThen ((token (.the '(')).parserWith call)
      (Parser.thenIgnore (call ()) (Parser.primitive (.the ')'))) := by
  rw [group, Grammar.delimitedBy, Grammar.ignoreThen, Grammar.thenIgnore, Grammar.parserWith_andThen,
    Grammar.parserWith_andThen, Grammar.parserWith_deferred, Grammar.the, Grammar.the, Grammar.parserWith_primitive]
  rfl

theorem parserWith_atoms : (Grammar.cascadeOf group #[name]).parserWith call =
    Parser.choice [group.parserWith call, name.parserWith call] :=
  Grammar.parserWith_cascadeOf_eq_choice call group #[name]

theorem parserWith_condition : condition.parserWith call =
    Parser.thenIgnore (Parser.ignoreThen (Parser.primitive (.the ' ')).many (expression.parserWith call))
      (Parser.primitive .finish) := by
  rw [condition, Grammar.thenIgnore, Grammar.ignoreThen, Grammar.the, Grammar.finish, Grammar.parserWith_andThen,
    Grammar.parserWith_andThen, Grammar.parserWith_many, Grammar.parserWith_primitive, Grammar.parserWith_primitive]
  rfl

theorem refuses_group (other : rest.head? ≠ some '(') : (group.parserWith call).Refuses rest env := by
  rw [parserWith_group]
  exact (refuses_token (p := .the '(') (Parser.refuses_the other)).andThen _ _

theorem takes_atom_name (n : Name) (gap : Nat) (follow : Follow [')', '|', '&'] rest) :
    (atom.parserWith call).Takes (n.chars ++ List.replicate gap ' ') rest env (n.value env.vars)
      (env.note (n.unbound env.vars)) := by
  have stop : ∀ c ∈ (List.replicate gap ' ' ++ rest).head?, isNameChar c = false := by
    intro c first
    have excluded : [' ', ')', '|', '&'].all (fun c => !isNameChar c) = true := by decide
    simpa using List.all_eq_true.mp excluded c (follow.gap gap c first)
  have other := n.begins.head?_ne (show isNameChar '(' = false by decide) (List.replicate gap ' ' ++ rest)
  refine takes_token (p := .cascadeOf group #[name]) ?_ (follow.head?_ne (by simp))
  rw [parserWith_atoms]
  exact (refuses_group other).choice_cons ((takes_name n stop).choice_cons [])

-- The one place where a rule is entered, and so where the depth is used up.
theorem takes_atom_group {d gap gap' : Nat} {b : Bool} (begins : Begins beginsUnary cs)
    (takes : (expression.parserWith (rules.call d)).Takes cs (')' :: (List.replicate gap' ' ' ++ rest)) env b env')
    (follow : Follow [')', '|', '&'] rest) :
    (atom.parserWith (rules.call (d + 1))).Takes
      (['('] ++ List.replicate gap ' ' ++ (cs ++ ([')'] ++ List.replicate gap' ' '))) rest env b env' := by
  have opened : ((token (.the '(')).parserWith (rules.call (d + 1))).Takes (['('] ++ List.replicate gap ' ')
      (cs ++ [')'] ++ (List.replicate gap' ' ' ++ rest)) env '(' env := by
    refine takes_token (p := .the '(') Parser.takes_the ?_
    rw [List.append_assoc]
    exact begins.head?_ne (by decide) _
  have inside : (Parser.thenIgnore (rules.call (d + 1) ()) (Parser.primitive (.the ')'))).Takes (cs ++ [')'])
      (List.replicate gap' ' ' ++ rest) env b env' :=
    Parser.Takes.andThen _ takes Parser.takes_the
  rw [← List.append_assoc cs, ← List.append_assoc]
  refine takes_token (p := .cascadeOf group #[name]) ?_ (follow.head?_ne (by simp))
  rw [parserWith_atoms, parserWith_group]
  exact (opened.andThen _ inside).choice_cons _

theorem between_cons {α : Type} {p : Parser Char Environment α} {symbol one more : List Char} {gap : Nat}
    {env₁ env₂ : Environment} {a : α} {as : List α} (some : symbol ≠ [])
    (takes : p.Takes one (symbol ++ List.replicate gap ' ' ++ (more ++ rest)) env a env₁) (begins : Begins beginsUnary more)
    (goesOn : p.TakesBetween ((operator symbol).parserWith call) rest more env₁ as env₂) :
    p.TakesBetween ((operator symbol).parserWith call) rest (one ++ (symbol ++ List.replicate gap ' ' ++ more)) env
      (a :: as) env₂ :=
  .cons takes (List.append_ne_nil_of_left_ne_nil some _) (takes_operator symbol (begins.head?_ne (by decide) rest)) goesOn

end Rules

-- What it is to read a part of a condition as it is meant, however it is spaced. An expression is followed by a
-- closing parenthesis, if by anything, and its parts may also be followed by the operator that goes on from them.
def Expression.Reads (e : Expression) : Prop :=
  ∀ {d : Nat} {cs rest : List Char} (env : Environment), Spaced e.tokens cs → cs.length ≤ d → Follow [')'] rest →
    ∃ values : List Bool, values.any id = e.value env.vars ∧
      (conjunction.parserWith (rules.call d)).TakesBetween ((operator ['|', '|']).parserWith (rules.call d)) rest cs env
        values (env.note (e.unbound env.vars))

def Conjunction.Reads (c : Conjunction) : Prop :=
  ∀ {d : Nat} {cs rest : List Char} (env : Environment), Spaced c.tokens cs → cs.length ≤ d → Follow [')', '|'] rest →
    ∃ values : List Bool, values.all id = c.value env.vars ∧
      (unary.parserWith (rules.call d)).TakesBetween ((operator ['&', '&']).parserWith (rules.call d)) rest cs env
        values (env.note (c.unbound env.vars))

def Unary.Reads (u : Unary) : Prop :=
  ∀ {d : Nat} {cs rest : List Char} (env : Environment), Spaced u.tokens cs → cs.length ≤ d →
    Follow [')', '|', '&'] rest →
      (unary.parserWith (rules.call d)).Takes cs rest env (u.value env.vars) (env.note (u.unbound env.vars))

def Atom.Reads (a : Atom) : Prop :=
  ∀ {d : Nat} {cs rest : List Char} (env : Environment), Spaced a.tokens cs → cs.length ≤ d →
    Follow [')', '|', '&'] rest →
      (atom.parserWith (rules.call d)).Takes cs rest env (a.value env.vars) (env.note (a.unbound env.vars))

theorem Expression.reads_one {c : Conjunction} (reads : c.Reads) : (Expression.one c).Reads := by
  intro d cs rest env spaced deep follow
  obtain ⟨values, same, operands⟩ := reads env spaced deep (follow.mono (by simp))
  have takes := takes_conjunction operands
  rw [same] at takes
  exact ⟨[c.value env.vars], by simp [Expression.value], .one takes (refuses_operator (follow.head?_ne (by simp)))⟩

theorem Expression.reads_or {c : Conjunction} {others : Expression} (reads : c.Reads) (goesOn : others.Reads) :
    (Expression.or c others).Reads := by
  intro d cs rest env spaced deep follow
  obtain ⟨one, two, rfl, left, right⟩ := Spaced.exists_of_append spaced
  obtain - | @⟨_, more, _, gap, right⟩ := right
  simp only [List.length_append] at deep
  have shorter : one.length ≤ d := by omega
  have shorter' : more.length ≤ d := by omega
  have behind : Follow [')', '|'] (['|', '|'] ++ List.replicate gap ' ' ++ (more ++ rest)) := .cons (by simp)
  obtain ⟨values, same, operands⟩ := reads env left shorter behind
  obtain ⟨values', same', conjunctions⟩ := goesOn (env.note (c.unbound env.vars)) right shorter' follow
  have takes := takes_conjunction operands
  rw [same] at takes
  rw [Environment.note_note] at conjunctions
  refine ⟨c.value env.vars :: values', by simp [Expression.value, same'], ?_⟩
  exact between_cons (List.cons_ne_nil '|' _) takes (others.begins right) conjunctions

theorem Conjunction.reads_one {u : Unary} (reads : u.Reads) : (Conjunction.one u).Reads := by
  intro d cs rest env spaced deep follow
  have takes := reads env spaced deep (follow.mono (by simp))
  exact ⟨[u.value env.vars], by simp [Conjunction.value], .one takes (refuses_operator (follow.head?_ne (by simp)))⟩

theorem Conjunction.reads_and {u : Unary} {others : Conjunction} (reads : u.Reads) (goesOn : others.Reads) :
    (Conjunction.and u others).Reads := by
  intro d cs rest env spaced deep follow
  obtain ⟨one, two, rfl, left, right⟩ := Spaced.exists_of_append spaced
  obtain - | @⟨_, more, _, gap, right⟩ := right
  simp only [List.length_append] at deep
  have shorter : one.length ≤ d := by omega
  have shorter' : more.length ≤ d := by omega
  have behind : Follow [')', '|', '&'] (['&', '&'] ++ List.replicate gap ' ' ++ (more ++ rest)) := .cons (by simp)
  have takes := reads env left shorter behind
  obtain ⟨values, same, operands⟩ := goesOn (env.note (u.unbound env.vars)) right shorter' follow
  rw [Environment.note_note] at operands
  refine ⟨u.value env.vars :: values, by simp [Conjunction.value, same], ?_⟩
  exact between_cons (List.cons_ne_nil '&' _) takes (others.begins right) operands

theorem Unary.reads_mk {a : Atom} (nots : Nat) (reads : a.Reads) : (Unary.mk nots a).Reads := by
  intro d cs rest env spaced deep follow
  obtain ⟨one, two, rfl, left, right⟩ := Spaced.exists_of_append spaced
  simp only [List.length_append] at deep
  have shorter : two.length ≤ d := by omega
  exact takes_unary left right (reads env right shorter follow)

theorem Atom.reads_name (n : Name) : (Atom.name n).Reads := by
  intro d cs rest env spaced _ follow
  obtain - | ⟨_, gap, others⟩ := spaced
  cases others
  rw [List.append_nil]
  exact takes_atom_name n gap follow

theorem Atom.reads_group {e : Expression} (reads : e.Reads) : (Atom.group e).Reads := by
  intro d cs rest env spaced deep follow
  obtain - | @⟨_, behind, _, gap, opened⟩ := spaced
  obtain ⟨inside, last, rfl, within, closing⟩ := opened.exists_of_append
  obtain - | @⟨_, ended, _, gap', nothing⟩ := closing
  cases nothing
  simp only [List.length_append, List.length_cons] at deep
  cases d with
  | zero => omega
  | succ d =>
    have shorter : inside.length ≤ d := by omega
    have closes : Follow [')'] (')' :: (List.replicate gap' ' ' ++ rest)) := .cons (by simp)
    obtain ⟨values, same, conjunctions⟩ := reads env within shorter closes
    have takes := takes_expression conjunctions
    rw [same] at takes
    rw [List.append_nil]
    exact takes_atom_group (e.begins within) takes follow

-- By induction on the condition, one step for each form that it may have.
mutual
theorem Expression.reads : ∀ e : Expression, e.Reads
  | .one c => Expression.reads_one c.reads
  | .or c others => Expression.reads_or c.reads others.reads

theorem Conjunction.reads : ∀ c : Conjunction, c.Reads
  | .one u => Conjunction.reads_one u.reads
  | .and u others => Conjunction.reads_and u.reads others.reads

theorem Unary.reads : ∀ u : Unary, u.Reads
  | .mk nots a => Unary.reads_mk nots a.reads

theorem Atom.reads : ∀ a : Atom, a.Reads
  | .name n => Atom.reads_name n
  | .group e => Atom.reads_group e.reads
end

theorem takes_condition {d : Nat} {cs : List Char} (e : Expression) (env : Environment) (gap : Nat)
    (spaced : Spaced e.tokens cs) (deep : cs.length ≤ d) :
    (condition.parser rules d).Takes (List.replicate gap ' ' ++ cs) [] env (e.value env.vars)
      (env.note (e.unbound env.vars)) := by
  obtain ⟨values, same, conjunctions⟩ := e.reads env spaced deep .nil
  have takes := takes_expression conjunctions
  rw [same] at takes
  have spaces : (Parser.primitive (.the ' ')).many.Takes (List.replicate gap ' ') (cs ++ []) env _ env :=
    (Parser.takesEach_the gap ((e.begins spaced).head?_ne (by decide) [])).many
  have read := (spaces.andThen (fun _ b => b) takes).andThen (fun b _ => b) Parser.takes_finish
  rw [List.append_nil] at read
  rw [Grammar.parser, parserWith_condition]
  exact read

-- A text is no longer than positions can say. Any depth will do that allows for as many groups within one
-- another as there are characters.
theorem condition_evaluates (e : Expression) {gap : Nat} {cs : List Char} (spaced : Spaced e.tokens cs) {t : String}
    (written : t.toList = List.replicate gap ' ' ++ cs) (short : (Source.text t).stop ≤ Count.unbounded) {depth : Nat}
    (deep : t.length ≤ depth) (m : Memory Environment) :
    ∃ events, (condition.parser rules depth).parseWith (Source.text t) m =
      (.done (e.value m.context.vars),
        ⟨⟨m.context.vars, m.context.unknown ++ e.unbound m.context.vars⟩, events⟩) := by
  have enough : cs.length ≤ depth := by
    rw [← String.length_toList, written, List.length_append] at deep
    omega
  have takes := takes_condition e m.context gap spaced enough
  rw [← written] at takes
  exact Parser.Takes.parseWith (s := Source.text t) takes short

theorem condition_evaluates_nested :
    let inside : Expression :=
      .or (.one (.mk 0 (.name { chars := ['x'] }))) (.one (.one (.mk 0 (.name { chars := ['k'] }))))
    let e : Expression :=
      .or (.and (.mk 0 (.name { chars := ['a'] })) (.one (.mk 2 (.group inside))))
        (.one (.one (.mk 1 (.name { chars := ['y', '_', '1'] }))))
    let env : Environment := ⟨[("a", true), ("k", true)], ["w"]⟩
    Spaced e.tokens "a && !!(x||k )||!y_1".toList ∧
      ∃ events, (condition.parser rules 21).parseWith (Source.text " a && !!(x||k )||!y_1") (.fresh env) =
        (.done true, ⟨⟨env.vars, ["w", "x", "y_1"]⟩, events⟩) := by
  intro inside e env
  have spaced : Spaced e.tokens "a && !!(x||k )||!y_1".toList :=
    .cons ['a'] 1 (.cons ['&', '&'] 1 (.cons ['!'] 0 (.cons ['!'] 0 (.cons ['('] 0 (.cons ['x'] 0 (.cons ['|', '|'] 0
      (.cons ['k'] 1 (.cons [')'] 0 (.cons ['|', '|'] 0 (.cons ['!'] 0 (.cons ['y', '_', '1'] 0 .nil)))))))))))
  have written : " a && !!(x||k )||!y_1".toList = List.replicate 1 ' ' ++ "a && !!(x||k )||!y_1".toList := by decide
  have value : e.value env.vars = true := by decide
  have unbound : e.unbound env.vars = ["x", "y_1"] := by decide
  obtain ⟨events, run⟩ := condition_evaluates e spaced written (by decide) (show _ ≤ 21 by decide) (.fresh env)
  rw [show (Memory.fresh env).context = env from rfl, value, unbound] at run
  exact ⟨spaced, events, run⟩

end Descent.Format.Condition
