import Descent.Format.Nesting
import Descent.Proofs.Reading

namespace Descent.Format.Nesting

inductive IsGroup : List Char → Prop where
  | mk {parts : List (List Char)} (groups : ∀ g ∈ parts, IsGroup g) : IsGroup ('(' :: parts.flatten ++ [')'])

def NoGroup (es : List Char) : Prop := ∀ g, IsGroup g → ¬ g <+: es

section Language
variable {g g' rest rest' : List Char} {parts parts' : List (List Char)}

theorem IsGroup.head?_eq (group : IsGroup g) : g.head? = some '(' := by
  cases group
  rfl

theorem IsGroup.mem (group : IsGroup g) {c : Char} (member : c ∈ g) : c = '(' ∨ c = ')' := by
  induction group with
  | mk _ ih =>
    simp only [List.mem_append, List.mem_cons, List.mem_flatten, List.not_mem_nil, or_false] at member
    rcases member with (first | ⟨inner, among, inside⟩) | last
    · exact .inl first
    · exact ih inner among inside
    · exact .inr last

theorem noGroup_of_head? (other : rest.head? ≠ some '(') : NoGroup rest := by
  intro g group begins
  apply other
  obtain ⟨more, rfl⟩ := begins
  rw [List.head?_append, group.head?_eq]
  rfl

-- There is one way only to go through groups until none begins, if each of them can be told from every other one.
theorem flatten_inj (groups : ∀ g ∈ parts, IsGroup g) (groups' : ∀ g ∈ parts', IsGroup g)
    (told : ∀ g ∈ parts, ∀ g' r r', IsGroup g' → g ++ r = g' ++ r' → g = g') (stop : NoGroup rest)
    (stop' : NoGroup rest') (same : parts.flatten ++ rest = parts'.flatten ++ rest') : parts = parts' ∧ rest = rest' := by
  induction parts generalizing parts' with
  | nil =>
    cases parts' with
    | nil => exact ⟨rfl, same⟩
    | cons first' parts' =>
      rw [List.flatten_nil, List.nil_append, List.flatten_cons, List.append_assoc] at same
      exact absurd ⟨_, same.symm⟩ (stop first' (groups' first' List.mem_cons_self))
  | cons first parts ih =>
    rw [List.flatten_cons, List.append_assoc] at same
    cases parts' with
    | nil => exact absurd ⟨_, same⟩ (stop' first (groups first List.mem_cons_self))
    | cons first' parts' =>
      rw [List.flatten_cons, List.append_assoc] at same
      have equal := told first List.mem_cons_self first' _ _ (groups' first' List.mem_cons_self) same
      subst equal
      obtain ⟨rfl, rest_eq⟩ := ih (fun g member => groups g (List.mem_cons_of_mem _ member))
        (fun g member => groups' g (List.mem_cons_of_mem _ member))
        (fun g member => told g (List.mem_cons_of_mem _ member)) (List.append_cancel_left same)
      exact ⟨rfl, rest_eq⟩

theorem noGroup_close (rest : List Char) : NoGroup (')' :: rest) :=
  noGroup_of_head? (by simp)

-- By induction on the first group. Both go through the groups inside until none begins, which is at their ends.
theorem IsGroup.eq_of_append_eq (group : IsGroup g) :
    ∀ g' r r', IsGroup g' → g ++ r = g' ++ r' → g = g' := by
  induction group with
  | @mk parts groups ih =>
    intro g' r r' group' same
    obtain ⟨groups'⟩ := group'
    simp only [List.cons_append, List.append_assoc, List.cons.injEq, true_and] at same
    obtain ⟨rfl, _⟩ := flatten_inj groups groups' ih (noGroup_close r) (noGroup_close r') same
    rfl

theorem parts_inj (groups : ∀ g ∈ parts, IsGroup g) (groups' : ∀ g ∈ parts', IsGroup g) (stop : NoGroup rest)
    (stop' : NoGroup rest') (same : parts.flatten ++ rest = parts'.flatten ++ rest') : parts = parts' ∧ rest = rest' :=
  flatten_inj groups groups' (fun g member => (groups g member).eq_of_append_eq) stop stop' same

end Language

section Reading
variable {d : Nat} {es : List Char}

inductive Reads (d : Nat) : List Char → Prop where
  | group {parts : List (List Char)} {rest : List Char} (groups : ∀ g ∈ parts, IsGroup g)
      (takes : (parser d).Takes ('(' :: parts.flatten ++ [')']) rest () parts.length ()) :
      Reads d ('(' :: parts.flatten ++ [')'] ++ rest)
  | none {rest : List Char} (refuses : (parser d).Refuses rest ()) (noGroup : NoGroup rest) : Reads d rest

theorem parser_eq (d : Nat) : parser d =
    (Parser.thenIgnore (Parser.ignoreThen (Parser.primitive (.the '(')) (rules.call d ()).many)
      (Parser.primitive (.the ')'))).map List.length := by
  simp only [parser, Grammar.parser, group, Grammar.thenIgnore, Grammar.ignoreThen, Grammar.the,
    Grammar.parserWith_map, Grammar.parserWith_andThen, Grammar.parserWith_primitive, Grammar.parserWith_many,
    Grammar.parserWith_deferred, Parser.thenIgnore, Parser.ignoreThen]

-- By induction on the number of characters. As long as a group begins, the repetition takes it.
theorem reads_parts (reads : ∀ es : List Char, es.length ≤ d → Reads d es) (enough : es.length ≤ d) :
    ∃ (parts : List (List Char)) (rest : List Char) (counts : List Nat), es = parts.flatten ++ rest ∧
      (∀ g ∈ parts, IsGroup g) ∧ NoGroup rest ∧ counts.length = parts.length ∧
      (parser d).TakesEach rest parts.flatten () counts () := by
  induction size : es.length using Nat.strongRecOn generalizing es with
  | ind n ih =>
    subst size
    cases reads es enough with
    | none refuses noGroup => exact ⟨[], es, [], rfl, nofun, noGroup, rfl, .nil refuses⟩
    | @group parts rest groups takes =>
      have shorter : rest.length < ('(' :: parts.flatten ++ [')'] ++ rest).length := by
        simp only [List.length_append, List.length_cons]
        omega
      obtain ⟨more, rest, counts, rfl, groups', noGroup, same, each⟩ :=
        ih rest.length shorter (Nat.le_of_lt (Nat.lt_of_lt_of_le shorter enough)) rfl
      refine ⟨('(' :: parts.flatten ++ [')']) :: more, rest, parts.length :: counts, ?_, ?_, noGroup, ?_, ?_⟩
      · simp
      · intro g member
        rcases List.mem_cons.mp member with rfl | member
        · exact .mk groups
        · exact groups' g member
      · simp [same]
      · exact .cons (by simp) takes each

-- By induction on the depth, which nested groups use up no faster than parentheses.
theorem reads (d : Nat) (es : List Char) (enough : es.length ≤ d) : Reads d es := by
  induction d generalizing es with
  | zero =>
    cases List.length_eq_zero_iff.mp (Nat.le_zero.mp enough)
    have other : ([] : List Char).head? ≠ some '(' := by simp
    refine .none ?_ (noGroup_of_head? other)
    rw [parser_eq]
    exact ((Parser.refuses_the other).andThen _ _).andThen _ _ |>.map _
  | succ d ih =>
    by_cases opened : es.head? = some '('
    · obtain ⟨inside, rfl⟩ : ∃ inside, es = '(' :: inside := List.head?_eq_some_iff.mp opened
      obtain ⟨parts, rest, counts, rfl, groups, noGroup, same, each⟩ :=
        reads_parts ih (Nat.le_of_succ_le_succ enough)
      have taken : (Parser.ignoreThen (Parser.primitive (.the '(')) (rules.call (d + 1) ()).many).Takes
          ('(' :: parts.flatten) rest () counts () :=
        Parser.takes_the.andThen _ each.many
      by_cases closed : rest.head? = some ')'
      · obtain ⟨rest, rfl⟩ : ∃ behind, rest = ')' :: behind := List.head?_eq_some_iff.mp closed
        have group : (parser (d + 1)).Takes ('(' :: parts.flatten ++ [')']) rest () parts.length () := by
          rw [parser_eq, ← same]
          exact (Parser.Takes.andThen _ taken Parser.takes_the).map _
        have reads := Reads.group groups group
        rwa [List.append_assoc] at reads
      · refine .none ?_ ?_
        · rw [parser_eq]
          exact (Parser.Refuses.andThen_of_takes _ taken (Parser.refuses_the closed)).map _
        · intro g group begins
          obtain ⟨groups'⟩ := group
          obtain ⟨more, same⟩ := begins
          simp only [List.cons_append, List.append_assoc, List.cons.injEq, true_and] at same
          obtain ⟨_, rfl⟩ := parts_inj groups' groups (noGroup_close more) noGroup same
          exact closed rfl
    · refine .none ?_ (noGroup_of_head? opened)
      rw [parser_eq]
      exact ((Parser.refuses_the opened).andThen _ _).andThen _ _ |>.map _

theorem length_of_group {g : List Char} (group : IsGroup g) (t : String) : (Source.text t).layout.length g = g.length := by
  apply Layout.length_of_size_one
  intro c member
  rcases group.mem member with rfl | rfl <;> rfl

theorem ahead_text (t : String) : (Source.text t).Ahead 0 t.toList := Source.Ahead.start (Source.text t)

-- A text is no longer than positions can say. Any depth will do that allows for as many groups within one
-- another as there are characters.
theorem group_run_exact (t : String) (short : (Source.text t).stop ≤ Count.unbounded) {depth : Nat}
    (deep : t.length ≤ depth) (m : Memory Unit) :
    ((∃ a m', parser depth (Source.text t) 0 m = (.done a, m')) ↔ ∃ g, IsGroup g ∧ g <+: t.toList) ∧
      ((¬ ∃ g, IsGroup g ∧ g <+: t.toList) → ∃ e m', parser depth (Source.text t) 0 m = (.failed e, m')) ∧
      ∀ parts : List (List Char), (∀ g ∈ parts, IsGroup g) → '(' :: parts.flatten ++ [')'] <+: t.toList →
        (∀ g, IsGroup g → g <+: t.toList → g = '(' :: parts.flatten ++ [')']) ∧
          (parser depth (Source.text t) 0 m).1 =
            .done ⟨parts.length, 0, ('(' :: parts.flatten ++ [')']).length⟩ := by
  have ahead := ahead_text t
  have read := reads depth t.toList deep
  generalize t.toList = es at ahead read ⊢
  cases read with
  | none refuses noGroup =>
    have none_begins : ¬ ∃ g, IsGroup g ∧ g <+: es := fun ⟨g, group, begins⟩ => noGroup g group begins
    obtain ⟨e, failed⟩ := refuses short ahead m.events
    refine ⟨⟨?_, fun group => absurd group none_begins⟩, fun _ => ⟨e, _, failed⟩, ?_⟩
    · intro ⟨a, m', done⟩
      cases failed.symm.trans done
    · intro parts groups begins
      exact absurd begins (noGroup _ (.mk groups))
  | @group parts rest groups takes =>
    have begins : '(' :: parts.flatten ++ [')'] <+: '(' :: parts.flatten ++ [')'] ++ rest := List.prefix_append _ _
    have done := takes short ahead m.events
    refine ⟨⟨fun _ => ⟨_, .mk groups, begins⟩, fun _ => ⟨_, _, done⟩⟩, ?_, ?_⟩
    · intro noGroup
      exact absurd ⟨_, .mk groups, begins⟩ noGroup
    · intro parts' groups' begins'
      have only (g : List Char) (group : IsGroup g) (begins'' : g <+: '(' :: parts.flatten ++ [')'] ++ rest) :
          g = '(' :: parts.flatten ++ [')'] := by
        obtain ⟨more, same⟩ := begins''
        exact group.eq_of_append_eq _ more rest (.mk groups) same
      have same := only _ (.mk groups') begins'
      obtain ⟨rfl, _⟩ := parts_inj groups' groups (noGroup_close []) (noGroup_close [])
        (List.cons.inj same).2
      refine ⟨only, ?_⟩
      rw [show (parser depth (Source.text t) 0 m).1 = _ from congrArg Prod.fst done, length_of_group (.mk groups),
        Nat.zero_add]

theorem group_run_exact_nested :
    (∃ a m', parser 9 (Source.text "(()(()))(") 0 (.fresh ()) = (.done a, m')) ∧
      (parser 9 (Source.text "(()(()))(") 0 (.fresh ())).1 = .done ⟨2, 0, 8⟩ ∧
      ¬ ∃ g, IsGroup g ∧ g <+: "(()".toList := by
  have empty : IsGroup ['(', ')'] := @IsGroup.mk [] nofun
  have nested : IsGroup ['(', '(', ')', ')'] := @IsGroup.mk [['(', ')']] fun g member => by
    cases List.mem_singleton.mp member
    exact empty
  have groups : ∀ g ∈ [['(', ')'], ['(', '(', ')', ')']], IsGroup g := by
    intro g member
    rcases List.mem_cons.mp member with rfl | member
    · exact empty
    · cases List.mem_singleton.mp member
      exact nested
  have begins : '(' :: [['(', ')'], ['(', '(', ')', ')']].flatten ++ [')'] <+: "(()(()))(".toList := ⟨['('], rfl⟩
  obtain ⟨succeeds, _, counts⟩ := group_run_exact "(()(()))(" (show 9 ≤ Count.unbounded by decide)
    (show 9 ≤ 9 by decide) (.fresh ())
  obtain ⟨unclosed, _, _⟩ := group_run_exact "(()" (show 3 ≤ Count.unbounded by decide) (show 3 ≤ 3 by decide) (.fresh ())
  refine ⟨succeeds.mpr ⟨_, .mk groups, begins⟩, (counts _ groups begins).2, ?_⟩
  intro group
  obtain ⟨a, m', done⟩ := unclosed.mpr group
  cases done

end Reading
end Descent.Format.Nesting
