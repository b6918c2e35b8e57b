import Descent.Proofs.Elements
import Descent.Proofs.Positions
import Descent.Proofs.Reading
import Mathlib.Order.Bounds.Basic

namespace Descent
variable {ε χ : Type}

def sharedLengths (es fs : List ε) : Set Nat := {n | ∃ common, common <+: es ∧ common <+: fs ∧ common.length = n}

section Parting
variable {common es fs : List ε}

-- By induction on the first list. Two lists go together until one of them ends or their next elements differ.
theorem exists_parting (es fs : List ε) :
    ∃ common es' fs', es = common ++ es' ∧ fs = common ++ fs' ∧ ∀ e ∈ es'.head?, e ∉ fs'.head? := by
  induction es generalizing fs with
  | nil => exact ⟨[], [], fs, rfl, rfl, by simp⟩
  | cons e es ih =>
    by_cases alike : e ∈ fs.head?
    · obtain ⟨fs, rfl⟩ : ∃ more, fs = e :: more := List.head?_eq_some_iff.mp alike
      obtain ⟨common, es', fs', rfl, rfl, part⟩ := ih fs
      exact ⟨e :: common, es', fs', rfl, rfl, part⟩
    · refine ⟨[], e :: es, fs, rfl, rfl, ?_⟩
      intro first head
      cases head
      exact alike

theorem isGreatest_of_parting (part : ∀ e ∈ es.head?, e ∉ fs.head?) :
    IsGreatest (sharedLengths (common ++ es) (common ++ fs)) common.length := by
  refine ⟨⟨common, List.prefix_append _ _, List.prefix_append _ _, rfl⟩, ?_⟩
  intro n ⟨longer, inFirst, inSecond, length⟩
  subst length
  refine Nat.le_of_not_lt fun further => ?_
  obtain ⟨more, rfl⟩ := List.prefix_of_prefix_length_le (List.prefix_append common es) inFirst (Nat.le_of_lt further)
  rw [List.prefix_append_right_inj] at inFirst inSecond
  obtain ⟨e, rest, rfl⟩ : ∃ e rest, more = e :: rest := by
    cases more with
    | nil => simp at further
    | cons e rest => exact ⟨e, rest, rfl⟩
  obtain ⟨_, rfl⟩ := inFirst
  obtain ⟨_, rfl⟩ := inSecond
  exact part e rfl rfl

end Parting

namespace Source
variable {s : Source ε} {i : Nat} {es more : List ε}

theorem IsBoundary.ahead (boundary : s.IsBoundary i) : s.Ahead i (s.rest i).elements := by
  obtain ⟨before, after, split, rfl⟩ := isBoundary_iff.mp boundary
  refine ⟨before, ?_, rfl⟩
  rw [elements_rest, split, s.layout.suffix_length_append]

theorem Ahead.advance_eq (ahead : s.Ahead i (es ++ more)) : s.advance i es.length = i + s.layout.length es := by
  obtain ⟨before, split, rfl⟩ := ahead
  have boundary : s.IsBoundary (s.layout.length before) := isBoundary_iff.mpr ⟨before, _, split, rfl⟩
  rw [boundary.advance_eq, offset_of_split split, split, ← List.append_assoc, ← List.length_append, List.take_left,
    Layout.length_append]

end Source

namespace Primitive
variable [DecidableEq ε] {s : Source ε} {i : Nat} {e : ε} {es more : List ε}

theorem follow_append (s : Source ε) (es es' : List ε) (i : Nat) :
    follow s (es ++ es') i = (follow s es i).bind (follow s es') := by
  induction es generalizing i with
  | nil => rfl
  | cons e es ih =>
    rw [List.cons_append, follow, follow]
    cases s.elementAt? i with
    | none => rfl
    | some step =>
      dsimp only
      split
      · exact ih step.2
      · rfl

theorem follow_of_missing (ahead : s.Ahead i more) (missing : e ∉ more.head?) :
    follow s (e :: es) i = .error (if more = [] then .endOfInput i else .noMatch i) := by
  cases more with
  | nil => rw [follow, ahead.elementAt?_nil, if_pos rfl]
  | cons found more =>
    have differs : found ≠ e := fun same => missing (congrArg some same)
    rw [follow, ahead.elementAt?_cons, if_neg (List.cons_ne_nil found more)]
    exact if_neg differs

end Primitive

namespace Parser
open Predicate
variable [DecidableEq ε] {s : Source ε} {i : Nat} {m m' : Memory χ} {e : ε} {common es left more : List ε}

theorem sequence_of_follow {reply : Except Failure Nat} (ran : Primitive.follow s es i = reply) (m : Memory χ) :
    primitive (.sequence es) s i m = Action.ofExcept (reply.map fun stop => ⟨es, i, stop⟩) m := by
  rw [primitive, Primitive.parse, ran]

theorem sequence_cons (e : ε) (es : List ε) :
    (primitive (.sequence (e :: es)) : Parser ε χ (List ε)) =
      prepend (primitive (.the e)) (primitive (.sequence es)) := by
  funext s i m
  rw [the_eq_satisfy, prepend_eq_andThen]
  rcases found : s.elementAt? i with _ | ⟨first, next⟩
  · have ran : Primitive.follow s (e :: es) i = .error (.endOfInput i) := by rw [Primitive.follow, found]
    rw [sequence_of_follow ran, andThen_of_failed (satisfy_of_missing found (only e) m)]
    rfl
  · by_cases same : first = e
    · subst same
      have ran : Primitive.follow s (first :: es) i = Primitive.follow s es next := by
        rw [Primitive.follow, found]
        exact if_pos rfl
      have holds : only first first = true := decide_eq_true rfl
      have one := satisfy_of_holds found holds m
      rw [sequence_of_follow ran]
      cases more : Primitive.follow s es next with
      | error failure => exact (andThen_of_done one (sequence_of_follow more m)).symm
      | ok stop => exact (andThen_of_done one (sequence_of_follow more m)).symm
    · have ran : Primitive.follow s (e :: es) i = .error (.noMatch i) := by
        rw [Primitive.follow, found]
        exact if_neg same
      have fails : only e first = false := decide_eq_false same
      rw [sequence_of_follow ran, andThen_of_failed (satisfy_of_fails found fails m)]
      rfl

theorem sequence_eq_chain (es : List ε) :
    (primitive (.sequence es) : Parser ε χ (List ε)) = chain (es.map fun e => primitive (.the e)) := by
  induction es with
  | nil => rfl
  | cons e es ih =>
    funext s i
    rw [sequence_cons, ih, List.map_cons, chain_cons ((anchored_primitive (.the e) s).anchoredAt i)]

theorem sequence_matches (ahead : s.Ahead i (es ++ more)) (m : Memory χ) :
    primitive (.sequence es) s i m = (.done ⟨es, i, s.advance i es.length⟩, m) := by
  rw [sequence_of_follow (follow_eq ahead), ahead.advance_eq]
  rfl

theorem sequence_of_missing (ahead : s.Ahead i (common ++ more)) (missing : e ∉ more.head?) (m : Memory χ) :
    primitive (.sequence (common ++ e :: es)) s i m =
      (.failed (if more = [] then .endOfInput (s.advance i common.length)
        else .noMatch (s.advance i common.length)), m) := by
  have ran : Primitive.follow s (common ++ e :: es) i = Primitive.follow s (e :: es) (s.advance i common.length) := by
    rw [Primitive.follow_append, follow_eq ahead, ahead.advance_eq]
    rfl
  have next : s.Ahead (s.advance i common.length) more := by
    rw [ahead.advance_eq]
    exact ahead.append
  rw [sequence_of_follow ran, Primitive.follow_of_missing next missing]
  rfl

theorem sequence_fails (ahead : s.Ahead i left) (none : ¬es <+: left) (m : Memory χ) :
    ∃ n, IsGreatest (sharedLengths es left) n ∧
      primitive (.sequence es) s i m =
        (.failed (if left.length = n then .endOfInput (s.advance i n) else .noMatch (s.advance i n)), m) := by
  obtain ⟨common, es, more, rfl, rfl, part⟩ := exists_parting es left
  refine ⟨common.length, isGreatest_of_parting part, ?_⟩
  have used : (common ++ more).length = common.length ↔ more = [] := by
    rw [List.length_append, Nat.add_eq_left, List.length_eq_zero_iff]
  cases es with
  | nil =>
    rw [List.append_nil] at none
    exact absurd (List.prefix_append common more) none
  | cons e es =>
    rw [sequence_of_missing ahead (part e rfl)]
    simp only [used]

theorem sequence_done_iff {a : Match (List ε)} (ahead : s.Ahead i left) :
    primitive (.sequence es) s i m = (.done a, m') ↔
      es <+: left ∧ a = ⟨es, i, s.advance i es.length⟩ ∧ m' = m := by
  constructor
  · intro done
    by_cases some : es <+: left
    · obtain ⟨more, rfl⟩ := some
      cases (sequence_matches ahead m).symm.trans done
      exact ⟨List.prefix_append es more, rfl, rfl⟩
    · obtain ⟨n, _, failed⟩ := sequence_fails ahead some m
      cases failed.symm.trans done
  · rintro ⟨⟨more, rfl⟩, rfl, rfl⟩
    exact sequence_matches ahead _

-- As parsers a literal and the chain of its elements are the same everywhere. The rest is about positions that elements
-- of the source start at, or that are its end.
theorem literal_runs (es : List ε) :
    (primitive (.sequence es) : Parser ε χ (List ε)) = chain (es.map fun e => primitive (.the e)) ∧
    ∀ {s : Source ε} {i : Nat}, s.IsBoundary i → ∀ m : Memory χ,
      let left := (s.rest i).elements
      (∀ a m', primitive (.sequence es) s i m = (.done a, m') ↔
        es <+: left ∧ a = ⟨es, i, s.advance i es.length⟩ ∧ m' = m) ∧
      (¬es <+: left → ∃ n, IsGreatest (sharedLengths es left) n ∧
        primitive (.sequence es) s i m =
          (.failed (if left.length = n then .endOfInput (s.advance i n) else .noMatch (s.advance i n)), m)) := by
  refine ⟨sequence_eq_chain es, ?_⟩
  intro s i boundary m left
  have ahead : s.Ahead i left := boundary.ahead
  exact ⟨fun a m' => sequence_done_iff ahead, fun none => sequence_fails ahead none m⟩

theorem literal_runs_letters :
    let s := Source.text "éçab"
    let literal (es : List Char) : Parser Char Nat (List Char) := primitive (.sequence es)
    let left := (s.rest 2).elements
    let parts (es : List Char) : Prop := ∃ n, IsGreatest (sharedLengths es left) n ∧
      literal es s 2 (.fresh 0) =
        (.failed (if left.length = n then .endOfInput (s.advance 2 n) else .noMatch (s.advance 2 n)), .fresh 0)
    s.IsBoundary 2 ∧ left = ['ç', 'a', 'b'] ∧
      literal ['ç', 'a'] s 2 (.fresh 0) = (.done ⟨['ç', 'a'], 2, s.advance 2 2⟩, .fresh 0) ∧ s.advance 2 2 = 5 ∧
      ¬['ç', 'a', 'x'] <+: left ∧ parts ['ç', 'a', 'x'] ∧
      literal ['ç', 'a', 'x'] s 2 (.fresh 0) = (.failed (.noMatch 5), .fresh 0) ∧
      ¬['ç', 'a', 'b', 'c'] <+: left ∧ parts ['ç', 'a', 'b', 'c'] ∧
      literal ['ç', 'a', 'b', 'c'] s 2 (.fresh 0) = (.failed (.endOfInput 6), .fresh 0) := by
  intro s literal left parts
  have boundary : s.IsBoundary 2 := by decide
  have ahead : left = ['ç', 'a', 'b'] := by decide
  have differs : ¬['ç', 'a', 'x'] <+: left := by decide
  have longer : ¬['ç', 'a', 'b', 'c'] <+: left := by decide
  have first := (literal_runs (χ := Nat) ['ç', 'a']).2 boundary (.fresh 0)
  refine ⟨boundary, ahead, (first.1 _ _).mpr ⟨by decide, rfl, rfl⟩, by decide, differs, ?_, rfl, longer, ?_, rfl⟩
  · exact ((literal_runs ['ç', 'a', 'x']).2 boundary (.fresh 0)).2 differs
  · exact ((literal_runs ['ç', 'a', 'b', 'c']).2 boundary (.fresh 0)).2 longer

end Parser
end Descent
