import Descent.Proofs.Reading
import Mathlib.Data.List.Forall2

namespace Descent.Parser
variable {ε χ α β γ : Type} {p : Parser ε χ α} {q : Parser ε χ β} {e : ε} {es taken more rest : List ε}
  {c c' c'' : χ} {a : α} {as : List α}

section Primitives
variable [DecidableEq ε]

theorem takes_noneOf (absent : e ∉ es) : (primitive (.noneOf es) : Parser ε χ ε).Takes [e] rest c e c :=
  takes_element (fun _ _ => rfl) (by simp [Option.guard, absent])

theorem refuses_noneOf (listed : ∀ e ∈ rest.head?, e ∈ es) :
    (primitive (.noneOf es) : Parser ε χ ε).Refuses rest c := by
  apply refuses_element (fun _ _ => rfl)
  intro found first
  simp [Option.guard, listed found first]

theorem refuses_finish (some : rest ≠ []) : (primitive .finish : Parser ε χ Unit).Refuses rest c := by
  intro s i _ ahead events
  have before : s.isEnd i = false := by
    have pos := s.layout.length_pos some
    have inside := ahead.stop_eq
    exact decide_eq_false (by omega)
  refine ⟨.noMatch i, ?_⟩
  simp [primitive, Action.ofExcept, Primitive.parse, before]

end Primitives

theorem takes_just (a : α) : (just a : Parser ε χ α).Takes [] rest c a c := by
  intro s i _ _ events
  rfl

namespace Takes

theorem orElse (p' : Parser ε χ α) (takes : p.Takes taken rest c a c') : (p.orElse p').Takes taken rest c a c' := by
  intro s i short ahead events
  exact Action.handle_of_done (takes short ahead events)

theorem opt (takes : p.Takes taken rest c a c') : p.opt.Takes taken rest c (some a) c' := by
  intro s i short ahead events
  exact Action.handle_of_done (takes short ahead events)

theorem notAhead (takes : p.Takes taken rest c a c) : p.notAhead.Refuses (taken ++ rest) c := by
  intro s i short ahead events
  exact ⟨.noMatch i, Action.handle_of_done (takes short ahead events)⟩

theorem delimitedBy {left : Parser ε χ β} {right : Parser ε χ γ} {opening closing : List ε} {c₁ c₂ c₃ : χ} {b : β} {d : γ}
    (opens : left.Takes opening (taken ++ closing ++ rest) c b c₁) (takes : p.Takes taken (closing ++ rest) c₁ a c₂)
    (closes : right.Takes closing rest c₂ d c₃) :
    (Parser.delimitedBy left p right).Takes (opening ++ (taken ++ closing)) rest c a c₃ :=
  opens.andThen (fun _ a => a) (takes.andThen (fun a _ => a) closes)

theorem enclosed [DecidableEq ε] (left : ε) {right : ε} (takes : p.Takes taken (right :: rest) c a c') :
    (Parser.delimitedBy (primitive (.the left)) p (primitive (.the right))).Takes (left :: taken ++ [right]) rest c a c' :=
  takes_the.delimitedBy takes takes_the

theorem tryMap {f : α → Except Fault β} {b : β} (takes : p.Takes taken rest c a c') (accepted : f a = .ok b) :
    (p.tryMap f).Takes taken rest c b c' := by
  intro s i short ahead events
  refine (Action.handle_of_done (takes short ahead events)).trans ?_
  simp only [accepted]
  rfl

theorem choice_append {before after : List (Parser ε χ α)} (refuse : ∀ p' ∈ before, p'.Refuses (taken ++ rest) c)
    (takes : (Parser.choice (p :: after)).Takes taken rest c a c') :
    (Parser.choice (before ++ p :: after)).Takes taken rest c a c' := by
  induction before with
  | nil => exact takes
  | cons p' before ih =>
    have others := ih fun p member => refuse p (List.mem_cons_of_mem _ member)
    have first := refuse p' List.mem_cons_self
    cases before with
    | nil => exact first.choice_cons others
    | cons p'' before => exact first.choice_cons others

end Takes

namespace Refuses

theorem orElse {p' : Parser ε χ α} (refuses : p.Refuses (taken ++ rest) c) (takes : p'.Takes taken rest c a c') :
    (p.orElse p').Takes taken rest c a c' := by
  intro s i short ahead events
  obtain ⟨e, failed⟩ := refuses short ahead events
  exact (Action.handle_of_failed failed).trans (takes short ahead events)

theorem optional (refuses : p.Refuses rest c) (default : α) : (p.optional default).Takes [] rest c default c :=
  orElse refuses (takes_just default)

theorem opt (refuses : p.Refuses rest c) : p.opt.Takes [] rest c none c := by
  intro s i short ahead events
  obtain ⟨e, failed⟩ := refuses short ahead events
  exact Action.handle_of_failed failed

theorem notAhead (refuses : p.Refuses rest c) : p.notAhead.Takes [] rest c () c := by
  intro s i short ahead events
  obtain ⟨e, failed⟩ := refuses short ahead events
  exact Action.handle_of_failed failed

theorem choice {ps : List (Parser ε χ α)} (refuse : ∀ p ∈ ps, p.Refuses rest c) : (Parser.choice ps).Refuses rest c := by
  intro s i short ahead events
  unfold Parser.choice
  generalize Failure.noMatch i = last
  induction ps generalizing last with
  | nil => exact ⟨last, rfl⟩
  | cons p ps ih =>
    obtain ⟨e, failed⟩ := refuse p List.mem_cons_self short ahead events
    obtain ⟨e', others⟩ := ih (fun p member => refuse p (List.mem_cons_of_mem _ member)) e
    exact ⟨e', (Action.handle_of_failed failed).trans others⟩

theorem many1 (refuses : p.Refuses rest c) : p.many1.Refuses rest c := by
  intro s i short ahead events
  obtain ⟨e, failed⟩ := refuses short ahead events
  have loop : p.collect true s Count.unbounded 1 [] i ⟨c, events⟩ = (.failed e, ⟨c, events⟩) := by
    rw [show Count.unbounded = UInt64.size - 2 + 1 from rfl, collect_succ, Action.handle_of_failed failed]
    rfl
  exact ⟨e, Action.handle_of_failed loop⟩

theorem delimitedBy {left : Parser ε χ β} (refuses : left.Refuses rest c) (p : Parser ε χ α) (right : Parser ε χ γ) :
    (Parser.delimitedBy left p right).Refuses rest c :=
  refuses.andThen (fun _ a => a) (thenIgnore p right)

theorem separatedBy (refuses : p.Refuses rest c) (separator : Parser ε χ β) :
    (Parser.separatedBy p separator).Takes [] rest c [] c :=
  ((refuses.andThen Prod.mk _).map _).optional []

end Refuses

section Pieces
variable {pieces : List (List ε)}

theorem takesEach_flatten
    (each : List.Forall₂ (fun a piece => piece ≠ [] ∧ ∀ rest, p.Takes piece rest c a c) as pieces)
    (refuses : p.Refuses rest c) : p.TakesEach rest pieces.flatten c as c := by
  induction each with
  | nil => exact .nil refuses
  | cons piece _ ih => exact .cons piece.1 (piece.2 _) ih

theorem collect_pieces (each : List.Forall₂ (fun a piece => piece ≠ [] ∧ ∀ rest, p.Takes piece rest c a c) as pieces)
    {s : Source ε} {i : Nat} (short : s.stop ≤ Count.unbounded) (ahead : s.Ahead i (pieces.flatten ++ rest))
    (endless : Bool) (need : Nat) (got : List α) (events : Array Event) :
    p.collect endless s as.length need got i ⟨c, events⟩ =
      (.done (got.reverse ++ as, i + s.layout.length pieces.flatten), ⟨c, events⟩) := by
  induction each generalizing i need got with
  | nil => simp [collect_zero, Layout.length]
  | cons piece _ ih =>
    rw [List.flatten_cons, List.append_assoc] at ahead
    rw [List.length_cons, (piece.2 _).collect piece.1 short ahead, ih ahead.append, List.flatten_cons,
      Layout.length_append]
    simp [Nat.add_assoc]

theorem takes_repeatedExactly
    (each : List.Forall₂ (fun a piece => piece ≠ [] ∧ ∀ rest, p.Takes piece rest c a c) as pieces) :
    (p.repeatedExactly as.length).Takes pieces.flatten rest c as c := by
  intro s i short ahead events
  exact repeated_of_collect (Nat.le_refl _) (collect_pieces each short ahead _ _ [] events)

theorem takes_repeatedExactly_satisfy [DecidableEq ε] {test : ε → Bool} (holds : ∀ e ∈ es, test e = true) :
    ((primitive (.satisfy test) : Parser ε χ ε).repeatedExactly es.length).Takes es rest c es c := by
  have each : List.Forall₂ (fun e piece => piece ≠ [] ∧
      ∀ rest, (primitive (.satisfy test) : Parser ε χ ε).Takes piece rest c e c) es (es.map ([·])) :=
    List.forall₂_map_right_iff.mpr (List.forall₂_same.mpr fun e member =>
      ⟨List.cons_ne_nil e [], fun _ => takes_satisfy (holds e member)⟩)
  have takes : ((primitive (.satisfy test) : Parser ε χ ε).repeatedExactly es.length).Takes (es.map ([·])).flatten rest
      c es c :=
    takes_repeatedExactly each
  rwa [← List.flatMap_def, List.flatMap_singleton'] at takes

theorem takesEach_noneOf [DecidableEq ε] {others : List ε} (absent : ∀ e ∈ es, e ∉ others)
    (listed : ∀ e ∈ rest.head?, e ∈ others) : (primitive (.noneOf others) : Parser ε χ ε).TakesEach rest es c es c := by
  induction es with
  | nil => exact .nil (refuses_noneOf listed)
  | cons e es ih =>
    have each := ih fun e member => absent e (List.mem_cons_of_mem _ member)
    exact .cons (List.cons_ne_nil e []) (takes_noneOf (absent e List.mem_cons_self)) each

theorem intercalate_cons (separator : ε) (piece : List ε) (pieces : List (List ε)) :
    [separator].intercalate (piece :: pieces) = piece ++ pieces.flatMap (separator :: ·) := by
  induction pieces generalizing piece with
  | nil => simp [List.intercalate]
  | cons next pieces ih =>
    have joined : [separator].intercalate (piece :: next :: pieces) =
        piece ++ (separator :: [separator].intercalate (next :: pieces)) := by
      simp [List.intercalate]
    rw [joined, ih]
    rfl

-- Behind a piece stands what comes after the list, or else the separator.
def Goes (separator : ε) (rest next : List ε) : Prop := next = rest ∨ next.head? = some separator

theorem goes_flatMap (separator : ε) (rest : List ε) (pieces : List (List ε)) :
    Goes separator rest (pieces.flatMap (separator :: ·) ++ rest) := by
  cases pieces with
  | nil => exact .inl rfl
  | cons piece pieces => exact .inr rfl

section Between
variable [DecidableEq ε] {separator : ε}

theorem takesEach_between
    (each : List.Forall₂ (fun a piece => ∀ next, Goes separator rest next → p.Takes piece next c a c) as pieces)
    (stops : (ignoreThen (primitive (.the separator)) p).Refuses rest c) :
    (ignoreThen (primitive (.the separator)) p).TakesEach rest (pieces.flatMap (separator :: ·)) c as c := by
  induction each with
  | nil => exact .nil stops
  | @cons a piece as pieces first _ ih =>
    have stretch : (ignoreThen (primitive (.the separator)) p).Takes (separator :: piece)
        (pieces.flatMap (separator :: ·) ++ rest) c a c :=
      Takes.andThen (fun _ a => a) takes_the (first _ (goes_flatMap separator rest pieces))
    rw [List.flatMap_cons]
    exact .cons (List.cons_ne_nil separator piece) stretch ih

theorem separatedBy1_intercalate (nonempty : as ≠ [])
    (each : List.Forall₂ (fun a piece => ∀ next, Goes separator rest next → p.Takes piece next c a c) as pieces)
    (stops : (ignoreThen (primitive (.the separator)) p).Refuses rest c) :
    (separatedBy1 p (primitive (.the separator))).Takes ([separator].intercalate pieces) rest c as c := by
  cases each with
  | nil => exact absurd rfl nonempty
  | @cons a piece as pieces first each =>
    rw [intercalate_cons]
    exact separatedBy1_of_each (first _ (goes_flatMap _ _ pieces)) (takesEach_between each stops)

end Between
end Pieces

structure StandsFor (p : Parser ε χ α) (c : χ) (e : ε) (a : α) : Prop where
  takes (rest : List ε) : p.Takes [e] rest c a c
  refuses {rest : List ε} (other : rest.head? ≠ some e) : p.Refuses rest c

namespace StandsFor

theorem the [DecidableEq ε] : (primitive (.the e) : Parser ε χ ε).StandsFor c e e :=
  ⟨fun _ => takes_the, refuses_the⟩

theorem const {p : Parser ε χ β} {b : β} (stands : p.StandsFor c e b) (a : α) : (p.const a).StandsFor c e a :=
  ⟨fun rest => (stands.takes rest).map _, fun other => (stands.refuses other).map _⟩

variable {table : List (ε × α)} {ps : List (Parser ε χ α)}

theorem refuse_each (each : List.Forall₂ (fun entry p => p.StandsFor c entry.1 entry.2) table ps)
    (missing : ∀ entry ∈ table, rest.head? ≠ some entry.1) : ∀ p ∈ ps, p.Refuses rest c := by
  induction each with
  | nil => exact List.forall_mem_nil _
  | cons stands _ ih =>
    obtain ⟨other, others⟩ := List.forall_mem_cons.mp missing
    exact List.forall_mem_cons.mpr ⟨stands.refuses other, ih others⟩

variable [DecidableEq ε]

theorem exists_split (each : List.Forall₂ (fun entry p => p.StandsFor c entry.1 entry.2) table ps)
    (found : table.lookup e = some a) :
    ∃ before p after, ps = before ++ p :: after ∧ p.StandsFor c e a ∧ ∀ p' ∈ before, ∀ rest, p'.Refuses (e :: rest) c := by
  induction each with
  | nil => cases found
  | @cons entry p table ps stands _ ih =>
    obtain ⟨key, output⟩ := entry
    by_cases same : e = key
    · subst same
      rw [List.lookup_cons_self] at found
      cases found
      exact ⟨[], p, ps, rfl, stands, List.forall_mem_nil _⟩
    · rw [List.lookup_cons, beq_false_of_ne same] at found
      obtain ⟨before, p', after, rfl, stands', refuse⟩ := ih found
      have other (rest : List ε) : (e :: rest).head? ≠ some key := fun first => same (Option.some.inj first)
      exact ⟨p :: before, p', after, rfl, stands',
        List.forall_mem_cons.mpr ⟨fun rest => stands.refuses (other rest), refuse⟩⟩

theorem choice (each : List.Forall₂ (fun entry p => p.StandsFor c entry.1 entry.2) table ps)
    (found : table.lookup e = some a) (after : List (Parser ε χ α)) :
    (Parser.choice (ps ++ after)).Takes [e] rest c a c := by
  obtain ⟨before, p, others, rfl, stands, refuse⟩ := exists_split each found
  rw [List.append_assoc]
  exact Takes.choice_append (fun p' member => refuse p' member rest) ((stands.takes rest).choice_cons _)

end StandsFor
end Descent.Parser
