import Descent.Parser.Repetition
import Descent.Run
import Descent.Source.Boundary

namespace Descent
variable {ε χ : Type}

theorem Layout.length_le (l : Layout ε) (es : List ε) : es.length ≤ l.length es := by
  induction es with
  | nil => exact Nat.le_refl 0
  | cons e es ih =>
    have pos := l.size_pos e
    simp only [List.length_cons, length]
    omega

theorem Layout.length_pos (l : Layout ε) {es : List ε} (some : es ≠ []) : 0 < l.length es :=
  Nat.lt_of_lt_of_le (List.length_pos_iff.mpr some) (l.length_le es)

theorem Layout.length_of_size_one (l : Layout ε) {es : List ε} (single : ∀ e ∈ es, l.size e = 1) :
    l.length es = es.length := by
  induction es with
  | nil => rfl
  | cons e es ih =>
    rw [length, single e List.mem_cons_self, ih fun e member => single e (List.mem_cons_of_mem _ member),
      List.length_cons, Nat.add_comm]

def Source.Ahead (s : Source ε) (i : Nat) (es : List ε) : Prop :=
  ∃ before, s.elements = before ++ es ∧ s.layout.length before = i

namespace Source.Ahead
variable {s : Source ε} {i : Nat} {e : ε} {es more : List ε}

theorem start (s : Source ε) : s.Ahead s.start s.elements := ⟨[], rfl, rfl⟩

theorem append (ahead : s.Ahead i (es ++ more)) : s.Ahead (i + s.layout.length es) more := by
  obtain ⟨before, split, rfl⟩ := ahead
  exact ⟨before ++ es, by rw [split, List.append_assoc], s.layout.length_append before es⟩

theorem tail (ahead : s.Ahead i (e :: es)) : s.Ahead (i + s.layout.size e) es :=
  @append ε s i [e] es ahead

theorem stop_eq (ahead : s.Ahead i es) : s.stop = i + s.layout.length es := by
  obtain ⟨before, split, rfl⟩ := ahead
  rw [Source.stop_eq, split, Layout.length_append]

theorem elements_rest (ahead : s.Ahead i es) : (s.rest i).elements = es := by
  obtain ⟨before, split, rfl⟩ := ahead
  rw [Source.elements_rest, split, Layout.suffix_length_append]

theorem elementAt?_nil (ahead : s.Ahead i []) : s.elementAt? i = none := by
  obtain ⟨before, split, rfl⟩ := ahead
  rw [elementAt?_eq, split, Layout.suffix_length_append]
  rfl

theorem elementAt?_cons (ahead : s.Ahead i (e :: es)) : s.elementAt? i = some (e, i + s.layout.size e) := by
  obtain ⟨before, split, rfl⟩ := ahead
  rw [elementAt?_eq, split, Layout.suffix_length_append]
  rfl

end Source.Ahead

namespace Parser
variable {α β γ : Type}

-- With `taken` and then `rest` ahead, the parser takes the former. A source is no longer than positions can say.
def Takes (p : Parser ε χ α) (taken rest : List ε) (c : χ) (a : α) (c' : χ) : Prop :=
  ∀ ⦃s : Source ε⦄ ⦃i : Nat⦄, s.stop ≤ Count.unbounded → s.Ahead i (taken ++ rest) → ∀ events,
    p s i ⟨c, events⟩ = (.done ⟨a, i, i + s.layout.length taken⟩, ⟨c', events⟩)

-- With `rest` ahead the parser fails, and nothing shows that it was tried.
def Refuses (p : Parser ε χ α) (rest : List ε) (c : χ) : Prop :=
  ∀ ⦃s : Source ε⦄ ⦃i : Nat⦄, s.stop ≤ Count.unbounded → s.Ahead i rest → ∀ events,
    ∃ e, p s i ⟨c, events⟩ = (.failed e, ⟨c, events⟩)

inductive TakesEach (p : Parser ε χ α) (rest : List ε) : List ε → χ → List α → χ → Prop where
  | nil {c : χ} (refuses : p.Refuses rest c) : TakesEach p rest [] c [] c
  | cons {taken more : List ε} {c c' c'' : χ} {a : α} {as : List α} (some : taken ≠ [])
      (takes : p.Takes taken (more ++ rest) c a c') (each : TakesEach p rest more c' as c'') :
      TakesEach p rest (taken ++ more) c (a :: as) c''

inductive TakesBetween (p : Parser ε χ α) (separator : Parser ε χ β) (rest : List ε) :
    List ε → χ → List α → χ → Prop where
  | one {taken : List ε} {c c' : χ} {a : α} (takes : p.Takes taken rest c a c')
      (refuses : separator.Refuses rest c') : TakesBetween p separator rest taken c [a] c'
  | cons {taken between more : List ε} {c c₁ c₂ c₃ : χ} {a : α} {b : β} {as : List α}
      (takes : p.Takes taken (between ++ (more ++ rest)) c a c₁) (some : between ≠ [])
      (separates : separator.Takes between (more ++ rest) c₁ b c₂) (goesOn : TakesBetween p separator rest more c₂ as c₃) :
      TakesBetween p separator rest (taken ++ (between ++ more)) c (a :: as) c₃

variable {p : Parser ε χ α} {q : Parser ε χ β} {e : ε} {es taken more rest : List ε} {c c' c'' : χ} {a : α} {b : β}
  {as : List α}

section Primitives
variable [DecidableEq ε] {get : ε → Option α}

theorem takes_element {p : Primitive ε α} (parse : ∀ s i, p.parse s i = Primitive.element get s i)
    (accepted : get e = some a) : (primitive p : Parser ε χ α).Takes [e] rest c a c := by
  intro s i _ ahead events
  simp [primitive, Action.ofExcept, parse, Primitive.element, ahead.elementAt?_cons, accepted, Layout.length]

theorem refuses_element {p : Primitive ε α} (parse : ∀ s i, p.parse s i = Primitive.element get s i)
    (rejected : ∀ e ∈ rest.head?, get e = none) : (primitive p : Parser ε χ α).Refuses rest c := by
  intro s i _ ahead events
  cases rest with
  | nil =>
    refine ⟨.endOfInput i, ?_⟩
    simp [primitive, Action.ofExcept, parse, Primitive.element, ahead.elementAt?_nil]
  | cons e rest =>
    refine ⟨.noMatch i, ?_⟩
    simp [primitive, Action.ofExcept, parse, Primitive.element, ahead.elementAt?_cons, rejected e rfl]

theorem takes_the : (primitive (.the e) : Parser ε χ ε).Takes [e] rest c e c :=
  takes_element (fun _ _ => rfl) (by simp [Option.guard])

theorem refuses_the (other : rest.head? ≠ some e) : (primitive (.the e) : Parser ε χ ε).Refuses rest c := by
  apply refuses_element (fun _ _ => rfl)
  intro found first
  have differs : found ≠ e := fun same => other (same ▸ first)
  simp [Option.guard, differs]

theorem takes_satisfy {test : ε → Bool} (holds : test e = true) :
    (primitive (.satisfy test) : Parser ε χ ε).Takes [e] rest c e c :=
  takes_element (fun _ _ => rfl) (by simp [Option.guard, holds])

theorem refuses_satisfy {test : ε → Bool} (fails : ∀ e ∈ rest.head?, test e = false) :
    (primitive (.satisfy test) : Parser ε χ ε).Refuses rest c := by
  apply refuses_element (fun _ _ => rfl)
  intro found first
  simp [Option.guard, fails found first]

theorem follow_eq {s : Source ε} {i : Nat} (ahead : s.Ahead i (es ++ rest)) :
    Primitive.follow s es i = .ok (i + s.layout.length es) := by
  induction es generalizing i with
  | nil => rfl
  | cons e es ih =>
    unfold Primitive.follow
    rw [ahead.elementAt?_cons]
    simp only [if_true]
    rw [ih ahead.tail, Layout.length, Nat.add_assoc]

theorem takes_sequence : (primitive (.sequence es) : Parser ε χ (List ε)).Takes es rest c es c := by
  intro s i _ ahead events
  simp [primitive, Action.ofExcept, Primitive.parse, follow_eq ahead, Except.map]

theorem refuses_sequence (other : rest.head? ≠ some e) :
    (primitive (.sequence (e :: es)) : Parser ε χ (List ε)).Refuses rest c := by
  intro s i _ ahead events
  cases rest with
  | nil =>
    refine ⟨.endOfInput i, ?_⟩
    simp [primitive, Action.ofExcept, Primitive.parse, Primitive.follow, ahead.elementAt?_nil, Except.map]
  | cons found rest =>
    have differs : found ≠ e := fun same => other (congrArg some same)
    refine ⟨.noMatch i, ?_⟩
    simp [primitive, Action.ofExcept, Primitive.parse, Primitive.follow, ahead.elementAt?_cons, differs, Except.map]

theorem takes_finish : (primitive .finish : Parser ε χ Unit).Takes [] [] c () c := by
  intro s i _ ahead events
  have ended : s.isEnd i = true := decide_eq_true (Nat.le_of_eq ahead.stop_eq)
  simp [primitive, Action.ofExcept, Primitive.parse, ended, Match.zeroWidth, Layout.length]

end Primitives

namespace Takes

theorem map (f : α → β) (takes : p.Takes taken rest c a c') : (p.map f).Takes taken rest c (f a) c' := by
  intro s i short ahead events
  exact Action.handle_of_done (takes short ahead events)

theorem mapContext (f : α → χ → β × χ) (takes : p.Takes taken rest c a c') :
    (p.mapContext f).Takes taken rest c (f a c').1 (f a c').2 := by
  intro s i short ahead events
  exact Action.handle_of_done (takes short ahead events)

theorem andThen (f : α → β → γ) (first : p.Takes taken (more ++ rest) c a c') (second : q.Takes more rest c' b c'') :
    (Parser.andThen f p q).Takes (taken ++ more) rest c (f a b) c'' := by
  intro s i short ahead events
  rw [List.append_assoc] at ahead
  have goesOn := second short ahead.append events
  rw [Layout.length_append, ← Nat.add_assoc]
  exact (Action.handle_of_done (first short ahead events)).trans (Action.handle_of_done goesOn)

theorem choice_cons (ps : List (Parser ε χ α)) (takes : p.Takes taken rest c a c') :
    (Parser.choice (p :: ps)).Takes taken rest c a c' := by
  intro s i short ahead events
  exact Action.handle_of_done (takes short ahead events)

-- A repetition goes on behind a stretch that is not empty. The stall rule has no part in it.
theorem collect (takes : p.Takes taken rest c a c') (some : taken ≠ []) {s : Source ε} {i left need : Nat}
    (short : s.stop ≤ Count.unbounded) (ahead : s.Ahead i (taken ++ rest)) {endless : Bool} {got : List α}
    {events : Array Event} :
    p.collect endless s (left + 1) need got i ⟨c, events⟩ =
      p.collect endless s left (need - 1) (a :: got) (i + s.layout.length taken) ⟨c', events⟩ := by
  have moved : (⟨a, i, i + s.layout.length taken⟩ : Match α).isZeroWidth = false := by
    have pos := s.layout.length_pos some
    simp only [Match.isZeroWidth, beq_eq_false_iff_ne]
    omega
  rw [collect_succ, Action.handle_of_done (takes short ahead events)]
  simp only [moved, Bool.false_and, Bool.false_eq_true, if_false]

end Takes

namespace Refuses

theorem map (f : α → β) (refuses : p.Refuses rest c) : (p.map f).Refuses rest c := by
  intro s i short ahead events
  obtain ⟨e, failed⟩ := refuses short ahead events
  exact ⟨e, Action.handle_of_failed failed⟩

theorem andThen (f : α → β → γ) (q : Parser ε χ β) (refuses : p.Refuses rest c) :
    (Parser.andThen f p q).Refuses rest c := by
  intro s i short ahead events
  obtain ⟨e, failed⟩ := refuses short ahead events
  exact ⟨e, Action.handle_of_failed failed⟩

theorem andThen_of_takes (f : α → β → γ) (takes : p.Takes taken rest c a c) (refuses : q.Refuses rest c) :
    (Parser.andThen f p q).Refuses (taken ++ rest) c := by
  intro s i short ahead events
  obtain ⟨e, failed⟩ := refuses short ahead.append events
  refine ⟨e, ?_⟩
  exact (Action.handle_of_done (takes short ahead events)).trans (Action.handle_of_failed failed)

theorem choice_cons {p' : Parser ε χ α} {ps : List (Parser ε χ α)} (refuses : p.Refuses (taken ++ rest) c)
    (takes : (Parser.choice (p' :: ps)).Takes taken rest c a c') :
    (Parser.choice (p :: p' :: ps)).Takes taken rest c a c' := by
  intro s i short ahead events
  obtain ⟨e, failed⟩ := refuses short ahead events
  exact (Action.handle_of_failed failed).trans (takes short ahead events)

end Refuses

namespace TakesEach

theorem length_le (each : p.TakesEach rest taken c as c') : as.length ≤ taken.length := by
  induction each with
  | nil => exact Nat.le_refl 0
  | cons some _ _ ih =>
    have pos := List.length_pos_iff.mpr some
    simp only [List.length_cons, List.length_append]
    omega

theorem collect (each : p.TakesEach rest taken c as c') {s : Source ε} {i left need : Nat}
    (short : s.stop ≤ Count.unbounded) (ahead : s.Ahead i (taken ++ rest)) (enough : as.length ≤ left)
    (required : need ≤ as.length) (got : List α) (events : Array Event) :
    p.collect true s left need got i ⟨c, events⟩ =
      (.done (got.reverse ++ as, i + s.layout.length taken), ⟨c', events⟩) := by
  induction each generalizing i left need got with
  | nil refuses =>
    have optional : ¬ 0 < need := Nat.not_lt_of_le required
    cases left with
    | zero => simp [collect_zero, Layout.length]
    | succ left =>
      obtain ⟨e, failed⟩ := refuses short ahead events
      rw [collect_succ, Action.handle_of_failed failed, if_neg optional]
      simp [Layout.length]
  | @cons taken more c c' c'' a as some takes each ih =>
    cases left with
    | zero => cases enough
    | succ left =>
      rw [List.append_assoc] at ahead
      simp only [List.length_cons] at enough required
      rw [takes.collect some short ahead, ih ahead.append (by omega) (by omega), Layout.length_append]
      simp [Nat.add_assoc]

theorem repeated {least : Nat} (each : p.TakesEach rest taken c as c') (required : least ≤ as.length) :
    (p.repeated least Count.unbounded).Takes taken rest c as c' := by
  intro s i short ahead events
  have some := Nat.le_trans each.length_le (s.layout.length_le taken)
  have inside := ahead.stop_eq
  rw [Layout.length_append] at inside
  have enough : as.length ≤ Count.unbounded := by omega
  have loop := each.collect short ahead enough required [] events
  exact repeated_of_collect (Nat.le_trans required enough) loop

theorem many (each : p.TakesEach rest taken c as c') : p.many.Takes taken rest c as c' :=
  each.repeated (Nat.zero_le _)

theorem many1 (each : p.TakesEach rest taken c as c') (some : as ≠ []) : p.many1.Takes taken rest c as c' :=
  each.repeated (List.length_pos_iff.mpr some)

end TakesEach

section Runs
variable [DecidableEq ε]

theorem takesEach_the (n : Nat) (other : rest.head? ≠ some e) :
    (primitive (.the e) : Parser ε χ ε).TakesEach rest (List.replicate n e) c (List.replicate n e) c := by
  induction n with
  | zero => exact .nil (refuses_the other)
  | succ n ih => exact .cons (List.cons_ne_nil e []) takes_the ih

theorem takesEach_satisfy {test : ε → Bool} (holds : ∀ e ∈ es, test e = true) (fails : ∀ e ∈ rest.head?, test e = false) :
    (primitive (.satisfy test) : Parser ε χ ε).TakesEach rest es c es c := by
  induction es with
  | nil => exact .nil (refuses_satisfy fails)
  | cons e es ih =>
    have each := ih fun e member => holds e (List.mem_cons_of_mem _ member)
    exact .cons (List.cons_ne_nil e []) (takes_satisfy (holds e List.mem_cons_self)) each

end Runs

theorem separatedBy1_of_each {separator : Parser ε χ β} (takes : p.Takes taken (more ++ rest) c a c')
    (each : (ignoreThen separator p).TakesEach rest more c' as c'') :
    (separatedBy1 p separator).Takes (taken ++ more) rest c (a :: as) c'' :=
  (Takes.andThen Prod.mk takes each.many).map _

namespace TakesBetween
variable {separator : Parser ε χ β}

theorem exists_each (goesOn : p.TakesBetween separator rest taken c as c') :
    ∃ a as' first more c₁, as = a :: as' ∧ taken = first ++ more ∧ p.Takes first (more ++ rest) c a c₁ ∧
      (ignoreThen separator p).TakesEach rest more c₁ as' c' := by
  induction goesOn with
  | @one taken c c' a takes refuses =>
    exact ⟨a, [], taken, [], c', rfl, (List.append_nil taken).symm, takes, .nil (refuses.andThen _ p)⟩
  | @cons taken between more c c₁ c₂ c₃ a b as takes some separates goesOn ih =>
    obtain ⟨a', as', first, more', c₄, rfl, rfl, takes', each⟩ := ih
    refine ⟨a, a' :: as', taken, between ++ (first ++ more'), c₁, rfl, rfl, ?_, ?_⟩
    · simpa only [List.append_assoc] using takes
    · have stretch : (ignoreThen separator p).Takes (between ++ first) (more' ++ rest) c₁ a' c₄ := by
        rw [List.append_assoc] at separates
        exact separates.andThen _ takes'
      rw [← List.append_assoc]
      exact .cons (by simp [some]) stretch each

theorem separatedBy1 (goesOn : p.TakesBetween separator rest taken c as c') :
    (Parser.separatedBy1 p separator).Takes taken rest c as c' := by
  obtain ⟨a, as', first, more, c₁, rfl, rfl, takes, each⟩ := goesOn.exists_each
  exact separatedBy1_of_each takes each

end TakesBetween

theorem Takes.parseWith {s : Source ε} {m : Memory χ} (takes : p.Takes s.elements [] m.context a c')
    (short : s.stop ≤ Count.unbounded) :
    ∃ events, p.parseWith s m = (.done a, ⟨c', events⟩) := by
  have ahead : s.Ahead s.start (s.elements ++ []) := by
    rw [List.append_nil]
    exact .start s
  have ran := takes short ahead ((m.record (.opened (s.offset s.stop))).record .entered).events
  have whole : p.runWith s ((m.record (.opened (s.offset s.stop))).record .entered) = (.done a, _) :=
    Action.handle_of_done ran
  exact ⟨_, Action.handle_of_done whole⟩

end Parser
end Descent
