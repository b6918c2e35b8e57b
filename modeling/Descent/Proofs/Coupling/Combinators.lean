import Descent.Parser.Repetition
import Descent.Proofs.Coupling
import Mathlib.Data.List.Forall2

namespace Descent
variable {ε χ χ' : Type} {s t : Source ε}

namespace Places
variable {P : Places s t} {i j : Nat} {α : Type}

theorem element_verdicts (get : ε → Option α) (here : P.place i j) :
    P.Verdicts (P.Spans i j (i + 1)) (Primitive.element get s i) (Primitive.element get t j) := by
  have step := P.element here
  unfold Primitive.element
  generalize left : s.elementAt? i = found at step ⊢
  generalize t.elementAt? j = found' at step ⊢
  cases step with
  | none => exact .error (P.endOfInput here left)
  | @some one two alike =>
    obtain ⟨e, next⟩ := one
    obtain ⟨_, next'⟩ := two
    obtain ⟨rfl, there⟩ := alike
    dsimp only
    cases get e with
    | some output => exact .ok ⟨rfl, rfl, rfl, there, (Source.boundary_of_elementAt? left).2.2⟩
    | none => exact .error (P.noMatch here (Source.isEnd_of_elementAt? left))

theorem follow_verdicts [DecidableEq ε] (es : List ε) (here : P.place i j) :
    P.Verdicts (fun i' j' => P.place i' j' ∧ i + (!es.isEmpty).toNat ≤ i') (Primitive.follow s es i)
      (Primitive.follow t es j) := by
  induction es generalizing i j with
  | nil => exact .ok ⟨here, Nat.le_refl i⟩
  | cons expected es ih =>
    have step := P.element here
    unfold Primitive.follow
    generalize left : s.elementAt? i = found at step ⊢
    generalize t.elementAt? j = found' at step ⊢
    cases step with
    | none => exact .error (P.endOfInput here left)
    | @some one two alike =>
      obtain ⟨e, next⟩ := one
      obtain ⟨_, next'⟩ := two
      obtain ⟨rfl, there⟩ := alike
      dsimp only
      split
      · have forward := (Source.boundary_of_elementAt? left).2.2
        apply (ih there).mono
        intro _ _ reached
        exact ⟨reached.1, Nat.le_trans forward (Nat.le_trans (Nat.le_add_right _ _) reached.2)⟩
      · exact .error (P.noMatch here (Source.isEnd_of_elementAt? left))

theorem sequence_verdicts [DecidableEq ε] (es : List ε) (here : P.place i j) :
    P.Verdicts (P.Spans i j (i + (!es.isEmpty).toNat)) ((Primitive.sequence es).parse s i)
      ((Primitive.sequence es).parse t j) := by
  have verdicts := follow_verdicts es here
  change P.Verdicts _ ((Primitive.follow s es i).map _) ((Primitive.follow t es j).map _)
  generalize Primitive.follow s es i = x at verdicts ⊢
  generalize Primitive.follow t es j = y at verdicts ⊢
  cases verdicts with
  | ok reached => exact .ok ⟨rfl, rfl, rfl, reached.1, reached.2⟩
  | error failure => exact .error failure

theorem finish_verdicts [DecidableEq ε] (here : P.place i j) :
    P.Verdicts (P.Spans i j i) (Primitive.finish.parse s i) (Primitive.finish.parse t j) := by
  change P.Verdicts (P.Spans i j i) (if s.isEnd i then .ok (.zeroWidth () i) else .error (.noMatch i))
    (if t.isEnd j then .ok (.zeroWidth () j) else .error (.noMatch j))
  rw [← P.isEnd_eq here]
  cases ended : s.isEnd i with
  | true => exact .ok (.zeroWidth here ())
  | false => exact .error (P.noMatch here ended)

end Places

namespace Coupling

def At (C : Coupling s t χ χ') (i j low : Nat) {α : Type} (p : Parser ε χ α) (q : Parser ε χ' α) : Prop :=
  C.Acts (C.Spans i j low) (p s i) (q t j)

def Relates (C : Coupling s t χ χ') {α : Type} (p : Parser ε χ α) (q : Parser ε χ' α) : Prop :=
  ∀ ⦃i j : Nat⦄, C.place i j → C.At i j i p q

structure Traces (C : Coupling s t χ χ') : Prop where
  invoking : ∀ {tag : String} {i j : Nat}, C.place i j → C.Acts (fun _ _ => True)
    (.record (.invoking tag (s.offset i))) (.record (.invoking tag (t.offset j)))
  succeeded : ∀ {tag text : String} {i j i' j' : Nat}, C.place i j → C.place i' j' → C.Acts (fun _ _ => True)
    (.record (.succeeded tag (s.offset i' - s.offset i) text))
    (.record (.succeeded tag (t.offset j' - t.offset j) text))
  failed : ∀ {tag : String} {e f : Failure}, C.failure e f → C.Acts (fun _ _ => True)
    (.record (.failed tag (s.offset e.position) e.reason.message))
    (.record (.failed tag (t.offset f.position) f.reason.message))

theorem traces_of_eq {C : Coupling s s χ χ'} (places : ∀ {i j}, C.place i j → i = j)
    (failures : ∀ {e f}, C.failure e f → e = f)
    (records : ∀ e, C.Acts (fun _ _ => True) (.record e) (.record e)) : C.Traces where
  invoking here := by
    rw [places here]
    exact records _
  succeeded here there := by
    rw [places here, places there]
    exact records _
  failed failure := by
    rw [failures failure]
    exact records _

variable {C : Coupling s t χ χ'} {i j low mid low' : Nat} {α β γ : Type}

namespace Acts

theorem outputs_nil (here : C.place i j) (low_le : low ≤ i) :
    C.Acts (C.Reaches low) (Parser.outputs s ([] : List (Parser ε χ α)) i)
      (Parser.outputs t ([] : List (Parser ε χ' α)) j) :=
  C.acts_pure ⟨rfl, here, low_le⟩

theorem outputs_cons {p : Parser ε χ α} {q : Parser ε χ' α} {ps : List (Parser ε χ α)}
    {qs : List (Parser ε χ' α)} (first : C.At i j mid p q)
    (rest : ∀ {i' j'}, C.place i' j' → mid ≤ i' →
      C.Acts (C.Reaches low) (Parser.outputs s ps i') (Parser.outputs t qs j')) :
    C.Acts (C.Reaches low) (Parser.outputs s (p :: ps) i) (Parser.outputs t (q :: qs) j) := by
  unfold Parser.outputs
  apply Acts.bind first
  intro a b spans
  apply (rest spans.stop spans.low_le).bind
  intro more more' reaches
  refine C.acts_pure ⟨?_, reaches.place, reaches.low_le⟩
  rw [spans.output, reaches.outputs]

theorem outputs {ps : List (Parser ε χ α)} {qs : List (Parser ε χ' α)}
    (related : List.Forall₂ (fun p q => C.Relates p q) ps qs) (here : C.place i j) :
    C.Acts (C.Reaches i) (Parser.outputs s ps i) (Parser.outputs t qs j) := by
  induction related generalizing i j with
  | nil => exact outputs_nil here (Nat.le_refl i)
  | cons first _ ih =>
    apply outputs_cons (first here)
    intro i' j' there forward
    exact (ih there).mono fun _ _ reaches => reaches.weaken forward

theorem firstOf {ps : List (Parser ε χ α)} {qs : List (Parser ε χ' α)}
    (alike : List.Forall₂ (fun p q => C.At i j low p q) ps qs) {last last' : Failure}
    (failure : C.failure last last') :
    C.Acts (C.Spans i j low) (Parser.firstOf s i ps last) (Parser.firstOf t j qs last') := by
  induction alike generalizing last last' with
  | nil => exact C.acts_fail failure
  | cons first _ ih =>
    unfold Parser.firstOf
    apply C.acts_handle first
    · intro a b spans
      exact C.acts_pure spans
    · intro e f failure
      exact ih failure

theorem collect {p : Parser ε χ α} {q : Parser ε χ' α}
    (alike : ∀ {i' j'}, C.place i' j' → i ≤ i' → C.At i' j' i' p q) (endless : Bool) (left need : Nat)
    (got : List α) (here : C.place i j) :
    C.Acts (C.Reaches i) (p.collect endless s left need got i) (q.collect endless t left need got j) := by
  induction left generalizing need got i j with
  | zero =>
    rw [Parser.collect_zero, Parser.collect_zero]
    exact C.acts_pure ⟨rfl, here, Nat.le_refl i⟩
  | succ left ih =>
    rw [Parser.collect_succ, Parser.collect_succ]
    apply C.acts_handle (alike here (Nat.le_refl i))
    · intro a b spans
      -- The stall rule sees the same on both sides.
      rw [spans.isZeroWidth_eq here, spans.output]
      split
      · exact C.acts_pure ⟨rfl, spans.stop, spans.low_le⟩
      · apply (ih (fun there onward => alike there (Nat.le_trans spans.low_le onward)) _ _ spans.stop).mono
        intro _ _ reaches
        exact reaches.weaken spans.low_le
    · intro e f failure
      split
      · exact C.acts_fail failure
      · exact C.acts_pure ⟨rfl, here, Nat.le_refl i⟩

end Acts

namespace At
variable {p : Parser ε χ α} {q : Parser ε χ' α}

theorem weaken (lower : low' ≤ low) (alike : C.At i j low p q) : C.At i j low' p q :=
  Acts.mono alike fun _ _ spans => spans.weaken lower

theorem map (f : α → β) (alike : C.At i j low p q) : C.At i j low (p.map f) (q.map f) := by
  apply Acts.bind alike
  intro a b spans
  exact C.acts_pure ⟨congrArg f spans.output, spans.start_left, spans.start_right, spans.stop, spans.low_le⟩

theorem tryMap {f : α → Except Fault β}
    (rejects : ∀ {v fault}, f v = .error fault → C.failure (.lift fault i) (.lift fault j))
    (alike : C.At i j low p q) : C.At i j low (p.tryMap f) (q.tryMap f) := by
  apply Acts.bind alike
  intro a b spans
  rw [spans.output]
  cases verdict : f b.output with
  | ok output => exact C.acts_pure ⟨rfl, spans.start_left, spans.start_right, spans.stop, spans.low_le⟩
  | error fault =>
    have failure := rejects verdict
    rw [← spans.start_left, ← spans.start_right] at failure
    exact C.acts_fail failure

theorem mapContext {f : α → χ → β × χ} {g : α → χ' → β × χ'}
    (changes : ∀ v, C.Acts Eq (.changeContext (f v)) (.changeContext (g v))) (alike : C.At i j low p q) :
    C.At i j low (p.mapContext f) (q.mapContext g) := by
  apply Acts.bind alike
  intro a b spans
  rw [spans.output]
  apply (changes b.output).bind
  intro output output' same
  exact C.acts_pure ⟨same, spans.start_left, spans.start_right, spans.stop, spans.low_le⟩

theorem ranged (same : ∀ {i j}, C.place i j → i = j) (here : C.place i j) (alike : C.At i j low p q) :
    C.At i j low p.ranged q.ranged := by
  apply Acts.bind alike
  intro a b spans
  cases same here
  exact C.acts_pure ⟨spans.eq_of_stop_eq (same spans.stop), spans.start_left, spans.start_right, spans.stop, spans.low_le⟩

theorem traced (traces : C.Traces) (tag : String) (render : α → String) (here : C.place i j)
    (alike : C.At i j low p q) : C.At i j low (p.traced tag render) (q.traced tag render) := by
  apply (traces.invoking here).bind
  intro _ _ _
  apply C.acts_handle alike
  · intro a b spans
    rw [spans.output]
    apply (traces.succeeded here spans.stop).bind
    intro _ _ _
    exact C.acts_pure spans
  · intro e f failure
    apply (traces.failed failure).bind
    intro _ _ _
    exact C.acts_fail failure

theorem flatMap {f : α → Parser ε χ β} {g : α → Parser ε χ' β} (first : C.At i j mid p q)
    (next : ∀ v {i' j'}, C.place i' j' → mid ≤ i' → C.At i' j' low (f v) (g v)) :
    C.At i j low (p.flatMap f) (q.flatMap g) := by
  apply Acts.bind first
  intro a b spans
  rw [Match.bind, Match.bind, spans.output]
  apply Acts.bind (next b.output spans.stop spans.low_le)
  intro a' b' spans'
  exact C.acts_pure ⟨spans'.output, spans.start_left, spans.start_right, spans'.stop, spans'.low_le⟩

theorem andThen (f : α → β → γ) {p' : Parser ε χ β} {q' : Parser ε χ' β} (first : C.At i j mid p q)
    (second : ∀ {i' j'}, C.place i' j' → mid ≤ i' → C.At i' j' low p' q') :
    C.At i j low (.andThen f p p') (.andThen f q q') := by
  apply Acts.bind first
  intro a b spans
  apply Acts.bind (second spans.stop spans.low_le)
  intro a' b' spans'
  refine C.acts_pure ⟨?_, spans.start_left, spans.start_right, spans'.stop, spans'.low_le⟩
  rw [spans.output, spans'.output]

theorem chain {ps : List (Parser ε χ α)} {qs : List (Parser ε χ' α)}
    (outputs : C.Acts (C.Reaches low) (Parser.outputs s ps i) (Parser.outputs t qs j)) :
    C.At i j low (.chain ps) (.chain qs) := by
  apply outputs.bind
  intro a b reaches
  exact C.acts_pure ⟨reaches.outputs, rfl, rfl, reaches.place, reaches.low_le⟩

theorem orElse {p' : Parser ε χ α} {q' : Parser ε χ' α} (first : C.At i j low p q) (second : C.At i j low p' q') :
    C.At i j low (p.orElse p') (q.orElse q') := by
  apply C.acts_handle first
  · intro a b spans
    exact C.acts_pure spans
  · intro _ _ _
    exact second

-- Only an empty choice has a failure of its own.
theorem choice {ps : List (Parser ε χ α)} {qs : List (Parser ε χ' α)}
    (alike : List.Forall₂ (fun p q => C.At i j low p q) ps qs)
    (refuses : ps = [] → C.failure (.noMatch i) (.noMatch j)) : C.At i j low (.choice ps) (.choice qs) := by
  cases alike with
  | nil => exact C.acts_fail (refuses rfl)
  | cons first rest =>
    apply C.acts_handle first
    · intro a b spans
      exact C.acts_pure spans
    · intro e f failure
      exact Acts.firstOf rest failure

theorem cascade {ps : List (Parser ε χ α)} {qs : List (Parser ε χ' α)} (first : C.At i j low p q)
    (rest : List.Forall₂ (fun p q => C.At i j low p q) ps qs) : C.At i j low (.cascade p ps) (.cascade q qs) := by
  rw [Parser.cascade_eq_choice, Parser.cascade_eq_choice]
  exact .choice (.cons first rest) nofun

theorem opt (here : C.place i j) (alike : C.At i j i p q) : C.At i j i p.opt q.opt := by
  apply C.acts_handle alike
  · intro a b spans
    exact C.acts_pure ⟨congrArg some spans.output, spans.start_left, spans.start_right, spans.stop, spans.low_le⟩
  · intro _ _ _
    exact C.acts_pure (.zeroWidth here none)

theorem peek (here : C.place i j) (alike : C.At i j low p q) : C.At i j i p.peek q.peek := by
  apply Acts.bind alike
  intro _ _ _
  exact C.acts_pure (.zeroWidth here ())

theorem notAhead (refuses : C.failure (.noMatch i) (.noMatch j)) (here : C.place i j)
    (alike : C.At i j low p q) : C.At i j i p.notAhead q.notAhead := by
  apply C.acts_handle alike
  · intro _ _ _
    exact C.acts_fail refuses
  · intro _ _ _
    exact C.acts_pure (.zeroWidth here ())

theorem repeated {least most : Nat} (bounds : most < least → C.failure (.outOfBounds i) (.outOfBounds j))
    (here : C.place i j) (alike : ∀ {i' j'}, C.place i' j' → i ≤ i' → C.At i' j' i' p q) :
    C.At i j i (p.repeated least most) (q.repeated least most) := by
  unfold At Parser.repeated
  split
  · rename_i crossed
    exact C.acts_fail (bounds crossed)
  · apply (Acts.collect alike _ _ _ _ here).bind
    intro a b reaches
    exact C.acts_pure ⟨reaches.outputs, rfl, rfl, reaches.place, reaches.low_le⟩

end At
end Coupling
end Descent
