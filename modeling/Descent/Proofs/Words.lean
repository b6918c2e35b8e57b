import Descent.Proofs.Reading.Combinators

namespace Descent.Parser
variable {ε χ : Type} {test : ε → Bool} {separator : ε} {words : List (List ε)} {word rest tail next : List ε} {c : χ}

-- The elements of words can be told from what separates the words and from what comes after all of them.
structure Legible (test : ε → Bool) (separator : ε) (words : List (List ε)) (tail : List ε) : Prop where
  separates : test separator = false
  nonempty : ∀ word ∈ words, word ≠ []
  passes : ∀ word ∈ words, ∀ e ∈ word, test e = true
  ends : ∀ e ∈ tail.head?, e ≠ separator ∧ test e = false

theorem Goes.stops (goes : Goes separator rest next) (separates : test separator = false)
    (stops : ∀ e ∈ rest.head?, test e = false) : ∀ e ∈ next.head?, test e = false := by
  intro e first
  rcases goes with rfl | between
  · exact stops e first
  · cases between.symm.trans first
    exact separates

variable [DecidableEq ε]

theorem takes_word (some : word ≠ []) (passes : ∀ e ∈ word, test e = true) (stops : ∀ e ∈ rest.head?, test e = false) :
    (many1 (primitive (.satisfy test)) : Parser ε χ (List ε)).Takes word rest c word c :=
  (takesEach_satisfy passes stops).many1 some

theorem refuses_word (stops : ∀ e ∈ rest.head?, test e = false) :
    (many1 (primitive (.satisfy test)) : Parser ε χ (List ε)).Refuses rest c :=
  (refuses_satisfy stops).many1

namespace Legible

theorem takes_of_refuses (legible : Legible test separator words tail) (some : words ≠ [])
    (stops : ∀ e ∈ rest.head?, test e = false)
    (refuses : (ignoreThen (primitive (.the separator)) (many1 (primitive (.satisfy test))) :
      Parser ε χ (List ε)).Refuses rest c) :
    (separatedBy (many1 (primitive (.satisfy test))) (primitive (.the separator)) : Parser ε χ (List (List ε))).Takes
      ([separator].intercalate words) rest c words c := by
  have each : List.Forall₂ (fun word piece => ∀ next, Goes separator rest next →
      (many1 (primitive (.satisfy test)) : Parser ε χ (List ε)).Takes piece next c word c) words words := by
    rw [List.forall₂_same]
    intro word member next goes
    exact takes_word (legible.nonempty word member) (legible.passes word member) (goes.stops legible.separates stops)
  exact (separatedBy1_intercalate some each refuses).orElse _

theorem takes (legible : Legible test separator words tail) :
    (separatedBy (many1 (primitive (.satisfy test))) (primitive (.the separator)) : Parser ε χ (List (List ε))).Takes
      ([separator].intercalate words) tail c words c := by
  have stops : ∀ e ∈ tail.head?, test e = false := fun e first => (legible.ends e first).2
  cases words with
  | nil => exact (refuses_word stops).separatedBy _
  | cons word words =>
    have other : tail.head? ≠ some separator := fun first => (legible.ends separator first).1 rfl
    exact legible.takes_of_refuses (List.cons_ne_nil word words) stops ((refuses_the other).andThen _ _)

theorem takes_dangling (legible : Legible test separator words tail) (some : words ≠ []) :
    (separatedBy (many1 (primitive (.satisfy test))) (primitive (.the separator)) : Parser ε χ (List (List ε))).Takes
      ([separator].intercalate words) (separator :: tail) c words c := by
  have stops : ∀ e ∈ (separator :: tail).head?, test e = false := by
    intro e first
    cases first
    exact legible.separates
  have found : (primitive (.the separator) : Parser ε χ ε).Takes [separator] tail c separator c := takes_the
  have missing : (many1 (primitive (.satisfy test)) : Parser ε χ (List ε)).Refuses tail c :=
    refuses_word fun e first => (legible.ends e first).2
  exact legible.takes_of_refuses some stops (Refuses.andThen_of_takes _ found missing)

end Legible

-- In a text or a slice alike. A source is no longer than positions can say.
theorem words_read_back (legible : Legible test separator words tail) {s : Source ε} (short : s.stop ≤ Count.unbounded)
    (m : Memory χ) :
    let list := separatedBy (many1 (primitive (.satisfy test))) (primitive (.the separator))
    let written := [separator].intercalate words
    let stop := s.start + s.layout.length written
    (s.elements = written ++ tail →
      list s s.start m = (.done ⟨words, s.start, stop⟩, m) ∧ (s.rest stop).elements = tail) ∧
    (words ≠ [] → s.elements = written ++ separator :: tail →
      list s s.start m = (.done ⟨words, s.start, stop⟩, m) ∧ (s.rest stop).elements = separator :: tail) := by
  intro list written stop
  have start : s.Ahead s.start s.elements := .start s
  refine ⟨?_, ?_⟩
  · intro elements
    rw [elements] at start
    exact ⟨legible.takes short start m.events, start.append.elements_rest⟩
  · intro some elements
    rw [elements] at start
    exact ⟨legible.takes_dangling some short start m.events, start.append.elements_rest⟩

theorem words_read_back_mixed :
    let s := Source.text "ab–é–ß!"
    let numbers := Source.slice [3, 1, 0, 2, 0, 9]
    Legible (fun c => c ∉ ['–', '!']) '–' [['a', 'b'], ['é'], ['ß']] ['!'] ∧ s.stop ≤ Count.unbounded ∧
      separatedBy (many1 (primitive (.satisfy fun c => c ∉ ['–', '!']))) (primitive (.the '–')) s s.start (.fresh ()) =
        (.done ⟨[['a', 'b'], ['é'], ['ß']], 0, 12⟩, .fresh ()) ∧
      Legible (fun n => n ∈ [1, 2, 3]) 0 [[3, 1], [2]] [9] ∧ numbers.stop ≤ Count.unbounded ∧
      separatedBy (many1 (primitive (.satisfy fun n => n ∈ [1, 2, 3]))) (primitive (.the 0)) numbers numbers.start
        (.fresh ()) = (.done ⟨[[3, 1], [2]], 0, 4⟩, .fresh ()) ∧
      (numbers.rest 4).elements = [0, 9] := by
  intro s numbers
  have legible : Legible (fun c => c ∉ ['–', '!']) '–' [['a', 'b'], ['é'], ['ß']] ['!'] :=
    ⟨by decide, by simp, by simp, by simp⟩
  have legible' : Legible (fun n => n ∈ [1, 2, 3]) 0 [[3, 1], [2]] [9] := ⟨by decide, by simp, by simp, by simp⟩
  have short : s.stop ≤ Count.unbounded := show 13 ≤ Count.unbounded by decide
  have short' : numbers.stop ≤ Count.unbounded := show 6 ≤ Count.unbounded by decide
  obtain ⟨closed, _⟩ := words_read_back legible short (.fresh ())
  obtain ⟨_, dangling⟩ := words_read_back legible' short' (.fresh ())
  obtain ⟨read, rest⟩ := dangling (by simp) rfl
  exact ⟨legible, short, (closed rfl).1, legible', short', read, rest⟩

end Descent.Parser
