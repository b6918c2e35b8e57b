import Descent.Failure.Report

namespace Descent
namespace Source
variable {t : String} {i : Nat}

theorem length_text (t : String) (cs : List Char) :
    (text t).layout.length cs = (String.ofList cs).utf8ByteSize := by
  induction cs with
  | nil => rfl
  | cons c cs ih =>
    rw [Layout.length, ih, String.ofList_cons, String.utf8ByteSize_append, String.utf8ByteSize_singleton]
    rfl

theorem isBoundary_text_iff : (text t).IsBoundary i ↔ String.Pos.Raw.IsValid t ⟨i⟩ := by
  rw [isBoundary_iff, String.Pos.Raw.isValid_iff_exists_append]
  constructor
  · rintro ⟨before, after, split, rfl⟩
    refine ⟨.ofList before, .ofList after, ?_, String.Pos.Raw.ext (length_text t before)⟩
    rw [← String.ofList_append, ← split]
    exact String.ofList_toList.symm
  · rintro ⟨before, after, rfl, place⟩
    refine ⟨before.toList, after.toList, String.toList_append, ?_⟩
    rw [length_text, String.ofList_toList]
    exact (congrArg String.Pos.Raw.byteIdx place).symm

theorem ofElements_text (t : String) (cs : List Char) :
    ofElements (text t).layout cs = text (String.ofList cs) :=
  ext_elements rfl String.toList_ofList.symm

theorem rest_text_append (before after : String) : (text (before ++ after)).rest before.utf8ByteSize = text after := by
  have place := length_text (before ++ after) before.toList
  have split : (text (before ++ after)).elements = before.toList ++ after.toList := String.toList_append
  rw [String.ofList_toList] at place
  rw [rest, ofElements_text, ← place, split, Layout.suffix_length_append, String.ofList_toList]

theorem rest_text_of_not_valid (outside : ¬ String.Pos.Raw.IsValid t ⟨i⟩) : (text t).rest i = text "" := by
  have uncounted : (text t).layout.count? (text t).elements i = none :=
    Option.not_isSome_iff_eq_none.mp fun boundary => outside (isBoundary_text_iff.mp boundary)
  rw [rest, Layout.suffix_eq_nil_of_count? _ uncounted]
  exact ofElements_text t []

theorem rest_text (t : String) (i : Nat) :
    (text t).rest i = text (String.ofList ((text t).rest i).elements) :=
  ofElements_text t _

theorem rest_text_cases (t : String) (i : Nat) :
    (∃ before, t = before ++ String.ofList ((text t).rest i).elements ∧ i = before.utf8ByteSize) ∨
      ¬ String.Pos.Raw.IsValid t ⟨i⟩ ∧ String.ofList ((text t).rest i).elements = "" := by
  by_cases valid : String.Pos.Raw.IsValid t ⟨i⟩
  · obtain ⟨before, after, rfl, place⟩ := String.Pos.Raw.isValid_iff_exists_append.mp valid
    cases place
    refine .inl ⟨before, ?_, rfl⟩
    rw [rest_text_append]
    exact congrArg (before ++ ·) String.ofList_toList.symm
  · rw [rest_text_of_not_valid valid]
    exact .inr ⟨valid, rfl⟩

end Source

open Source

namespace Failure

theorem snippet_exact (f : Failure) (t : String) (limit : Nat) :
    let s := text t
    let rest := String.ofList (f.remaining s).elements
    let shown := f.snippet s limit
    f.remaining s = text rest ∧
      ((∃ before, t = before ++ rest ∧ f.position = before.utf8ByteSize) ∨
        ¬ String.Pos.Raw.IsValid t ⟨f.position⟩ ∧ rest = "") ∧
      (∃ left, rest = shown ++ left) ∧
      shown.length = min limit rest.length ∧
      f.snippet? s limit = some shown ∧
      ((text rest).cut? limit = none ↔ rest.length ≤ limit) ∧
      ∀ i, (text rest).cut? limit = some i →
        String.Pos.Raw.IsValid rest ⟨i⟩ ∧ (text rest).before? i = some (text shown) := by
  intro s rest shown
  have remains : f.remaining s = text rest := rest_text t f.position
  have exact : shown = String.ofList (rest.toList.take limit) := by
    refine (f.snippet_eq s limit).trans ?_
    rw [remains]
    rfl
  refine ⟨remains, rest_text_cases t f.position, ⟨String.ofList (rest.toList.drop limit), ?_⟩, ?_,
    f.snippet?_eq_some s limit, ?_, ?_⟩
  · rw [exact, ← String.ofList_append, List.take_append_drop, String.ofList_toList]
  · rw [exact, String.length_ofList, List.length_take, String.length_toList]
  · rw [cut?_eq_none_iff, ← String.length_toList]
    rfl
  · intro i cut
    -- A part is left by the cut, so it was made at a boundary.
    have part := before?_of_cut? cut
    have boundary : (text rest).IsBoundary i := isSome_before?_iff.mp (Option.isSome_of_eq_some part)
    refine ⟨isBoundary_text_iff.mp boundary, ?_⟩
    rw [part, exact, ofElements_text]
    rfl

-- Characters of two and three bytes are shown, and one of four bytes is the first too many. Nothing is shown at a
-- position inside a character or past the end, and all that remains under the greatest limit that a machine counts to.
theorem snippet_exact_mixed :
    let s := text "aé€😀b"
    (noMatch 1).snippet s 2 = "é€" ∧ (text "é€😀b").cut? 2 = some 5 ∧ String.Pos.Raw.IsValid "é€😀b" ⟨5⟩ ∧
      (text "é€😀b").before? 5 = some (text "é€") ∧
      (noMatch 4).snippet? s 3 = some "" ∧ (noMatch 12).snippet? s 3 = some "" ∧
      (noMatch 6).snippet? s 18446744073709551615 = some "😀b" := by
  intro s
  have cut : (text "é€😀b").cut? 2 = some 5 := rfl
  have shown : (noMatch 1).snippet (text "aé€😀b") 2 = "é€" := rfl
  have succeeds (i limit : Nat) := (snippet_exact (noMatch i) "aé€😀b" limit).2.2.2.2.1
  obtain ⟨_, _, _, _, _, _, whole⟩ := snippet_exact (noMatch 1) "aé€😀b" 2
  obtain ⟨valid, part⟩ := whole 5 cut
  exact ⟨shown, cut, valid, part, succeeds 4 3, succeeds 12 3, succeeds 6 18446744073709551615⟩

end Failure
end Descent
