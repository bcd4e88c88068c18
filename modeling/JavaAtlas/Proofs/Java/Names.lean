import JavaAtlas.Java.Source
import JavaAtlas.Proofs.Pattern.Leads

/-!
# Names found in source files

The package that a file names has only word characters and dots in it, and the name of its type
only word characters, whatever the file holds.
-/

namespace JavaAtlas

namespace Java

open Pattern

def IsDotted (s : String) : Prop := ∀ c ∈ s.toList, isDottedChar c = true

def IsWord (s : String) : Prop := ∀ c ∈ s.toList, isWordChar c = true

lemma IsDotted.not_mem_slash {s : String} (h : IsDotted s) : '/' ∉ s.toList := by
  intro hmem
  have hslash := h _ hmem
  revert hslash
  decide

lemma IsWord.not_mem_dot {s : String} (h : IsWord s) : '.' ∉ s.toList := by
  intro hmem
  have hdot := h _ hmem
  revert hdot
  decide

lemma packageLine_obeys :
    packageLine.Obeys fun _ taken => ∀ c ∈ taken, isDottedChar c = true := by
  simp only [packageLine, inOrder, blanks1, greedy1, blanks, char, Obeys, obeys_text, true_and,
    and_true]
  intro taken h
  exact (covers_greedy1 h).2

lemma typeHeader_obeys :
    typeHeader.Obeys fun label taken => label = .name → ∀ c ∈ taken, isWordChar c = true := by
  simp only [typeHeader, inOrder, maybe, annotationShape, keywords, blanks1, blanks, beforeBrace,
    lazy1, greedy1, word, char, Obeys, obeys_oneOf, obeys_text, true_and, and_true, reduceCtorEq,
    false_imp_iff, implies_true]
  intro taken h _
  exact (covers_greedy1 h).2

lemma isDotted_packageOf (content : List Char) : IsDotted (packageOf content) := by
  rw [packageOf, IsDotted]
  match hfind : packageLine.find? content with
  | none => simp
  | some m =>
    simp only [String.toList_ofList]
    rcases text_of_find? packageLine_obeys hfind .name with hnil | hdotted
    · simp [hnil]
    · exact hdotted

/-- What is said of a file apart from its declaration: the package and the type are named by words,
and the path is recorded. -/
lemma describe_eq_some {path : String} {content : List Char} {u : SourceUnit}
    (h : describe path content = some u) :
    IsDotted u.package ∧ IsWord u.name ∧ u.decl.sourcePath = recordedPath path := by
  simp only [describe, Option.bind_eq_bind, Option.bind_eq_some_iff, Option.pure_def,
    Option.some.injEq] at h
  obtain ⟨header, hheader, kind, -, rfl⟩ := h
  refine ⟨isDotted_packageOf content, ?_, rfl⟩
  rw [IsWord]
  simp only [String.toList_ofList]
  rcases text_of_find? typeHeader_obeys hheader .name with hnil | hword
  · simp [hnil]
  · exact hword rfl

lemma parseSource_eq_some {masked : Bool} {path : String} {content : List Char} {u : SourceUnit}
    (h : parseSource masked path content = some u) :
    IsDotted u.package ∧ IsWord u.name ∧ u.decl.sourcePath = recordedPath path :=
  describe_eq_some h

end Java

end JavaAtlas
