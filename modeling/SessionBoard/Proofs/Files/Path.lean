import Mathlib.Data.List.DropRight
import SessionBoard.Files.Path

namespace SessionBoard

namespace Path

variable {path : Path} {last extension : String}

theorem filter_rdropWhile (parts : List String) :
    (parts.rdropWhile (!isName ·)).filter isName = parts.filter isName := by
  induction parts using List.reverseRecOn with
  | nil => rfl
  | append_singleton parts part ih =>
    rw [List.rdropWhile_concat]
    cases named : isName part <;> simp [named, ih]

theorem trimmed_eq_rdropWhile (path : Path) : path.trimmed = path.parts.rdropWhile (!isName ·) := rfl

/-- The parts up to the last name lead through the same names. -/
theorem names_trimmed (path : Path) : path.trimmed.filter isName = path.names :=
  filter_rdropWhile path.parts

theorem isName_of_trimmed (ends : path.trimmed.getLast? = some last) : isName last := by
  rw [trimmed_eq_rdropWhile] at ends
  obtain ⟨filled, rfl⟩ := List.mem_getLast?_eq_getLast ends
  simpa using List.rdropWhile_last_not (!isName ·) path.parts filled

theorem names_parent (path : Path) : path.parent.names = path.trimmed.dropLast.filter isName :=
  filter_rdropWhile path.trimmed.dropLast

theorem getLast?_trimmed (path : Path) : path.trimmed.getLast? = path.names.getLast? := by
  rw [← names_trimmed]
  cases ends : path.trimmed.getLast? with
  | none => simp [List.getLast?_eq_none_iff.mp ends]
  | some last =>
    obtain ⟨front, whole⟩ := List.getLast?_eq_some_iff.mp ends
    simp [whole, isName_of_trimmed ends]

/-- A path leads through the names of its folder and its own one, if it has one. -/
theorem names_eq_parent (path : Path) : path.names = path.parent.names ++ path.names.getLast?.toList := by
  rw [names_parent, ← getLast?_trimmed, ← names_trimmed]
  cases ends : path.trimmed.getLast? with
  | none => simp [List.getLast?_eq_none_iff.mp ends]
  | some last =>
    obtain ⟨front, whole⟩ := List.getLast?_eq_some_iff.mp ends
    simp [whole, isName_of_trimmed ends]

theorem names_parent_eq {front : List String} (whole : path.names = front ++ [last]) :
    path.parent.names = front := by
  have parent := names_eq_parent path
  rw [whole, List.getLast?_concat, Option.toList_some] at parent
  exact (List.append_cancel_right parent).symm

theorem asksFolder_of_nameless (nameless : path.names = []) : path.asksFolder := by
  unfold asksFolder
  cases ends : path.parts.getLast? with
  | none => rfl
  | some part =>
    have listed := List.mem_of_getLast? ends
    simpa using List.filter_eq_nil_iff.mp nameless part listed

theorem withExtension_of_nameless (nameless : path.names = []) : path.withExtension extension = path := by
  rw [withExtension, getLast?_trimmed, nameless]
  rfl

theorem withExtension_of_points (points : path.names.getLast? = some "..") :
    path.withExtension extension = path := by
  rw [withExtension, getLast?_trimmed, points]
  exact if_pos rfl

/-- The path with another extension lies in the same folder. -/
theorem names_withExtension (ends : path.names.getLast? = some last) (below : last ≠ "..")
    (named : isName (stem last ++ "." ++ extension)) :
    (path.withExtension extension).names = path.parent.names ++ [stem last ++ "." ++ extension] := by
  rw [names_parent, withExtension, getLast?_trimmed, ends]
  simp only [if_neg below, names, List.filter_append, List.filter_cons_of_pos named, List.filter_nil]

/-- An extension without a point is all that is cut from a name. -/
theorem stem_append {name : String} (filled : name ≠ "") (single : '.' ∉ extension.toList) :
    stem (name ++ "." ++ extension) = name := by
  have cut : (name ++ "." ++ extension).toList.reverse.dropWhile (· ≠ '.') =
      '.' :: name.toList.reverse := by
    rw [String.toList_append, String.toList_append, List.reverse_append, List.reverse_append,
      List.dropWhile_append_of_pos (by simpa using fun letter listed => ne_of_mem_of_not_mem listed single)]
    rfl
  rw [stem, cut]
  simp [filled]

end Path

end SessionBoard
