import Mathlib.Data.List.Basic
import SessionBoard.Files.Tree

namespace SessionBoard

/-- What stands at a place, without what is in it. -/
inductive Standing
  | file (octets : List UInt8)
  | folder
  deriving DecidableEq, Repr

namespace FileTree

theorem lookup_put_self (name : String) (tree : FileTree) (entries : Entries) :
    (put name tree entries).lookup name = some tree := by
  induction entries with
  | nil => simp [put]
  | cons entry entries ih =>
    obtain ⟨first, old⟩ := entry
    rw [put]
    split
    · simp
    next other => simpa [List.lookup_cons, beq_false_of_ne (Ne.symm other)] using ih

theorem lookup_put_of_ne {name other : String} (different : other ≠ name) (tree : FileTree)
    (entries : Entries) : (put name tree entries).lookup other = entries.lookup other := by
  induction entries with
  | nil => simp [put, List.lookup_cons, beq_false_of_ne different]
  | cons entry entries ih =>
    obtain ⟨first, old⟩ := entry
    rw [put]
    split
    next same => simp [List.lookup_cons, show first = name from same, beq_false_of_ne different]
    · rw [List.lookup_cons, List.lookup_cons, ih]

theorem lookup_filter_ne (name other : String) (entries : Entries) :
    (entries.filter (·.1 ≠ name)).lookup other = if other = name then none else entries.lookup other := by
  induction entries with
  | nil => simp
  | cons entry entries ih =>
    by_cases gone : entry.1 = name
    · rw [List.filter_cons_of_neg (by simpa using gone), ih, List.lookup_cons, gone]
      split
      · rfl
      next different => rw [beq_false_of_ne different]
    · rw [List.filter_cons_of_pos (by simpa using gone), List.lookup_cons, List.lookup_cons, ih]
      split
      next found =>
        rw [if_neg]
        rintro rfl
        exact gone (beq_iff_eq.mp found).symm
      · rfl

def standing : FileTree → Standing
  | file octets => .file octets
  | folder _ => .folder

/-- What stands at a place of a tree. A change is known by what it does to the places, without the entries that
hold them. -/
def view (tree : FileTree) (place : List String) : Option Standing := (tree.at? place).map standing

theorem view_nil (tree : FileTree) : tree.view [] = some tree.standing := rfl

theorem view_file_cons (octets : List UInt8) (name : String) (names : List String) :
    (file octets).view (name :: names) = none := rfl

theorem view_folder_cons (entries : Entries) (name : String) (names : List String) :
    (folder entries).view (name :: names) = (entries.lookup name).bind (view · names) := by
  unfold view
  rw [at?]
  cases entries.lookup name <;> rfl

theorem at?_eq_none_iff {tree : FileTree} {place : List String} :
    tree.at? place = none ↔ tree.view place = none := by simp [view]

theorem at?_eq_file_iff {tree : FileTree} {place : List String} {octets : List UInt8} :
    tree.at? place = some (.file octets) ↔ tree.view place = some (.file octets) := by
  unfold view
  rcases tree.at? place with _ | _ | _ <;> simp [standing]

theorem file?_eq_some_iff {tree : FileTree} {place : List String} {octets : List UInt8} :
    tree.file? place = some octets ↔ tree.view place = some (.file octets) := by
  unfold file? view
  rcases tree.at? place with _ | _ | _ <;> simp [standing]

/-- The file at a place is told by what stands there. -/
theorem file?_congr {tree left : FileTree} {place : List String}
    (same : ∀ octets, tree.view place = some (.file octets) ↔ left.view place = some (.file octets)) :
    left.file? place = tree.file? place := by
  apply Option.ext
  intro octets
  rw [file?_eq_some_iff, file?_eq_some_iff, same]

/-- What is below a place stands in a folder. -/
theorem view_of_append {tree : FileTree} {place below : List String} (further : below ≠ [])
    (there : tree.view (place ++ below) ≠ none) : tree.view place = some .folder := by
  induction place generalizing tree with
  | nil =>
    obtain ⟨name, names, rfl⟩ := List.exists_cons_of_ne_nil further
    cases tree with
    | file octets => exact absurd (view_file_cons octets name names) there
    | folder entries => rfl
  | cons name names ih =>
    cases tree with
    | file octets => exact absurd (view_file_cons octets name (names ++ below)) there
    | folder entries =>
      rw [List.cons_append, view_folder_cons] at there
      rw [view_folder_cons]
      cases entry : entries.lookup name with
      | none => exact absurd (by rw [entry]; rfl) there
      | some inner =>
        rw [entry] at there
        exact ih there

theorem view_folder_above {tree : FileTree} {place outer : List String} (leads : outer <+: place)
    (here : tree.view place = some .folder) : tree.view outer = some .folder := by
  obtain ⟨below, rfl⟩ := leads
  cases below with
  | nil => rwa [List.append_nil] at here
  | cons name names => exact view_of_append (List.cons_ne_nil name names) (by simp [here])

theorem view_put (name : String) (inner : FileTree) (entries : Entries) (other : String)
    (names : List String) : (folder (put name inner entries)).view (other :: names) =
      if other = name then inner.view names else (folder entries).view (other :: names) := by
  rw [view_folder_cons, view_folder_cons]
  split
  next same =>
    subst same
    rw [lookup_put_self]
    rfl
  next different => rw [lookup_put_of_ne different]

theorem view_empty (names : List String) :
    (folder []).view names = if names = [] then some .folder else none := by
  cases names <;> rfl

/-- Every place stays as it was, or it was empty and is a folder now that leads to the place asked
for. -/
theorem view_makeFolders (tree : FileTree) (asked place : List String) :
    (tree.makeFolders asked).1.view place = tree.view place ∨
      (tree.view place = none ∧ (tree.makeFolders asked).1.view place = some .folder ∧
        place <+: asked) := by
  induction asked generalizing tree place with
  | nil =>
    rw [makeFolders]
    exact .inl rfl
  | cons name names ih =>
    cases tree with
    | file octets =>
      rw [makeFolders]
      exact .inl rfl
    | folder entries =>
      rw [makeFolders]
      split
      case isFalse => exact .inl rfl
      rcases place with _ | ⟨other, rest⟩
      · exact .inl rfl
      rw [view_put]
      by_cases same : other = name
      · subst same
        rw [if_pos rfl, view_folder_cons, List.cons_prefix_cons]
        cases entry : entries.lookup other with
        | some inner =>
          rw [Option.getD_some, Option.bind_some]
          rcases ih inner rest with kept | ⟨empty, made, leads⟩
          · exact .inl kept
          · exact .inr ⟨empty, made, rfl, leads⟩
        | none =>
          rw [Option.getD_none, Option.bind_none]
          rcases ih (folder []) rest with kept | ⟨empty, made, leads⟩
          · rw [kept, view_empty]
            split
            next top => exact .inr ⟨rfl, rfl, rfl, top ▸ List.nil_prefix⟩
            · exact .inl rfl
          · exact .inr ⟨rfl, made, rfl, leads⟩
      · rw [if_neg same]
        exact .inl rfl

/-- A file is written where no folder is, and nowhere else. -/
theorem view_write {tree left : FileTree} {place : List String} {octets : List UInt8}
    (written : tree.write? place octets = some left) :
    tree.view place ≠ some .folder ∧
      ∀ other, left.view other = if other = place then some (.file octets) else tree.view other := by
  induction place generalizing tree left with
  | nil =>
    cases tree with
    | folder entries => cases written
    | file old =>
      cases written
      refine ⟨by simp [view_nil, standing], fun other => ?_⟩
      cases other <;> rfl
  | cons name names ih =>
    cases tree with
    | file old => cases written
    | folder entries =>
      -- The entry is changed further down, or it is new and the last one.
      have entry : ∃ inner, left = folder (put name inner entries) ∧
          (entries.lookup name).bind (view · names) ≠ some .folder ∧
          ∀ rest, inner.view rest =
            if rest = names then some (.file octets) else (entries.lookup name).bind (view · rest) := by
        cases found : entries.lookup name with
        | some inner =>
          unfold write? at written
          rw [found] at written
          obtain ⟨changed, below, same⟩ := Option.map_eq_some_iff.mp written
          exact ⟨changed, same.symm, ih below⟩
        | none =>
          cases names with
          | cons next names => simp [write?, found] at written
          | nil =>
            simp only [write?, found, Option.ite_none_right_eq_some, Option.some.injEq] at written
            refine ⟨file octets, written.2.symm, by simp, fun rest => ?_⟩
            cases rest <;> rfl
      obtain ⟨inner, rfl, free, inside⟩ := entry
      rw [view_folder_cons]
      refine ⟨free, fun other => ?_⟩
      rcases other with _ | ⟨first, rest⟩
      · rfl
      rw [view_put, view_folder_cons, inside]
      by_cases same : first = name <;> simp [same]

/-- Everything at a place and below it is taken away, and nothing else. -/
theorem view_remove {place : List String} (named : place ≠ []) (tree : FileTree) (other : List String) :
    (tree.remove place).view other = if place <+: other then none else tree.view other := by
  induction place generalizing tree other with
  | nil => exact absurd rfl named
  | cons name names ih =>
    cases tree with
    | file octets =>
      rw [remove]
      rcases other with _ | ⟨first, rest⟩
      · simp
      · rw [view_file_cons, ite_self]
    | folder entries =>
      rcases other with _ | ⟨first, rest⟩
      · cases names with
        | nil => simp [remove, view_nil, standing]
        | cons next names =>
          rw [remove]
          cases entries.lookup name <;> simp [view_nil, standing]
      simp only [List.cons_prefix_cons]
      cases names with
      | nil =>
        rw [remove, view_folder_cons, view_folder_cons, lookup_filter_ne]
        by_cases same : first = name
        · simp [same]
        · simp [same, Ne.symm same]
      | cons next names =>
        rw [remove]
        cases found : entries.lookup name with
        | none =>
          simp only [view_folder_cons]
          split
          next leads => rw [← leads.1, found, Option.bind_none]
          · rfl
        | some inner =>
          rw [view_put, ih (List.cons_ne_nil next names), view_folder_cons]
          by_cases same : first = name
          · simp [same, found]
          · simp [same, Ne.symm same]

/-- A file that has moved is where it went, and its old place is empty. -/
theorem view_move {tree left : FileTree} {source target : List String} (named : source ≠ [])
    (apart : ¬source <+: target) (moved : tree.move? source target = some left) :
    ∃ octets, tree.view source = some (.file octets) ∧ tree.view target ≠ some .folder ∧
      ∀ other, left.view other =
        if other = source then none else if other = target then some (.file octets) else tree.view other := by
  obtain ⟨octets, held, rest⟩ := Option.bind_eq_some_iff.mp moved
  obtain ⟨written, wrote, last⟩ := Option.bind_eq_some_iff.mp rest
  cases last
  have held := file?_eq_some_iff.mp held
  obtain ⟨free, inside⟩ := view_write wrote
  refine ⟨octets, held, free, fun other => ?_⟩
  rw [view_remove named, inside]
  by_cases leads : source <+: other
  · obtain ⟨below, rfl⟩ := leads
    rcases below.eq_nil_or_concat with rfl | ⟨front, final, rfl⟩
    · simp
    · -- Nothing stands below a file.
      have further : front.concat final ≠ [] := by simp
      have nothing : tree.view (source ++ front.concat final) = none := by
        by_contra there
        rw [view_of_append further there] at held
        cases held
      have elsewhere : source ++ front.concat final ≠ target := by
        rintro rfl
        exact apart (List.prefix_append ..)
      rw [if_pos (List.prefix_append ..), if_neg (by simp), if_neg elsewhere, nothing]
  · have different : other ≠ source := by
      rintro rfl
      exact leads List.prefix_rfl
    rw [if_neg leads, if_neg different]

end FileTree

end SessionBoard
