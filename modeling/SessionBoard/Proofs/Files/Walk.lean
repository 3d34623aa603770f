import SessionBoard.Files.Walk
import SessionBoard.Proofs.Files.Path
import SessionBoard.Proofs.Files.Tree

namespace SessionBoard

namespace Path

/-- Without two points among its names a path leads through them one by one. -/
theorem foldl_onward {names : List String} (plain : ".." ∉ names) (place : List String) :
    names.foldl onward place = place ++ names := by
  induction names generalizing place with
  | nil => simp
  | cons name names ih =>
    obtain ⟨different, rest⟩ := List.ne_and_not_mem_of_not_mem_cons plain
    rw [List.foldl_cons, ih rest, onward, if_neg (Ne.symm different)]
    simp

end Path

namespace FileTree

variable {tree left : FileTree} {place final : List String} {path : Path} {octets : List UInt8}

theorem isFolder_iff : tree.isFolder ↔ tree.standing = .folder := by
  cases tree <;> simp [isFolder, standing]

theorem isFolderAt_iff : tree.isFolderAt place ↔ tree.view place = some .folder := by
  simp only [isFolderAt, view, Option.any_eq_true, Option.map_eq_some_iff, isFolder_iff]

theorem follow?_cons {name : String} {names : List String} :
    tree.follow? place (name :: names) = some final ↔
      tree.view place = some .folder ∧ tree.follow? (Path.onward place name) names = some final := by
  rw [follow?, Option.ite_none_right_eq_some, isFolderAt_iff]

theorem eq_of_follow? {names : List String} (leads : tree.follow? place names = some final) :
    final = names.foldl Path.onward place := by
  induction names generalizing place with
  | nil => exact (Option.some.inj leads).symm
  | cons name names ih => exact ih (follow?_cons.mp leads).2

/-- More folders do not lead elsewhere. -/
theorem follow?_of_folders {names : List String} (leads : tree.follow? place names = some final)
    (kept : ∀ other, tree.view other = some .folder → left.view other = some .folder) :
    left.follow? place names = some final := by
  induction names generalizing place with
  | nil => exact leads
  | cons name names ih =>
    obtain ⟨here, rest⟩ := follow?_cons.mp leads
    exact follow?_cons.mpr ⟨kept place here, ih rest⟩

/-- The last name is followed from a folder. -/
theorem follow?_concat {names : List String} {name : String}
    (leads : tree.follow? place (names ++ [name]) = some final) :
    ∃ middle, tree.view middle = some .folder ∧ final = Path.onward middle name := by
  induction names generalizing place with
  | nil =>
    obtain ⟨here, rest⟩ := follow?_cons.mp leads
    exact ⟨place, here, (Option.some.inj rest).symm⟩
  | cons first names ih => exact ih (follow?_cons.mp leads).2

/-- Names alone lead to all that stands below a place. -/
theorem follow?_of_view {names : List String} (plain : ".." ∉ names)
    (there : tree.view (place ++ names) ≠ none) : tree.follow? place names = some (place ++ names) := by
  induction names generalizing place with
  | nil => simp [follow?]
  | cons name names ih =>
    obtain ⟨different, rest⟩ := List.ne_and_not_mem_of_not_mem_cons plain
    have step : Path.onward place name = place ++ [name] := if_neg (Ne.symm different)
    refine follow?_cons.mpr ⟨view_of_append (List.cons_ne_nil _ _) there, ?_⟩
    rw [List.append_cons] at there ⊢
    rw [step]
    exact ih rest there

theorem follow?_append {front rest : List String} :
    tree.follow? place (front ++ rest) = some final ↔
      ∃ middle, tree.follow? place front = some middle ∧ tree.follow? middle rest = some final := by
  induction front generalizing place with
  | nil => simp [follow?]
  | cons name front ih =>
    rw [List.cons_append, follow?_cons, ih]
    simp only [follow?_cons, and_assoc, exists_and_left]

/-- Follows names from a place as long as they leave folders that are there. Two points may be met on this way only:
where a folder is missing, names alone may be left. So the way stays the same while the folders that it needs are made,
and what stands at its end is known before. -/
def isCharted (tree : FileTree) (place : List String) : List String → Bool
  | [] => true
  | name :: names =>
    if tree.isFolderAt place then tree.isCharted (Path.onward place name) names
    else !(name :: names).contains ".."

def Charted (tree : FileTree) (path : Path) : Prop := tree.isCharted [] path.names

instance (tree : FileTree) : DecidablePred tree.Charted := fun _ =>
  inferInstanceAs (Decidable (_ = true))

theorem isCharted_iff {names : List String} : tree.isCharted place names ↔
    ∃ front rest middle, names = front ++ rest ∧ ".." ∉ rest ∧ tree.follow? place front = some middle := by
  induction names generalizing place with
  | nil => simp [isCharted, follow?]
  | cons name names ih =>
    rw [isCharted]
    by_cases here : tree.isFolderAt place
    · rw [if_pos here, ih]
      constructor
      · rintro ⟨front, rest, middle, rfl, plain, leads⟩
        exact ⟨name :: front, rest, middle, rfl, plain, follow?_cons.mpr ⟨isFolderAt_iff.mp here, leads⟩⟩
      · rintro ⟨_ | ⟨first, front⟩, rest, middle, whole, plain, leads⟩
        · refine ⟨[], names, Path.onward place name, rfl, fun later => plain ?_, rfl⟩
          rw [← whole.trans (List.nil_append rest)]
          exact List.mem_cons_of_mem name later
        · obtain ⟨rfl, rfl⟩ := List.cons.inj whole
          exact ⟨front, rest, middle, rfl, plain, (follow?_cons.mp leads).2⟩
    · rw [if_neg here]
      constructor
      · intro plain
        exact ⟨[], name :: names, place, rfl, by simpa using plain, rfl⟩
      · rintro ⟨_ | ⟨first, front⟩, rest, middle, whole, plain, leads⟩
        · rw [whole.trans (List.nil_append rest)]
          simpa using plain
        · exact absurd (isFolderAt_iff.mpr (follow?_cons.mp leads).1) here

theorem resolve?_eq_some : tree.resolve? path = some final ↔
    path.isPassable ∧ tree.follow? [] path.names = some final := by
  rw [resolve?, Option.ite_none_right_eq_some]

theorem eq_place_of_resolve? (leads : tree.resolve? path = some final) : final = path.place :=
  eq_of_follow? (resolve?_eq_some.mp leads).2

theorem resolve?_of_folders (leads : tree.resolve? path = some final)
    (kept : ∀ other, tree.view other = some .folder → left.view other = some .folder) :
    left.resolve? path = some final := by
  obtain ⟨passable, followed⟩ := resolve?_eq_some.mp leads
  exact resolve?_eq_some.mpr ⟨passable, follow?_of_folders followed kept⟩

/-- A path that ends in two points leads to a folder if it leads anywhere. -/
theorem view_of_points (ends : path.names.getLast? = some "..") (leads : tree.resolve? path = some final) :
    tree.view final = some .folder := by
  obtain ⟨front, whole⟩ := List.getLast?_eq_some_iff.mp ends
  obtain ⟨-, followed⟩ := resolve?_eq_some.mp leads
  rw [whole] at followed
  obtain ⟨middle, here, rfl⟩ := follow?_concat followed
  rw [Path.onward, if_pos rfl]
  exact view_folder_above (List.dropLast_prefix middle) here

theorem find?_eq_some {found : FileTree} : tree.find? path = some found ↔
    tree.resolve? path = some path.place ∧ tree.at? path.place = some found ∧
      (path.asksFolder → found.isFolder) := by
  rw [find?, Option.filter_eq_some_iff, Option.bind_eq_some_iff]
  constructor
  · rintro ⟨⟨final, leads, there⟩, kind⟩
    obtain rfl := eq_place_of_resolve? leads
    exact ⟨leads, there, fun asked => by simpa [asked] using kind⟩
  · rintro ⟨leads, there, kind⟩
    refine ⟨⟨_, leads, there⟩, ?_⟩
    cases asked : path.asksFolder
    · rfl
    · exact kind asked

theorem find?_isSome_iff : (tree.find? path).isSome ↔ ∃ standing,
    tree.resolve? path = some path.place ∧ tree.view path.place = some standing ∧
      (path.asksFolder → standing = .folder) := by
  simp only [Option.isSome_iff_exists, find?_eq_some, isFolder_iff, view, Option.map_eq_some_iff]
  constructor
  · rintro ⟨found, leads, there, kind⟩
    exact ⟨_, leads, ⟨found, there, rfl⟩, kind⟩
  · rintro ⟨_, leads, ⟨found, there, rfl⟩, kind⟩
    exact ⟨found, leads, there, kind⟩

theorem find?_eq_file_iff : tree.find? path = some (.file octets) ↔
    tree.resolve? path = some path.place ∧ tree.view path.place = some (.file octets) ∧
      path.asksFolder = false := by
  rw [find?_eq_some, at?_eq_file_iff, isFolder, ← Bool.not_eq_true]
  simp

theorem place_eq_of_follow? {front rest middle : List String} (whole : path.names = front ++ rest)
    (plain : ".." ∉ rest) (leads : tree.follow? [] front = some middle) : path.place = middle ++ rest := by
  rw [Path.place, whole, List.foldl_append, ← eq_of_follow? leads, Path.foldl_onward plain]

theorem charted_iff : tree.Charted path ↔ ∃ front rest middle,
    path.names = front ++ rest ∧ ".." ∉ rest ∧ tree.follow? [] front = some middle :=
  isCharted_iff

/-- Names alone are charted in every tree. -/
theorem charted_of_plain (plain : ".." ∉ path.names) : tree.Charted path :=
  charted_iff.mpr ⟨[], path.names, [], rfl, plain, rfl⟩

/-- A path is charted where the folders that it passes are there, whatever is at its end. -/
theorem charted_of_resolve? (leads : tree.resolve? path = some final) : tree.Charted path :=
  charted_iff.mpr ⟨path.names, [], final, (List.append_nil _).symm, by simp, (resolve?_eq_some.mp leads).2⟩

theorem Charted.of_folders (charted : tree.Charted path)
    (kept : ∀ other, tree.view other = some .folder → left.view other = some .folder) : left.Charted path := by
  obtain ⟨front, rest, middle, whole, plain, leads⟩ := charted_iff.mp charted
  exact charted_iff.mpr ⟨front, rest, middle, whole, plain, follow?_of_folders leads kept⟩

/-- What a charted path leads to is told by its place alone. -/
theorem Charted.find?_isSome_iff (charted : tree.Charted path) : (tree.find? path).isSome ↔ ∃ standing,
    path.isPassable ∧ tree.view path.place = some standing ∧ (path.asksFolder → standing = .folder) := by
  obtain ⟨front, rest, middle, whole, plain, leads⟩ := charted_iff.mp charted
  rw [FileTree.find?_isSome_iff, place_eq_of_follow? whole plain leads]
  refine exists_congr fun standing => ?_
  rw [resolve?_eq_some, and_assoc]
  refine and_congr_right fun _ => ⟨fun ⟨_, there⟩ => there, fun there => ⟨?_, there⟩⟩
  rw [whole, follow?_append]
  exact ⟨middle, leads, follow?_of_view plain (by simp [there.1])⟩

theorem Charted.find?_isSome_congr (charted : tree.Charted path) (charted' : left.Charted path)
    (same : left.view path.place = tree.view path.place) :
    (left.find? path).isSome ↔ (tree.find? path).isSome := by
  rw [charted.find?_isSome_iff, charted'.find?_isSome_iff, same]

/-- Only folders are new, and none deeper than some depth. -/
def Grows (tree left : FileTree) (depth : Nat) : Prop :=
  ∀ place, left.view place = tree.view place ∨
    (tree.view place = none ∧ left.view place = some .folder ∧ place.length ≤ depth)

theorem Grows.refl (tree : FileTree) (depth : Nat) : tree.Grows tree depth := fun _ => .inl rfl

theorem Grows.trans {middle : FileTree} {depth : Nat} (first : tree.Grows middle depth)
    (second : middle.Grows left depth) : tree.Grows left depth := by
  intro place
  rcases second place with same | ⟨empty, made, small⟩
  · rw [same]
    exact first place
  · rcases first place with same | ⟨_, before, _⟩
    · exact .inr ⟨same ▸ empty, made, small⟩
    · rw [before] at empty
      cases empty

theorem Grows.mono {depth more : Nat} (grows : tree.Grows left depth) (fewer : depth ≤ more) :
    tree.Grows left more := fun place =>
  (grows place).imp_right fun ⟨empty, made, small⟩ => ⟨empty, made, small.trans fewer⟩

/-- All that was there stays. -/
theorem Grows.kept {depth : Nat} (grows : tree.Grows left depth) {standing : Standing}
    (there : tree.view place = some standing) : left.view place = some standing := by
  rcases grows place with same | ⟨empty, _⟩
  · rw [same, there]
  · rw [there] at empty
    cases empty

/-- No file is new. -/
theorem Grows.file?_eq {depth : Nat} (grows : tree.Grows left depth) (place : List String) :
    left.file? place = tree.file? place := by
  refine file?_congr fun octets => ⟨grows.kept, fun there => ?_⟩
  rcases grows place with same | ⟨_, made, _⟩
  · rw [← same, there]
  · rw [made] at there
    cases there

theorem grows_makeWay (tree : FileTree) (place names : List String) :
    tree.Grows (tree.makeWay place names).1 (place.length + names.length) := by
  induction names generalizing tree place with
  | nil => exact .refl _ _
  | cons name names ih =>
    have short : (Path.onward place name).length ≤ place.length + 1 := by
      rw [Path.onward]
      split <;> simp
      omega
    have first : tree.Grows (tree.makeFolders (Path.onward place name)).1
        (place.length + (name :: names).length) := fun other =>
      (view_makeFolders tree (Path.onward place name) other).imp_right fun ⟨empty, made, leads⟩ =>
        ⟨empty, made, by have := leads.length_le; simp only [List.length_cons]; omega⟩
    rw [makeWay]
    rcases made : tree.makeFolders (Path.onward place name) with ⟨middle, _ | _⟩
    · rw [made] at first
      exact first
    · rw [made] at first
      exact first.trans ((ih middle _).mono (by simp only [List.length_cons]; omega))

/-- The folder that a name leads to is all that is made from a folder. -/
theorem view_makeFolders_onward (here : tree.view place = some .folder) (name : String) (other : List String) :
    (tree.makeFolders (Path.onward place name)).1.view other = tree.view other ∨
      (tree.view other = none ∧ (tree.makeFolders (Path.onward place name)).1.view other = some .folder ∧
        other = Path.onward place name) := by
  refine (view_makeFolders tree _ other).imp_right fun ⟨empty, made, leads⟩ => ⟨empty, made, ?_⟩
  have outside : ¬other <+: place := by
    intro within
    rw [view_folder_above within here] at empty
    cases empty
  rw [Path.onward] at leads ⊢
  split at leads
  · exact absurd (leads.trans (List.dropLast_prefix place)) outside
  next different =>
    rw [if_neg different]
    exact (List.prefix_concat_iff.mp leads).resolve_right outside

/-- While names leave folders that are there nothing is made, but for the folder that they lead to at last. -/
theorem grows_makeWay_of_follow {front middle : List String} (leads : tree.follow? place front = some middle)
    (rest : List String) :
    tree.Grows (tree.makeWay place (front ++ rest)).1 (middle.length + rest.length) := by
  induction front generalizing tree place with
  | nil =>
    cases leads
    exact tree.grows_makeWay middle rest
  | cons name front ih =>
    obtain ⟨here, later⟩ := follow?_cons.mp leads
    have first : tree.Grows (tree.makeFolders (Path.onward place name)).1 (middle.length + rest.length) := by
      refine fun other => (view_makeFolders_onward here name other).imp_right ?_
      rintro ⟨empty, made, rfl⟩
      refine ⟨empty, made, ?_⟩
      cases front with
      | nil =>
        cases later
        exact Nat.le_add_right _ _
      | cons next front =>
        rw [(follow?_cons.mp later).1] at empty
        cases empty
    have later := follow?_of_folders later fun _ => first.kept
    rw [List.cons_append, makeWay]
    rcases made : tree.makeFolders (Path.onward place name) with ⟨grown, _ | _⟩
    · rw [made] at first
      exact first
    · rw [made] at first later
      exact first.trans (ih later)

theorem grows_makeFoldersTo (tree : FileTree) (path : Path) :
    tree.Grows (tree.makeFoldersTo path).1 path.names.length := by
  unfold makeFoldersTo
  split
  · simpa using tree.grows_makeWay [] path.names
  · exact .refl _ _

theorem Grows.view_eq {depth : Nat} (grows : tree.Grows left depth) (deeper : depth < place.length) :
    left.view place = tree.view place :=
  (grows place).resolve_right fun ⟨_, _, short⟩ => absurd short (Nat.not_le.mpr deeper)

/-- The folders on a charted way are made short of its end. -/
theorem Charted.view_place_makeFoldersTo (charted : tree.Charted path) :
    (tree.makeFoldersTo path.parent).1.view path.place = tree.view path.place := by
  unfold makeFoldersTo
  split
  case isFalse => rfl
  obtain ⟨front, rest, middle, whole, plain, leads⟩ := charted_iff.mp charted
  rw [place_eq_of_follow? whole plain leads]
  rcases rest.eq_nil_or_concat with rfl | ⟨inner, last, rfl⟩
  · rcases front.eq_nil_or_concat with rfl | ⟨outer, last, rfl⟩
    · cases leads
      exact (tree.grows_makeWay _ _).kept (view_nil tree)
    · -- The last folder before the end is there, so none is made at all.
      rw [List.append_nil, List.concat_eq_append] at whole
      rw [List.concat_eq_append, follow?_append] at leads
      obtain ⟨folder, passed, leads⟩ := leads
      obtain ⟨here, same⟩ := follow?_cons.mp leads
      cases same
      have grows := grows_makeWay_of_follow passed []
      rw [Path.names_parent_eq whole, List.append_nil, ← List.append_nil outer]
      unfold Path.onward
      split
      · have above := view_folder_above (List.dropLast_prefix folder) here
        rw [above, grows.kept above]
      · exact grows.view_eq (by simp)
  · rw [List.concat_eq_append] at whole ⊢
    rw [Path.names_parent_eq (whole.trans (List.append_assoc ..).symm)]
    exact (grows_makeWay_of_follow leads inner).view_eq (by simp)

theorem Charted.makeFoldersTo (charted : tree.Charted path) :
    (tree.makeFoldersTo path.parent).1.Charted path :=
  charted.of_folders fun _ => (tree.grows_makeFoldersTo path.parent).kept

theorem Charted.find?_makeFoldersTo (charted : tree.Charted path) :
    ((tree.makeFoldersTo path.parent).1.find? path).isSome ↔ (tree.find? path).isSome :=
  charted.find?_isSome_congr charted.makeFoldersTo charted.view_place_makeFoldersTo

theorem writeTo?_eq_some (written : tree.writeTo? path octets = some left) :
    path.asksFolder = false ∧ tree.resolve? path = some path.place ∧
      tree.write? path.place octets = some left := by
  unfold writeTo? at written
  split at written
  · cases written
  next file =>
    obtain ⟨final, leads, wrote⟩ := Option.bind_eq_some_iff.mp written
    obtain rfl := eq_place_of_resolve? leads
    exact ⟨by simpa using file, leads, wrote⟩

theorem rename?_eq_some {source target : Path} (moved : tree.rename? source target = some left) :
    target.asksFolder = false ∧ tree.resolve? target = some target.place ∧
      tree.move? source.place target.place = some left := by
  unfold rename? at moved
  split at moved
  · cases moved
  next file =>
    obtain ⟨start, leaves, rest⟩ := Option.bind_eq_some_iff.mp moved
    obtain ⟨final, leads, move⟩ := Option.bind_eq_some_iff.mp rest
    obtain rfl := eq_place_of_resolve? leaves
    obtain rfl := eq_place_of_resolve? leads
    exact ⟨by simpa using file, leads, move⟩

end FileTree

end SessionBoard
