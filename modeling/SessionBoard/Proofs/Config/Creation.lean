import SessionBoard.Config
import SessionBoard.Proofs.Files.Walk
import SessionBoard.Proofs.Reach
import SessionBoard.Proofs.Text.Utf8

namespace SessionBoard

open Text FileTree

namespace Config

variable {tree grown written moved left : FileTree} {path : Path} {last : String} {octets : List UInt8}

/-- The name that the draft of a file has. -/
def draftName (name : String) : String := Path.stem name ++ "." ++ "toml.tmp"

theorem length_draftName (name : String) :
    (draftName name).toList.length = (Path.stem name).toList.length + 9 := by
  simp [draftName, String.toList_append]

theorem isName_draftName (name : String) : Path.isName (draftName name) := by
  have long := length_draftName name
  simp only [Path.isName, Bool.and_eq_true, bne_iff_ne, ne_eq]
  constructor <;>
  · intro same
    rw [same] at long
    simp at long

theorem draftName_ne_points (name : String) : draftName name ≠ ".." := by
  intro same
  have long := length_draftName name
  rw [same] at long
  simp at long

/-- No file is its own draft: the stem of a draft has an extension still. -/
theorem draftName_ne (name : String) : draftName name ≠ name := by
  intro same
  have split : Path.stem name ++ ".toml" ++ "." ++ "tmp" = draftName name := by
    simp [draftName, String.append_assoc]
  have cut : Path.stem name = Path.stem name ++ ".toml" := by
    conv_lhs => rw [← same, ← split]
    exact Path.stem_append (by simp) (by decide)
  have long := congrArg (fun text => text.toList.length) cut
  simp [String.toList_append] at long

theorem names_draft (ends : path.names.getLast? = some last) (below : last ≠ "..") :
    (draft path).names = path.parent.names ++ [draftName last] :=
  Path.names_withExtension ends below (isName_draftName last)

theorem place_draft (ends : path.names.getLast? = some last) (below : last ≠ "..") :
    (draft path).place = path.parent.place ++ [draftName last] := by
  rw [Path.place, names_draft ends below, List.foldl_concat, Path.onward, if_neg (draftName_ne_points last)]
  rfl

theorem place_eq_parent (ends : path.names.getLast? = some last) (below : last ≠ "..") :
    path.place = path.parent.place ++ [last] := by
  rw [Path.place, Path.names_eq_parent, ends, Option.toList_some, List.foldl_concat, Path.onward,
    if_neg below]
  rfl

/-- A path that a draft can be written for ends in a name of its own. -/
theorem named_of_draft (wrote : tree.writeTo? (draft path) octets = some left) :
    ∃ last, path.names.getLast? = some last ∧ last ≠ ".." := by
  obtain ⟨file, leads, written⟩ := writeTo?_eq_some wrote
  cases ends : path.names.getLast? with
  | none =>
    have nameless := List.getLast?_eq_none_iff.mp ends
    rw [draft, Path.withExtension_of_nameless nameless, Path.asksFolder_of_nameless nameless] at file
    cases file
  | some last =>
    refine ⟨last, rfl, ?_⟩
    rintro rfl
    rw [draft, Path.withExtension_of_points ends] at leads written
    exact absurd (view_of_points ends leads) (view_write written).1

/-- Only the place of the draft changes while it is written. -/
theorem view_drafted (wrote : tree.writeTo? (draft path) octets = some left) :
    tree.view (draft path).place ≠ some .folder ∧ ∀ place, left.view place =
      if place = (draft path).place then some (.file octets) else tree.view place :=
  view_write (writeTo?_eq_some wrote).2.2

/-- The draft takes the place of the path, and no other place changes. -/
theorem view_completed (wrote : tree.writeTo? (draft path) octets = some written)
    (completed : written.rename? (draft path) path = some left) :
    written.view path.place ≠ some .folder ∧ path.place ≠ (draft path).place ∧
      ∀ place, left.view place =
        if place = (draft path).place then none
        else if place = path.place then some (.file octets) else tree.view place := by
  obtain ⟨last, ends, below⟩ := named_of_draft wrote
  obtain ⟨-, -, move⟩ := rename?_eq_some completed
  have apart : ¬(draft path).place <+: path.place := by
    rw [place_draft ends below, place_eq_parent ends below, List.prefix_append_right_inj]
    simpa using draftName_ne last
  have named : (draft path).place ≠ [] := by simp [place_draft ends below]
  obtain ⟨-, inside⟩ := view_drafted wrote
  obtain ⟨found, held, free, after⟩ := view_move named apart move
  rw [inside, if_pos rfl] at held
  cases held
  refine ⟨free, fun same => apart (same ▸ List.prefix_rfl), fun place => ?_⟩
  rw [after, inside]
  split <;> rfl

/-- A charted path leads to nothing else while its draft is written. -/
theorem find?_drafted (charted : tree.Charted path) (wrote : tree.writeTo? (draft path) octets = some left) :
    (left.find? path).isSome ↔ (tree.find? path).isSome := by
  obtain ⟨last, ends, below⟩ := named_of_draft wrote
  obtain ⟨free, inside⟩ := view_drafted wrote
  refine charted.find?_isSome_congr (charted.of_folders fun other folder => ?_) ?_
  · have apart : other ≠ (draft path).place := by
      rintro rfl
      exact free folder
    rw [inside, if_neg apart, folder]
  · rw [inside, if_neg]
    rw [place_draft ends below, place_eq_parent ends below]
    simpa using (draftName_ne last).symm

/-- The draft is what the path leads to once it has been moved. -/
theorem find?_completed (wrote : tree.writeTo? (draft path) octets = some written)
    (completed : written.rename? (draft path) path = some left) : left.find? path = some (.file octets) := by
  obtain ⟨-, inside⟩ := view_drafted wrote
  obtain ⟨free, different, after⟩ := view_completed wrote completed
  obtain ⟨file, leads, -⟩ := rename?_eq_some completed
  refine find?_eq_file_iff.mpr ⟨resolve?_of_folders leads fun other folder => ?_, ?_, file⟩
  · have apart : other ≠ path.place := by
      rintro rfl
      exact free folder
    rw [inside] at folder
    split at folder
    · cases folder
    · rw [after]
      simp_all
  · rw [after, if_neg different, if_pos rfl]

set_option maxRecDepth 10000 in
/-- The first settings say what holds without a file. -/
theorem parse?_template : parse? template.toList = some {} := by
  rw [show template.toList = _ from String.toList_ofList]
  decide +kernel

/-- The ways that making can end. -/
theorem create_cases (tree : FileTree) (path : Path) :
    ((tree.find? path).isSome ∧ create tree path = (tree, .error (.alreadyExists path))) ∨
    (tree.find? path = none ∧ ∃ grown, (tree.makeFoldersTo path.parent).1 = grown ∧
      (create tree path = (grown, .error (.noFolder path.parent)) ∨
      create tree path = (grown, .error (.unwritable (draft path))) ∨
      ∃ written, grown.writeTo? (draft path) (Utf8.encode template.toList) = some written ∧
        (create tree path = (written, .error (.unmovable (draft path) path)) ∨
        ∃ moved, written.rename? (draft path) path = some moved ∧
          create tree path = (moved, .ok ())))) := by
  cases absent : tree.find? path with
  | some found => exact .inl ⟨rfl, by simp [create, absent]⟩
  | none =>
    rcases ways : tree.makeFoldersTo path.parent with ⟨grown, _ | _⟩ <;> refine .inr ⟨rfl, grown, rfl, ?_⟩
    · exact .inl (by simp [create, absent, ways])
    refine .inr ?_
    cases wrote : grown.writeTo? (draft path) (Utf8.encode template.toList) with
    | none => exact .inl (by simp [create, absent, ways, wrote])
    | some written =>
      refine .inr ⟨written, rfl, ?_⟩
      cases completed : written.rename? (draft path) path with
      | none => exact .inl (by simp [create, absent, ways, wrote, completed])
      | some moved => exact .inr ⟨moved, rfl, by simp [create, absent, ways, wrote, completed]⟩

/-- What making a first file at a path may leave of a tree, and with which answer. -/
structure Made (tree : FileTree) (path : Path) (left : FileTree) (answer : Except ConfigError Unit) :
    Prop where
  /-- Nothing that is there is replaced. -/
  present : (tree.find? path).isSome → left = tree ∧ answer = .error (.alreadyExists path)
  /-- A failure leaves nothing where nothing was, if what the path leads to is known before its folders are made. -/
  absent : ∀ error, answer = .error error → tree.find? path = none → tree.Charted path →
    left.find? path = none
  /-- A failure changes no file. Only the draft is there already if it cannot be moved. -/
  failed : ∀ error, answer = .error error → ∀ place,
    error ≠ .unmovable (draft path) path ∨ place ≠ (draft path).place →
      left.file? place = tree.file? place
  /-- A success leaves the first settings where nothing was. -/
  completed : answer = .ok () → tree.find? path = none ∧
    left.find? path = some (.file (Utf8.encode template.toList)) ∧ load left path = .ok {}
  /-- A success leaves no draft, and every other file as it was. -/
  cleaned : answer = .ok () → left.at? (draft path).place = none ∧
    ∀ place, place ≠ path.place → place ≠ (draft path).place → left.file? place = tree.file? place

theorem load_of_file {text : List Char} (found : tree.find? path = some (.file octets))
    (read : Utf8.decode? octets = some text) :
    load tree path = (parse? text).elim (.error (.unparsable path)) .ok := by
  rw [load, found]
  simp only [read]

theorem load_of_template (found : tree.find? path = some (.file (Utf8.encode template.toList))) :
    load tree path = .ok {} := by
  rw [load_of_file found (Utf8.decode?_encode _), parse?_template]
  rfl

theorem made_create (tree : FileTree) (path : Path) :
    Made tree path (create tree path).1 (create tree path).2 := by
  rcases create_cases tree path with ⟨there, ends⟩ | ⟨absent, grown, rfl, ends⟩
  · rw [ends]
    refine ⟨fun _ => ⟨rfl, rfl⟩, fun _ _ absent => ?_, fun _ _ _ _ => rfl, nofun, nofun⟩
    simp [absent] at there
  have missing : ¬(tree.find? path).isSome := by simp [absent]
  have kept := (tree.grows_makeFoldersTo path.parent).file?_eq
  set grown := (tree.makeFoldersTo path.parent).1
  have folders (error : ConfigError) : Made tree path grown (.error error) := by
    refine ⟨(absurd · missing), fun _ _ _ charted => ?_, fun _ _ place _ => kept place, nofun, nofun⟩
    rwa [← Option.not_isSome_iff_eq_none, charted.find?_makeFoldersTo]
  rcases ends with ends | ends | ⟨written, wrote, ends | ⟨moved, completed, ends⟩⟩ <;> rw [ends]
  · exact folders _
  · exact folders _
  · obtain ⟨-, inside⟩ := view_drafted wrote
    refine ⟨(absurd · missing), fun _ _ _ charted => ?_, fun error same place apart => ?_, nofun, nofun⟩
    · rwa [← Option.not_isSome_iff_eq_none, find?_drafted charted.makeFoldersTo wrote,
        charted.find?_makeFoldersTo]
    · cases same
      rw [← kept]
      refine file?_congr fun octets => ?_
      rw [inside, if_neg (apart.resolve_left (absurd rfl))]
  · obtain ⟨-, -, after⟩ := view_completed wrote completed
    have found := find?_completed wrote completed
    refine ⟨(absurd · missing), nofun, nofun, fun _ => ⟨absent, found, load_of_template found⟩,
      fun _ => ⟨at?_eq_none_iff.mpr (by rw [after, if_pos rfl]), fun place other apart => ?_⟩⟩
    rw [← kept]
    refine file?_congr fun octets => ?_
    rw [after, if_neg apart, if_neg other]

/-- Writes a file and makes the folders that its path needs. -/
def save (tree : FileTree) (path : Path) (octets : List UInt8) : FileTree :=
  let grown := (tree.makeFoldersTo path.parent).1
  (grown.writeTo? path octets).getD grown

/-- What is done with files of settings. -/
inductive Move
  | write (path : Path) (octets : List UInt8)
  | make (path : Path)
  | load (path : Path)
  deriving DecidableEq, Repr

def move? (tree : FileTree) : Move → Option FileTree
  | .write path octets => some (save tree path octets)
  | .make path => some (create tree path).1
  | .load _ => some tree

/-- Whether a step is not meant for what a path leads to. It writes elsewhere, or it makes a file that has its draft
elsewhere; and if that is one at the same place, what it finds there is known before its folders are made. -/
def Move.Spares (path : Path) : FileTree × Move → Prop
  | (_, .write other _) => other.place ≠ path.place
  | (tree, .make other) =>
    (draft other).place ≠ path.place ∧ (other.place = path.place → tree.Charted other)
  | (_, .load _) => True

instance (path : Path) : DecidablePred (Move.Spares path) := fun (_, move) => by
  cases move <;> unfold Move.Spares <;> infer_instance

theorem view_save {place : List String} {standing : Standing} (there : tree.view place = some standing)
    (spared : standing ≠ .folder → path.place ≠ place) :
    (save tree path octets).view place = some standing := by
  have kept := (tree.grows_makeFoldersTo path.parent).kept there
  cases wrote : (tree.makeFoldersTo path.parent).1.writeTo? path octets with
  | none => simpa only [save, wrote, Option.getD_none] using kept
  | some left =>
    obtain ⟨free, inside⟩ := view_write (writeTo?_eq_some wrote).2.2
    have apart : place ≠ path.place := by
      rintro rfl
      exact spared (fun folder => free (folder ▸ kept)) rfl
    simp only [save, wrote, Option.getD_some, inside, if_neg apart, kept]

theorem view_create {place : List String} {standing : Standing} (there : tree.view place = some standing)
    (spared : standing ≠ .folder →
      (draft path).place ≠ place ∧ (path.place = place → tree.Charted path)) :
    (create tree path).1.view place = some standing := by
  rcases create_cases tree path with ⟨-, ends⟩ | ⟨absent, grown, rfl, ends⟩
  · rw [ends, there]
  have kept := (tree.grows_makeFoldersTo path.parent).kept there
  rcases ends with ends | ends | ⟨written, wrote, ends⟩
  · rw [ends, kept]
  · rw [ends, kept]
  obtain ⟨free, inside⟩ := view_drafted wrote
  have apart : place ≠ (draft path).place := by
    rintro rfl
    exact (spared fun folder => free (folder ▸ kept)).1 rfl
  rcases ends with ends | ⟨moved, completed, ends⟩
  · rw [ends, inside, if_neg apart, kept]
  obtain ⟨clear, -, after⟩ := view_completed wrote completed
  obtain ⟨file, leads, -⟩ := rename?_eq_some completed
  have other : place ≠ path.place := by
    rintro rfl
    -- A file at the place of the path would have been found.
    obtain ⟨-, charted⟩ := spared fun folder => clear (by rw [inside, if_neg apart, kept, folder])
    have found : (tree.find? path).isSome := (charted rfl).find?_isSome_iff.mpr
      ⟨standing, (resolve?_eq_some.mp leads).1, there, by simp [file]⟩
    simp [absent] at found
  rw [ends, after, if_neg apart, if_neg other, kept]

theorem view_move? {move : Move} {place : List String} {standing : Standing}
    (taken : move? tree move = some left) (there : tree.view place = some standing)
    (spared : standing ≠ .folder → ∃ path : Path, place = path.place ∧ Move.Spares path (tree, move)) :
    left.view place = some standing := by
  cases move with
  | write other octets =>
    cases taken
    refine view_save there fun file => ?_
    obtain ⟨path, rfl, apart⟩ := spared file
    exact apart
  | make other =>
    cases taken
    refine view_create there fun file => ?_
    obtain ⟨path, rfl, apart⟩ := spared file
    exact apart
  | load other =>
    cases taken
    exact there

/-- What a path leads to stays while every step spares it. -/
theorem find?_of_reach {past : List (FileTree × Move)} (reach : Reach move? tree past left)
    (found : tree.find? path = some (.file octets)) (spared : ∀ moment ∈ past, Move.Spares path moment) :
    left.find? path = some (.file octets) := by
  induction reach with
  | start => exact found
  | @next past middle move left _ taken ih =>
    obtain ⟨leads, there, file⟩ :=
      find?_eq_file_iff.mp (ih fun moment passed => spared moment (List.mem_append_left _ passed))
    have spares : Move.Spares path (middle, move) := spared (middle, move) (by simp)
    exact find?_eq_file_iff.mpr
      ⟨resolve?_of_folders leads fun _ folder => view_move? taken folder (absurd rfl),
        view_move? taken there fun _ => ⟨path, rfl, spares⟩, file⟩

/-- Making a first file makes all of it or nothing, whatever tree it is made in and wherever it fails. What it leaves is
told place by place: nothing that is found is replaced, a failure changes no file but a draft that it cannot move, and a
success leaves the first settings and no draft. So what a path leads to stays while files are written elsewhere, made and
loaded. Two things are told of charted paths alone: that a failure leaves nothing where nothing was found, and that a file
is not replaced by one that is made at its place. What is at the end of another path is not known when it is asked for. -/
theorem create_all_or_nothing (tree : FileTree) (path : Path) :
    Made tree path (create tree path).1 (create tree path).2 ∧
      ∀ past left octets, Reach move? tree past left → tree.find? path = some (.file octets) →
        (∀ moment ∈ past, Move.Spares path moment) →
          left.find? path = some (.file octets) ∧ load left path = load tree path := by
  refine ⟨made_create tree path, fun past left octets reach found spared => ?_⟩
  have kept := find?_of_reach reach found spared
  refine ⟨kept, ?_⟩
  rw [load, load, kept, found]

/-- A first file is made in a new folder that a path reaches by two points, and the one that was there before is found
after it still. -/
theorem create_all_or_nothing_beside_another :
    (create (.folder [("config.toml", .file [35]), ("sub", .folder [])])
        ⟨["sub", "..", "new", "config.toml"]⟩).2 = .ok () ∧
      load (create (.folder [("config.toml", .file [35]), ("sub", .folder [])])
        ⟨["sub", "..", "new", "config.toml"]⟩).1 ⟨["sub", "..", "new", "config.toml"]⟩ = .ok {} ∧
      ∃ past left, Reach move? (.folder [("config.toml", .file [35]), ("sub", .folder [])]) past left ∧
        past.length = 4 ∧ left.find? ⟨["config.toml"]⟩ = some (.file [35]) := by
  let moves : List Move := [.make ⟨["sub", "..", "new", "config.toml"]⟩,
    .load ⟨["sub", "..", "new", "config.toml"]⟩, .make ⟨["sub", "..", "config.toml"]⟩,
    .write ⟨["new", "config.toml"]⟩ []]
  have made : (create (.folder [("config.toml", .file [35]), ("sub", .folder [])])
      ⟨["sub", "..", "new", "config.toml"]⟩).2 = .ok () := rfl
  have reach : Reach move? (.folder [("config.toml", .file [35]), ("sub", .folder [])]) _ _ :=
    .of_moves moves rfl
  exact ⟨made, ((create_all_or_nothing _ _).1.completed made).2.2, _, _, reach, rfl,
    ((create_all_or_nothing _ ⟨["config.toml"]⟩).2 _ _ _ reach rfl (by decide +kernel)).1⟩

theorem encode_template_ne_nil : Utf8.encode template.toList ≠ [] := by
  intro none
  have read := Utf8.decode?_encode template.toList
  rw [none] at read
  have empty : template = "" := String.toList_eq_nil_iff.mp (Option.some.inj read).symm
  simp [template] at empty

/-- A path that meets two points behind a missing folder leads nowhere before that folder is made, and somewhere after it.
So a file that is there is replaced although it was asked for first, and a failure leaves a folder at the end of the path
where none could be found. And a draft that cannot be moved stays in the place of a file of its name. -/
theorem create_not_all_or_nothing :
    (create (.folder [("config.toml", .file [])]) ⟨["sub", "..", "config.toml"]⟩ =
        (.folder [("config.toml", .file (Utf8.encode template.toList)), ("sub", .folder [])], .ok ())) ∧
      Utf8.encode template.toList ≠ [] ∧
      (create (.folder []) ⟨["sub", ".."]⟩ =
        (.folder [("sub", .folder [])], .error (.unwritable ⟨["sub", ".."]⟩))) ∧
      FileTree.find? (.folder []) ⟨["sub", ".."]⟩ = none ∧
      (FileTree.find? (.folder [("sub", .folder [])]) ⟨["sub", ".."]⟩).isSome ∧
      (create (.folder [("config.toml.tmp", .file [])]) ⟨["config.toml", ""]⟩ =
        (.folder [("config.toml.tmp", .file (Utf8.encode template.toList))],
          .error (.unmovable ⟨["config.toml.tmp"]⟩ ⟨["config.toml", ""]⟩))) :=
  ⟨rfl, encode_template_ne_nil, rfl, rfl, rfl, rfl⟩

end Config

end SessionBoard
