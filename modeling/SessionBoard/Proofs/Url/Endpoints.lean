import SessionBoard.Endpoints
import SessionBoard.Proofs.Url.Paths

namespace SessionBoard

namespace Url

variable {url url' : Url} {parts : List (List Char)} {path : List Char}

/-- The segments of a path but for the empty one that a slash at its end leaves. -/
def folder (url : Url) : List (List Char) :=
  if url.segments.getLast? = some [] then url.segments.dropLast else url.segments

/-- The slash that a path lacks at its end. -/
def missingSlash (url : Url) : List Char :=
  if url.path.getLast? = some '/' then [] else ['/']

theorem folder_append_of_slash (slash : url.segments.getLast? = some []) : url.folder ++ [[]] = url.segments := by
  obtain ⟨front, same⟩ := List.getLast?_eq_some_iff.mp slash
  rw [folder, if_pos slash, same, List.dropLast_concat]

theorem Settled.pathParts_path (settled : url.Settled) : pathParts url.path = [] :: url.segments := by
  rw [settled.path_eq, pathParts_of_segments settled.each]

/-- The segments can be read off the path. -/
theorem Settled.segments_eq (settled : url.Settled) (settled' : url'.Settled) (same : url'.path = url.path) :
    url'.segments = url.segments := by
  have parts := settled'.pathParts_path
  rw [same, settled.pathParts_path] at parts
  exact (List.cons.inj parts).2.symm

/-- As a folder an address has no more than a slash at the end of its path, if there is none yet. -/
theorem Settled.asFolder_eq (settled : url.Settled) :
    url.asFolder = { url with segments := url.folder ++ [[]] } := by
  unfold asFolder
  by_cases slash : url.segments.getLast? = some []
  · rw [if_pos (settled.getLast?_path.mpr slash), folder_append_of_slash slash]
  · rw [if_neg (mt settled.getLast?_path.mp slash), folder, if_neg slash]
    have each : ∀ part ∈ url.segments ++ [[]], IsSegment part :=
      List.forall_mem_append.mpr ⟨settled.each, List.forall_mem_singleton.mpr isSegment_nil⟩
    have parts : pathParts (url.path ++ ['/']) = [] :: (url.segments ++ [[]]) := by
      rw [settled.path_eq, ← intercalate_append_nil (List.cons_ne_nil _ _), List.cons_append,
        pathParts_of_segments each]
    have long : 1 < ([] :: (url.segments ++ [[]])).length := by simp
    simp only [withPath, parts, List.head?_cons, and_true, List.drop_one, List.tail_cons]
    rw [if_pos long, follow_segments each, List.nil_append]

theorem Settled.join_asFolder (settled : url.Settled) (each : ∀ part ∈ pathParts path, IsSegment part) :
    url.asFolder.join path =
      { url with segments := url.folder ++ pathParts path, query := none, fragment := none } := by
  rw [settled.asFolder_eq, join, follow_segments each, List.dropLast_concat]

/-- With the slash that it lacks a path is that of its folder. -/
theorem Settled.path_append_missingSlash (settled : url.Settled) :
    url.path ++ url.missingSlash = List.intercalate ['/'] ([] :: url.folder) ++ ['/'] := by
  unfold missingSlash
  by_cases slash : url.segments.getLast? = some []
  · rw [if_pos (settled.getLast?_path.mpr slash), settled.path_eq, ← folder_append_of_slash slash,
      ← List.cons_append, intercalate_append_nil (List.cons_ne_nil _ _), List.append_nil]
  · rw [if_neg (mt settled.getLast?_path.mp slash), settled.path_eq, folder, if_neg slash]

theorem Settled.asFolder (settled : url.Settled) : url.asFolder.Settled := by
  unfold Url.asFolder
  split
  · exact settled
  · exact settled_withPath url _

theorem Settled.path_asFolder (settled : url.Settled) : url.asFolder.path = url.path ++ url.missingSlash := by
  rw [settled.asFolder.path_eq, settled.path_append_missingSlash, settled.asFolder_eq, ← List.cons_append,
    intercalate_append_nil (List.cons_ne_nil _ _)]

/-- A slash at the end of a path does not change the folder. -/
theorem Settled.folder_eq_of_path (settled : url.Settled) (settled' : url'.Settled)
    (path : url'.path = url.path ++ url.missingSlash) : url'.folder = url.folder := by
  have segments : url'.segments = url.folder ++ [[]] := by
    rw [settled.asFolder.segments_eq settled' (path.trans settled.path_asFolder.symm), settled.asFolder_eq]
  rw [folder, segments, if_pos List.getLast?_concat, List.dropLast_concat]

/-- Two addresses lead to the same server in the same way. -/
structure SameServer (url base : Url) : Prop where
  scheme : url.scheme = base.scheme
  user : url.user = base.user
  password : url.password = base.password
  host : url.host = base.host
  port : url.port = base.port

/-- An address that leads below another one. -/
structure Below (url base : Url) (path : List Char) : Prop extends SameServer url base where
  query : url.query = none
  fragment : url.fragment = none
  /-- One slash stands between the two paths. -/
  path_eq : url.path = base.path ++ base.missingSlash ++ path
  /-- No segment is lost. -/
  segments_eq : url.segments = base.folder ++ path.splitOn '/'

theorem Settled.below_join (settled : url.Settled) (each : ∀ part ∈ pathParts path, IsSegment part)
    (parts : pathParts path = path.splitOn '/') : (url.asFolder.join path).Below url path := by
  rw [settled.join_asFolder each, parts]
  refine ⟨⟨rfl, rfl, rfl, rfl, rfl⟩, rfl, rfl, ?_, rfl⟩
  have some_part := List.splitOn_ne_nil '/' path
  rw [Url.path_eq (by simp [some_part]), settled.path_append_missingSlash, ← List.cons_append,
    intercalate_append (List.cons_ne_nil _ _) some_part, List.intercalate_splitOn]

end Url

namespace Endpoints

open Url (SameServer Below)

variable {base base' : Url} {text text' : String}

theorem settled_of_readServer (read : Url.readServer text = .ok base) : base.Settled := by
  unfold Url.readServer at read
  split at read
  · cases read
    exact Url.settled_of_read ‹_›
  · cases read
  · cases read

theorem each_isSegment_api {name : List Char} (segment : Url.IsSegment name) :
    ∀ part ∈ Url.pathParts ("api/".toList ++ name), Url.IsSegment part := by
  have api : Url.IsSegment "api".toList := by decide
  have each : ∀ part ∈ ["api".toList, name], Url.IsSegment part :=
    List.forall_mem_cons.mpr ⟨api, List.forall_mem_singleton.mpr segment⟩
  have parts : Url.pathParts (List.intercalate ['/'] ["api".toList, name]) = ["api".toList, name] :=
    Url.pathParts_intercalate (fun part member => ⟨(each part member).noSlash, (each part member).noBackslash⟩)
      (List.cons_ne_nil _ _)
  rw [List.intercalate_cons_cons, List.intercalate_singleton] at parts
  exact parts ▸ each

/-- An address below the api depends on the server and the folder alone. -/
theorem join_api_congr (settled : base.Settled) (settled' : base'.Settled) (same : base'.SameServer base)
    (folder : base'.folder = base.folder) {name : List Char} (segment : Url.IsSegment name) :
    base'.asFolder.join ("api/".toList ++ name) = base.asFolder.join ("api/".toList ++ name) := by
  have each := each_isSegment_api segment
  rw [settled.join_asFolder each, settled'.join_asFolder each, folder, same.scheme, same.user, same.password,
    same.host, same.port]

/-- Whatever text the address of a server was read from, its endpoints are below it, and it makes no difference
whether its path ends in a slash. -/
theorem ofBase_below (read : Url.readServer text = .ok base) :
    (ofBase base).sessions.Below base "api/sessions".toList ∧
      (ofBase base).events.Below base "api/events".toList ∧
      ∀ text' base', Url.readServer text' = .ok base' → base'.SameServer base →
        base'.path = base.path ++ base.missingSlash → ofBase base' = ofBase base := by
  have settled := settled_of_readServer read
  have sessions : Url.IsSegment "sessions".toList := by decide
  have events : Url.IsSegment "events".toList := by decide
  refine ⟨settled.below_join (each_isSegment_api sessions) rfl,
    settled.below_join (each_isSegment_api events) rfl, fun text' base' read' same path => ?_⟩
  have settled' := settled_of_readServer read'
  have folder := settled.folder_eq_of_path settled' path
  exact congrArg₂ Endpoints.mk (join_api_congr settled settled' same folder sessions)
    (join_api_congr settled settled' same folder events)

/-- An address with every part that one can have, whose path leads back in it, and the same with a slash after
its path. -/
theorem ofBase_below_of_every_part :
    ∃ base base', Url.readServer "https://a b:c@EXAMPLE.com:8443/no/%2e./x//y%2Fz é?q#f" = .ok base ∧
      Url.readServer "https://a b:c@EXAMPLE.com:8443/no/%2e./x//y%2Fz é/?q#f" = .ok base' ∧
      base.path = "/x//y%2Fz%20%C3%A9".toList ∧ base.missingSlash = ['/'] ∧
      (ofBase base).sessions.Below base "api/sessions".toList ∧
      (ofBase base).events.Below base "api/events".toList ∧ ofBase base' = ofBase base := by
  have read : Url.readServer "https://a b:c@EXAMPLE.com:8443/no/%2e./x//y%2Fz é?q#f" =
      .ok ⟨.https, "a%20b".toList, "c".toList, "example.com".toList, some 8443,
        ["x".toList, [], "y%2Fz%20%C3%A9".toList], some ['q'], some ['f']⟩ := by
    decide +kernel
  have read' : Url.readServer "https://a b:c@EXAMPLE.com:8443/no/%2e./x//y%2Fz é/?q#f" =
      .ok ⟨.https, "a%20b".toList, "c".toList, "example.com".toList, some 8443,
        ["x".toList, [], "y%2Fz%20%C3%A9".toList, []], some ['q'], some ['f']⟩ := by
    decide +kernel
  obtain ⟨sessions, events, congr⟩ := ofBase_below read
  exact ⟨_, _, read, read', by decide, by decide, sessions, events,
    congr _ _ read' ⟨rfl, rfl, rfl, rfl, rfl⟩ (by decide)⟩

end Endpoints

end SessionBoard
