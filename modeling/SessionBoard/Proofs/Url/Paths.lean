import SessionBoard.Url.Web
import Mathlib.Tactic.Common

namespace SessionBoard.Url

variable {named part text : List Char} {char : Char} {parts segments : List (List Char)} {url : Url}

/-- The characters of an escaped octet. -/
def escapeChars : List Char := "%0123456789ABCDEF".toList

theorem hexDigit_mem : ∀ n < 16, hexDigit n ∈ escapeChars := by
  decide

theorem mem_escapeChars_of_mem_escapeOctet {octet : UInt8} (member : char ∈ escapeOctet octet) :
    char ∈ escapeChars := by
  have := octet.toNat_lt
  simp only [escapeOctet, List.mem_cons, List.not_mem_nil, or_false] at member
  rcases member with rfl | rfl | rfl
  · decide
  · exact hexDigit_mem _ (by omega)
  · exact hexDigit_mem _ (by omega)

/-- Whether a character is escaped. -/
def isEscaped (named : List Char) (char : Char) : Bool := isHidden char || named.contains char

theorem escape_cons (named : List Char) (char : Char) (text : List Char) :
    escape named (char :: text) =
      (if isEscaped named char then (String.utf8EncodeChar char).flatMap escapeOctet else [char]) ++
        escape named text :=
  List.flatMap_cons

theorem escape_cons_of_not (plain : isEscaped named char = false) (text : List Char) :
    escape named (char :: text) = char :: escape named text := by
  rw [escape_cons, if_neg (by simp [plain])]
  rfl

theorem escape_eq_self (plain : ∀ char ∈ text, isEscaped named char = false) : escape named text = text := by
  induction text with
  | nil => rfl
  | cons char text ih =>
    obtain ⟨first, others⟩ := List.forall_mem_cons.mp plain
    rw [escape_cons_of_not first, ih others]

/-- What stands in an escaped text has been there before or belongs to an escape. -/
theorem mem_escape (member : char ∈ escape named text) :
    (char ∈ text ∧ isEscaped named char = false) ∨ char ∈ escapeChars := by
  obtain ⟨source, inText, member⟩ := List.mem_flatMap.mp member
  split at member
  · obtain ⟨octet, _, inOctet⟩ := List.mem_flatMap.mp member
    exact .inr (mem_escapeChars_of_mem_escapeOctet inOctet)
  · rename_i plain
    cases List.mem_singleton.mp member
    exact .inl ⟨inText, Bool.eq_false_iff.mpr plain⟩

theorem not_isEscaped_of_mem_escapeChars : ∀ char ∈ escapeChars, isEscaped pathEscapes char = false := by
  have plain : escapeChars.all (!isEscaped pathEscapes ·) := by decide
  simpa using plain

/-- Nothing is escaped twice. -/
theorem escape_escape (text : List Char) :
    escape pathEscapes (escape pathEscapes text) = escape pathEscapes text := by
  refine escape_eq_self fun char member => ?_
  rcases mem_escape member with ⟨_, plain⟩ | escaped
  · exact plain
  · exact not_isEscaped_of_mem_escapeChars char escaped

theorem ofNat_ne_point {n : Nat} (bound : n < 256) (other : n ≠ 0x2e) : UInt8.ofNat n ≠ 0x2e := by
  intro same
  have value := congrArg UInt8.toNat same
  rw [UInt8.toNat_ofNat_of_lt' bound] at value
  exact other value

/-- The octet of a point stands in no other character. -/
theorem ne_point_of_mem (other : char ≠ '.') : ∀ octet ∈ String.utf8EncodeChar char, octet ≠ 0x2e := by
  have differs : char.val.toNat ≠ 0x2e := fun same => other (Char.ext (UInt32.toNat_inj.mp same))
  have valid := char.val.toNat_lt
  simp only [String.utf8EncodeChar]
  intro octet member
  split at member
  · rw [List.mem_singleton.mp member]
    exact ofNat_ne_point (by omega) differs
  split at member
  · simp only [List.mem_cons, List.not_mem_nil, or_false] at member
    rcases member with rfl | rfl <;> exact ofNat_ne_point (by omega) (by omega)
  split at member
  · simp only [List.mem_cons, List.not_mem_nil, or_false] at member
    rcases member with rfl | rfl | rfl <;> exact ofNat_ne_point (by omega) (by omega)
  · simp only [List.mem_cons, List.not_mem_nil, or_false] at member
    rcases member with rfl | rfl | rfl | rfl <;> exact ofNat_ne_point (by omega) (by omega)

theorem pointsOf_cons (rest : List Char)
    (plain : ∀ mark tail, char = '%' → rest = '2' :: mark :: tail → mark ≠ 'e' ∧ mark ≠ 'E') :
    pointsOf (char :: rest) = char :: pointsOf rest := by
  rw [pointsOf.eq_def]
  split <;> simp_all

theorem pointsOf_cons_of_ne (other : char ≠ '%') (rest : List Char) :
    pointsOf (char :: rest) = char :: pointsOf rest :=
  pointsOf_cons rest fun _ _ same => absurd same other

theorem hexDigit_ne : ∀ n < 16, hexDigit n ≠ '%' ∧ hexDigit n ≠ 'e' := by
  decide

theorem eq_of_hexDigit : ∀ m < 16, ∀ n < 16, hexDigit m = hexDigit n → m = n := by
  decide

/-- The escape of an octet is no point, if the octet is none. -/
theorem pointsOf_escapeOctet {octet : UInt8} (other : octet ≠ 0x2e) (tail : List Char) :
    pointsOf (escapeOctet octet ++ tail) = escapeOctet octet ++ pointsOf tail := by
  have bound := octet.toNat_lt
  obtain ⟨high, _⟩ := hexDigit_ne (octet.toNat / 16) (by omega)
  obtain ⟨low, small⟩ := hexDigit_ne (octet.toNat % 16) (by omega)
  have others : pointsOf (hexDigit (octet.toNat / 16) :: hexDigit (octet.toNat % 16) :: tail) =
      hexDigit (octet.toNat / 16) :: hexDigit (octet.toNat % 16) :: pointsOf tail := by
    rw [pointsOf_cons_of_ne high, pointsOf_cons_of_ne low]
  refine (pointsOf_cons _ fun mark _ _ same => ?_).trans (congrArg _ others)
  obtain ⟨two, rest⟩ := List.cons.inj same
  obtain ⟨rfl, _⟩ := List.cons.inj rest
  refine ⟨small, fun capital => other (UInt8.toNat_inj.mp ?_)⟩
  have first : octet.toNat / 16 = 2 := eq_of_hexDigit _ (by omega) 2 (by omega) two
  have second : octet.toNat % 16 = 14 := eq_of_hexDigit _ (by omega) 14 (by omega) capital
  change octet.toNat = 46
  omega

theorem pointsOf_escapeOctets {octets : List UInt8} (others : ∀ octet ∈ octets, octet ≠ 0x2e)
    (tail : List Char) :
    pointsOf (octets.flatMap escapeOctet ++ tail) = octets.flatMap escapeOctet ++ pointsOf tail := by
  induction octets with
  | nil => rfl
  | cons octet octets ih =>
    obtain ⟨first, rest⟩ := List.forall_mem_cons.mp others
    rw [List.flatMap_cons, List.append_assoc, pointsOf_escapeOctet first, ih rest, List.append_assoc]

/-- An escape starts with a percent sign. -/
theorem escapeOctets_eq_cons (char : Char) :
    ∃ rest, (String.utf8EncodeChar char).flatMap escapeOctet = '%' :: rest := by
  have positive := char.utf8Size_pos
  rw [← String.length_utf8EncodeChar] at positive
  obtain ⟨octet, octets, whole⟩ := List.exists_cons_of_length_pos positive
  rw [whole]
  exact ⟨_, rfl⟩

/-- A character that starts no escape has been there before. -/
theorem escape_eq_cons {tail : List Char} (noMark : char ≠ '%') (found : escape named text = char :: tail) :
    ∃ rest, text = char :: rest ∧ escape named rest = tail := by
  cases text with
  | nil => cases found
  | cons first text =>
    rw [escape_cons] at found
    split at found
    · obtain ⟨rest, starts⟩ := escapeOctets_eq_cons first
      rw [starts] at found
      exact absurd (List.cons.inj found).1.symm noMark
    · obtain ⟨rfl, same⟩ := List.cons.inj found
      exact ⟨text, rfl, same⟩

theorem eq_nil_of_escape_eq_nil (nothing : escape named text = []) : text = [] := by
  cases text with
  | nil => rfl
  | cons first text =>
    obtain ⟨rest, starts⟩ := escapeOctets_eq_cons first
    rw [escape_cons, starts] at nothing
    split at nothing <;> cases nothing

/-- It makes no difference whether points are resolved before or after the rest is escaped. -/
theorem pointsOf_escape (text : List Char) :
    pointsOf (escape pathEscapes text) = escape pathEscapes (pointsOf text) := by
  have point : isEscaped pathEscapes '.' = false := by decide
  have two : isEscaped pathEscapes '2' = false := by decide
  have mark : isEscaped pathEscapes '%' = false := by decide
  fun_induction pointsOf text with
  | case1 rest ih =>
    have small : isEscaped pathEscapes 'e' = false := by decide
    rw [escape_cons_of_not mark, escape_cons_of_not two, escape_cons_of_not small,
      escape_cons_of_not point, ← ih, pointsOf]
  | case2 rest ih =>
    have capital : isEscaped pathEscapes 'E' = false := by decide
    rw [escape_cons_of_not mark, escape_cons_of_not two, escape_cons_of_not capital,
      escape_cons_of_not point, ← ih, pointsOf]
  | case3 char rest noSmall noCapital ih =>
    cases escaped : isEscaped pathEscapes char with
    | true =>
      have other : char ≠ '.' := by
        rintro rfl
        exact absurd escaped (by simp [point])
      rw [escape_cons, escape_cons, if_pos escaped, pointsOf_escapeOctets (ne_point_of_mem other), ih]
    | false =>
      rw [escape_cons_of_not escaped, escape_cons_of_not escaped, ← ih]
      refine pointsOf_cons _ fun letter tail isMark found => ?_
      obtain ⟨second, rfl, later⟩ := escape_eq_cons (by decide) found
      constructor
      · rintro rfl
        obtain ⟨third, rfl, _⟩ := escape_eq_cons (by decide) later
        exact noSmall third isMark rfl
      · rintro rfl
        obtain ⟨third, rfl, _⟩ := escape_eq_cons (by decide) later
        exact noCapital third isMark rfl
  | case4 => rfl

/-- Points are not made by escaping. -/
theorem eq_points_of_escape {points : List Char} (only : ∀ char ∈ points, char = '.')
    (same : escape named text = points) : text = points := by
  induction points generalizing text with
  | nil => exact eq_nil_of_escape_eq_nil same
  | cons point points ih =>
    obtain ⟨rfl, others⟩ := List.forall_mem_cons.mp only
    obtain ⟨rest, rfl, later⟩ := escape_eq_cons (by decide) same
    rw [ih others later]

/-- What is cut at a character holds it no more. -/
theorem mem_of_mem_splitOn {separator : Char} (member : part ∈ text.splitOn separator) (inPart : char ∈ part) :
    char ∈ text ∧ char ≠ separator := by
  induction text generalizing part with
  | nil =>
    rw [List.splitOn_nil, List.mem_singleton] at member
    subst member
    cases inPart
  | cons first text ih =>
    obtain ⟨head, others, cut⟩ := List.exists_cons_of_ne_nil (List.splitOn_ne_nil separator text)
    have cut' : text.splitOnP (· == separator) = head :: others := cut
    rw [cut] at ih
    rw [List.splitOn, List.splitOnP_cons_eq_if_modifyHead, cut', List.modifyHead_cons] at member
    split at member
    · rcases List.mem_cons.mp member with rfl | later
      · cases inPart
      · exact (ih later inPart).imp_left (List.mem_cons_of_mem first)
    · rename_i other
      rcases List.mem_cons.mp member with rfl | later
      · rcases List.mem_cons.mp inPart with rfl | inHead
        · exact ⟨List.mem_cons_self, by simpa using other⟩
        · exact (ih List.mem_cons_self inHead).imp_left (List.mem_cons_of_mem first)
      · exact (ih (List.mem_cons_of_mem head later) inPart).imp_left (List.mem_cons_of_mem first)

/-- A part of a path that is written as it is and leads to a place of its own. -/
structure IsSegment (part : List Char) : Prop where
  escaped : escape pathEscapes part = part
  noSlash : '/' ∉ part
  noBackslash : '\\' ∉ part
  noPoint : pointsOf part ≠ ['.']
  noPoints : pointsOf part ≠ ['.', '.']

instance (part : List Char) : Decidable (IsSegment part) :=
  decidable_of_iff (escape pathEscapes part = part ∧ '/' ∉ part ∧ '\\' ∉ part ∧ pointsOf part ≠ ['.'] ∧
    pointsOf part ≠ ['.', '.']) ⟨fun ⟨a, b, c, d, e⟩ => ⟨a, b, c, d, e⟩, fun ⟨a, b, c, d, e⟩ => ⟨a, b, c, d, e⟩⟩

theorem isSegment_nil : IsSegment [] := by
  decide

theorem slash_not_mem_escape (noSlash : '/' ∉ part) : '/' ∉ escape pathEscapes part := by
  intro member
  rcases mem_escape member with ⟨inPart, _⟩ | escaped
  · exact noSlash inPart
  · revert escaped
    decide

theorem isSegment_escape (noSlash : '/' ∉ part) (noBackslash : '\\' ∉ part) (noPoint : pointsOf part ≠ ['.'])
    (noPoints : pointsOf part ≠ ['.', '.']) : IsSegment (escape pathEscapes part) where
  escaped := escape_escape part
  noSlash := slash_not_mem_escape noSlash
  noBackslash := by
    intro member
    rcases mem_escape member with ⟨inPart, _⟩ | escaped
    · exact noBackslash inPart
    · revert escaped
      decide
  noPoint := by
    rw [pointsOf_escape]
    exact fun same => noPoint (eq_points_of_escape (by simp) same)
  noPoints := by
    rw [pointsOf_escape]
    exact fun same => noPoints (eq_points_of_escape (by simp) same)

theorem follow_segments (each : ∀ part ∈ parts, IsSegment part) (segments : List (List Char)) :
    follow segments parts = segments ++ parts := by
  induction parts generalizing segments with
  | nil => exact (List.append_nil segments).symm
  | cons part parts ih =>
    obtain ⟨first, others⟩ := List.forall_mem_cons.mp each
    rw [follow, if_neg first.noPoints, if_neg first.noPoint, first.escaped, ih others, List.append_assoc]
    rfl

/-- The parts of a path hold no slash, in either direction. -/
theorem noSlash_of_mem_pathParts (member : part ∈ pathParts text) : '/' ∉ part ∧ '\\' ∉ part := by
  refine ⟨fun inPart => (mem_of_mem_splitOn member inPart).2 rfl, fun inPart => ?_⟩
  obtain ⟨char, _, same⟩ := List.mem_map.mp (mem_of_mem_splitOn member inPart).1
  split at same
  · cases same
  · rename_i other
    exact other same

theorem pathParts_ne_nil (text : List Char) : pathParts text ≠ [] :=
  List.splitOn_ne_nil _ _

theorem each_isSegment_follow (noSlash : ∀ part ∈ parts, '/' ∉ part ∧ '\\' ∉ part)
    (each : ∀ part ∈ segments, IsSegment part) : ∀ part ∈ follow segments parts, IsSegment part := by
  have slash (rest : List (List Char)) :
      ∀ part ∈ (if rest.isEmpty then [[]] else [] : List (List Char)), IsSegment part := by
    split
    · simpa using isSegment_nil
    · simp
  induction parts generalizing segments with
  | nil => exact each
  | cons part parts ih =>
    obtain ⟨first, others⟩ := List.forall_mem_cons.mp noSlash
    rw [follow]
    split
    · exact ih others (List.forall_mem_append.mpr
        ⟨fun part member => each part (List.dropLast_subset _ member), slash parts⟩)
    rename_i noPoints
    split
    · exact ih others (List.forall_mem_append.mpr ⟨each, slash parts⟩)
    · rename_i noPoint
      refine ih others (List.forall_mem_append.mpr ⟨each, ?_⟩)
      exact List.forall_mem_singleton.mpr (isSegment_escape first.1 first.2 noPoint noPoints)

/-- The last part of a path leaves a segment, if only an empty one. -/
theorem follow_ne_nil (segments : List (List Char)) (some_part : parts ≠ []) : follow segments parts ≠ [] := by
  induction parts generalizing segments with
  | nil => exact absurd rfl some_part
  | cons part parts ih =>
    cases parts with
    | nil =>
      simp only [follow, List.isEmpty_nil, if_true]
      split
      · simp
      · split <;> simp
    | cons next parts =>
      have later (segments : List (List Char)) : follow segments (next :: parts) ≠ [] :=
        ih segments (List.cons_ne_nil next parts)
      rw [follow]
      split
      · exact later _
      · split <;> exact later _

/-- The path of an address is in the form that it is written in, so that it stays as it is when it is written
and read again, whatever was escaped in it and wherever its points led. -/
structure Settled (url : Url) : Prop where
  each : ∀ part ∈ url.segments, IsSegment part
  some_segment : url.segments ≠ []

theorem settled_withPath (url : Url) (path : List Char) : (url.withPath path).Settled := by
  have noSlash : ∀ part ∈ pathParts path, '/' ∉ part ∧ '\\' ∉ part := fun _ => noSlash_of_mem_pathParts
  constructor
  · refine each_isSegment_follow (fun part member => noSlash part ?_) (by simp)
    split at member
    · exact List.mem_of_mem_drop member
    · exact member
  · refine follow_ne_nil [] ?_
    split
    · rename_i long
      rw [ne_eq, List.drop_eq_nil_iff]
      omega
    · exact pathParts_ne_nil path

/-- An address that was read has a path in that form. -/
theorem settled_of_read (read : Url.read text = .ok url) : url.Settled := by
  have web {scheme : WebScheme} {usual : Nat} {rest : List Char}
      (read : (readWeb scheme usual rest).elim (.error .malformed) .ok = (.ok url : Except UrlFault Url)) :
      url.Settled := by
    cases found : readWeb scheme usual rest with
    | none => rw [found] at read; cases read
    | some url' =>
      rw [found] at read
      cases read
      obtain ⟨authority, _, same⟩ := Option.bind_eq_some_iff.mp found
      cases same
      exact settled_withPath _ _
  unfold Url.read at read
  split at read
  · cases read
  split at read
  · exact web read
  split at read
  · exact web read
  split at read <;> cases read

theorem mem_of_mem_intercalate (member : char ∈ List.intercalate ['/'] parts) :
    char = '/' ∨ ∃ part ∈ parts, char ∈ part := by
  induction parts with
  | nil => cases member
  | cons part parts ih =>
    cases parts with
    | nil => exact .inr ⟨part, List.mem_cons_self, by simpa using member⟩
    | cons next parts =>
      rw [List.intercalate_cons_cons, List.mem_append, List.mem_append, List.mem_singleton] at member
      rcases member with (inPart | rfl) | later
      · exact .inr ⟨part, List.mem_cons_self, inPart⟩
      · exact .inl rfl
      · exact (ih later).imp_right fun ⟨other, inParts, inOther⟩ =>
          ⟨other, List.mem_cons_of_mem part inParts, inOther⟩

/-- Parts that are written one after the other are read as the same parts. -/
theorem pathParts_intercalate (noSlash : ∀ part ∈ parts, '/' ∉ part ∧ '\\' ∉ part) (some_part : parts ≠ []) :
    pathParts (List.intercalate ['/'] parts) = parts := by
  have turned : (List.intercalate ['/'] parts).map (fun char => if char = '\\' then '/' else char) =
      List.intercalate ['/'] parts := by
    conv_rhs => rw [← List.map_id (List.intercalate ['/'] parts)]
    refine List.map_congr_left fun char member => if_neg ?_
    rintro rfl
    rcases mem_of_mem_intercalate member with other | ⟨part, inParts, inPart⟩
    · cases other
    · exact (noSlash part inParts).2 inPart
  rw [pathParts, turned]
  exact List.splitOn_intercalate '/' (fun part member => (noSlash part member).1) some_part

/-- After a slash the segments of a path are read as they are written. -/
theorem pathParts_of_segments (each : ∀ part ∈ segments, IsSegment part) :
    pathParts (List.intercalate ['/'] ([] :: segments)) = [] :: segments := by
  refine pathParts_intercalate (List.forall_mem_cons.mpr ⟨by simp, fun part member => ?_⟩) (by simp)
  exact ⟨(each part member).noSlash, (each part member).noBackslash⟩

theorem path_eq (some_segment : url.segments ≠ []) :
    url.path = List.intercalate ['/'] ([] :: url.segments) := by
  obtain ⟨segment, segments, whole⟩ := List.exists_cons_of_ne_nil some_segment
  rw [path, whole, List.intercalate_cons_cons]
  rfl

theorem Settled.path_eq (settled : url.Settled) : url.path = List.intercalate ['/'] ([] :: url.segments) :=
  Url.path_eq settled.some_segment

theorem intercalate_append {parts more : List (List Char)} (some_part : parts ≠ []) (some_more : more ≠ []) :
    List.intercalate ['/'] (parts ++ more) =
      List.intercalate ['/'] parts ++ ['/'] ++ List.intercalate ['/'] more := by
  induction parts with
  | nil => exact absurd rfl some_part
  | cons part parts ih =>
    cases parts with
    | nil =>
      obtain ⟨first, others, rfl⟩ := List.exists_cons_of_ne_nil some_more
      rw [List.singleton_append, List.intercalate_cons_cons, List.intercalate_singleton]
    | cons next parts =>
      rw [List.cons_append, List.cons_append, List.intercalate_cons_cons, ← List.cons_append,
        ih (List.cons_ne_nil next parts), List.intercalate_cons_cons]
      simp only [List.append_assoc]

/-- A slash after the parts is one more part, an empty one. -/
theorem intercalate_append_nil (some_part : parts ≠ []) :
    List.intercalate ['/'] (parts ++ [[]]) = List.intercalate ['/'] parts ++ ['/'] := by
  rw [intercalate_append some_part (List.cons_ne_nil _ _), List.intercalate_singleton, List.append_nil]

/-- A path ends in a slash where its last segment is empty. -/
theorem Settled.getLast?_path (settled : url.Settled) :
    url.path.getLast? = some '/' ↔ url.segments.getLast? = some [] := by
  obtain ⟨front, last, whole⟩ := List.eq_nil_or_concat url.segments |>.resolve_left settled.some_segment
  rw [List.concat_eq_append] at whole
  rw [settled.path_eq, whole, List.getLast?_concat, ← List.cons_append,
    intercalate_append (List.cons_ne_nil _ _) (List.cons_ne_nil _ _), List.intercalate_singleton,
    List.getLast?_append]
  cases found : last.getLast? with
  | none =>
    rw [List.getLast?_eq_none_iff.mp found, Option.none_or, List.getLast?_concat]
    exact ⟨fun _ => rfl, fun _ => rfl⟩
  | some char =>
    have segment := settled.each last (by simp [whole])
    have inLast := List.mem_of_getLast? found
    constructor
    · intro slash
      cases slash
      exact absurd inLast segment.noSlash
    · intro nothing
      cases nothing
      cases inLast

end SessionBoard.Url
