import SessionBoard.Cli.Run
import SessionBoard.Proofs.Json.Written
import SessionBoard.Proofs.Session.Presentation

namespace SessionBoard

open Json SessionBoard.Text

theorem isDigit_of_decimal {n : Nat} {char : Char} (member : char ∈ Nat.toDigits 10 n) : char.isDigit :=
  Nat.isDigit_of_mem_toDigits (by decide) (Nat.le_refl 10) member

theorem natural?_toDigits (n : Nat) : natural? (Nat.toDigits 10 n) = some n := by
  have digits : (Nat.toDigits 10 n).all Char.isDigit := List.all_eq_true.mpr fun _ => isDigit_of_decimal
  rw [natural?, if_pos ⟨Nat.toDigits_ne_nil, digits⟩, Nat.ofDigitChars_ten_toDigits]

/-- An id goes out as a number exactly if its text is the decimal form of one that 64 bits hold. -/
theorem integer?_eq_some {id : SessionId} {value : Int} :
    id.integer? = some value ↔
      id.text = toString value ∧ -0x8000000000000000 ≤ value ∧ value ≤ 0xffffffffffffffff := by
  rw [SessionId.integer?]
  simp only [Option.filter_eq_some_iff, decide_eq_true_eq]
  constructor
  · rintro ⟨_, same, range⟩
    exact ⟨same.symm, range⟩
  · rintro ⟨same, range⟩
    refine ⟨?_, same.symm, range⟩
    rw [same]
    cases value with
    | ofNat n =>
      rw [toList_toString_ofNat]
      split
      · rename_i digits sign
        have digit : '-'.isDigit := isDigit_of_decimal (n := n) (sign ▸ List.mem_cons_self)
        cases digit
      · rw [natural?_toDigits]
        rfl
    | negSucc n =>
      rw [toList_toString_negSucc]
      simp only [natural?_toDigits]
      rfl

theorem scalar_eq_integer {id : SessionId} {value : Int} :
    id.scalar = .integer value ↔
      id.text = toString value ∧ -0x8000000000000000 ≤ value ∧ value ≤ 0xffffffffffffffff := by
  rw [← integer?_eq_some, SessionId.scalar]
  cases id.integer? <;> simp

/-- A zero in front, a plus and a minus zero are kept, and so is a number too large by one. -/
example : ["007", "+5", "-0", "18446744073709551616"].map (fun text => (SessionId.mk text).scalar) =
    [.text "007", .text "+5", .text "-0", .text "18446744073709551616"] := by decide

example : ["-9223372036854775808", "18446744073709551615"].map (fun text => (SessionId.mk text).scalar) =
    [.integer (-0x8000000000000000), .integer 0xffffffffffffffff] := by decide

theorem idText_scalar (id : SessionId) : IdText id (Utf8.encode id.scalar.write) := by
  rw [SessionId.scalar]
  cases found : id.integer? with
  | none => exact .quoted (stringText_quote id.text)
  | some value =>
    obtain ⟨canonical, lower, upper⟩ := integer?_eq_some.mp found
    exact .number canonical ⟨rfl, lower, upper⟩

/-- What goes out for an id is read as that id alone. -/
theorem scalar_write_injective {id other : SessionId} (same : id.scalar.write = other.scalar.write) : id = other := by
  have read := reads_id 0 id _ (idText_scalar id) [] [] Blank.nil (fun _ => nofun)
  have readOther := reads_id 0 other _ (idText_scalar other) [] [] Blank.nil (fun _ => nofun)
  rw [same, readOther] at read
  cases read
  rfl

namespace SessionRecord

/-- What a record can hold: a state is that of some code, and integers have 64 bits with their sign. -/
structure Fits (record : SessionRecord) : Prop where
  state : ∃ code : Int, -0x8000000000000000 ≤ code ∧ code ≤ 0x7fffffffffffffff ∧ record.state = .ofCode code
  earliest : -0x8000000000000000 ≤ record.startedAt
  latest : record.startedAt ≤ 0x7fffffffffffffff

/-- The value under the name of a field. -/
def Field.scalar : Field → Scalar
  | .id value => value.scalar
  | .protocol value => .text value
  | .state value => .integer value.code
  | .host value => .text value
  | .origin value => .text value
  | .startedAt value => .integer value

theorem code_ofCode (code : Int) : (SessionState.ofCode code).code = code := by
  unfold SessionState.ofCode
  split
  · rename_i zero
    exact zero.symm
  split
  · rename_i one
    exact one.symm
  split
  · rename_i two
    exact two.symm
  · rfl

theorem signedText_write {value : Int} (lower : -0x8000000000000000 ≤ value) (upper : value ≤ 0x7fffffffffffffff) :
    SignedText value (Utf8.encode (Scalar.write (.integer value))) :=
  ⟨⟨rfl, lower, by omega⟩, upper⟩

theorem Fits.fieldText {record : SessionRecord} (fits : record.Fits) :
    ∀ field ∈ record.parts, FieldText field (Utf8.encode field.scalar.write) := by
  obtain ⟨code, lower, upper, state⟩ := fits.state
  have stateText : StateText record.state (Utf8.encode (Scalar.write (.integer record.state.code))) := by
    rw [state, code_ofCode]
    exact .code (signedText_write lower upper)
  simp only [parts, List.forall_mem_cons]
  exact ⟨.id (idText_scalar _), .protocol (stringText_quote _), .state stateText, .host (stringText_quote _),
    .origin (stringText_quote _), .startedAt (signedText_write fits.earliest fits.latest), List.forall_mem_nil _⟩

variable {record : SessionRecord} {records : List SessionRecord} {lead space trail : List Char}

theorem entryText_written {field : Field} (written : FieldText field (Utf8.encode field.scalar.write))
    (blank : Blank (Utf8.encode space)) :
    EntryText (some field) (Utf8.encode (quote field.name ++ ':' :: (space ++ field.scalar.write))) := by
  have member := MemberText.parts (stringText_quote field.name) Blank.nil blank written
  rw [Utf8.encode_append, Utf8.encode_cons, Utf8.encode_append]
  exact .known member

/-- A record as an object, with these blanks before a member, after its colon and after the last one. -/
def spaced (lead space trail : List Char) (record : SessionRecord) : List Char :=
  '{' :: lead ++ joinWith (',' :: lead)
    (record.parts.map fun field => quote field.name ++ ':' :: (space ++ field.scalar.write)) ++ trail ++ ['}']

theorem compactObject_fields (record : SessionRecord) : compactObject record.fields = spaced [] [] [] record := by
  rw [spaced, List.append_nil]
  rfl

theorem prettyObject_fields (depth : Nat) (record : SessionRecord) :
    prettyObject depth record.fields = spaced (newline (depth + 1)) [' '] (newline depth) record :=
  rfl

theorem Fits.recordText (fits : record.Fits) (blank : Blank (Utf8.encode lead)) (blank' : Blank (Utf8.encode space))
    (blank'' : Blank (Utf8.encode trail)) : RecordText record (Utf8.encode (spaced lead space trail record)) := by
  have written : ∀ field ∈ record.parts,
      EntryText (some field) (Utf8.encode (quote field.name ++ ':' :: (space ++ field.scalar.write))) :=
    fun field member => entryText_written (fits.fieldText field member) blank'
  have enclosed : Enclosed (fun field => EntryText (some field)) 0x7b 0x7d record.parts
      (Utf8.encode (spaced lead space trail record)) := enclosed_joinWith blank blank'' written rfl rfl
  exact .object enclosed.map (List.Perm.refl record.parts)

theorem blank_newline (depth : Nat) : Blank (Utf8.encode (newline depth)) := by
  simp only [Blank, Utf8.encode, newline, List.mem_flatMap, List.mem_cons, List.mem_replicate]
  rintro octet ⟨char, rfl | ⟨_, rfl⟩, member⟩
  · rw [List.mem_singleton.mp member]
    decide
  · rw [List.mem_singleton.mp member]
    decide

theorem enclosed_compact (fits : ∀ record ∈ records, record.Fits) :
    Enclosed RecordText 0x5b 0x5d records (Utf8.encode (compact records)) := by
  cases records with
  | nil => exact .between (.none Blank.nil)
  | cons record records =>
    have written : ∀ other ∈ record :: records, RecordText other (Utf8.encode (compactObject other.fields)) := by
      intro other member
      rw [compactObject_fields]
      exact (fits other member).recordText Blank.nil Blank.nil Blank.nil
    have split : compact (record :: records) = '[' :: [] ++ joinWith (',' :: [])
        ((record :: records).map fun other => compactObject other.fields) ++ [] ++ [']'] := by
      rw [compact, compactList, List.map_map, List.append_nil]
      rfl
    have none : Blank (Utf8.encode []) := Blank.nil
    rw [split]
    exact enclosed_joinWith none none written rfl rfl

theorem enclosed_pretty (fits : ∀ record ∈ records, record.Fits) :
    Enclosed RecordText 0x5b 0x5d records (Utf8.encode (pretty records)) := by
  cases records with
  | nil => exact .between (.none Blank.nil)
  | cons record records =>
    have written : ∀ other ∈ record :: records, RecordText other (Utf8.encode (prettyObject 1 other.fields)) := by
      intro other member
      rw [prettyObject_fields]
      exact (fits other member).recordText (blank_newline 2) (by decide) (blank_newline 1)
    rw [pretty, List.map_cons, prettyList, List.map_cons, List.map_map]
    exact enclosed_joinWith (blank_newline 1) (blank_newline 0) written rfl rfl

theorem parseList_enclosed {octets after : Octets} (enclosed : Enclosed RecordText 0x5b 0x5d records octets)
    (blank : Blank after) : parseList (octets ++ after) = .ok records :=
  parseList_presented (.blanks Blank.nil enclosed blank)

/-- A session list comes back as it was, from one line, from an indented form and from what is printed. The id of
a session is a number there exactly if its text is the decimal form of one that 64 bits hold, and no two ids look
the same. -/
theorem decoded_as_encoded :
    (∀ records : List SessionRecord, (∀ record ∈ records, record.Fits) →
      parseList (Utf8.encode (compact records)) = .ok records ∧
        parseList (Utf8.encode (pretty records)) = .ok records ∧
        ∀ now, parseList (Utf8.encode (Cli.listText true records now)) = .ok records) ∧
    (∀ (id : SessionId) (value : Int), id.scalar = .integer value ↔
      id.text = toString value ∧ -0x8000000000000000 ≤ value ∧ value ≤ 0xffffffffffffffff) ∧
    ∀ id other : SessionId, id.text ≠ other.text → id.scalar.write ≠ other.scalar.write := by
  refine ⟨fun records fits => ⟨?_, ?_, fun now => ?_⟩, fun _ _ => scalar_eq_integer, fun id other unlike same => ?_⟩
  · have read := parseList_enclosed (enclosed_compact fits) Blank.nil
    rwa [List.append_nil] at read
  · have read := parseList_enclosed (enclosed_pretty fits) Blank.nil
    rwa [List.append_nil] at read
  · have printed : Utf8.encode (Cli.listText true records now) = Utf8.encode (pretty records) ++ [0x0a] := by
      rw [Cli.listText, if_pos rfl, Cli.unlines, List.flatMap_cons, List.flatMap_nil, List.append_nil,
        Utf8.encode_append]
      rfl
    rw [printed]
    exact parseList_enclosed (enclosed_pretty fits) (by decide)
  · exact unlike (congrArg SessionId.text (scalar_write_injective same))

/-- Sessions with a text that needs escapes, the least id that is a number, and a state without a meaning. -/
def oddSessions : List SessionRecord :=
  [⟨⟨"-9223372036854775808"⟩, "\"\\\x00\t", .unknown 7, "é", "😀", -1⟩, ⟨⟨"007"⟩, "", .waiting, "", "", 0⟩]

theorem oddSessions_fit : ∀ record ∈ oddSessions, record.Fits := by
  simp only [oddSessions, List.forall_mem_cons]
  exact ⟨⟨⟨7, by decide, by decide, rfl⟩, by decide, by decide⟩,
    ⟨⟨0, by decide, by decide, rfl⟩, by decide, by decide⟩, List.forall_mem_nil _⟩

theorem decoded_as_encoded_with_escapes :
    parseList (Utf8.encode (compact oddSessions)) = .ok oddSessions ∧
      parseList (Utf8.encode (pretty oddSessions)) = .ok oddSessions ∧
      (SessionId.mk "7").scalar = .integer 7 ∧
      (SessionId.mk "7").scalar.write ≠ (SessionId.mk "07").scalar.write := by
  obtain ⟨roundTrip, number, unlike⟩ := decoded_as_encoded
  obtain ⟨compact, pretty, _⟩ := roundTrip oddSessions oddSessions_fit
  exact ⟨compact, pretty, (number ⟨"7"⟩ 7).mpr (by decide), unlike ⟨"7"⟩ ⟨"07"⟩ (by decide)⟩

end SessionRecord

end SessionBoard
