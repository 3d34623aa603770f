import SessionBoard.Proofs.Json.Written
import SessionBoard.Proofs.Session.Arrays
import SessionBoard.Proofs.Session.Members

namespace SessionBoard.SessionRecord

open Json SessionBoard.Text

/-- A way to write a record: an object with its six fields and any other members in any order, or the array of
its six fields. -/
inductive RecordText (record : SessionRecord) : Octets → Prop
  | object {entries : List (Option Field)} {octets : Octets} (enclosed : Enclosed EntryText 0x7b 0x7d entries octets)
      (all : (knownOf entries).Perm record.parts) : RecordText record octets
  | array {octets : Octets} (enclosed : Enclosed FieldText 0x5b 0x5d record.parts octets) : RecordText record octets

/-- A record gone wrong. -/
inductive Flawed : Octets → Prop
  /-- An object without one of the six fields. -/
  | lacking {entries : List (Option Field)} {octets : Octets} {name : String}
      (enclosed : Enclosed EntryText 0x7b 0x7d entries octets) (required : name ∈ names)
      (absent : name ∉ (knownOf entries).map Field.name) : Flawed octets
  /-- An object in which one of the six names comes again. From there on it may go on in any way. -/
  | repeated {entries : List (Option Field)} {inside parting name more : Octets} {field : Field}
      (listed : Listed EntryText true entries inside) (known : field ∈ knownOf entries)
      (parted : Parting false parting) (named : StringText field.name name) :
      Flawed (0x7b :: (inside ++ (parting ++ (name ++ more))))
  /-- An array of fewer fields, or of more. -/
  | miscounted {fields : List Field} {octets : Octets} (enclosed : Enclosed FieldText 0x5b 0x5d fields octets)
      (wrong : fields.length ≠ names.length) : Flawed octets

/-- A record as it should be, or one gone wrong. -/
inductive SlotText : Option SessionRecord → Octets → Prop
  | record {record : SessionRecord} {octets : Octets} (written : RecordText record octets) :
      SlotText (some record) octets
  | flawed {octets : Octets} (flawed : Flawed octets) : SlotText none octets

/-- A list with blanks around it. -/
inductive ListText {α : Type} (Item : α → Octets → Prop) (items : List α) : Octets → Prop
  | blanks {before text after : Octets} (blank : Blank before) (enclosed : Enclosed Item 0x5b 0x5d items text)
      (blank' : Blank after) : ListText Item items (before ++ (text ++ after))

variable {before text rest : Octets}

theorem RecordText.starts {record : SessionRecord} (written : RecordText record text) : Starts text := by
  cases written with
  | object enclosed => exact enclosed.starts (by decide)
  | array enclosed => exact enclosed.starts (by decide)

theorem Flawed.starts (flawed : Flawed text) : Starts text := by
  cases flawed with
  | lacking enclosed => exact enclosed.starts (by decide)
  | repeated => exact ⟨_, _, rfl, by decide⟩
  | miscounted enclosed => exact enclosed.starts (by decide)

theorem read_object (blank : Blank before) (rest : Octets) :
    read (before ++ 0x7b :: rest) = readMembers (enough rest) {} true rest := by
  rw [read, skipBlank_cons blank (by decide)]
  exact if_pos rfl

theorem read_array (blank : Blank before) (rest : Octets) : read (before ++ 0x5b :: rest) = readFields rest := by
  rw [read, skipBlank_cons blank (by decide)]
  rfl

theorem reads_record : Reads read RecordText := by
  intro record text written before rest blank _
  cases written with
  | object enclosed all =>
    cases enclosed with
    | between listed =>
      rw [List.cons_append, read_object blank, List.append_assoc]
      exact readMembers_all listed all rest
  | array enclosed =>
    cases enclosed with
    | between listed =>
      rw [List.cons_append, read_array blank, List.append_assoc]
      exact readFields_all listed rest

theorem exists_field_of_mem_names {name : String} (required : name ∈ names) : ∃ field : Field, field.name = name := by
  simp only [names, List.mem_cons, List.not_mem_nil, or_false] at required
  rcases required with rfl | rfl | rfl | rfl | rfl | rfl
  · exact ⟨.id ⟨""⟩, rfl⟩
  · exact ⟨.protocol "", rfl⟩
  · exact ⟨.state .waiting, rfl⟩
  · exact ⟨.host "", rfl⟩
  · exact ⟨.origin "", rfl⟩
  · exact ⟨.startedAt 0, rfl⟩

theorem Flawed.refused (flawed : Flawed text) (blank : Blank before) (rest : Octets) :
    ∃ fault, read (before ++ (text ++ rest)) = .error fault := by
  cases flawed with
  | lacking enclosed required absent =>
    cases enclosed with
    | between listed =>
      obtain ⟨field, rfl⟩ := exists_field_of_mem_names required
      rw [List.cons_append, read_object blank, List.append_assoc]
      exact ⟨_, readMembers_lacking listed absent rest⟩
  | repeated listed known parted named =>
    rw [List.cons_append, read_object blank]
    simp only [List.append_assoc]
    exact ⟨_, readMembers_repeated listed (List.mem_map_of_mem known) parted named _⟩
  | miscounted enclosed wrong =>
    cases enclosed with
    | between listed =>
      rw [List.cons_append, read_array blank, List.append_assoc]
      exact readFields_miscounted listed wrong rest

theorem SlotText.starts {slot : Option SessionRecord} (written : SlotText slot text) : Starts text := by
  cases written with
  | record written => exact written.starts
  | flawed flawed => exact flawed.starts

/-- The records before a flawed one are read in vain. -/
theorem readItems_spoiled {first : Bool} {slots : List (Option SessionRecord)} {inside : Octets}
    (listed : Listed SlotText first slots inside) (spoiled : none ∈ slots) (ended : Ended rest) (fuel : Nat) :
    ∃ fault, readItems read fuel first (inside ++ rest) = .error fault := by
  induction listed generalizing fuel with
  | none => cases spoiled
  | @item first slot slots parting text others parted written listed ih =>
    cases fuel with
    | zero => exact ⟨_, rfl⟩
    | succ fuel =>
      obtain ⟨before, blank, turned⟩ := parted.turn (.inl rfl) written.starts (others ++ rest)
      rw [readItems, List.append_assoc, List.append_assoc, turned]
      cases written with
      | @record record _ written =>
        -- A good record is passed; the flawed one comes later.
        have read := reads_record _ _ written before _ blank (listed.ended ended)
        have later : none ∈ slots := (List.mem_cons.mp spoiled).resolve_left (Option.some_ne_none record).symm
        obtain ⟨fault, failed⟩ := ih later fuel
        simp only [bind, Except.bind, read, failed]
        exact ⟨fault, rfl⟩
      | flawed flawed =>
        obtain ⟨fault, failed⟩ := flawed.refused blank (others ++ rest)
        simp only [bind, Except.bind, failed]
        exact ⟨fault, rfl⟩

theorem parseList_presented {records : List SessionRecord} (written : ListText RecordText records text) :
    parseList text = .ok records := by
  cases written with
  | @blanks before inside after blank enclosed blank' =>
    have read := enclosed.readArray reads_record (fun _ _ => RecordText.starts) blank after
    have nothing : skipBlank after = [] := by
      rw [← List.append_nil after, skipBlank_append blank']
      rfl
    simp only [parseList, readWhole, bind, Except.bind, read, nothing]
    rfl

theorem parseList_spoiled {slots : List (Option SessionRecord)} (written : ListText SlotText slots text)
    (spoiled : none ∈ slots) : ∃ fault, parseList text = .error fault := by
  cases written with
  | @blanks before inside after blank enclosed blank' =>
    cases enclosed with
    | @between inside listed =>
      obtain ⟨fault, failed⟩ := readItems_spoiled listed spoiled (Ended.cons rfl : Ended (0x5d :: after))
        (enough (inside ++ 0x5d :: after))
      refine ⟨fault, ?_⟩
      rw [parseList, readWhole, List.cons_append, readArray_opened read blank, List.append_assoc]
      simp only [List.singleton_append, bind, Except.bind, failed]

/-- A list is read as its records from any text that presents it, whichever way each of them is written, and
from none that is spoiled: a single record that says too little or says something twice is enough for that. -/
theorem decoded_from_any_presentation :
    (∀ (records : List SessionRecord) (octets : Octets), ListText RecordText records octets →
      parseList octets = .ok records) ∧
    ∀ (slots : List (Option SessionRecord)) (octets : Octets), ListText SlotText slots octets → none ∈ slots →
      ∃ fault, parseList octets = .error fault :=
  ⟨fun _ _ => parseList_presented, fun _ _ => parseList_spoiled⟩

/-- A session with little in it. -/
def bare : SessionRecord := ⟨⟨"7"⟩, "", .established, "", "", 5⟩

theorem bare_texts :
    StringText "" (Utf8.encode ['"', '"']) ∧ StateText bare.state [0x32] ∧ SignedText bare.startedAt [0x35] :=
  ⟨stringText_quote "", @StateText.code 2 _ ⟨⟨rfl, by decide, by decide⟩, by decide⟩,
    ⟨⟨rfl, by decide, by decide⟩, by decide⟩⟩

theorem bare_array : RecordText bare (Utf8.encode "[7,\"\",2,\"\",\"\",5]".toList) := by
  obtain ⟨empty, state, startedAt⟩ := bare_texts
  have id : IdText bare.id [0x37] := @IdText.number _ 7 _ (by decide) ⟨rfl, by decide, by decide⟩
  have comma : Parting false [0x2c] := .next Blank.nil Blank.nil
  have enclosed : Enclosed FieldText 0x5b 0x5d bare.parts _ := .between
    (.item (.first Blank.nil) (.id id) (.item comma (.protocol empty) (.item comma (.state state)
      (.item comma (.host empty) (.item comma (.origin empty) (.item comma (.startedAt startedAt)
        (.none Blank.nil)))))))
  exact .array enclosed

/-- The id is an escaped string, and a nested array nobody wants comes first. -/
theorem bare_object : RecordText bare (Utf8.encode ("\x7b\"x\":[[]],\"timestamp\":5, \"id\":\"\\u0037\"," ++
    "\"host\":\"\",\"from\":\"\",\"proto\":\"\",\"state\":2\x7d").toList) := by
  obtain ⟨empty, state, startedAt⟩ := bare_texts
  have seven : Spelling '7' [0x5c, 0x75, 0x30, 0x30, 0x33, 0x37] :=
    .unit (.digits (@HexDigit.decimal 0 (by decide)) (@HexDigit.decimal 0 (by decide))
      (@HexDigit.decimal 3 (by decide)) (@HexDigit.decimal 7 (by decide)))
  have string : StringText bare.id.text (0x22 :: ([0x5c, 0x75, 0x30, 0x30, 0x33, 0x37] ++ [] ++ [0x22])) :=
    .quoted (.cons seven .nil)
  have inner : IsValue 1 [0x5b, 0x5d] := .inr (.inl ⟨[], .between (.none Blank.nil)⟩)
  have nested := @Listed.item Unit (fun _ => IsValue 1) true () _ _ _ _ (.first Blank.nil) inner (.none Blank.nil)
  have outer : IsValue 2 [0x5b, 0x5b, 0x5d, 0x5d] := .inr (.inl ⟨[()], .between nested⟩)
  have unwanted := EntryText.unknown (by decide) (.parts (stringText_quote "x") Blank.nil Blank.nil outer)
  have known {field : Field} {text : Octets} (written : FieldText field text) :=
    EntryText.known (.parts (stringText_quote field.name) Blank.nil Blank.nil written)
  have comma : Parting false [0x2c] := .next Blank.nil Blank.nil
  have space : Parting false [0x2c, 0x20] := .next Blank.nil (by decide : Blank [0x20])
  have enclosed : Enclosed EntryText 0x7b 0x7d _ _ := .between
    (.item (.first Blank.nil) unwanted (.item comma (known (.startedAt startedAt))
      (.item space (known (.id (.quoted string))) (.item comma (known (.host empty))
        (.item comma (known (.origin empty)) (.item comma (known (.protocol empty))
          (.item comma (known (.state state)) (.none Blank.nil))))))))
  exact .object enclosed (by decide)

theorem host_twice : Flawed (Utf8.encode "\x7b\"host\":\"\",\"host\":1\x7d".toList) := by
  obtain ⟨empty, _⟩ := bare_texts
  have name : StringText "host" (Utf8.encode "\"host\"".toList) := stringText_quote "host"
  have host := @EntryText.known (.host "") _ (.parts name Blank.nil Blank.nil (.host empty))
  have once : Listed EntryText true [some (.host "")] _ := .item (.first Blank.nil) host (.none Blank.nil)
  have comma : Parting false [0x2c] := .next Blank.nil Blank.nil
  exact @Flawed.repeated _ _ _ _ (Utf8.encode ":1\x7d".toList) (.host "") once (by decide) comma name

set_option maxRecDepth 1000 in
theorem decoded_from_two_presentations :
    parseList (Utf8.encode ("[\x7b\"x\":[[]],\"timestamp\":5, \"id\":\"\\u0037\",\"host\":\"\",\"from\":\"\"," ++
      "\"proto\":\"\",\"state\":2\x7d,[7,\"\",2,\"\",\"\",5]]\n").toList) = .ok [bare, bare] ∧
    ∃ fault, parseList (Utf8.encode "[[7,\"\",2,\"\",\"\",5],\x7b\"host\":\"\",\"host\":1\x7d]".toList) =
      .error fault := by
  have comma : Parting false [0x2c] := .next Blank.nil Blank.nil
  have list := ListText.blanks Blank.nil (.between
    (.item (.first Blank.nil) bare_object (.item comma bare_array (.none Blank.nil)))) (by decide : Blank [0x0a])
  have spoiled := ListText.blanks Blank.nil (.between (.item (.first Blank.nil) (SlotText.record bare_array)
    (.item comma (SlotText.flawed host_twice) (.none Blank.nil)))) Blank.nil
  exact ⟨decoded_from_any_presentation.1 [bare, bare] _ list,
    decoded_from_any_presentation.2 [some bare, none] _ spoiled (by decide)⟩

end SessionBoard.SessionRecord
