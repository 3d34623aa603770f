import SessionBoard.Session.Reading
import SessionBoard.Proofs.Json.Layout
import SessionBoard.Proofs.Json.Strings

namespace SessionBoard

open Json

/-- The decimal form of an integer that 64 bits hold as a signed one. -/
structure SignedText (value : Int) (octets : Octets) : Prop where
  integer : IntegerText value octets
  signed : value ≤ 0x7fffffffffffffff

/-- An id is a string, or the number its text reads as, if 64 bits can hold it. -/
inductive IdText (id : SessionId) : Octets → Prop
  | quoted {octets : Octets} (written : StringText id.text octets) : IdText id octets
  | number {value : Int} {octets : Octets} (canonical : id.text = toString value)
      (written : IntegerText value octets) : IdText id octets

/-- A state is the number of its code. -/
inductive StateText : SessionState → Octets → Prop
  | code {code : Int} {octets : Octets} (written : SignedText code octets) : StateText (.ofCode code) octets

namespace SessionRecord

/-- One of the six things a record says. A field is read as what it is from any of its texts, and a text of
another field is either taken whole or refused. -/
inductive Field
  | id (id : SessionId)
  | protocol (protocol : String)
  | state (state : SessionState)
  | host (host : String)
  | origin (origin : String)
  | startedAt (startedAt : Int)
  deriving DecidableEq, Repr

/-- The name that introduces the field in an object. -/
def Field.name : Field → String
  | .id _ => "id"
  | .protocol _ => "proto"
  | .state _ => "state"
  | .host _ => "host"
  | .origin _ => "from"
  | .startedAt _ => "timestamp"

/-- The names an object has to have. -/
def names : List String := ["id", "proto", "state", "host", "from", "timestamp"]

/-- All a record says, in the order in which an array says it. -/
def parts (record : SessionRecord) : List Field :=
  [.id record.id, .protocol record.protocol, .state record.state, .host record.host, .origin record.origin,
    .startedAt record.startedAt]

/-- A way to write a field. -/
inductive FieldText : Field → Octets → Prop
  | id {id : SessionId} {octets : Octets} (written : IdText id octets) : FieldText (.id id) octets
  | protocol {text : String} {octets : Octets} (written : StringText text octets) : FieldText (.protocol text) octets
  | state {state : SessionState} {octets : Octets} (written : StateText state octets) :
      FieldText (.state state) octets
  | host {text : String} {octets : Octets} (written : StringText text octets) : FieldText (.host text) octets
  | origin {text : String} {octets : Octets} (written : StringText text octets) : FieldText (.origin text) octets
  | startedAt {value : Int} {octets : Octets} (written : SignedText value octets) :
      FieldText (.startedAt value) octets

end SessionRecord

variable {before text rest : Octets}

/-- Readers tell a number by its first octet, and all of them read it the same way. -/
theorem integer_dispatched {value : Int} (written : IntegerText value text) :
    ∃ octet more, text = octet :: more ∧ Opens octet ∧ octet ≠ 0x22 ∧
      ∀ rest, Ended rest → ∀ {β : Type} (next : Number × Octets → Except Fault β) (other : Except Fault β),
        (if octet = 0x2d then readNumber true (more ++ rest) >>= next
          else if isDigit octet then readNumber false (octet :: (more ++ rest)) >>= next
          else other) = next (.integer value, rest) := by
  obtain ⟨digits, rfl, read⟩ | ⟨first, more, rfl, digit, read⟩ := written.readNumber
  · refine ⟨_, _, rfl, by decide, by decide, fun rest ended {β} next other => ?_⟩
    rw [if_pos rfl, read rest ended]
    rfl
  · have noQuote : first ≠ 0x22 := by
      rintro rfl
      cases digit
    have noSign : first ≠ 0x2d := by
      rintro rfl
      cases digit
    refine ⟨first, more, rfl, opens_of_digit digit, noQuote, fun rest ended {β} next other => ?_⟩
    rw [if_neg noSign, if_pos digit, ← List.cons_append, read rest ended]
    rfl

theorem readString_string {value : String} (written : StringText value text) (blank : Blank before) (rest : Octets) :
    readString (before ++ (text ++ rest)) = .ok (value, rest) := by
  obtain ⟨inside, rfl, read⟩ := written.stringAfterQuote
  rw [readString, List.cons_append, skipBlank_cons blank (by decide)]
  exact read rest

theorem readString_integer {value : Int} (written : IntegerText value text) (blank : Blank before) (rest : Octets) :
    ∃ fault, readString (before ++ (text ++ rest)) = .error fault := by
  obtain ⟨octet, more, rfl, opens, noQuote, _⟩ := integer_dispatched written
  rw [readString, List.cons_append, skipBlank_cons blank opens]
  exact ⟨_, if_neg noQuote⟩

theorem readSigned_string {value : String} (written : StringText value text) (blank : Blank before) (rest : Octets) :
    ∃ fault, readSigned (before ++ (text ++ rest)) = .error fault := by
  obtain ⟨inside, rfl, _⟩ := written.stringAfterQuote
  rw [readSigned, List.cons_append, skipBlank_cons blank (by decide)]
  exact ⟨_, rfl⟩

theorem readSigned_integer {value : Int} (written : IntegerText value text) (blank : Blank before)
    (ended : Ended rest) : readSigned (before ++ (text ++ rest)) = signedOf (.integer value, rest) := by
  obtain ⟨octet, more, rfl, opens, _, dispatched⟩ := integer_dispatched written
  rw [readSigned, List.cons_append, skipBlank_cons blank opens]
  exact dispatched rest ended _ _

theorem readId_string {value : String} (written : StringText value text) (depth : Nat) (blank : Blank before)
    (rest : Octets) : SessionId.read depth (before ++ (text ++ rest)) = .ok (⟨value⟩, rest) := by
  obtain ⟨inside, rfl, read⟩ := written.stringAfterQuote
  rw [SessionId.read, List.cons_append, skipBlank_cons blank (by decide)]
  simp only [if_true, read]
  rfl

theorem readId_integer {value : Int} (written : IntegerText value text) (depth : Nat) (blank : Blank before)
    (ended : Ended rest) : SessionId.read depth (before ++ (text ++ rest)) = .ok (⟨toString value⟩, rest) := by
  obtain ⟨octet, more, rfl, opens, noQuote, dispatched⟩ := integer_dispatched written
  rw [SessionId.read, List.cons_append, skipBlank_cons blank opens]
  exact (if_neg noQuote).trans (dispatched rest ended _ _)

theorem reads_string : Reads readString StringText :=
  fun _ _ written _ rest blank _ => readString_string written blank rest

theorem reads_signed : Reads readSigned SignedText := by
  rintro value octets ⟨integer, signed⟩ before rest blank ended
  rw [readSigned_integer integer blank ended]
  exact if_pos signed

theorem reads_id (depth : Nat) : Reads (SessionId.read depth) IdText := by
  intro id octets written before rest blank ended
  cases written with
  | quoted written => exact readId_string written depth blank rest
  | number canonical written =>
    rw [readId_integer written depth blank ended, ← canonical]

theorem reads_state : Reads SessionState.read StateText := by
  intro state octets written before rest blank ended
  cases written with
  | code written =>
    rw [SessionState.read, reads_signed _ _ written before rest blank ended]
    rfl

theorem SessionRecord.FieldText.string_or_integer {field : SessionRecord.Field}
    (written : SessionRecord.FieldText field text) :
    (∃ value, StringText value text) ∨ ∃ value, IntegerText value text := by
  cases written with
  | id written =>
    cases written with
    | quoted written => exact .inl ⟨_, written⟩
    | number _ written => exact .inr ⟨_, written⟩
  | protocol written => exact .inl ⟨_, written⟩
  | state written =>
    cases written with
    | code written => exact .inr ⟨_, written.integer⟩
  | host written => exact .inl ⟨_, written⟩
  | origin written => exact .inl ⟨_, written⟩
  | startedAt written => exact .inr ⟨_, written.integer⟩

theorem string_starts {value : String} (written : StringText value text) : Starts text := by
  obtain ⟨inside, rfl, _⟩ := written.stringAfterQuote
  exact ⟨_, _, rfl, by decide⟩

theorem SessionRecord.FieldText.starts {field : SessionRecord.Field}
    (written : SessionRecord.FieldText field text) : Starts text := by
  obtain ⟨_, string⟩ | ⟨_, integer⟩ := written.string_or_integer
  · exact string_starts string
  · obtain ⟨octet, more, rfl, opens, _⟩ := integer_dispatched integer
    exact ⟨octet, more, rfl, opens⟩

end SessionBoard
