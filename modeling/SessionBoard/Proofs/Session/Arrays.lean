import SessionBoard.Proofs.Session.Fields

namespace SessionBoard.SessionRecord

open Json

variable {first : Bool} {before text inside rest : Octets}

theorem readField_parted {α : Type} (reader : Reader α) {parting : Octets} (parted : Parting first parting)
    (starts : Starts text) (rest : Octets) : ∃ before, Blank before ∧
      readField first reader (parting ++ (text ++ rest)) = reader (before ++ (text ++ rest)) := by
  obtain ⟨before, blank, turned⟩ := parted.turn (.inl rfl) starts rest
  refine ⟨before, blank, ?_⟩
  rw [readField, turned]
  rfl

/-- The reader reads any text of this field as this value. -/
def ReadsAs {α : Type} (reader : Reader α) (field : Field) (value : α) : Prop :=
  ∀ text, FieldText field text → ∀ before rest, Blank before → Ended rest →
    reader (before ++ (text ++ rest)) = .ok (value, rest)

theorem readField_listed {α : Type} {reader : Reader α} {field : Field} {fields : List Field} {value : α}
    (reads : ReadsAs reader field value) (listed : Listed FieldText first (field :: fields) inside) (rest : Octets) :
    ∃ others, Listed FieldText false fields others ∧
      readField first reader (inside ++ 0x5d :: rest) = .ok (value, others ++ 0x5d :: rest) := by
  cases listed with
  | @item _ _ _ parting text others parted written listed =>
    obtain ⟨before, blank, same⟩ := readField_parted reader parted written.starts (others ++ 0x5d :: rest)
    refine ⟨others, listed, ?_⟩
    rw [List.append_assoc, List.append_assoc, same]
    exact reads text written before _ blank (listed.ended (Ended.cons rfl))

theorem readFields_all {record : SessionRecord} (listed : Listed FieldText true record.parts inside)
    (rest : Octets) : readFields (inside ++ 0x5d :: rest) = .ok (record, rest) := by
  have id : ReadsAs (SessionId.read depthInside) (.id record.id) record.id := by
    intro text written
    cases written with
    | id written => exact reads_id _ _ _ written
  have protocol : ReadsAs readString (.protocol record.protocol) record.protocol := by
    intro text written
    cases written with
    | protocol written => exact reads_string _ _ written
  have state : ReadsAs SessionState.read (.state record.state) record.state := by
    intro text written
    cases written with
    | state written => exact reads_state _ _ written
  have host : ReadsAs readString (.host record.host) record.host := by
    intro text written
    cases written with
    | host written => exact reads_string _ _ written
  have origin : ReadsAs readString (.origin record.origin) record.origin := by
    intro text written
    cases written with
    | origin written => exact reads_string _ _ written
  have startedAt : ReadsAs readSigned (.startedAt record.startedAt) record.startedAt := by
    intro text written
    cases written with
    | startedAt written => exact reads_signed _ _ written
  obtain ⟨_, listed, id⟩ := readField_listed id listed rest
  obtain ⟨_, listed, protocol⟩ := readField_listed protocol listed rest
  obtain ⟨_, listed, state⟩ := readField_listed state listed rest
  obtain ⟨_, listed, host⟩ := readField_listed host listed rest
  obtain ⟨_, listed, origin⟩ := readField_listed origin listed rest
  obtain ⟨after, listed, startedAt⟩ := readField_listed startedAt listed rest
  cases listed with
  | none blank =>
    have closed : turn 0x5d false (after ++ 0x5d :: rest) = .ok (.close rest) := by
      rw [turn_append 0x5d false blank, turn_close (.inl rfl)]
    simp only [readFields, bind, Except.bind, id, protocol, state, host, origin, startedAt, closed]
    rfl

/-- The reader takes the text of any field whole, or refuses it. -/
def Decides {α : Type} (reader : Reader α) : Prop :=
  ∀ field text, FieldText field text → ∀ before rest, Blank before → Ended rest →
    (∃ value, reader (before ++ (text ++ rest)) = .ok (value, rest)) ∨
      ∃ fault, reader (before ++ (text ++ rest)) = .error fault

theorem decides_string : Decides readString := by
  intro field text written before rest blank _
  obtain ⟨_, string⟩ | ⟨_, integer⟩ := written.string_or_integer
  · exact .inl ⟨_, readString_string string blank rest⟩
  · exact .inr (readString_integer integer blank rest)

theorem decides_id (depth : Nat) : Decides (SessionId.read depth) := by
  intro field text written before rest blank ended
  obtain ⟨_, string⟩ | ⟨_, integer⟩ := written.string_or_integer
  · exact .inl ⟨_, readId_string string depth blank rest⟩
  · exact .inl ⟨_, readId_integer integer depth blank ended⟩

theorem decides_signed : Decides readSigned := by
  intro field text written before rest blank ended
  obtain ⟨_, string⟩ | ⟨value, integer⟩ := written.string_or_integer
  · exact .inr (readSigned_string string blank rest)
  · rw [readSigned_integer integer blank ended, signedOf]
    split
    · exact .inl ⟨_, rfl⟩
    · exact .inr ⟨_, rfl⟩

theorem decides_state : Decides SessionState.read := by
  intro field text written before rest blank ended
  rw [SessionState.read]
  obtain ⟨_, read⟩ | ⟨_, read⟩ := decides_signed field text written before rest blank ended
  · rw [read]
    exact .inl ⟨_, rfl⟩
  · rw [read]
    exact .inr ⟨_, rfl⟩

/-- A failure is certain if it is certain after one more field. -/
theorem readField_fails {α β : Type} {reader : Reader α} (decides : Decides reader) {fields : List Field}
    (listed : Listed FieldText first fields inside) (rest : Octets) {next : α × Octets → Except Fault β}
    (later : ∀ value fewer others, fields.length = fewer.length + 1 → Listed FieldText false fewer others →
      ∃ fault, next (value, others ++ 0x5d :: rest) = .error fault) :
    ∃ fault, readField first reader (inside ++ 0x5d :: rest) >>= next = .error fault := by
  cases listed with
  | none blank =>
    rw [readField, turn_append 0x5d first blank, turn_close (.inl rfl)]
    exact ⟨_, rfl⟩
  | @item _ field fewer parting text others parted written listed =>
    obtain ⟨before, blank, same⟩ := readField_parted reader parted written.starts (others ++ 0x5d :: rest)
    have ended : Ended (others ++ 0x5d :: rest) := listed.ended (Ended.cons rfl)
    rw [List.append_assoc, List.append_assoc, same]
    obtain ⟨value, read⟩ | ⟨fault, read⟩ := decides field text written before _ blank ended
    · rw [read]
      exact later value fewer others rfl listed
    · rw [read]
      exact ⟨fault, rfl⟩

theorem readFields_miscounted {fields : List Field} (listed : Listed FieldText true fields inside)
    (wrong : fields.length ≠ names.length) (rest : Octets) :
    ∃ fault, readFields (inside ++ 0x5d :: rest) = .error fault := by
  refine readField_fails (decides_id depthInside) listed rest fun _ _ _ fewer₁ listed => ?_
  refine readField_fails decides_string listed rest fun _ _ _ fewer₂ listed => ?_
  refine readField_fails decides_state listed rest fun _ _ _ fewer₃ listed => ?_
  refine readField_fails decides_string listed rest fun _ _ _ fewer₄ listed => ?_
  refine readField_fails decides_string listed rest fun _ _ _ fewer₅ listed => ?_
  refine readField_fails decides_signed listed rest fun _ _ _ fewer₆ listed => ?_
  cases listed with
  | none => exact absurd (by simp [*, names]) wrong
  | @item _ _ _ _ _ others parted written =>
    obtain ⟨_, _, turned⟩ := parted.turn (.inl rfl) written.starts (others ++ 0x5d :: rest)
    simp only [List.append_assoc, turned]
    exact ⟨_, rfl⟩

end SessionBoard.SessionRecord
