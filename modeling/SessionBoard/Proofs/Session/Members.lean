import SessionBoard.Proofs.Json.Values
import SessionBoard.Proofs.Session.Fields

namespace SessionBoard.SessionRecord

open Json

/-- A member of an object: a field under its name, or anything under another name. The members may come in any
order; what counts is that each of the six names is there, and once. -/
inductive EntryText : Option Field → Octets → Prop
  | known {field : Field} {octets : Octets}
      (member : MemberText (StringText field.name) (FieldText field) octets) : EntryText (some field) octets
  | unknown {name : String} {depth : Nat} {octets : Octets} (other : name ∉ names)
      (member : MemberText (StringText name) (IsValue depth) octets) : EntryText none octets

/-- The fields among the members. -/
def knownOf (entries : List (Option Field)) : List Field :=
  entries.filterMap fun entry => entry

namespace Draft

variable {draft draft' : Draft} {field other : Field} {fields : List Field}

/-- Whether a field of this name has been read. -/
def has (draft : Draft) : Field → Bool
  | .id _ => draft.id.isSome
  | .protocol _ => draft.protocol.isSome
  | .state _ => draft.state.isSome
  | .host _ => draft.host.isSome
  | .origin _ => draft.origin.isSome
  | .startedAt _ => draft.startedAt.isSome

/-- This very field has been read. -/
def Holds (draft : Draft) : Field → Prop
  | .id id => draft.id = some id
  | .protocol protocol => draft.protocol = some protocol
  | .state state => draft.state = some state
  | .host host => draft.host = some host
  | .origin origin => draft.origin = some origin
  | .startedAt startedAt => draft.startedAt = some startedAt

/-- The draft with one more field. -/
def put (draft : Draft) : Field → Draft
  | .id id => { draft with id := some id }
  | .protocol protocol => { draft with protocol := some protocol }
  | .state state => { draft with state := some state }
  | .host host => { draft with host := some host }
  | .origin origin => { draft with origin := some origin }
  | .startedAt startedAt => { draft with startedAt := some startedAt }

/-- One more field, if it is the first of its name. -/
def add? (draft : Draft) (field : Field) : Option Draft :=
  if draft.has field then none else some (draft.put field)

theorem has_put : (draft.put field).has other = (draft.has other || other.name = field.name) := by
  cases field <;> cases other <;> simp [put, has, Field.name]

theorem holds_put (new : draft.has field = false) :
    (draft.put field).Holds other ↔ draft.Holds other ∨ other = field := by
  cases field <;> cases other <;> simp_all [put, has, Holds]
  all_goals exact eq_comm

theorem add?_eq_some : draft.add? field = some draft' ↔ draft.has field = false ∧ draft.put field = draft' := by
  rw [add?]
  cases draft.has field <;> simp

theorem has_of_adds (added : fields.foldlM add? draft = some draft') (other : Field) :
    draft'.has other ↔ draft.has other ∨ other.name ∈ fields.map Field.name := by
  induction fields generalizing draft with
  | nil =>
    cases added
    simp
  | cons field fields ih =>
    rw [List.foldlM_cons] at added
    obtain ⟨between, first, others⟩ := Option.bind_eq_some_iff.mp added
    obtain ⟨_, rfl⟩ := add?_eq_some.mp first
    rw [ih others, has_put]
    simp only [Bool.or_eq_true, decide_eq_true_eq, List.map_cons, List.mem_cons, or_assoc]

theorem holds_of_adds (added : fields.foldlM add? draft = some draft') (other : Field) :
    draft'.Holds other ↔ draft.Holds other ∨ other ∈ fields := by
  induction fields generalizing draft with
  | nil =>
    cases added
    simp
  | cons field fields ih =>
    rw [List.foldlM_cons] at added
    obtain ⟨between, first, others⟩ := Option.bind_eq_some_iff.mp added
    obtain ⟨new, rfl⟩ := add?_eq_some.mp first
    rw [ih others, holds_put new, List.mem_cons, or_assoc]

/-- Fields of different names can all be added. -/
theorem adds_of_nodup (once : (fields.map Field.name).Nodup) (new : ∀ field ∈ fields, draft.has field = false) :
    ∃ draft', fields.foldlM add? draft = some draft' := by
  induction fields generalizing draft with
  | nil => exact ⟨draft, rfl⟩
  | cons field fields ih =>
    obtain ⟨unlike, once⟩ := List.nodup_cons.mp once
    obtain ⟨absent, new⟩ := List.forall_mem_cons.mp new
    have first := add?_eq_some.mpr ⟨absent, rfl⟩
    have still : ∀ other ∈ fields, (draft.put field).has other = false := by
      intro other member
      have unlike : other.name ≠ field.name := fun same => unlike (same ▸ List.mem_map_of_mem member)
      rw [has_put, new other member, decide_eq_false unlike]
      rfl
    rw [List.foldlM_cons, first]
    exact ih once still

theorem record?_of_holds {record : SessionRecord} (holds : ∀ field ∈ record.parts, draft.Holds field) :
    draft.record? = some record := by
  simp only [parts, List.forall_mem_cons, Holds] at holds
  obtain ⟨id, protocol, state, host, origin, startedAt, _⟩ := holds
  simp [record?, id, protocol, state, host, origin, startedAt]

theorem record?_of_lacking (lacking : draft.has field = false) : draft.record? = none := by
  cases field <;> simp only [has, Option.isSome_eq_false_iff, Option.isNone_iff_eq_none] at lacking <;>
    simp [record?, lacking]

theorem readOnce_then {α : Type} {reader : Reader α} {Item : α → Octets → Prop} (reads : Reads reader Item)
    {item : α} {between before text rest : Octets} (written : Item item text) (blank : Blank between)
    (blank' : Blank before) (ended : Ended rest) (known : Option α)
    (next : α × Octets → Except Fault (Draft × Octets)) :
    readOnce known reader (between ++ 0x3a :: (before ++ (text ++ rest))) >>= next =
      if known.isSome then .error .mismatched else next (item, rest) := by
  have read := reads item text written before rest blank' ended
  rw [readOnce, colon_append blank]
  cases known with
  | none => simp only [Option.isSome_none, Bool.false_eq_true, if_false, bind, Except.bind, read]
  | some _ => rfl

theorem readMember_known {between before text rest : Octets} (written : FieldText field text)
    (blank : Blank between) (blank' : Blank before) (ended : Ended rest) (draft : Draft) :
    draft.readMember field.name (between ++ 0x3a :: (before ++ (text ++ rest))) =
      if draft.has field then .error .mismatched else .ok (draft.put field, rest) := by
  cases written with
  | id written => exact readOnce_then (reads_id depthInside) written blank blank' ended draft.id _
  | protocol written => exact readOnce_then reads_string written blank blank' ended draft.protocol _
  | state written => exact readOnce_then reads_state written blank blank' ended draft.state _
  | host written => exact readOnce_then reads_string written blank blank' ended draft.host _
  | origin written => exact readOnce_then reads_string written blank blank' ended draft.origin _
  | startedAt written => exact readOnce_then reads_signed written blank blank' ended draft.startedAt _

/-- A name that came before is refused before anything else is read. -/
theorem readMember_again (has : draft.has field) (rest : Octets) :
    draft.readMember field.name rest = .error .mismatched := by
  cases field <;> simp_all [Draft.has, readMember, Field.name, readOnce, bind, Except.bind]

theorem readMember_unknown {name : String} {depth : Nat} {between before text rest : Octets} (other : name ∉ names)
    (value : IsValue depth text) (blank : Blank between) (blank' : Blank before) (ended : Ended rest)
    (draft : Draft) :
    draft.readMember name (between ++ 0x3a :: (before ++ (text ++ rest))) = .ok (draft, rest) := by
  have skipped := value.skipUnused blank' ended
  simp only [names, List.mem_cons, List.not_mem_nil, or_false, not_or] at other
  obtain ⟨noId, noProtocol, noState, noHost, noOrigin, noStart⟩ := other
  simp only [readMember, colon_append blank, bind, Except.bind, skipped]
  rfl

end Draft

theorem memberName_written {name : String} {before text rest : Octets} (written : StringText name text)
    (blank : Blank before) : memberName (before ++ (text ++ rest)) = .ok (name, rest) := by
  rw [memberName, skipBlank_starts blank (string_starts written)]
  obtain ⟨inside, rfl, read⟩ := written.stringAfterQuote
  exact read rest

theorem EntryText.starts {entry : Option Field} {text : Octets} (written : EntryText entry text) : Starts text := by
  have starts : ∀ {name : String} {Value : Octets → Prop}, MemberText (StringText name) Value text → Starts text := by
    rintro name Value ⟨named, _, _, _⟩
    obtain ⟨inside, rfl, _⟩ := named.stringAfterQuote
    exact ⟨_, _, rfl, by decide⟩
  cases written with
  | known member => exact starts member
  | unknown _ member => exact starts member

theorem readMembers_entry {first : Bool} {entry : Option Field} {parting text rest : Octets}
    (parted : Parting first parting) (written : EntryText entry text) (ended : Ended rest) (fuel : Nat)
    (draft : Draft) :
    readMembers (fuel + 1) draft first (parting ++ (text ++ rest)) =
      match (knownOf [entry]).foldlM Draft.add? draft with
      | none => .error .mismatched
      | some draft => readMembers fuel draft false rest := by
  obtain ⟨before, blank, turned⟩ := parted.turn (.inr rfl) written.starts rest
  rw [readMembers, turned]
  cases written with
  | @known field _ member =>
    cases member with
    | parts named blank' blank'' valued =>
      simp only [bind, Except.bind, List.append_assoc, List.cons_append, memberName_written named blank,
        Draft.readMember_known valued blank' blank'' ended]
      cases has : draft.has field <;> simp [knownOf, Draft.add?, has]
  | unknown other member =>
    cases member with
    | parts named blank' blank'' valued =>
      simp only [bind, Except.bind, List.append_assoc, List.cons_append, memberName_written named blank,
        Draft.readMember_unknown other valued blank' blank'' ended]
      rfl

/-- Members are read one after another, whatever comes after them, up to the first name that comes again. -/
theorem readMembers_listed {first : Bool} {entries : List (Option Field)} {inside rest : Octets}
    (listed : Listed EntryText first entries inside) (ended : Ended rest) (fuel : Nat) (draft : Draft) :
    readMembers (fuel + entries.length) draft first (inside ++ rest) =
      match (knownOf entries).foldlM Draft.add? draft with
      | none => .error .mismatched
      | some draft => readMembers fuel draft (first && entries.isEmpty) rest := by
  induction listed generalizing draft with
  | @none first after blank =>
    -- The blanks that end the members may as well belong to what comes next.
    cases fuel with
    | zero => rfl
    | succ fuel =>
      rw [List.length_nil, Nat.add_zero, readMembers, turn_append 0x7d first blank, ← readMembers, List.isEmpty_nil,
        Bool.and_true]
      rfl
  | @item first entry entries parting text others parted written listed ih =>
    rw [List.append_assoc, List.append_assoc, List.length_cons, ← Nat.add_assoc,
      readMembers_entry parted written (listed.ended ended)]
    have split : knownOf (entry :: entries) = knownOf [entry] ++ knownOf entries :=
      List.filterMap_append (l := [entry])
    rw [split, List.foldlM_append, List.isEmpty_cons, Bool.and_false]
    cases (knownOf [entry]).foldlM Draft.add? draft with
    | none => rfl
    | some draft => exact ih draft

section

variable {entries : List (Option Field)} {inside : Octets}

/-- The octets suffice as fuel for their members. -/
theorem enough_split {first : Bool} (listed : Listed EntryText first entries inside) (rest : Octets) :
    ∃ fuel, enough (inside ++ rest) = fuel + 1 + entries.length := by
  have bound := listed.length_le fun _ _ => EntryText.starts
  refine ⟨enough (inside ++ rest) - 1 - entries.length, ?_⟩
  simp only [enough, List.length_append]
  omega

theorem readMembers_closed (listed : Listed EntryText true entries inside) (rest : Octets) :
    readMembers (enough (inside ++ 0x7d :: rest)) {} true (inside ++ 0x7d :: rest) =
      match (knownOf entries).foldlM Draft.add? {} >>= Draft.record? with
      | none => .error .mismatched
      | some record => .ok (record, rest) := by
  obtain ⟨fuel, split⟩ := enough_split listed (0x7d :: rest)
  rw [split, readMembers_listed listed (Ended.cons rfl)]
  cases (knownOf entries).foldlM Draft.add? {} with
  | none => rfl
  | some draft =>
    simp only [readMembers, turn_close (.inr rfl), Option.bind_eq_bind, Option.bind_some]
    cases draft.record? <;> rfl

/-- The six fields are found in any order. -/
theorem readMembers_all (listed : Listed EntryText true entries inside) {record : SessionRecord}
    (all : (knownOf entries).Perm record.parts) (rest : Octets) :
    readMembers (enough (inside ++ 0x7d :: rest)) {} true (inside ++ 0x7d :: rest) = .ok (record, rest) := by
  have once : ((knownOf entries).map Field.name).Nodup := by
    have distinct : names.Nodup := by decide
    exact (all.map Field.name).nodup_iff.mpr distinct
  have new : ∀ field ∈ knownOf entries, Draft.has {} field = false := fun field _ => by cases field <;> rfl
  obtain ⟨draft, added⟩ := Draft.adds_of_nodup once new
  have holds : ∀ field ∈ record.parts, draft.Holds field :=
    fun field member => (Draft.holds_of_adds added field).mpr (.inr (all.mem_iff.mpr member))
  rw [readMembers_closed listed, added, Option.bind_eq_bind, Option.bind_some, Draft.record?_of_holds holds]

/-- An object without one of the six is no record. -/
theorem readMembers_lacking (listed : Listed EntryText true entries inside) {field : Field}
    (absent : field.name ∉ (knownOf entries).map Field.name) (rest : Octets) :
    readMembers (enough (inside ++ 0x7d :: rest)) {} true (inside ++ 0x7d :: rest) = .error .mismatched := by
  rw [readMembers_closed listed]
  cases added : (knownOf entries).foldlM Draft.add? {} with
  | none => rfl
  | some draft =>
    have lacking : draft.has field = false := by
      rw [Bool.eq_false_iff]
      intro has
      obtain empty | named := (Draft.has_of_adds added field).mp has
      · cases field <;> cases empty
      · exact absent named
    rw [Option.bind_eq_bind, Option.bind_some, Draft.record?_of_lacking lacking]

/-- An object with one of the six for the second time is no record, whatever follows the name. -/
theorem readMembers_repeated (listed : Listed EntryText true entries inside) {field : Field}
    (known : field.name ∈ (knownOf entries).map Field.name) {parting name : Octets}
    (parted : Parting false parting) (named : StringText field.name name) (rest : Octets) :
    readMembers (enough (inside ++ (parting ++ (name ++ rest)))) {} true (inside ++ (parting ++ (name ++ rest))) =
      .error .mismatched := by
  obtain ⟨fuel, split⟩ := enough_split listed (parting ++ (name ++ rest))
  have some : entries.isEmpty = false := by
    cases entries with
    | nil => cases known
    | cons => rfl
  rw [split, readMembers_listed listed (parted.ended _), some]
  cases added : (knownOf entries).foldlM Draft.add? {} with
  | none => rfl
  | some draft =>
    have has : draft.has field := (Draft.has_of_adds added field).mpr (.inr known)
    obtain ⟨before, blank, turned⟩ := parted.turn (.inr rfl) (string_starts named) rest
    simp only [Bool.and_false, readMembers, turned, bind, Except.bind, memberName_written named blank,
      Draft.readMember_again has]

end

end SessionBoard.SessionRecord
