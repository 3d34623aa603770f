import SessionBoard.Proofs.EventStream.Chunking

namespace SessionBoard

open SessionBoard.Text

namespace EventStream

/-- Text in which no line ends. -/
def OneLine (text : List Char) : Prop :=
  '\r' ∉ text ∧ '\n' ∉ text

instance (text : List Char) : Decidable (OneLine text) :=
  inferInstanceAs (Decidable ('\r' ∉ text ∧ '\n' ∉ text))

/-- What follows the name of a field. One space after the colon does not belong to the value. -/
inductive FieldValue
  | absent
  | plain (text : List Char) (oneLine : OneLine text) (unspaced : text.head? ≠ some ' ')
  | spaced (text : List Char) (oneLine : OneLine text)

namespace FieldValue

def text : FieldValue → List Char
  | .absent => []
  | .plain text _ _ | .spaced text _ => text

def written : FieldValue → List Char
  | .absent => []
  | .plain text _ _ => ':' :: text
  | .spaced text _ => ':' :: ' ' :: text

theorem fieldValue_written (value : FieldValue) : Framer.fieldValue value.written = value.text := by
  cases value with
  | absent => rfl
  | spaced text _ => rfl
  | plain text _ unspaced =>
    cases text with
    | nil => rfl
    | cons char text =>
      have notSpace : char ≠ ' ' := fun same => unspaced (congrArg some same)
      simp only [written, FieldValue.text, Framer.fieldValue]
      split <;> simp_all

theorem oneLine_written (value : FieldValue) : OneLine value.written := by
  cases value with
  | absent => simp [written, OneLine]
  | plain text oneLine _ => simpa [written, OneLine] using oneLine
  | spaced text oneLine => simpa [written, OneLine] using oneLine

end FieldValue

/-- A line that does not close a block. -/
inductive Line
  | comment (text : List Char) (oneLine : OneLine text)
  | field (name : List Char) (value : FieldValue) (oneLine : OneLine name) (noColon : ':' ∉ name)
      (notEmpty : name ≠ [])

namespace Line

def text : Line → List Char
  | .comment text _ => ':' :: text
  | .field name value _ _ _ => name ++ value.written

/-- The name that an event line gives to its block. -/
def eventName? : Line → Option (List Char)
  | .comment _ _ => none
  | .field name value _ _ _ => if name = "event".toList then some value.text else none

def isData : Line → Bool
  | .comment _ _ => false
  | .field name _ _ _ _ => name = "data".toList

theorem oneLine_text (line : Line) : OneLine line.text := by
  cases line with
  | comment text oneLine => simpa [Line.text, OneLine] using oneLine
  | field name value oneLine _ _ =>
    have written := value.oneLine_written
    simp only [Line.text, OneLine, List.mem_append, not_or] at oneLine written ⊢
    exact ⟨⟨oneLine.1, written.1⟩, oneLine.2, written.2⟩

theorem text_ne_nil (line : Line) : line.text ≠ [] := by
  cases line with
  | comment text _ => simp [Line.text]
  | field name value _ _ notEmpty => simp [Line.text, notEmpty]

/-- There are no other lines than comments and fields. -/
theorem exists_line {text : List Char} (oneLine : OneLine text) (notEmpty : text ≠ []) :
    ∃ line : Line, line.text = text := by
  by_cases colon : ':' ∈ text
  · obtain ⟨name, after, rfl, noColon⟩ := List.eq_append_cons_of_mem colon
    have nameLine : OneLine name := by
      simp only [OneLine, List.mem_append, not_or] at oneLine
      exact ⟨oneLine.1.1, oneLine.2.1⟩
    have afterLine : OneLine after := by
      simp only [OneLine, List.mem_append, List.mem_cons, not_or] at oneLine
      exact ⟨oneLine.1.2.2, oneLine.2.2.2⟩
    obtain ⟨value, written⟩ : ∃ value : FieldValue, value.written = ':' :: after := by
      cases after with
      | nil => exact ⟨.plain [] afterLine nofun, rfl⟩
      | cons char after =>
        by_cases space : char = ' '
        · subst space
          simp only [OneLine, List.mem_cons, not_or] at afterLine
          exact ⟨.spaced after ⟨afterLine.1.2, afterLine.2.2⟩, rfl⟩
        · exact ⟨.plain (char :: after) afterLine (by simpa using space), rfl⟩
    by_cases noName : name = []
    · subst noName
      exact ⟨.comment after afterLine, rfl⟩
    · exact ⟨.field name value nameLine noColon noName, congrArg (name ++ ·) written⟩
  · exact ⟨.field text .absent oneLine colon notEmpty, List.append_nil text⟩

end Line

/-- How a line ends. -/
inductive Ending
  | feed
  | returnFeed

/-- What comes before the line feed. -/
def Ending.start : Ending → List Char
  | .feed => []
  | .returnFeed => ['\r']

def Ending.text (ending : Ending) : List Char :=
  ending.start ++ ['\n']

def linesText (lines : List (Line × Ending)) : List Char :=
  lines.flatMap fun (line, ending) => line.text ++ ending.text

/-- Some lines, and the empty line that closes the block. -/
structure Block where
  lines : List (Line × Ending)
  closing : Ending

/-- What counts of a block. -/
structure Outline where
  /-- The names that the event lines give, in their order. -/
  names : List (List Char)
  hasData : Bool

/-- The last event line names the event. -/
def Outline.name (outline : Outline) : String :=
  match outline.names.getLast? with
  | none | some [] => "message"
  | some name => String.ofList name

def Outline.event? (outline : Outline) : Option String :=
  if outline.hasData then some outline.name else none

def outlineOf (lines : List (Line × Ending)) : Outline where
  names := lines.filterMap fun (line, _) => line.eventName?
  hasData := lines.any fun (line, _) => line.isData

namespace Block

def text (block : Block) : List Char :=
  linesText block.lines ++ block.closing.text

def outline (block : Block) : Outline :=
  outlineOf block.lines

def event? (block : Block) : Option String :=
  block.outline.event?

end Block

namespace Framer

theorem feed_oneLine {text : List Char} (oneLine : OneLine text) (line name : List Char) (hasData : Bool) :
    feed ⟨line, false, name, hasData⟩ text = (⟨text.reverse ++ line, false, name, hasData⟩, []) := by
  induction text generalizing line with
  | nil => rfl
  | cons char text ih =>
    simp only [OneLine, List.mem_cons, not_or] at oneLine
    obtain ⟨⟨notReturn, noReturn⟩, notFeed, noFeed⟩ := oneLine
    have step : Framer.step ⟨line, false, name, hasData⟩ char = (⟨char :: line, false, name, hasData⟩, none) := by
      simp [Framer.step, push, Ne.symm notReturn, Ne.symm notFeed]
    rw [feed, step]
    simp only [ih ⟨noReturn, noFeed⟩, Option.toList_none, List.nil_append, List.reverse_cons,
      List.append_assoc, List.singleton_append]

theorem feed_ending (ending : Ending) (line name : List Char) (hasData : Bool) :
    feed ⟨line, false, name, hasData⟩ ending.text =
      ((endLine ⟨line, false, name, hasData⟩).1, (endLine ⟨line, false, name, hasData⟩).2.toList) := by
  cases ending <;> simp [Ending.text, Ending.start, feed, step, push, endLine]

theorem takeField_written (framer : Framer) {field : List Char} (noColon : ':' ∉ field) (value : FieldValue) :
    framer.takeField (field ++ value.written) =
      { framer with
        name := if field = "event".toList then value.text else framer.name
        hasData := framer.hasData || field = "data".toList } := by
  have all : ∀ char ∈ field, (char ≠ ':') = true := fun char member => by
    simpa using ne_of_mem_of_not_mem member noColon
  have field? : (field ++ value.written).takeWhile (· ≠ ':') = field := by
    rw [List.takeWhile_append_of_pos (by simpa using all)]
    cases value <;> simp [FieldValue.written]
  have value? : (field ++ value.written).dropWhile (· ≠ ':') = value.written := by
    rw [List.dropWhile_append_of_pos (by simpa using all)]
    cases value <;> simp [FieldValue.written]
  rw [takeField, field?, value?, value.fieldValue_written]
  by_cases isEvent : field = "event".toList
  · subst isEvent
    simp
  · rw [if_neg isEvent, if_neg isEvent]
    by_cases isData : field = "data".toList
    · rw [if_pos isData, decide_eq_true isData, Bool.or_true]
    · rw [if_neg isData, decide_eq_false isData, Bool.or_false]

theorem endLine_line (line : Line) (name : List Char) (hasData : Bool) :
    endLine ⟨line.text.reverse, false, name, hasData⟩ =
      (⟨[], false, line.eventName?.getD name, hasData || line.isData⟩, none) := by
  cases line with
  | comment text _ => simp [endLine, Line.text, Line.eventName?, Line.isData]
  | field field value _ noColon notEmpty =>
    obtain ⟨char, rest, rfl⟩ := List.exists_cons_of_ne_nil notEmpty
    have notColon : char ≠ ':' := fun same => noColon (same ▸ List.mem_cons_self)
    have ended : endLine ⟨(char :: rest ++ value.written).reverse, false, name, hasData⟩ =
        (takeField ⟨[], false, name, hasData⟩ (char :: rest ++ value.written), none) := by
      simp only [endLine, List.reverse_reverse, List.cons_append]
      split
      · contradiction
      · simp_all
      · rfl
    rw [Line.text, ended, takeField_written _ noColon]
    by_cases isEvent : char :: rest = "event".toList
    · simp only [Line.eventName?, Line.isData, if_pos isEvent, Option.getD_some]
    · simp only [Line.eventName?, Line.isData, if_neg isEvent, Option.getD_none]

/-- A line leaves the name that it gives, and whether it is data. -/
theorem feed_line (line : Line) (ending : Ending) (name : List Char) (hasData : Bool) :
    feed ⟨[], false, name, hasData⟩ (line.text ++ ending.text) =
      (⟨[], false, line.eventName?.getD name, hasData || line.isData⟩, []) := by
  rw [feed_append, feed_oneLine line.oneLine_text, List.append_nil, feed_ending, endLine_line]
  rfl

theorem feed_lines (lines : List (Line × Ending)) (name : List Char) (hasData : Bool) :
    feed ⟨[], false, name, hasData⟩ (linesText lines) =
      (⟨[], false, (outlineOf lines).names.getLast?.getD name, hasData || (outlineOf lines).hasData⟩, []) := by
  induction lines generalizing name hasData with
  | nil => simp [linesText, feed, outlineOf]
  | cons head lines ih =>
    obtain ⟨line, ending⟩ := head
    have first : linesText ((line, ending) :: lines) = line.text ++ ending.text ++ linesText lines := rfl
    rw [first, feed_append, feed_line, ih]
    cases named : line.eventName? with
    | none => simp [outlineOf, named, Bool.or_assoc]
    | some own => simp [outlineOf, named, Bool.or_assoc, List.getLast?_cons]

/-- The empty line ends the event that the lines before it make up. -/
theorem dispatch_outline (outline : Outline) :
    dispatch ⟨[], false, outline.names.getLast?.getD [], outline.hasData⟩ = ({}, outline.event?) := by
  rw [dispatch, Outline.event?, Outline.name]
  cases outline.names.getLast? with
  | none => rfl
  | some name => cases name <;> rfl

theorem feed_block (block : Block) : feed {} block.text = ({}, block.event?.toList) := by
  have lines := feed_lines block.lines [] false
  rw [Bool.false_or] at lines
  rw [Block.text, feed_append, lines, feed_ending, endLine]
  simp only [List.reverse_nil, dispatch_outline, List.nil_append]
  rfl

/-- Blocks yield their events one after the other, and each of them leaves the framer as it found it. -/
theorem feed_blocks (blocks : List Block) :
    feed {} (blocks.flatMap Block.text) = ({}, blocks.filterMap Block.event?) := by
  induction blocks with
  | nil => rfl
  | cons block blocks ih =>
    rw [List.flatMap_cons, feed_append, feed_block, ih, List.filterMap_cons]
    cases block.event? <;> rfl

/-- A block yields nothing before its last line feed. -/
theorem feed_cut_short {block : Block} {cut : List Char} (cutShort : cut <+: block.text)
    (notWhole : cut ≠ block.text) :
    (feed {} cut).2 = [] := by
  have whole : block.text = linesText block.lines ++ block.closing.start ++ ['\n'] := by
    rw [Block.text, Ending.text, List.append_assoc]
  have silent : (feed {} (linesText block.lines ++ block.closing.start)).2 = [] := by
    have lines := feed_lines block.lines [] false
    rw [feed_append, lines]
    cases block.closing <;> rfl
  rw [whole, List.prefix_concat_iff] at cutShort
  obtain ⟨rest, body⟩ := cutShort.resolve_left (fun same => notWhole (same.trans whole.symm))
  rw [← body, feed_append] at silent
  exact (List.append_eq_nil_iff.mp silent).1

end Framer

/-- A stream of whole blocks, and perhaps the start of another one. One event comes of every block that has a
data line, under the name that its last event line gives, and nothing else of what the lines say is heard. -/
structure BlockStream where
  blocks : List Block
  /-- What is there of a block that has not been closed. -/
  rest : List Char
  cutShort : ∃ block : Block, rest <+: block.text ∧ rest ≠ block.text
  unmarked : (blocks.flatMap Block.text ++ rest).head? ≠ some Decoder.byteOrderMark

def BlockStream.text (stream : BlockStream) : List Char :=
  stream.blocks.flatMap Block.text ++ stream.rest

theorem BlockStream.feed_text (stream : BlockStream) :
    (Framer.feed {} stream.text).2 = stream.blocks.filterMap Block.event? := by
  obtain ⟨block, cutShort, notWhole⟩ := stream.cutShort
  rw [BlockStream.text, Framer.feed_append, Framer.feed_blocks, Framer.feed_cut_short cutShort notWhole,
    List.append_nil]

/-- What a channel delivers of text, however its octets are cut. -/
theorem decode_text {text : List Char} (unmarked : text.head? ≠ some Decoder.byteOrderMark)
    {cut : List (List UInt8)} (octets : cut.flatten = Utf8.encode text) :
    decode (cut.map .octets) = some ((Framer.feed {} text).2.map .event) := by
  have read := Utf8.decodePrefix_encode text
  rw [decode, Decoder.run_octets Decoder.stuck_start, octets]
  cases fed : Decoder.feed {} (Utf8.encode text) with
  | none =>
    rw [feed_start_eq_none, read] at fed
    exact absurd fed unmarked
  | some found =>
    obtain ⟨last, names⟩ := found
    obtain ⟨rfl, ends⟩ := framed_of_feed fed
    have silent : last.finish = [] := by
      rw [ends, trailing, Utf8.decode?_encode]
      rfl
    simp only [Option.map_some, silent, List.append_nil, framed, read]

theorem channelItems_text {text : List Char} (unmarked : text.head? ≠ some Decoder.byteOrderMark)
    {cut : List (List UInt8)} (octets : cut.flatten = Utf8.encode text) :
    channelItems (cut.map .octets) = some ((Framer.feed {} text).2.map fun name => .ok (.ofName name)) := by
  rw [channelItems, decode_text unmarked octets, Option.map_some, List.map_map]
  rfl

theorem BlockStream.delivered (stream : BlockStream) {cut : List (List UInt8)}
    (octets : cut.flatten = Utf8.encode stream.text) :
    channelItems (cut.map .octets) =
      some ((stream.blocks.filterMap Block.event?).map fun name => .ok (.ofName name)) := by
  have unmarked : stream.text.head? ≠ some Decoder.byteOrderMark := stream.unmarked
  rw [channelItems_text unmarked octets, stream.feed_text]

theorem events_of_outlines (blocks : List Block) :
    blocks.filterMap Block.event? = (blocks.map Block.outline).filterMap Outline.event? := by
  rw [List.filterMap_map]
  rfl

end EventStream

open EventStream

/-- Every block with a data line yields one event under its own name, whichever of its lines come first and
however they end. What comes after the last whole block yields nothing, and no more of a stream is heard than the
outlines of its blocks. -/
theorem delivered_from_blocks :
    (∀ stream : BlockStream, ∀ cut : List (List UInt8), cut.flatten = Utf8.encode stream.text →
      channelItems (cut.map .octets) =
        some ((stream.blocks.filterMap Block.event?).map fun name => .ok (.ofName name))) ∧
    (∀ stream other : BlockStream, stream.blocks.map Block.outline = other.blocks.map Block.outline →
      ∀ cut cut' : List (List UInt8), cut.flatten = Utf8.encode stream.text →
        cut'.flatten = Utf8.encode other.text →
        channelItems (cut.map .octets) = channelItems (cut'.map .octets)) ∧
    ∀ text, OneLine text → text ≠ [] → ∃ line : Line, line.text = text := by
  refine ⟨fun stream cut => stream.delivered, fun stream other same cut cut' octets octets' => ?_,
    fun _ => Line.exists_line⟩
  rw [stream.delivered octets, other.delivered octets', events_of_outlines, events_of_outlines, same]

/-- The data before the name, a comment between them and both ways to end a line; a name without data, and data
without a name after it; two names; and the start of a block that is cut within the end of its last line. -/
theorem delivered_from_mixed_blocks :
    ∃ stream : BlockStream, ∃ cut : List (List UInt8), cut.flatten = Utf8.encode stream.text ∧
      stream.text = ("data\r\n:é\nevent: init\n\nevent: update\n\r\ndata:x\nid: 7\r\n\n" ++
        "event:a\ndata\nevent: update\n\ndata\n\r").toList ∧
      channelItems (cut.map .octets) = some [.ok .init, .ok (.other "message"), .ok .update] := by
  let data : Line := .field "data".toList .absent (by decide) (by decide) (by decide)
  let event (text : List Char) (oneLine : OneLine text) : Line :=
    .field "event".toList (.spaced text oneLine) (by decide) (by decide) (by decide)
  have cutShort : ∃ block : Block, "data\n\r".toList <+: block.text ∧ "data\n\r".toList ≠ block.text :=
    ⟨⟨[(data, .feed)], .returnFeed⟩, by decide, by decide⟩
  let blocks : List Block :=
    [⟨[(data, .returnFeed), (.comment "é".toList (by decide), .feed),
        (event "init".toList (by decide), .feed)], .feed⟩,
      ⟨[(event "update".toList (by decide), .feed)], .returnFeed⟩,
      ⟨[(.field "data".toList (.plain "x".toList (by decide) (by decide)) (by decide) (by decide) (by decide), .feed),
        (.field "id".toList (.spaced "7".toList (by decide)) (by decide) (by decide) (by decide), .returnFeed)],
        .feed⟩,
      ⟨[(.field "event".toList (.plain "a".toList (by decide) (by decide)) (by decide) (by decide) (by decide), .feed),
        (data, .feed), (event "update".toList (by decide), .feed)], .feed⟩]
  let stream : BlockStream := ⟨blocks, _, cutShort, by decide⟩
  have delivered := delivered_from_blocks.1 stream [Utf8.encode stream.text] List.flatten_singleton
  exact ⟨stream, _, List.flatten_singleton, by rfl, delivered⟩

end SessionBoard
