import SessionBoard.Proofs.Text.Utf8
import SessionBoard.Source

namespace SessionBoard

open SessionBoard.Text
open EventStream

namespace EventStream

variable {chunks before after : List Chunk} {octets later : List UInt8}

theorem Framer.feed_append (framer : Framer) (text later : List Char) :
    framer.feed (text ++ later) =
      (((framer.feed text).1.feed later).1,
        (framer.feed text).2 ++ ((framer.feed text).1.feed later).2) := by
  induction text generalizing framer with
  | nil => rfl
  | cons char text ih => simp only [List.cons_append, Framer.feed, ih, List.append_assoc]

/-- The octets that come with a chunk. -/
def Chunk.arrived : Chunk → List UInt8
  | .octets octets => octets
  | .failure => []

/-- All the octets that come with some chunks. -/
def arrived (chunks : List Chunk) : List UInt8 :=
  chunks.flatMap Chunk.arrived

/-- The chunks that fail. -/
def failures (chunks : List Chunk) : Nat :=
  chunks.count .failure

def Item.name? : Item → Option String
  | .event name => some name
  | .broken => none

theorem names_events (names : List String) : (names.map Item.event).filterMap Item.name? = names := by
  rw [List.filterMap_map]
  exact List.filterMap_some

theorem count_events (names : List String) : (names.map Item.event).count .broken = 0 :=
  List.count_eq_zero.mpr (by simp)

namespace Decoder

variable {decoder next last : Decoder} {events : List String} {items : List Item}

/-- There is no character in what is held back. -/
def Stuck (decoder : Decoder) : Prop :=
  Utf8.decodePrefix decoder.held = ([], decoder.held)

theorem stuck_start : Stuck {} :=
  rfl

theorem feed_eq {text : List Char} {held : List UInt8}
    (read : Utf8.decodePrefix (decoder.held ++ octets) = (text, held)) :
    decoder.feed octets =
      if !decoder.started && text.head? = some byteOrderMark then none
      else some ({ held, started := decoder.started || !text.isEmpty, framer := (decoder.framer.feed text).1 },
        (decoder.framer.feed text).2) := by
  rw [feed, read]

theorem feed_nil (stuck : decoder.Stuck) : decoder.feed [] = some (decoder, []) := by
  have nothing : Utf8.decodePrefix (decoder.held ++ []) = ([], decoder.held) := by
    rw [List.append_nil]
    exact stuck
  simp [feed_eq nothing, Framer.feed]

theorem stuck_of_feed (fed : decoder.feed octets = some (next, events)) : next.Stuck := by
  unfold feed at fed
  dsimp only at fed
  split at fed
  · cases fed
  · cases fed
    exact Utf8.decodePrefix_held _

/-- Octets may be taken in in two parts. -/
theorem feed_append (decoder : Decoder) (octets later : List UInt8) :
    decoder.feed (octets ++ later) = (do
      let (next, events) ← decoder.feed octets
      let (last, more) ← next.feed later
      return (last, events ++ more)) := by
  obtain ⟨held, started, framer⟩ := decoder
  cases first : Utf8.decodePrefix (held ++ octets) with | mk text between
  cases second : Utf8.decodePrefix (between ++ later) with | mk more rest
  have whole : Utf8.decodePrefix (held ++ (octets ++ later)) = (text ++ more, rest) := by
    rw [← List.append_assoc, Utf8.decodePrefix_append, first, second]
  have goesOn : ∀ started framer, feed ⟨between, started, framer⟩ later =
      if !started && more.head? = some byteOrderMark then none
      else some ({ held := rest, started := started || !more.isEmpty, framer := (framer.feed more).1 },
        (framer.feed more).2) :=
    fun started framer => feed_eq second
  rw [feed_eq whole, feed_eq first]
  -- Only the first character of a stream is compared with the byte order mark. It is in the first part if
  -- that has any character at all.
  cases text with
  | nil =>
    simp only [List.nil_append, List.head?_nil, reduceCtorEq, decide_false, Bool.and_false, Framer.feed,
      List.isEmpty_nil, Bool.not_true, Bool.or_false, Bool.false_eq_true, if_false, Option.bind_eq_bind,
      Option.bind_some, goesOn]
    split <;> rfl
  | cons char text =>
    have framed := framer.feed_append (char :: text) more
    rw [List.cons_append] at framed
    by_cases aborts : started = false ∧ char = byteOrderMark
    · simp [aborts]
    · simp [aborts, goesOn, framed]

/-- Reads the chunks of a stream that goes on after them. -/
def read (decoder : Decoder) : List Chunk → Option (Decoder × List Item)
  | [] => some (decoder, [])
  | .failure :: chunks => (decoder.read chunks).map fun (last, items) => (last, .broken :: items)
  | .octets octets :: chunks => do
    let (next, events) ← decoder.feed octets
    let (last, items) ← next.read chunks
    return (last, events.map .event ++ items)

theorem run_append (decoder : Decoder) (before after : List Chunk) :
    decoder.run (before ++ after) = (do
      let (next, done) ← decoder.read before
      let rest ← next.run after
      return done ++ rest) := by
  induction before generalizing decoder with
  | nil => cases goes : decoder.run after <;> simp [read, goes]
  | cons chunk before ih =>
    cases chunk with
    | failure =>
      cases goes : decoder.read before with
      | none => simp [run, read, ih, goes]
      | some found => cases later : found.1.run after <;> simp [run, read, ih, goes, later]
    | octets octets =>
      cases fed : decoder.feed octets with
      | none => simp [run, read, fed]
      | some found =>
        cases goes : found.1.read before with
        | none => simp [run, read, fed, ih, goes]
        | some last => cases later : last.1.run after <;> simp [run, read, fed, ih, goes, later]

/-- Reading takes in all the octets, and yields their events in the order of the chunks. -/
theorem read_names (stuck : decoder.Stuck) (chunks : List Chunk) :
    (decoder.read chunks).map (fun (last, items) => (last, items.filterMap Item.name?)) =
      decoder.feed (arrived chunks) := by
  induction chunks generalizing decoder with
  | nil => exact (feed_nil stuck).symm
  | cons chunk chunks ih =>
    cases chunk with
    | failure =>
      have same : arrived (.failure :: chunks) = arrived chunks := rfl
      rw [same, ← ih stuck, read, Option.map_map]
      rfl
    | octets octets =>
      have both : arrived (.octets octets :: chunks) = octets ++ arrived chunks := rfl
      rw [both, feed_append, read]
      cases fed : decoder.feed octets with
      | none => rfl
      | some found =>
        simp only [Option.bind_eq_bind, Option.bind_some, ← ih (stuck_of_feed fed)]
        cases found.1.read chunks with
        | none => rfl
        | some last =>
          simp only [Option.bind_some, Option.map_some, List.filterMap_append, names_events, Option.pure_def]

/-- Every chunk that fails is reported once. -/
theorem count_read (read : decoder.read chunks = some (last, items)) :
    items.count .broken = failures chunks := by
  induction chunks generalizing decoder items with
  | nil =>
    cases read
    rfl
  | cons chunk chunks ih =>
    cases chunk with
    | failure =>
      obtain ⟨⟨_, later⟩, goes, same⟩ := Option.map_eq_some_iff.mp read
      cases same
      rw [List.count_cons_self, ih goes, failures, failures, List.count_cons_self]
    | octets octets =>
      obtain ⟨⟨next, events⟩, fed, rest⟩ := Option.bind_eq_some_iff.mp read
      obtain ⟨⟨_, later⟩, goes, same⟩ := Option.bind_eq_some_iff.mp rest
      cases same
      rw [List.count_append, count_events, Nat.zero_add, ih goes, failures, failures,
        List.count_cons_of_ne (by simp)]

/-- Octets that come without a failure yield what they yield at once. -/
theorem run_octets (stuck : decoder.Stuck) (cut : List (List UInt8)) :
    decoder.run (cut.map .octets) =
      (decoder.feed cut.flatten).map fun (last, events) => events.map .event ++ last.finish := by
  induction cut generalizing decoder with
  | nil => simp [run, feed_nil stuck]
  | cons octets cut ih =>
    rw [List.map_cons, List.flatten_cons, feed_append, run]
    cases fed : decoder.feed octets with
    | none => rfl
    | some found =>
      simp only [Option.bind_eq_bind, Option.bind_some, ih (stuck_of_feed fed)]
      cases found.1.feed cut.flatten <;> simp

end Decoder

/-- The names of the events of octets that are there all at once: the text at their start is read and framed
as a whole. -/
def framed (octets : List UInt8) : List String :=
  (Framer.feed {} (Utf8.decodePrefix octets).1).2

/-- What the end of octets adds that are all there: an error if they are no text. -/
def trailing (octets : List UInt8) : List Item :=
  if (Utf8.decode? octets).isSome then [] else [.broken]

theorem feed_start (octets : List UInt8) :
    Decoder.feed {} octets =
      if (Utf8.decodePrefix octets).1.head? = some Decoder.byteOrderMark then none
      else some ({
        held := (Utf8.decodePrefix octets).2
        started := !(Utf8.decodePrefix octets).1.isEmpty
        framer := (Framer.feed {} (Utf8.decodePrefix octets).1).1 }, framed octets) := by
  simp [Decoder.feed, framed]

theorem feed_start_eq_none :
    Decoder.feed {} octets = none ↔ (Utf8.decodePrefix octets).1.head? = some Decoder.byteOrderMark := by
  simp [feed_start]

theorem framed_of_feed {last : Decoder} {names : List String}
    (fed : Decoder.feed {} octets = some (last, names)) :
    names = framed octets ∧ last.finish = trailing octets := by
  rw [feed_start] at fed
  split at fed
  · cases fed
  · cases fed
    refine ⟨rfl, ?_⟩
    cases read : Utf8.decodePrefix octets with | mk text held
    cases held <;> simp [Decoder.finish, trailing, Utf8.decode?, read]

/-- Some chunks come first, and what they complete is delivered before anything else. -/
theorem decode_append (before after : List Chunk) :
    decode (before ++ after) = (do
      let (next, done) ← Decoder.read {} before
      let rest ← next.run after
      return done ++ rest) :=
  Decoder.run_append {} before after

theorem feed_of_read {last : Decoder} {items : List Item} (goes : Decoder.read {} chunks = some (last, items)) :
    Decoder.feed {} (arrived chunks) = some (last, items.filterMap Item.name?) := by
  rw [← Decoder.read_names Decoder.stuck_start, goes]
  rfl

theorem decode_eq_none :
    decode chunks = none ↔ (Utf8.decodePrefix (arrived chunks)).1.head? = some Decoder.byteOrderMark := by
  have whole := decode_append chunks []
  rw [List.append_nil] at whole
  rw [whole, ← feed_start_eq_none, ← Decoder.read_names Decoder.stuck_start, Option.map_eq_none_iff]
  cases Decoder.read {} chunks with
  | none => exact iff_of_true rfl rfl
  | some found => exact iff_of_false nofun nofun

end EventStream

/-- The events among what a push channel delivers. -/
def eventsOf (items : List ChannelItem) : List ChannelEvent :=
  items.filterMap Except.toOption

/-- The errors among what a push channel delivers. -/
def errorsOf (items : List ChannelItem) : List SourceError :=
  items.filterMap fun
    | .error error => some error
    | .ok _ => none

theorem eventsOf_map (items : List Item) :
    eventsOf (items.map .ofItem) = (items.filterMap Item.name?).map .ofName := by
  induction items with
  | nil => rfl
  | cons item items ih =>
    cases item with
    | event name => exact congrArg (ChannelEvent.ofName name :: ·) ih
    | broken => exact ih

theorem errorsOf_map (items : List Item) :
    errorsOf (items.map .ofItem) = List.replicate (items.count .broken) .brokenStream := by
  induction items with
  | nil => rfl
  | cons item items ih =>
    cases item with
    | event name =>
      rw [List.count_cons_of_ne (by simp)]
      exact ih
    | broken =>
      rw [List.count_cons_self]
      exact congrArg (SourceError.brokenStream :: ·) ih

/-- What has been delivered of some chunks: the events that their octets complete, and an error for each of
them that failed. -/
structure Delivered (chunks : List Chunk) (done : List ChannelItem) : Prop where
  events : eventsOf done = (framed (arrived chunks)).map .ofName
  errors : errorsOf done = List.replicate (failures chunks) .brokenStream

/-- What a push channel delivers of some chunks up to its end. -/
structure Streamed (chunks : List Chunk) (items : List ChannelItem) : Prop where
  to_the_end : ∃ done, items = done ++ (trailing (arrived chunks)).map .ofItem ∧ Delivered chunks done
  /-- Failures are reported in their places, and nothing else comes of them. -/
  in_place : ∀ before after, chunks = before ++ .failure :: after → ∃ done rest,
    items = done ++ .error .brokenStream :: rest ∧ Delivered before done ∧
      channelItems (before ++ after) = some (done ++ rest)

theorem delivered_of_read {last : Decoder} {done : List Item}
    (goes : Decoder.read {} chunks = some (last, done)) : Delivered chunks (done.map .ofItem) where
  events := by rw [eventsOf_map, (framed_of_feed (feed_of_read goes)).1]
  errors := by rw [errorsOf_map, Decoder.count_read goes]

theorem streamed_of_decode {items : List Item} (decoded : decode chunks = some items) :
    Streamed chunks (items.map .ofItem) := by
  constructor
  · have whole := decode_append chunks []
    rw [List.append_nil, decoded] at whole
    obtain ⟨⟨last, done⟩, goes, ends⟩ := Option.bind_eq_some_iff.mp whole.symm
    cases ends
    refine ⟨done.map .ofItem, ?_, delivered_of_read goes⟩
    rw [List.map_append, (framed_of_feed (feed_of_read goes)).2]
  · rintro before after rfl
    rw [decode_append] at decoded
    obtain ⟨⟨next, done⟩, goes, later⟩ := Option.bind_eq_some_iff.mp decoded
    obtain ⟨_, afterwards, same⟩ := Option.bind_eq_some_iff.mp later
    cases same
    obtain ⟨rest, goesOn, rfl⟩ := Option.map_eq_some_iff.mp afterwards
    have without : decode (before ++ after) = some (done ++ rest) := by
      rw [decode_append, goes]
      exact congrArg (Option.bind · _) goesOn
    refine ⟨done.map .ofItem, rest.map .ofItem, List.map_append, delivered_of_read goes, ?_⟩
    rw [channelItems, without, ← List.map_append]
    rfl

/-- It does not matter how the octets of a push channel are cut into chunks. Octets that are no character yet
are read together with the next ones, and lines and events go on from one chunk to the next. Failures are
reported in their places, and nothing else comes of them. -/
theorem delivered_from_any_chunks :
    (∀ cut cut' : List (List UInt8), cut.flatten = cut'.flatten →
      channelItems (cut.map .octets) = channelItems (cut'.map .octets)) ∧
    ∀ chunks,
      (channelItems chunks = none ↔
        (Utf8.decodePrefix (arrived chunks)).1.head? = some Decoder.byteOrderMark) ∧
      ∀ items, channelItems chunks = some items → Streamed chunks items := by
  refine ⟨fun cut cut' same => ?_, fun chunks => ⟨?_, fun items delivered => ?_⟩⟩
  · rw [channelItems, channelItems, decode, decode, Decoder.run_octets Decoder.stuck_start,
      Decoder.run_octets Decoder.stuck_start, same]
  · rw [channelItems, Option.map_eq_none_iff, decode_eq_none]
  · obtain ⟨shown, decoded, rfl⟩ := Option.map_eq_some_iff.mp delivered
    exact streamed_of_decode decoded

/-- A stream is cut between a return and its line feed, within a character and before the octet that makes it
no text, and it fails twice. -/
theorem delivered_from_torn_stream :
    ∃ cut cut' : List (List UInt8), ∃ chunks items,
      cut.flatten = cut'.flatten ∧ arrived chunks = cut.flatten ∧
      items = [.error .brokenStream, .ok .update, .error .brokenStream, .ok (.other "message"),
        .error .brokenStream] ∧
      channelItems (cut.map .octets) = channelItems (cut'.map .octets) ∧
      channelItems chunks = some items ∧ Streamed chunks items := by
  have delivered : channelItems
      [.octets (Utf8.encode "event: up".toList), .failure, .octets (Utf8.encode "date\r".toList), .octets [],
        .octets (Utf8.encode "\ndata: ".toList ++ [0xc3]), .octets [0xa9],
        .octets (Utf8.encode "\r\n\r\ndata\r".toList), .failure,
        .octets (Utf8.encode "\ra".toList ++ [0xc3])] =
      some [.error .brokenStream, .ok .update, .error .brokenStream, .ok (.other "message"),
        .error .brokenStream] := by rfl
  have same := delivered_from_any_chunks.1
    [Utf8.encode "event: update\r\ndata: é\r\n\r\n".toList, Utf8.encode "data\r\ra".toList, [0xc3]]
    [Utf8.encode "event: update\r".toList, Utf8.encode "\ndata: ".toList ++ [0xc3], [0xa9],
      Utf8.encode "\r\n\r\ndata\r\ra".toList ++ [0xc3]] (by rfl)
  exact ⟨_, _, _, _, by rfl, by rfl, rfl, same, delivered, (delivered_from_any_chunks.2 _).2 _ delivered⟩

end SessionBoard
