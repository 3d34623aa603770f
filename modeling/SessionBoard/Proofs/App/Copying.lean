import SessionBoard.Proofs.App.Drags

namespace SessionBoard

open CellPoint (pieces)

theorem CellPoint.intercalate_pieces_eq_nil_iff {p q : CellPoint} {cells : List (List Char)} :
    List.intercalate ['\t'] (pieces p q cells) = [] ↔ pieces p q cells = [] := by
  constructor
  · cases taken : pieces p q cells with
    | nil => exact fun _ => rfl
    | cons piece rest =>
      have nonempty : piece ≠ [] := by
        have member : piece ∈ pieces p q cells := taken ▸ List.mem_cons_self
        simpa using List.of_mem_filter member
      cases rest <;> simp [List.intercalate, nonempty]
  · intro nothing
    rw [nothing]
    rfl

namespace TableState

variable {table : TableState} {key : SessionId} {anchor cursor : CellPoint}

/-- What lies between two points in the row of a session, the cells parted by tabs. -/
def Reads (table : TableState) (key : SessionId) (anchor cursor : CellPoint) (text : List Char) : Prop :=
  ∃ row ∈ table.rows, row.key = key ∧ text = List.intercalate ['\t'] (pieces anchor cursor row.cells)

theorem Sound.selectedText_eq (sound : table.Sound) (selected : table.selection.rowKey = some key) :
    ∃ text, table.Reads key table.selection.anchor table.selection.cursor text ∧
      table.selectedText = .ok (if text = [] then none else some text) := by
  obtain ⟨row, member, rfl⟩ := List.mem_map.mp (sound.selects.present key selected)
  refine ⟨_, ⟨row, member, rfl, rfl⟩, ?_⟩
  rw [selectedText, sound.selectedRow?_eq member selected]
  simp only [CellPoint.intercalate_pieces_eq_nil_iff]
  exact Selection.selectedText_eq selected (List.cons_ne_nil _ _)

theorem Sound.reads_unique (sound : table.Sound) {text text' : List Char}
    (reads : table.Reads key anchor cursor text) (reads' : table.Reads key anchor cursor text') : text' = text := by
  obtain ⟨row, member, rfl, rfl⟩ := reads
  obtain ⟨row', member', key, rfl⟩ := reads'
  rw [List.inj_on_of_nodup_map sound.keys_nodup member' member key]

end TableState

namespace AppState

variable {server : String} {tick : Nat} {now : Clock} {app app' : AppState} {move : Move}
  {past : List (AppState × Move)} {event : AppEvent} {effects : List Effect} {key : SessionId}
  {anchor cursor : CellPoint} {text : List Char} {x y : Nat}

def copyOf? : Effect → Option (List Char)
  | .copy text => some text
  | .quit | .refresh => none

def copiedBy : AppState × Move → List (List Char)
  | (app, .event event) =>
    match app.update event with
    | .ok (_, effects) => effects.filterMap copyOf?
    | .error _ => []
  | _ => []

/-- What was asked to be copied, oldest first. -/
def copied (past : List (AppState × Move)) : List (List Char) :=
  past.flatMap copiedBy

theorem copied_next (past : List (AppState × Move)) (moment : AppState × Move) :
    copied (past ++ [moment]) = copied past ++ copiedBy moment := by
  rw [copied, List.flatMap_append, List.flatMap_singleton]
  rfl

theorem copiedBy_event (updated : app.update event = .ok (app', effects)) :
    copiedBy (app, .event event) = effects.filterMap copyOf? := by
  simp only [copiedBy, updated]

theorem no_copy_of_update (updated : app.update event = .ok (app', effects))
    (other : ∀ x y, event ≠ .mouse ⟨.up .left, x, y⟩) : effects.filterMap copyOf? = [] := by
  cases event with
  | mouse event =>
    obtain ⟨⟨table, effect⟩, moved, rest⟩ := Checked.bind_eq_ok.mp updated
    cases rest
    obtain ⟨action, x, y⟩ := event
    unfold TableState.onMouse at moved
    split at moved
    case h_3 | h_4 =>
      obtain ⟨_, _, rest⟩ := Checked.bind_eq_ok.mp moved
      cases rest
      rfl
    case h_5 => simp_all
    all_goals
      cases moved
      rfl
  | key event =>
    obtain rfl : (app.onKey event).2 = effects := congrArg Prod.snd (Except.ok.inj updated)
    unfold onKey
    repeat' split
    all_goals rfl
  | _ =>
    cases updated
    rfl

theorem effects_of_release (sound : app.table.Sound) (drag : app.table.selection = .dragged key anchor cursor)
    (updated : app.update (.mouse ⟨.up .left, x, y⟩) = .ok (app', effects)) :
    ∃ text, app.table.Reads key anchor cursor text ∧ effects = if text = [] then [] else [.copy text] := by
  obtain ⟨onRow, selecting, rfl, rfl⟩ := eq_dragged_iff.mp drag
  rcases finish_of_release updated with ⟨idle, _⟩ | ⟨_, finished, text?, found, rfl⟩
  · cases selecting.symm.trans idle
  · have kept : { app.table with selection := app.table.selection.finish }.Sound := sound.reselect .finished
    obtain ⟨text, reads, read⟩ := kept.selectedText_eq onRow
    rw [finished] at found
    cases found.symm.trans read
    refine ⟨text, reads, ?_⟩
    split <;> rfl

theorem copy_iff (sound : app.table.Sound) (updated : app.update event = .ok (app', effects)) :
    .copy text ∈ effects ↔ (∃ x y, event = .mouse ⟨.up .left, x, y⟩) ∧ ∃ key anchor cursor,
      app.table.selection = .dragged key anchor cursor ∧ text ≠ [] ∧ app.table.Reads key anchor cursor text := by
  constructor
  · intro asked
    have copies : text ∈ effects.filterMap copyOf? := List.mem_filterMap.mpr ⟨_, asked, rfl⟩
    by_cases release : ∃ x y, event = .mouse ⟨.up .left, x, y⟩
    · refine ⟨release, ?_⟩
      obtain ⟨x, y, rfl⟩ := release
      rcases finish_of_release updated with ⟨_, _, rfl⟩ | ⟨selecting, _⟩
      · cases asked
      · obtain ⟨key, onRow⟩ := Option.isSome_iff_exists.mp (sound.selects.dragging selecting)
        have drag : app.table.selection = .dragged key app.table.selection.anchor app.table.selection.cursor :=
          eq_dragged_iff.mpr ⟨onRow, selecting, rfl, rfl⟩
        obtain ⟨text', reads, rfl⟩ := effects_of_release sound drag updated
        split at asked
        · cases asked
        · cases List.mem_singleton.mp asked
          exact ⟨key, _, _, drag, ‹_›, reads⟩
    · simp only [not_exists] at release
      rw [no_copy_of_update updated release] at copies
      cases copies
  · rintro ⟨⟨x, y, rfl⟩, key, anchor, cursor, drag, nonempty, reads⟩
    obtain ⟨text', reads', rfl⟩ := effects_of_release sound drag updated
    cases sound.reads_unique reads reads'
    rw [if_neg nonempty]
    exact List.mem_singleton_self _

/-- A drag that is under way is used up by a copy, and no other one begins without a press. -/
theorem length_copiedBy_add_le (sound : app.table.Sound) (other : ¬move.IsPress)
    (taken : app.move? move = some app') : (copiedBy (app, move)).length +
      app'.table.selection.selecting.toNat ≤ app.table.selection.selecting.toNat := by
  have onward : app'.table.selection.selecting.toNat ≤ app.table.selection.selecting.toNat := by
    have proceeds := proceeds_of_move sound other taken
    generalize app'.table.selection = selection at proceeds
    cases proceeds with
    | idle _ after | ended _ _ after =>
      rw [after]
      exact Nat.zero_le _
    | onward => exact Nat.le_refl _
  cases move with
  | drawn | quit => simpa [copiedBy] using onward
  | event event =>
    obtain ⟨effects, updated⟩ := move?_event.mp taken
    rw [copiedBy_event updated]
    by_cases release : ∃ x y, event = .mouse ⟨.up .left, x, y⟩
    · obtain ⟨x, y, rfl⟩ := release
      rcases finish_of_release updated with ⟨_, _, rfl⟩ | ⟨selecting, finished, text?, _, rfl⟩
      · simpa using onward
      · rw [selecting, finished]
        cases text? <;> simp [copyOf?, Selection.finish]
    · simp only [not_exists] at release
      simpa [no_copy_of_update updated release] using onward

theorem length_copied_add_le (reach : Reach move? (start server tick now) past app) :
    ∀ before pressed press later, past = before ++ (pressed, press) :: later →
      (∀ moment ∈ later, ¬moment.2.IsPress) →
        (copied later).length + app.table.selection.selecting.toNat ≤ 1 := by
  induction reach with
  | start =>
    intro before _ _ _ whole
    cases before <;> cases whole
  | @next past app move app' earlier taken ih =>
    intro before pressed press later whole others
    rcases split_next whole with ⟨_, _, rfl⟩ | ⟨shorter, rfl, rfl⟩
    · simpa [copied] using Bool.toNat_le _
    · rw [List.forall_mem_append, List.forall_mem_singleton] at others
      have most := ih before pressed press shorter rfl others.1
      have last : ¬move.IsPress := others.2
      have spent := length_copiedBy_add_le (sound_of_reach earlier) last taken
      rw [copied_next, List.length_append]
      omega

/-- What is copied, now and over the whole history. -/
structure CopiesDrags (past : List (AppState × Move)) (app : AppState) : Prop where
  /-- A copy is asked for by the release that ends a drag over some text, which is not empty, and by nothing
  else. -/
  copy_iff : ∀ event, ∃ app' effects, app.update event = .ok (app', effects) ∧ ∀ text, .copy text ∈ effects ↔
    (∃ x y, event = .mouse ⟨.up .left, x, y⟩) ∧ ∃ key anchor cursor, Drags past key anchor cursor ∧
      text ≠ [] ∧ app.table.Reads key anchor cursor text
  /-- A press leads to one copy at most before the next one. -/
  once : ∀ before pressed press later, past = before ++ (pressed, press) :: later → press.IsPress →
    (∀ moment ∈ later, ¬moment.2.IsPress) → (copied later).length ≤ 1

/-- Every drag that ends over some text is copied, once, and nothing else is. A copy is asked for by the release
that ends a drag, and it is of what lies between the two ends of the drag in the row that the press hit. -/
theorem copied_once (reach : Reach move? (start server tick now) past app) : CopiesDrags past app where
  copy_iff := by
    intro event
    obtain ⟨⟨app', effects⟩, updated⟩ := app.update_answers event
    refine ⟨app', effects, updated, fun text => ?_⟩
    rw [copy_iff (sound_of_reach reach) updated]
    simp only [dragged_iff_drags reach]
  once := by
    intro before pressed press later whole _ others
    have most := length_copied_add_le reach before pressed press later whole others
    omega

/-- The pointer leaves the row that it pressed, the table scrolls, and a snapshot moves the row and takes the
others away before the button is released. A second release copies nothing, and nor does one after Escape. -/
theorem copied_once_from_wandering_drag :
    ∃ past app, Reach move? (start "server" 100 ⟨0, 0⟩) past app ∧
      copied past = ["seven\thttp".toList] ∧ app.table.selection.selecting = false ∧ CopiesDrags past app := by
  have reach : Reach move? (start "server" 100 ⟨0, 0⟩) _ _ :=
    .of_moves [.event (.frame 100 5 ⟨0, 0⟩),
      .event (.store (.update [.plain "one" .waiting 0, .plain "two" .waiting 0, .plain "seven" .waiting 0])),
      .event (.key { key := .bottom }),
      .event (.mouse ⟨.down .left, 0, 3⟩), .event (.mouse ⟨.drag .left, 3, 0⟩),
      .event (.mouse ⟨.scrollUp, 3, 0⟩), .drawn,
      .event (.store (.update [{ (.plain "seven" .established 0 : SessionRecord) with protocol := "http" },
        .plain "nine" .waiting 0])),
      .event (.mouse ⟨.drag .left, 12, 4⟩), .event (.mouse ⟨.up .left, 50, 1⟩),
      .event (.mouse ⟨.up .left, 50, 1⟩), .event (.mouse ⟨.down .left, 0, 2⟩),
      .event (.mouse ⟨.drag .left, 12, 2⟩), .event (.key { key := .escape }),
      .event (.mouse ⟨.up .left, 12, 2⟩)] (by decide +kernel)
  exact ⟨_, _, reach, by decide +kernel, by decide +kernel, copied_once reach⟩

end AppState

end SessionBoard
