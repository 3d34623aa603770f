import SessionBoard.Proofs.App.Moves
import SessionBoard.Proofs.Store.Attempts
import SessionBoard.Proofs.Table.Records

namespace SessionBoard

def Activity.ofConnectivity : Connectivity → Activity
  | .unknown => .connecting
  | .active => .online
  | .inactive => .offline

namespace StateCounts

theorem add_right_comm (counts : StateCounts) (state state' : SessionState) :
    (counts.add state).add state' = (counts.add state').add state := by
  cases state <;> cases state' <;> rfl

/-- The order of the sessions does not matter. -/
theorem ofRecords_perm {records records' : List SessionRecord} (perm : records.Perm records') :
    ofRecords records = ofRecords records' := by
  unfold ofRecords
  exact perm.foldl_eq' (fun _ _ _ _ counts => counts.add_right_comm _ _) _

end StateCounts

/-- The event of the store that is handed to the reducer. -/
def AppEvent.store? : AppEvent → Option StoreEvent
  | .store event => some event
  | _ => none

namespace AppState

variable {app app' : AppState} {snapshot : Snapshot} {connectivity : Connectivity} {event : AppEvent}
  {effects : List Effect}

/-- The board shows a store with this snapshot and this health of the push channel. Only the events of the store
change what is shown, and each of them brings it in line with the store, whatever has happened before. -/
structure Shows (app : AppState) (snapshot : Snapshot) (connectivity : Connectivity) : Prop where
  activity : app.header.activity = .ofConnectivity connectivity
  counts : app.header.counts = .ofRecords snapshot
  table : app.table.Lists snapshot

theorem shows_start (server : String) (tick : Nat) (now : Clock) :
    (start server tick now).Shows [] .unknown :=
  ⟨rfl, rfl, TableState.lists_start now tick⟩

/-- The header counts the rows of the table, if the snapshot repeats no id. -/
theorem Shows.counts_rows (shows : app.Shows snapshot connectivity) (distinct : (idsOf snapshot).Nodup) :
    app.header.counts = .ofRecords app.table.records := by
  rw [shows.counts, StateCounts.ofRecords_perm (shows.table.records_perm distinct)]

/-- An event of the store is shown. -/
theorem Shows.onStore (shows : app.Shows snapshot connectivity) (event : StoreEvent) :
    (app.onStore event).Shows (event.snapshot?.getD snapshot) (event.connectivity?.getD connectivity) := by
  cases event with
  | update snapshot' => exact ⟨shows.activity, rfl, app.table.lists_applySnapshot snapshot' app.now⟩
  | active | inactive => exact ⟨rfl, shows.counts, shows.table⟩

/-- Two states show the same of a store. -/
structure ShowsSame (app app' : AppState) : Prop where
  header : app'.header = app.header
  records : app'.table.records = app.table.records

theorem ShowsSame.refl (app : AppState) : ShowsSame app app :=
  ⟨rfl, rfl⟩

theorem ShowsSame.trans {app'' : AppState} (first : ShowsSame app app') (second : ShowsSame app' app'') :
    ShowsSame app app'' :=
  ⟨second.header.trans first.header, second.records.trans first.records⟩

theorem Shows.of_same (shows : app.Shows snapshot connectivity) (same : ShowsSame app app') :
    app'.Shows snapshot connectivity where
  activity := same.header ▸ shows.activity
  counts := same.header ▸ shows.counts
  table := shows.table.of_records same.records

/-- Whatever else happens shows nothing new of the store. -/
theorem showsSame_update (other : event.store? = none) (updated : app.update event = .ok (app', effects)) :
    ShowsSame app app' := by
  cases event with
  | store event => cases other
  | mouse event =>
    obtain ⟨⟨table, effect⟩, moved, rest⟩ := Checked.bind_eq_ok.mp updated
    cases rest
    exact ⟨rfl, TableState.records_onMouse moved⟩
  | key event =>
    cases keyStep_of_update updated with
    | nothing => exact .refl app
    | notice | clear => exact ⟨rfl, rfl⟩
    | scroll answered => exact ⟨rfl, TableState.records_onKey answered⟩
  | tick =>
    cases updated
    exact ⟨rfl, app.table.records_tick app.now⟩
  | frame width height now =>
    cases updated
    unfold onFrame
    dsimp only
    split <;> exact ⟨rfl, rfl⟩
  | _ =>
    cases updated
    exact ⟨rfl, rfl⟩

end AppState

end SessionBoard
