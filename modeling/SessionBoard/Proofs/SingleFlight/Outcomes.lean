import Mathlib.Data.List.Nodup
import SessionBoard.Proofs.SingleFlight.Coalescing
import SessionBoard.Proofs.SingleFlight.Rest

namespace SessionBoard

/-- A single flight with the handles of its flights. Whoever requests an execution holds one, and may copy it or
give it up at any time; a handle that was given up keeps its place. Executions know nothing of that. -/
structure HandedOut (σ α : Type) where
  flights : SingleFlight σ α := {}
  handles : List (Option Nat) := []

namespace HandedOut

variable {σ α : Type} {handed handed' : HandedOut σ α} {flight : Nat}

inductive Move (σ α : Type)
  /-- A request, which gives out a handle, or a step of an execution. -/
  | ofFlights (move : SingleFlight.Move σ α)
  | copy (handle : Nat)
  | giveUp (handle : Nat)

/-- The flight of a handle that has not been given up. -/
def held? (handed : HandedOut σ α) (handle : Nat) : Option Nat :=
  handed.handles[handle]?.join

def move? (handed : HandedOut σ α) : Move σ α → Option (HandedOut σ α)
  | .ofFlights move => do
    let flights ← handed.flights.move? move
    let given := SingleFlight.History.returned? (handed.flights, move)
    return ⟨flights, handed.handles ++ given.toList.map some⟩
  | .copy handle =>
    (handed.held? handle).map fun flight => { handed with handles := handed.handles ++ [some flight] }
  | .giveUp handle =>
    (handed.held? handle).map fun _ => { handed with handles := handed.handles.set handle none }

def flightMove? : HandedOut σ α × Move σ α → Option (SingleFlight σ α × SingleFlight.Move σ α)
  | (handed, .ofFlights move) => some (handed.flights, move)
  | _ => none

/-- What the history says of the single flight alone. -/
def flightHistory (past : List (HandedOut σ α × Move σ α)) : SingleFlight.History σ α :=
  past.filterMap flightMove?

variable (past : List (HandedOut σ α × Move σ α))

theorem flightHistory_ofFlights (move : SingleFlight.Move σ α) :
    flightHistory (past ++ [(handed, .ofFlights move)]) = flightHistory past ++ [(handed.flights, move)] :=
  filterMap_next ..

theorem flightHistory_copy (handle : Nat) :
    flightHistory (past ++ [(handed, .copy handle)]) = flightHistory past :=
  (filterMap_next ..).trans (List.append_nil _)

theorem flightHistory_giveUp (handle : Nat) :
    flightHistory (past ++ [(handed, .giveUp handle)]) = flightHistory past :=
  (filterMap_next ..).trans (List.append_nil _)

variable {past}

theorem held?_mem {handle : Nat} (held : handed.held? handle = some flight) : some flight ∈ handed.handles :=
  List.mem_of_getElem? (Option.join_eq_some_iff.mp held)

/-- Handles come and go beside the single flight, which moves as it would without them. -/
theorem flights_of_reach (reach : Reach move? {} past handed) :
    Reach SingleFlight.move? {} (flightHistory past) handed.flights := by
  induction reach with
  | start => exact .start
  | @next past handed move handed' _ taken ih =>
    cases move with
    | ofFlights move =>
      obtain ⟨flights, goes, same⟩ := Option.bind_eq_some_iff.mp taken
      cases same
      rw [flightHistory_ofFlights]
      exact ih.next goes
    | copy handle =>
      obtain ⟨flight, _, rfl⟩ := Option.map_eq_some_iff.mp taken
      rw [flightHistory_copy]
      exact ih
    | giveUp handle =>
      obtain ⟨flight, _, rfl⟩ := Option.map_eq_some_iff.mp taken
      rw [flightHistory_giveUp]
      exact ih

/-- A handle is that of a flight which answered a request. -/
theorem returned_of_handle (reach : Reach move? {} past handed) (handle : some flight ∈ handed.handles) :
    flight ∈ (flightHistory past).returned := by
  induction reach with
  | start => cases handle
  | @next past handed move handed' _ taken ih =>
    cases move with
    | ofFlights move =>
      obtain ⟨flights, _, same⟩ := Option.bind_eq_some_iff.mp taken
      cases same
      rw [flightHistory_ofFlights, SingleFlight.History.returned_concat, List.mem_append]
      rcases List.mem_append.mp handle with before | given
      · exact .inl (ih before)
      · obtain ⟨_, isGiven, same⟩ := List.mem_map.mp given
        cases same
        exact .inr isGiven
    | copy handle =>
      obtain ⟨copied, held, rfl⟩ := Option.map_eq_some_iff.mp taken
      rw [flightHistory_copy]
      rcases List.mem_append.mp handle with before | same
      · exact ih before
      · cases List.mem_singleton.mp same
        exact ih (held?_mem held)
    | giveUp handle =>
      obtain ⟨_, _, rfl⟩ := Option.map_eq_some_iff.mp taken
      rw [flightHistory_giveUp]
      rcases List.mem_or_eq_of_mem_set handle with before | none
      · exact ih before
      · cases none

end HandedOut

namespace SingleFlight

variable {σ α : Type} {past : History σ α} {flights : SingleFlight σ α}

/-- No task can take a step by itself. -/
structure Still (flights : SingleFlight σ α) : Prop where
  begins : ∀ id progress, flights.move? (.begin id progress) = none
  settles : ∀ id, flights.move? (.settle id) = none
  resolves : ∀ id, flights.move? (.resolve id) = none

/-- Every operation that was called has completed or panicked. -/
def History.AllEnded (past : History σ α) : Prop :=
  ∀ id ∈ past.begun, ∃ outcome, (id, outcome) ∈ past.ended

theorem Still.atRest [Nonempty σ] (still : flights.Still) : flights.AtRest where
  unwound id := by
    have settles : flights.settle? id = none := still.settles id
    have resolves : flights.resolve? id = none := still.resolves id
    rw [unwind?, settles, resolves]
    rfl
  waiting id after launched := by
    obtain ⟨progress⟩ := ‹Nonempty σ›
    refine waiting_of_begin? (fun flights' (goes : flights.begin? id progress = some flights') => ?_) launched
    cases (still.begins id progress).symm.trans goes

/-- An operation that has ended is not under way. -/
theorem Chronicle.not_running (chronicle : Chronicle past flights) (ended : past.AllEnded) {id : Nat} {progress : σ} :
    flights.stage? id ≠ some (.running progress) := by
  intro running
  have last := Tally.eq_of_running chronicle running
  have begun : id ∈ past.begun := by
    rw [chronicle.begun_eq, List.mem_range]
    exact (chronicle.begun_first.iff running).mp rfl
  obtain ⟨outcome, member⟩ := ended id begun
  have before := Tally.lt_of_mem_ended chronicle member
  omega

/-- The outcome of a flight is what its own operation ended with. -/
theorem Chronicle.outcome_iff (chronicle : Chronicle past flights) {flight : Nat}
    (resolved : (flights.outcome? flight).isSome) (outcome : Option α) :
    flights.outcome? flight = some outcome ↔ (flight, outcome) ∈ past.ended := by
  obtain ⟨own, found⟩ := Option.isSome_iff_exists.mp resolved
  have atFlight := outcome?_eq_some.mp found
  rw [found]
  constructor
  · rintro ⟨⟩
    exact Tally.mem_ended chronicle atFlight rfl
  · intro member
    obtain ⟨stage, atSame, ending⟩ := chronicle.outcome member
    cases Option.some.inj (atFlight.symm.trans atSame)
    exact ending

/-- All executions have begun when all flights are resolved. -/
theorem Chronicle.begun_all (chronicle : Chronicle past flights)
    (resolved : ∀ id, id < flights.executions.length → (flights.outcome? id).isSome) :
    past.begun = List.range flights.executions.length := by
  have all : past.begun.length = flights.executions.length := by
    refine Nat.le_antisymm chronicle.begun_first.le (Nat.not_lt.mp fun less => ?_)
    obtain ⟨outcome, found⟩ := Option.isSome_iff_exists.mp (resolved _ less)
    have begun := (chronicle.begun_first.iff (outcome?_eq_some.mp found)).mp rfl
    exact Nat.lt_irrefl _ begun
  rw [chronicle.begun_eq, all]

/-- A follow-up that waits in the slot has been launched and has not begun. -/
theorem Chronicle.followUp (chronicle : Chronicle past flights) {current followUp : Nat}
    (queued : flights.slot = .queued current followUp) :
    followUp < flights.executions.length ∧ followUp ∉ past.begun := by
  rcases chronicle.sequenced.slot with ⟨_, slot⟩ | ⟨_, slot⟩ | ⟨length, slot, waiting⟩
  · cases slot.symm.trans queued
  · cases slot.symm.trans queued
  · cases slot.symm.trans queued
    refine ⟨by omega, ?_⟩
    rw [chronicle.begun_eq, List.mem_range, ← chronicle.begun_first.iff waiting]
    exact Bool.false_ne_true

/-- Nobody waits for anything any more, and everybody has got what the history says. -/
structure Concluded (past : History σ α) (flights : SingleFlight σ α) : Prop where
  slot : flights.slot = .idle
  begun_once : ∀ id ∈ past.launched, past.begun.count id = 1
  /-- Every flight that was given out has resolved. -/
  resolved : ∀ flight ∈ past.returned, (flights.outcome? flight).isSome
  /-- It has the value that its own operation produced, or none if that operation panicked. -/
  own : ∀ flight ∈ past.returned, ∀ outcome,
    flights.outcome? flight = some outcome ↔ (flight, outcome) ∈ past.ended
  /-- However an operation ends under a queued follow-up, the follow-up begins afterwards and ends. -/
  followed : ∀ before found current outcome followUp after,
    past = before ++ (found, .finish current outcome) :: after → found.slot = .queued current followUp →
      followUp ∈ History.begun after ∧ ∃ later, (followUp, later) ∈ History.ended after

/-- What is read off the middle of a history comes from before it, from the moment itself or from after it. -/
theorem mem_filterMap_moment {τ : Type} {read? : SingleFlight σ α × Move σ α → Option τ} {item : τ}
    {before after : History σ α} {moment : SingleFlight σ α × Move σ α}
    (member : item ∈ (before ++ moment :: after).filterMap read?) :
    item ∈ before.filterMap read? ∨ read? moment = some item ∨ item ∈ after.filterMap read? := by
  rw [← List.singleton_append, ← List.append_assoc, List.filterMap_append, filterMap_next, List.append_assoc,
    List.mem_append, List.mem_append, Option.mem_toList] at member
  exact member

theorem length_le_of_later {first : SingleFlight σ α} (reach : Reach move? first past flights) :
    first.executions.length ≤ flights.executions.length := by
  induction reach with
  | start => exact Nat.le_refl _
  | next _ taken ih => exact Nat.le_trans ih (length_le_of_move taken)

/-- What a queued follow-up does, it does after the operation ahead of it has ended. -/
theorem after_of_queued {before after : History σ α} {found : SingleFlight σ α} {current followUp : Nat}
    {outcome : Option α} (reach : Reach move? {} (before ++ (found, .finish current outcome) :: after) flights)
    (queued : found.slot = .queued current followUp) :
    followUp < flights.executions.length ∧
      (followUp ∈ History.begun (before ++ (found, .finish current outcome) :: after) →
        followUp ∈ History.begun after) ∧
      ∀ later, (followUp, later) ∈ History.ended (before ++ (found, .finish current outcome) :: after) →
        (followUp, later) ∈ History.ended after := by
  obtain ⟨next, earlier, taken, onward⟩ := reach.moment
  have chronicle := chronicle_of_reach earlier
  obtain ⟨launched, notBegun⟩ := chronicle.followUp queued
  have grows := Nat.le_trans (length_le_of_move taken) (length_le_of_later onward)
  refine ⟨Nat.lt_of_lt_of_le launched grows, fun begins => ?_, fun later ends => ?_⟩
  · rcases mem_filterMap_moment begins with already | now | after
    · exact absurd already notBegun
    · cases now
    · exact after
  · -- What had ended by then had begun, and the operation that ends is under way and not the follow-up's.
    rw [chronicle.begun_eq, List.mem_range] at notBegun
    rcases mem_filterMap_moment ends with already | now | after
    · have bound := Tally.lt_of_mem_ended chronicle already
      have least := Tally.ended_le_begun chronicle
      omega
    · cases now
      obtain ⟨⟨progress, running⟩, _⟩ := finish?_eq_some.mp taken
      exact absurd ((chronicle.begun_first.iff running).mp rfl) notBegun
    · exact after

/-- Once nothing is left to be done, everything has come to its end. -/
theorem concluded_of_still [Nonempty σ] (reach : Reach move? {} past flights) (still : flights.Still)
    (ended : past.AllEnded) : Concluded past flights := by
  have chronicle := chronicle_of_reach reach
  cases still.atRest.resting ⟨past, reach⟩ with
  | busy running => exact absurd running (chronicle.not_running ended)
  | idle slot resolved =>
    have begun := chronicle.begun_all resolved
    have returned : ∀ flight ∈ past.returned, (flights.outcome? flight).isSome := fun flight member =>
      resolved flight ((returned_sorted reach).2 flight member)
    refine ⟨slot, ?_, returned, fun flight member => chronicle.outcome_iff (returned flight member), ?_⟩
    · intro id launched
      rw [chronicle.launched_eq, ← begun] at launched
      have once : past.begun.Nodup := begun ▸ List.nodup_range
      exact List.count_eq_one_of_mem once launched
    · rintro before found current outcome followUp after rfl queued
      obtain ⟨launched, begins, ends⟩ := after_of_queued reach queued
      have hasBegun := begun ▸ List.mem_range.mpr launched
      obtain ⟨later, hasEnded⟩ := ended followUp hasBegun
      exact ⟨begins hasBegun, later, ends later hasEnded⟩

/-- Whichever handles are copied and given up and whichever operations panic: once all operations have ended
and no task can go on, every flight has the outcome of its own execution, and every handle that is left
answers. -/
theorem settles_with_own_outcome [Nonempty σ] {past : List (HandedOut σ α × HandedOut.Move σ α)}
    {handed : HandedOut σ α} (reach : Reach HandedOut.move? {} past handed) (still : handed.flights.Still)
    (ended : (HandedOut.flightHistory past).AllEnded) :
    Concluded (HandedOut.flightHistory past) handed.flights ∧
      ∀ handle flight, handed.held? handle = some flight → (handed.flights.outcome? flight).isSome := by
  have concluded := concluded_of_still (HandedOut.flights_of_reach reach) still ended
  refine ⟨concluded, fun handle flight held => ?_⟩
  exact concluded.resolved flight (HandedOut.returned_of_handle reach (HandedOut.held?_mem held))

/-- All handles of the first flight are gone, its operation panics while a follow-up waits that two requests
share, and the follow-up completes. -/
theorem settles_with_own_outcome_after_panic :
    ∃ (past : List (HandedOut Unit Int × HandedOut.Move Unit Int)) (handed : HandedOut Unit Int),
      Reach HandedOut.move? {} past handed ∧ handed.flights.Still ∧ (HandedOut.flightHistory past).AllEnded ∧
      handed.handles = [none, none, none, some 1] ∧ (HandedOut.flightHistory past).returned = [0, 1, 1] ∧
      (HandedOut.flightHistory past).ended = [(0, none), (1, some 7)] ∧
      Concluded (HandedOut.flightHistory past) handed.flights ∧
      ∀ handle flight, handed.held? handle = some flight → (handed.flights.outcome? flight).isSome := by
  have reach : Reach HandedOut.move? ({} : HandedOut Unit Int) _ _ :=
    .of_trail [.ofFlights .trigger, .copy 0, .giveUp 0, .ofFlights (.begin 0 ()), .ofFlights .trigger,
      .giveUp 1, .ofFlights .trigger, .giveUp 2, .ofFlights (.finish 0 none), .ofFlights (.settle 0),
      .ofFlights (.resolve 0), .ofFlights (.begin 1 ()), .ofFlights (.finish 1 (some 7)),
      .ofFlights (.settle 1), .ofFlights (.resolve 1)] rfl
  have still : Still (⟨.idle, [.resolved none, .resolved (some 7)]⟩ : SingleFlight Unit Int) := by
    refine ⟨fun id progress => ?_, fun id => ?_, fun id => ?_⟩
    all_goals
      match id with
      | 0 => rfl
      | 1 => rfl
      | _ + 2 => rfl
  have ended : ∀ past : History Unit Int, past.begun = [0, 1] → past.ended = [(0, none), (1, some 7)] →
      past.AllEnded := by
    intro past begun ended id member
    rw [begun] at member
    rw [ended]
    rcases List.mem_pair.mp member with rfl | rfl
    · exact ⟨none, by simp⟩
    · exact ⟨some 7, by simp⟩
  exact ⟨_, _, reach, still, ended _ rfl rfl, rfl, rfl, rfl,
    settles_with_own_outcome reach still (ended _ rfl rfl)⟩

end SingleFlight

end SessionBoard
