import SessionBoard.Proofs.SingleFlight.Moves
import SessionBoard.Proofs.Store.History

namespace SessionBoard

/-- What an open channel has become once this was taken from it; nothing is the end of the channel. -/
def ChannelProgress.afterItem (run channel : Nat) (confirmed : Bool) :
    Option ChannelItem → ChannelProgress
  | some (.ok event) => .received run channel confirmed event
  | some (.error error) => .failing (some channel) error
  | none => .failing (some channel) .closed

/-- What an attempt has become once its open was answered. -/
def ChannelProgress.afterOpen (run : Nat) : Except SourceError Nat → ChannelProgress
  | .ok channel => .open run channel false
  | .error error => .failing none error

/-- The run that an attempt is bound to and the channel it holds, where it looks out for the
cancellation of the run. -/
inductive ChannelProgress.Abandonable : ChannelProgress → Nat → Option Nat → Prop
  | bound {run} : Abandonable (.bound run) run none
  | opening {run} : Abandonable (.opening run) run none
  | open {run channel confirmed} : Abandonable (.open run channel confirmed) run (some channel)

namespace LiveStore

variable {store store' : LiveStore} {preference : Preference} {id : Nat}

theorem refresh_eq (store : LiveStore) :
    store.refresh =
      ({ store with refreshes := store.refreshes.trigger.1 }, store.refreshes.trigger.2) :=
  rfl

theorem choose_eq_some {cancellation work : Option LiveStore}
    (chosen : choose preference cancellation work = some store') :
    cancellation = some store' ∨ work = some store' := by
  cases preference <;> cases cancellation <;> cases work <;> simp_all [choose]

inductive RefreshStep (store : LiveStore) (id : Nat) : LiveStore → Prop
  | asks {refreshes} (run : store.refreshes.begin? id .asked = some refreshes) :
      RefreshStep store id { store with
        refreshes := refreshes
        server := { store.server with fetches := store.server.fetches + 1 } }
  | takes {answer answers refreshes} (front : store.server.fetchAnswers = answer :: answers)
      (waiting : store.refreshes.stage? id = some (.running .asked))
      (run : store.refreshes.report? id (.answered answer) = some refreshes) :
      RefreshStep store id { store with
        refreshes := refreshes
        server := { store.server with fetchAnswers := answers } }
  | completes {answer refreshes}
      (arrived : store.refreshes.stage? id = some (.running (.answered answer)))
      (run : store.refreshes.finish? id (some (fetchOutcome answer)) = some refreshes) :
      RefreshStep store id { store.applyAnswer answer with refreshes := refreshes }
  | unwinds {refreshes} (run : store.refreshes.unwind? id = some refreshes) :
      RefreshStep store id { store with refreshes := refreshes }

theorem stepRefresh_cases (taken : store.stepRefresh id = some store') :
    RefreshStep store id store' := by
  unfold stepRefresh at taken
  split at taken
  · obtain ⟨refreshes, run, same⟩ := Option.bind_eq_some_iff.mp taken
    cases same
    exact .asks run
  · rename_i waiting
    split at taken
    · cases taken
    · rename_i answer answers front
      obtain ⟨refreshes, run, same⟩ := Option.bind_eq_some_iff.mp taken
      cases same
      exact .takes front waiting run
  · rename_i answer arrived
    obtain ⟨refreshes, run, same⟩ := Option.bind_eq_some_iff.mp taken
    cases same
    exact .completes arrived run
  · obtain ⟨refreshes, run, same⟩ := Option.bind_eq_some_iff.mp taken
    cases same
    exact .unwinds run

/-- A fetch touches what is published, the fetches and what the server has for them, and nothing else. -/
theorem RefreshStep.frame (step : RefreshStep store id store') :
    ∃ board refreshes server, store' =
        { store with board := board, refreshes := refreshes, server := server } ∧
      server.opens = store.server.opens := by
  cases step with
  | asks | takes | unwinds => exact ⟨_, _, _, rfl, rfl⟩
  | @completes answer =>
    cases answer with
    | ok snapshot => exact ⟨_, _, _, rfl, rfl⟩
    | error error =>
      unfold applyAnswer
      cases store.options.onFetchError <;> exact ⟨_, _, _, rfl, rfl⟩

inductive LoopStep (store : LiveStore) (preference : Preference) (run : Nat) : LiveStore → Prop
  | stops (cancelled : store.isCancelled run) (quiet : store.beginsCycle preference run = false) :
      LoopStep store preference run (store.withLoop run .stopped)
  | requests (begins : store.beginsCycle preference run = true) :
      LoopStep store preference run (store.refresh.1.withLoop run .requested)
  | opens (requested : store.loopStage? run = some .requested) :
      LoopStep store preference run
        ({ store with channels := store.channels.trigger.1 }.withLoop run
          (.awaiting store.channels.trigger.2))
  | sleeps {flight} (awaiting : store.loopStage? run = some (.awaiting flight))
      (done : (store.channels.outcome? flight).isSome) :
      LoopStep store preference run (store.withLoop run (.sleeping (store.now + store.options.backoff)))
  | wakes {deadline} (sleeping : store.loopStage? run = some (.sleeping deadline))
      (due : deadline ≤ store.now) : LoopStep store preference run (store.withLoop run .ready)

theorem stopLoop_eq_some {run : Nat} :
    store.stopLoop run = some store' ↔ store.isCancelled run ∧ store.withLoop run .stopped = store' := by
  unfold stopLoop
  split <;> simp_all

theorem beginsCycle_eq_false {run : Nat} (notReady : store.loopStage? run ≠ some .ready) :
    store.beginsCycle preference run = false := by
  simp [beginsCycle, notReady]

theorem stepLoop_cases {run : Nat} (taken : store.stepLoop preference run = some store') :
    LoopStep store preference run store' := by
  unfold stepLoop at taken
  split at taken
  · rename_i ready
    by_cases stopping : preference = .cancellation ∧ store.isCancelled run
    · obtain ⟨rfl, cancelled⟩ := stopping
      have quiet : store.beginsCycle .cancellation run = false := by simp [beginsCycle, cancelled]
      rw [choose, stopLoop_eq_some.mpr ⟨cancelled, rfl⟩] at taken
      cases taken
      exact .stops cancelled quiet
    · have begins : store.beginsCycle preference run = true := by
        simp only [Classical.not_and_iff_not_or_not, Bool.not_eq_true] at stopping
        simpa [beginsCycle, ready] using stopping
      cases preference with
      | cancellation =>
        have running : ¬store.isCancelled run := fun cancelled => stopping ⟨rfl, cancelled⟩
        simp only [choose, stopLoop, running] at taken
        cases taken
        exact .requests begins
      | work =>
        cases taken
        exact .requests begins
  · rename_i requested
    cases taken
    exact .opens requested
  · rename_i flight awaiting
    have quiet : store.beginsCycle preference run = false := beginsCycle_eq_false (by simp [awaiting])
    rcases choose_eq_some taken with stops | sleeps
    · obtain ⟨cancelled, rfl⟩ := stopLoop_eq_some.mp stops
      exact .stops cancelled quiet
    · split at sleeps
      · rename_i done
        cases sleeps
        exact .sleeps awaiting done
      · cases sleeps
  · rename_i deadline sleeping
    have quiet : store.beginsCycle preference run = false := beginsCycle_eq_false (by simp [sleeping])
    rcases choose_eq_some taken with stops | wakes
    · obtain ⟨cancelled, rfl⟩ := stopLoop_eq_some.mp stops
      exact .stops cancelled quiet
    · split at wakes
      · rename_i due
        cases wakes
        exact .wakes sleeping due
      · cases wakes
  · cases taken
  · cases taken

/-- What a step of an attempt can do, said once: every property of such steps is a case analysis over these.
Those of a fetch and of a loop are told in the same way. -/
inductive ChannelStep (store : LiveStore) (id : Nat) : LiveStore → Prop
  | begins {channels} (begun : store.channels.begin? id (.bound store.currentRun) = some channels) :
      ChannelStep store id { store with channels := channels }
  | abandons {progress run channel channels}
      (atId : store.channels.stage? id = some (.running progress))
      (bound : progress.Abandonable run channel) (cancelled : store.isCancelled run)
      (ended : store.channels.finish? id (some (.ok ())) = some channels) :
      ChannelStep store id { store with
        channels := channels
        server := channel.elim store.server store.server.release }
  | asks {run channels} (atId : store.channels.stage? id = some (.running (.bound run)))
      (reported : store.channels.report? id (.opening run) = some channels) :
      ChannelStep store id { store with
        channels := channels
        server := { store.server with opens := store.server.opens + 1 } }
  | answered {run answer answers channels}
      (atId : store.channels.stage? id = some (.running (.opening run)))
      (front : store.server.openAnswers = answer :: answers)
      (reported : store.channels.report? id (.afterOpen run answer) = some channels) :
      ChannelStep store id { store with
        channels := channels
        server := { store.server with openAnswers := answers } }
  | takes {run channel confirmed item server channels}
      (atId : store.channels.stage? id = some (.running (.open run channel confirmed)))
      (found : store.server.take? channel = some (item, server))
      (reported : store.channels.report? id (.afterItem run channel confirmed item) = some channels) :
      ChannelStep store id { store with channels := channels, server := server }
  | confirms {run channel channels}
      (atId : store.channels.stage? id = some (.running (.received run channel false .init)))
      (reported : store.channels.report? id (.open run channel true) = some channels) :
      ChannelStep store id { store.dispatch .active with channels := channels }
  | updates {run channel confirmed channels}
      (atId : store.channels.stage? id = some (.running (.received run channel confirmed .update)))
      (reported : store.channels.report? id (.open run channel confirmed) = some channels) :
      ChannelStep store id { store.refresh.1 with channels := channels }
  | ignores {run channel confirmed event channels}
      (atId : store.channels.stage? id = some (.running (.received run channel confirmed event)))
      (known : event = .init ∧ confirmed = true ∨ ∃ name, event = .other name)
      (reported : store.channels.report? id (.open run channel confirmed) = some channels) :
      ChannelStep store id { store with channels := channels }
  | fails {channel error channels}
      (atId : store.channels.stage? id = some (.running (.failing channel error)))
      (ended : store.channels.finish? id (some (.error error)) = some channels) :
      ChannelStep store id { store.dispatch .inactive with
        channels := channels
        server := channel.elim store.server store.server.release }
  | unwinds {channels} (run : store.channels.unwind? id = some channels) :
      ChannelStep store id { store with channels := channels }

theorem report_eq_some {progress : ChannelProgress} :
    store.report id progress = some store' ↔
      ∃ channels, store.channels.report? id progress = some channels ∧
        { store with channels := channels } = store' := by
  simp [report, Option.bind_eq_some_iff]

theorem abandon_eq_some {run : Nat} {channel : Option Nat} :
    store.abandon id run channel = some store' ↔
      store.isCancelled run ∧ ∃ channels, store.channels.finish? id (some (.ok ())) = some channels ∧
        { store with
          channels := channels
          server := channel.elim store.server store.server.release } = store' := by
  unfold abandon finishChannel
  split <;> simp_all [Option.bind_eq_some_iff]

theorem stepChannel_cases (taken : store.stepChannel preference id = some store') :
    ChannelStep store id store' := by
  unfold stepChannel at taken
  split at taken
  · obtain ⟨channels, begun, same⟩ := Option.bind_eq_some_iff.mp taken
    cases same
    exact .begins begun
  · rename_i run atId
    rcases choose_eq_some taken with stops | asks
    · obtain ⟨cancelled, channels, ended, rfl⟩ := abandon_eq_some.mp stops
      exact .abandons atId .bound cancelled ended
    · obtain ⟨channels, reported, rfl⟩ := report_eq_some.mp asks
      exact .asks atId reported
  · rename_i run atId
    rcases choose_eq_some taken with stops | answered
    · obtain ⟨cancelled, channels, ended, rfl⟩ := abandon_eq_some.mp stops
      exact .abandons atId .opening cancelled ended
    · unfold takeChannel at answered
      split at answered
      · cases answered
      · rename_i answer answers front
        cases answer <;> obtain ⟨channels, reported, rfl⟩ := report_eq_some.mp answered <;>
          exact .answered atId front reported
  · rename_i run channel confirmed atId
    rcases choose_eq_some taken with stops | takes
    · obtain ⟨cancelled, channels, ended, rfl⟩ := abandon_eq_some.mp stops
      exact .abandons atId .open cancelled ended
    · obtain ⟨⟨item, server⟩, found, takes⟩ := Option.bind_eq_some_iff.mp takes
      rcases item with _ | error | event <;> obtain ⟨channels, reported, rfl⟩ := report_eq_some.mp takes <;>
        exact .takes atId found reported
  · rename_i run channel confirmed event atId
    cases event with
    | init =>
      obtain ⟨channels, reported, rfl⟩ := report_eq_some.mp taken
      cases confirmed with
      | false => exact .confirms atId reported
      | true => exact .ignores atId (.inl ⟨rfl, rfl⟩) reported
    | update =>
      obtain ⟨channels, reported, rfl⟩ := report_eq_some.mp taken
      exact .updates atId reported
    | other name =>
      obtain ⟨channels, reported, rfl⟩ := report_eq_some.mp taken
      exact .ignores atId (.inr ⟨name, rfl⟩) reported
  · rename_i channel error atId
    obtain ⟨channels, ended, same⟩ := Option.bind_eq_some_iff.mp taken
    cases same
    exact .fails atId ended
  · obtain ⟨channels, run, same⟩ := Option.bind_eq_some_iff.mp taken
    cases same
    exact .unwinds run

end LiveStore

end SessionBoard
