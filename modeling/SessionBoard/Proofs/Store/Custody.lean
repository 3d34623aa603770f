import Mathlib.Data.List.Nodup
import SessionBoard.Proofs.Store.Attempts

namespace SessionBoard

namespace Server

/-- The channels that wait for an open to take them. -/
def granted (server : Server) : List Nat :=
  server.openAnswers.filterMap Except.toOption

/-- The client has not let go of the channel. -/
def isUnreleased (server : Server) (channel : Nat) : Bool :=
  (server.channels[channel]?).any (!·.released)

variable {server server' : Server} {channel : Nat}

theorem isUnreleased_lt (unreleased : server.isUnreleased channel) : channel < server.channels.length := by
  rw [← Nat.not_le]
  intro outside
  simp [isUnreleased, outside] at unreleased

/-- What happens on a channel does not let go of it. -/
theorem isUnreleased_modify {change : PushChannel → PushChannel} (kept : ∀ push, (change push).released = push.released)
    (channel other : Nat) :
    isUnreleased { server with channels := server.channels.modify channel change } other =
      server.isUnreleased other := by
  simp only [isUnreleased, List.getElem?_modify]
  cases server.channels[other]? with
  | none => rfl
  | some push => by_cases same : channel = other <;> simp [same, kept]

theorem isUnreleased_send (items : List ChannelItem) (other : Nat) :
    (server.send channel items).isUnreleased other = server.isUnreleased other := by
  refine isUnreleased_modify (fun push => ?_) channel other
  split <;> rfl

theorem isUnreleased_endChannel (other : Nat) :
    (server.endChannel channel).isUnreleased other = server.isUnreleased other := by
  rw [endChannel, isUnreleased_modify]
  exact fun _ => rfl

theorem isUnreleased_release (other : Nat) :
    (server.release channel).isUnreleased other ↔ server.isUnreleased other ∧ other ≠ channel := by
  simp only [isUnreleased, release, List.getElem?_modify]
  cases server.channels[other]? with
  | none => simp
  | some push => by_cases same : channel = other <;> simp [same, eq_comm (a := other)]

theorem isUnreleased_addChannel (other : Nat) :
    server.addChannel.isUnreleased other ↔ server.isUnreleased other ∨ other = server.channels.length := by
  simp only [isUnreleased, addChannel, List.getElem?_append]
  by_cases known : other < server.channels.length
  · simp [known, Nat.ne_of_lt known]
  · rw [if_neg known, List.getElem?_singleton, List.getElem?_eq_none (Nat.not_lt.mp known)]
    by_cases next : other = server.channels.length
    · simp [next]
    · have := Nat.sub_ne_zero_of_lt (Nat.lt_of_le_of_ne (Nat.not_lt.mp known) (Ne.symm next))
      simp [next, this]

theorem granted_addChannel : server.addChannel.granted = server.granted ++ [server.channels.length] :=
  List.filterMap_append ..

theorem isUnreleased_take {item : Option ChannelItem} (found : server.take? channel = some (item, server'))
    (other : Nat) : server'.isUnreleased other = server.isUnreleased other ∧ server'.granted = server.granted := by
  unfold take? at found
  split at found
  · cases found
  · rename_i push atChannel
    split at found
    · cases found
      refine ⟨?_, rfl⟩
      simp only [isUnreleased, List.getElem?_set]
      split
      · rename_i same
        subst same
        split <;> simp_all
      · rfl
    · split at found <;> cases found
      exact ⟨rfl, rfl⟩

end Server

/-- The channel that an attempt has taken and not let go. -/
def ChannelProgress.channel? : ChannelProgress → Option Nat
  | .bound _ | .opening _ => none
  | .open _ channel _ | .received _ channel _ _ => some channel
  | .failing channel _ => channel

theorem ChannelProgress.Abandonable.channel_eq {progress : ChannelProgress} {run : Nat} {channel : Option Nat}
    (bound : progress.Abandonable run channel) : progress.channel? = channel := by
  cases bound <;> rfl

theorem ChannelProgress.channel?_afterItem (run channel : Nat) (confirmed : Bool) (item : Option ChannelItem) :
    (afterItem run channel confirmed item).channel? = some channel := by
  rcases item with _ | _ | _ <;> rfl

/-- The channel that an execution in this stage holds. -/
def Stage.channel? {α : Type} : Stage ChannelProgress α → Option Nat
  | .running progress => progress.channel?
  | .launched _ | .returned _ | .settled _ | .resolved _ => none

namespace LiveStore

/-- The channel that an attempt holds. -/
def held? (store : LiveStore) (id : Nat) : Option Nat :=
  (store.channels.stage? id).bind Stage.channel?

/-- Every channel that was not let go waits for an open or is held by an attempt, and not both. So no channel
stays open with nobody to look after it, and nobody has one that was let go. -/
structure Custody (store : LiveStore) : Prop where
  granted_once : store.server.granted.Nodup
  granted : ∀ channel ∈ store.server.granted, store.server.isUnreleased channel
  held : ∀ id channel, store.held? id = some channel →
    store.server.isUnreleased channel ∧ channel ∉ store.server.granted
  accounted : ∀ channel, store.server.isUnreleased channel →
    channel ∈ store.server.granted ∨ ∃ id, store.held? id = some channel

/-- What a move does to the channels of the server and to the attempts that hold them. -/
inductive Transfer (store store' : LiveStore) : Prop
  | kept (granted : store'.server.granted = store.server.granted)
      (unreleased : ∀ channel, store'.server.isUnreleased channel = store.server.isUnreleased channel)
      (held : ∀ id, store'.held? id = store.held? id)
  | grants {channel : Nat} (fresh : ¬store.server.isUnreleased channel)
      (granted : store'.server.granted = store.server.granted ++ [channel])
      (unreleased : ∀ other, store'.server.isUnreleased other ↔ store.server.isUnreleased other ∨ other = channel)
      (held : ∀ id, store'.held? id = store.held? id)
  | takes {id channel : Nat} (free : store.held? id = none)
      (granted : store.server.granted = channel :: store'.server.granted)
      (unreleased : ∀ channel, store'.server.isUnreleased channel = store.server.isUnreleased channel)
      (held : ∀ other, store'.held? other = if other = id then some channel else store.held? other)
  | releases {id channel : Nat} (holder : store.held? id = some channel)
      (granted : store'.server.granted = store.server.granted)
      (unreleased : ∀ other, store'.server.isUnreleased other ↔ store.server.isUnreleased other ∧ other ≠ channel)
      (held : ∀ other, store'.held? other = if other = id then none else store.held? other)

variable {store store' : LiveStore} {past : History} {id : Nat}

theorem held?_eq {stage : Stage ChannelProgress (Except SourceError Unit)}
    (atId : store.channels.stage? id = some stage) : store.held? id = stage.channel? := by
  rw [held?, atId, Option.bind_some]

theorem held?_withStage {old new : Stage ChannelProgress (Except SourceError Unit)}
    (atId : store.channels.stage? id = some old)
    (same : store'.channels.executions = (store.channels.withStage id new).executions) (other : Nat) :
    store'.held? other = if other = id then new.channel? else store.held? other := by
  have lookup : store'.channels.stage? other = (store.channels.withStage id new).stage? other := by
    rw [SingleFlight.stage?, SingleFlight.stage?, same]
  rw [held?, lookup, SingleFlight.stage?_withStage atId]
  split <;> rfl

/-- A stage may change as long as the attempt holds on to what it has. -/
theorem held?_kept {old new : Stage ChannelProgress (Except SourceError Unit)}
    (atId : store.channels.stage? id = some old)
    (same : store'.channels.executions = (store.channels.withStage id new).executions)
    (holds : new.channel? = old.channel?) (other : Nat) : store'.held? other = store.held? other := by
  rw [held?_withStage atId same]
  split
  · rename_i isId
    rw [isId, held?_eq atId, holds]
  · rfl

/-- An attempt ends and lets go of the channel that it has. -/
theorem Transfer.of_finish {progress : ChannelProgress} {outcome : Option (Except SourceError Unit)}
    {channels : Attempts} {channel : Option Nat} (atId : store.channels.stage? id = some (.running progress))
    (holds : progress.channel? = channel) (ended : store.channels.finish? id outcome = some channels)
    (same : store'.channels = channels)
    (server : store'.server = channel.elim store.server store.server.release) : Transfer store store' := by
  obtain ⟨_, rfl⟩ := SingleFlight.finish?_eq_some.mp ended
  have holder := (held?_eq atId).trans holds
  have held := held?_withStage atId (congrArg SingleFlight.executions same)
  cases channel with
  | none =>
    refine .kept (by rw [server]; rfl) (fun _ => by rw [server]; rfl) fun other => ?_
    rw [held]
    split
    · rename_i isId
      rw [isId, holder]
      rfl
    · rfl
  | some channel =>
    refine .releases holder (by rw [server]; rfl) (fun other => ?_) held
    rw [server]
    exact Server.isUnreleased_release other

theorem ChannelStep.transfer (step : ChannelStep store id store') : Transfer store store' := by
  cases step with
  | begins begun =>
    obtain ⟨after, atId, _, rfl⟩ := SingleFlight.begin?_eq_some.mp begun
    exact .kept rfl (fun _ => rfl) (held?_kept atId rfl rfl)
  | abandons atId bound _ ended => exact .of_finish atId bound.channel_eq ended rfl rfl
  | asks atId reported =>
    obtain ⟨_, rfl⟩ := SingleFlight.report?_eq_some.mp reported
    exact .kept rfl (fun _ => rfl) (held?_kept atId rfl rfl)
  | @answered run answer answers channels atId front reported =>
    obtain ⟨_, rfl⟩ := SingleFlight.report?_eq_some.mp reported
    cases answer with
    | ok channel =>
      have granted : store.server.granted = channel :: answers.filterMap Except.toOption := by
        rw [Server.granted, front]
        rfl
      exact .takes (held?_eq atId) granted (fun _ => rfl) fun other => (held?_withStage atId rfl other).trans rfl
    | error error =>
      have granted : store.server.granted = answers.filterMap Except.toOption := by
        rw [Server.granted, front]
        rfl
      exact .kept granted.symm (fun _ => rfl) (held?_kept atId rfl rfl)
  | takes atId found reported =>
    obtain ⟨_, rfl⟩ := SingleFlight.report?_eq_some.mp reported
    have server := Server.isUnreleased_take found
    refine .kept (server 0).2 (fun other => (server other).1) (held?_kept atId rfl ?_)
    exact ChannelProgress.channel?_afterItem ..
  | confirms atId reported | updates atId reported | ignores atId _ reported =>
    obtain ⟨_, rfl⟩ := SingleFlight.report?_eq_some.mp reported
    exact .kept rfl (fun _ => rfl) (held?_kept atId rfl rfl)
  | fails atId ended => exact .of_finish atId rfl ended rfl rfl
  | unwinds run =>
    rcases SingleFlight.unwind?_eq_some.mp run with ⟨outcome, atId, rfl⟩ | ⟨outcome, atId, rfl⟩ <;>
      exact .kept rfl (fun _ => rfl) (held?_kept atId rfl rfl)

/-- A request launches nothing that holds a channel. -/
theorem held?_trigger (same : store'.channels = store.channels.trigger.1) (other : Nat) :
    store'.held? other = store.held? other := by
  rw [held?, held?, same]
  rcases store.channels.trigger_executions with kept | ⟨after, grown⟩
  · rw [SingleFlight.stage?, kept, SingleFlight.stage?]
  · rw [SingleFlight.stage?, grown, List.getElem?_append, SingleFlight.stage?]
    split
    · rfl
    · rename_i outside
      rw [List.getElem?_eq_none (Nat.not_lt.mp outside), List.getElem?_singleton]
      split <;> rfl

theorem transfer_of_move {move : Move} (taken : store.move? move = some store') : Transfer store store' := by
  cases move with
  | receive subscriber =>
    obtain ⟨_, _, rfl⟩ := Option.map_eq_some_iff.mp taken
    exact .kept rfl (fun _ => rfl) fun _ => rfl
  | grantChannel =>
    cases taken
    have fresh : ¬store.server.isUnreleased store.server.channels.length := fun known =>
      Nat.lt_irrefl _ (Server.isUnreleased_lt known)
    exact .grants fresh Server.granted_addChannel Server.isUnreleased_addChannel fun _ => rfl
  | refuseChannel error =>
    cases taken
    have granted : (store.server.openAnswers ++ [Except.error error]).filterMap Except.toOption =
        store.server.granted := by
      rw [List.filterMap_append]
      exact List.append_nil _
    exact .kept granted (fun _ => rfl) fun _ => rfl
  | send channel items =>
    cases taken
    exact .kept rfl (Server.isUnreleased_send items) fun _ => rfl
  | endChannel channel =>
    cases taken
    exact .kept rfl Server.isUnreleased_endChannel fun _ => rfl
  | step preference task =>
    cases task with
    | refresh id =>
      cases stepRefresh_cases taken with
      | asks | takes | unwinds => exact .kept rfl (fun _ => rfl) fun _ => rfl
      | @completes answer =>
        have server : (store.applyAnswer answer).server = store.server ∧
            (store.applyAnswer answer).channels = store.channels := by
          unfold applyAnswer
          split
          · exact ⟨rfl, rfl⟩
          · split <;> exact ⟨rfl, rfl⟩
        refine .kept (by rw [server.1]) (fun _ => by rw [server.1]) fun _ => ?_
        rw [held?, held?, server.2]
    | channel id => exact (stepChannel_cases taken).transfer
    | syncLoop run =>
      cases stepLoop_cases taken with
      | opens => exact .kept rfl (fun _ => rfl) (held?_trigger rfl)
      | stops | requests | sleeps | wakes => exact .kept rfl (fun _ => rfl) fun _ => rfl
  | _ =>
    cases taken
    exact .kept rfl (fun _ => rfl) fun _ => rfl

/-- One attempt at the most has a channel. -/
theorem eq_of_held? (reachable : store.channels.Reachable) {other channel channel' : Nat}
    (first : store.held? id = some channel) (second : store.held? other = some channel') : id = other := by
  obtain ⟨settled, seq⟩ := reachable.sequenced
  have holder : ∀ {id channel}, store.held? id = some channel → id = settled := by
    intro id channel holds
    obtain ⟨stage, atId, holds⟩ := Option.bind_eq_some_iff.mp holds
    cases stage with
    | running progress => exact seq.eq_of_begun atId rfl rfl
    | launched | returned | settled | resolved => cases holds
  exact (holder first).trans (holder second).symm

namespace Custody

theorem start (options : SyncOptions) : Custody { options := options } where
  granted_once := .nil
  granted := by simp [Server.granted]
  held := by simp [held?, SingleFlight.stage?]
  accounted := by simp [Server.isUnreleased]

section

variable (custody : Custody store) {channel : Nat}

include custody

theorem kept (granted : store'.server.granted = store.server.granted)
    (unreleased : ∀ channel, store'.server.isUnreleased channel = store.server.isUnreleased channel)
    (held : ∀ id, store'.held? id = store.held? id) : Custody store' where
  granted_once := granted ▸ custody.granted_once
  granted := by simpa only [granted, unreleased] using custody.granted
  held := by simpa only [granted, unreleased, held] using custody.held
  accounted := by simpa only [granted, unreleased, held] using custody.accounted

/-- A new channel waits behind those that wait already. -/
theorem grants (fresh : ¬store.server.isUnreleased channel)
    (granted : store'.server.granted = store.server.granted ++ [channel])
    (unreleased : ∀ other, store'.server.isUnreleased other ↔ store.server.isUnreleased other ∨ other = channel)
    (held : ∀ id, store'.held? id = store.held? id) : Custody store' where
  granted_once := by
    have notGranted : channel ∉ store.server.granted := fun member => fresh (custody.granted channel member)
    rw [granted]
    refine List.nodup_append.mpr ⟨custody.granted_once, by simp, ?_⟩
    rintro other member _ isNew rfl
    exact notGranted (List.mem_singleton.mp isNew ▸ member)
  granted := by
    intro other member
    rw [granted, List.mem_append, List.mem_singleton] at member
    exact (unreleased other).mpr (member.imp_left (custody.granted other))
  held := by
    intro id other holds
    obtain ⟨known, taken⟩ := custody.held id other (held id ▸ holds)
    refine ⟨(unreleased other).mpr (.inl known), ?_⟩
    rw [granted, List.mem_append, List.mem_singleton]
    rintro (waits | rfl)
    · exact taken waits
    · exact fresh known
  accounted := by
    intro other known
    rw [granted, List.mem_append, List.mem_singleton]
    simp only [held]
    rcases (unreleased other).mp known with earlier | isNew
    · exact (custody.accounted other earlier).imp_left .inl
    · exact .inl (.inr isNew)

/-- The channel that has waited longest passes to an attempt that has none. -/
theorem takes (free : store.held? id = none) (granted : store.server.granted = channel :: store'.server.granted)
    (unreleased : ∀ channel, store'.server.isUnreleased channel = store.server.isUnreleased channel)
    (held : ∀ other, store'.held? other = if other = id then some channel else store.held? other) :
    Custody store' where
  granted_once := by
    have once := custody.granted_once
    rw [granted, List.nodup_cons] at once
    exact once.2
  granted := by
    intro other member
    rw [unreleased]
    exact custody.granted other (granted ▸ List.mem_cons_of_mem _ member)
  held := by
    have once := custody.granted_once
    rw [granted, List.nodup_cons] at once
    intro other channel' holds
    rw [held] at holds
    rw [unreleased]
    split at holds
    · cases holds
      exact ⟨custody.granted channel (granted ▸ List.mem_cons_self), once.1⟩
    · obtain ⟨known, taken⟩ := custody.held other channel' holds
      exact ⟨known, fun member => taken (granted ▸ List.mem_cons_of_mem _ member)⟩
  accounted := by
    intro other known
    rw [unreleased] at known
    rcases custody.accounted other known with waits | ⟨holder, holds⟩
    · rw [granted, List.mem_cons] at waits
      rcases waits with rfl | waits
      · exact .inr ⟨id, by rw [held, if_pos rfl]⟩
      · exact .inl waits
    · refine .inr ⟨holder, ?_⟩
      rw [held, if_neg]
      · exact holds
      · rintro rfl
        cases free.symm.trans holds

/-- The one attempt that has a channel lets go of it. -/
theorem releases (reachable : store.channels.Reachable) (holder : store.held? id = some channel)
    (granted : store'.server.granted = store.server.granted)
    (unreleased : ∀ other, store'.server.isUnreleased other ↔ store.server.isUnreleased other ∧ other ≠ channel)
    (held : ∀ other, store'.held? other = if other = id then none else store.held? other) : Custody store' where
  granted_once := granted ▸ custody.granted_once
  granted := by
    intro other member
    rw [granted] at member
    refine (unreleased other).mpr ⟨custody.granted other member, ?_⟩
    rintro rfl
    exact (custody.held id other holder).2 member
  held := by
    intro other channel' holds
    rw [held] at holds
    split at holds
    · cases holds
    · rename_i different
      exact absurd (eq_of_held? reachable holds holder) different
  accounted := by
    intro other known
    obtain ⟨known, different⟩ := (unreleased other).mp known
    rw [granted]
    refine .inl ((custody.accounted other known).resolve_right ?_)
    rintro ⟨holder', holds⟩
    cases eq_of_held? reachable holds holder
    cases holder.symm.trans holds
    exact different rfl

theorem next (reachable : store.channels.Reachable) (step : Transfer store store') : Custody store' := by
  cases step with
  | kept granted unreleased held => exact custody.kept granted unreleased held
  | grants fresh granted unreleased held => exact custody.grants fresh granted unreleased held
  | takes free granted unreleased held => exact custody.takes free granted unreleased held
  | releases holder granted unreleased held => exact custody.releases reachable holder granted unreleased held

end

end Custody

theorem custody_of_reach {options : SyncOptions} (reach : Reach move? { options := options } past store) :
    Custody store := by
  induction reach with
  | start => exact .start options
  | next reach taken ih => exact ih.next ⟨_, attempts_of_reach reach⟩ (transfer_of_move taken)

end LiveStore

end SessionBoard
