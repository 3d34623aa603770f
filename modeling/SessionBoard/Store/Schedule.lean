import SessionBoard.Store.State

namespace SessionBoard.LiveStore

def tasks (store : LiveStore) : List StoreTask :=
  (List.range store.refreshes.executions.length).map .refresh
    ++ (List.range store.channels.executions.length).map .channel
    ++ (List.range store.runs.length).map .syncLoop

/-- The tasks that need not wait. -/
def runnable (store : LiveStore) : List StoreTask :=
  store.tasks.filter fun task => (store.step .cancellation task).isSome

/-- Runs the queued tasks until all of them wait. A task runs until it has to wait, and a task that is new or
need not wait any more queues up behind those that can run. -/
def runQueue : (fuel : Nat) → List StoreTask → LiveStore → LiveStore
  | 0, _, store => store
  | _ + 1, [], store => store
  | fuel + 1, task :: queue, store =>
    match store.step .cancellation task with
    | none => runQueue fuel queue store
    | some store =>
      let woken := store.runnable.filter (· ∉ task :: queue)
      runQueue fuel (task :: queue ++ woken) store

/-- Enough steps for all tasks to wait: every answer, item and task allows but a few. -/
def stepBound (store : LiveStore) : Nat :=
  let arrived := store.server.channels.foldr (fun channel count => channel.arrived.length + 1 + count) 0
  64 + 16 * (store.server.fetchAnswers.length + store.server.openAnswers.length + arrived
    + store.tasks.length)

def settle (store : LiveStore) : LiveStore :=
  runQueue store.stepBound store.runnable store

/-- Lets time pass in small increments, all tasks running after each. -/
def advance (increment : Nat) : (count : Nat) → LiveStore → LiveStore
  | 0, store => store
  | count + 1, store =>
    advance increment count { store with now := store.now + increment }.settle

end SessionBoard.LiveStore
