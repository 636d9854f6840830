import Bme680.Barriers.Generations

/-!
# The thread pool

`thread_pool.c`: the workers, and clients that call `thread_pool_enqueue` and
`thread_pool_destroy`. One step is one statement, because the code of a worker is not always run
under `tp->mutex`: after a timed wait has expired, `worker_thread` unlocks the mutex and goes back
to the test of its wait loop. The state records which thread has locked the mutex; an unlock frees
it and a wait gives it up, whichever thread runs them.

A worker that has taken a task calls `barrier_wait` on the pool's barrier, runs the task, and
hands over through the pool's event pair, of which only `event_pair_signal1` and
`event_pair_wait2` are ever called.

Pointers are addresses, and `none` is the null pointer. Addresses of tasks are handed out once.
-/

set_option autoImplicit false
set_option relaxedAutoImplicit false

namespace Bme680.Pool

open Concurrency Barriers

/-! ### The data -/

/-- `struct task`. -/
structure Task where
  func : Option ℕ
  arg : Option ℕ
  next : Option ℕ
  deriving DecidableEq, Repr

/-- The next statement of a worker, with the task it has taken. -/
inductive WorkerPosition
  /-- `while (!tp->shutdown)`. -/
  | loopTest
  | locking
  /-- `while (!tp->head && !tp->shutdown)`. -/
  | waitTest
  | waiting
  | asleep
  /-- Woken with the return of `pthread_cond_timedwait`, about to lock the mutex again. -/
  | relocking (ret : ℕ)
  | unlockTimedOut
  | unlockFailed
  | shutdownTest
  | unlockShutdown
  | readHead
  | advanceHead (task : ℕ)
  | clearTail (task : ℕ)
  | unlockTaken (task : Option ℕ)
  | enterBarrier (task : ℕ)
  | barrierAsleep (task : ℕ)
  | barrierAwake (task : ℕ)
  | callFunc (task : ℕ)
  | signal1 (task : ℕ)
  /-- `while (ep->state != 2)` of `event_pair_wait2`. -/
  | eventTest (task : ℕ)
  | eventAsleep (task : ℕ)
  | freeTask (task : ℕ)
  | finished
  deriving DecidableEq, Repr

/-- The next statement of a client: outside, with the code its last call returned, or inside
`thread_pool_enqueue` with its task or `thread_pool_destroy`. -/
inductive ClientPosition
  | outside (ret : ℤ)
  | locking (task : ℕ)
  | testHead (task : ℕ)
  | setHead (task : ℕ)
  | linkTail (task : ℕ)
  | setTail (task : ℕ)
  | signalCond
  | unlocking
  | lockShutdown
  | setShutdown
  | broadcastCond
  | unlockDestroy
  /-- `pthread_join` on the workers. -/
  | joining
  deriving DecidableEq, Repr

/-- The threads of a program with a pool of `n` workers. -/
inductive PoolThread (n : ℕ) (Client : Type*)
  | worker (id : Fin n)
  | client (client : Client)
  deriving DecidableEq

/-- `struct thread_pool` with the heap its tasks are in, the positions of its threads, and the tasks
put in the queue, taken from it and run so far. -/
structure PoolState (n : ℕ) (Client : Type*) where
  heap : ℕ → Task
  nextTask : ℕ
  head : Option ℕ
  tail : Option ℕ
  shutdown : Bool
  mutex : Option (PoolThread n Client)
  barrier : Barrier
  eventState : ℤ
  workers : Fin n → WorkerPosition
  clients : Client → ClientPosition
  enqueued : List ℕ
  taken : List ℕ
  called : List ℕ

variable {n : ℕ} {Client : Type*} [DecidableEq Client]

/-- The worker waits on `tp->cond`. -/
def WorkerPosition.Asleep (position : WorkerPosition) : Prop :=
  position = .asleep

instance : DecidablePred WorkerPosition.Asleep :=
  fun position ↦ inferInstanceAs (Decidable (position = .asleep))

/-- The worker is asleep in `barrier_wait`. -/
def WorkerPosition.BarrierAsleep : WorkerPosition → Prop
  | .barrierAsleep _ => True
  | _ => False

instance : DecidablePred WorkerPosition.BarrierAsleep := fun position ↦
  match position with
  | .barrierAsleep _ => .isTrue trivial
  | .loopTest | .locking | .waitTest | .waiting | .asleep | .relocking _ | .unlockTimedOut
  | .unlockFailed | .shutdownTest | .unlockShutdown | .readHead | .advanceHead _ | .clearTail _
  | .unlockTaken _ | .enterBarrier _ | .barrierAwake _ | .callFunc _ | .signal1 _ | .eventTest _
  | .eventAsleep _ | .freeTask _ | .finished => .isFalse id

/-- A worker asleep in `barrier_wait` is there with its task. -/
theorem WorkerPosition.BarrierAsleep.exists_task {position : WorkerPosition}
    (hasleep : position.BarrierAsleep) : ∃ task, position = .barrierAsleep task := by
  cases position with
  | barrierAsleep task => exact ⟨task, rfl⟩
  | _ => exact hasleep.elim

/-- A worker asleep in `barrier_wait` made awake. -/
def WorkerPosition.awakenBarrier : WorkerPosition → WorkerPosition
  | .barrierAsleep task => .barrierAwake task
  | position => position

/-- Where a worker goes when `pthread_cond_timedwait` has returned. -/
def WorkerPosition.afterTimedwait (ret : ℕ) : WorkerPosition :=
  if ret = ETIMEDOUT then .unlockTimedOut else if ret ≠ 0 then .unlockFailed else .waitTest

namespace PoolState

omit [DecidableEq Client] in
/-- The state with one worker moved. -/
def moveWorker (state : PoolState n Client) (id : Fin n) (position : WorkerPosition) :
    PoolState n Client :=
  { state with workers := Function.update state.workers id position }

/-- The state with one client moved. -/
def moveClient (state : PoolState n Client) (client : Client) (position : ClientPosition) :
    PoolState n Client :=
  { state with clients := Function.update state.clients client position }

end PoolState

/-! ### The workers -/

omit [DecidableEq Client] in
/-- The next statement of `worker_thread`, where it can be run: a mutex that is locked cannot be
locked, and a sleeper waits to be woken. -/
def workerThreadNext (state : PoolState n Client) (id : Fin n) : Option (PoolState n Client) :=
  match state.workers id with
  | .loopTest => some (state.moveWorker id (if state.shutdown then .finished else .locking))
  | .locking =>
    if state.mutex = none then
      some { state.moveWorker id .waitTest with mutex := some (.worker id) }
    else none
  | .waitTest =>
    some (state.moveWorker id
      (if state.head = none ∧ state.shutdown = false then .waiting else .shutdownTest))
  | .waiting => some { state.moveWorker id .asleep with mutex := none }
  | .asleep => none
  | .relocking ret =>
    if state.mutex = none then
      some { state.moveWorker id (.afterTimedwait ret) with mutex := some (.worker id) }
    else none
  | .unlockTimedOut => some { state.moveWorker id .waitTest with mutex := none }
  | .unlockFailed => some { state.moveWorker id .finished with mutex := none }
  | .shutdownTest =>
    some (state.moveWorker id (if state.shutdown then .unlockShutdown else .readHead))
  | .unlockShutdown => some { state.moveWorker id .finished with mutex := none }
  | .readHead =>
    match state.head with
    | none => some (state.moveWorker id (.unlockTaken none))
    | some task => some (state.moveWorker id (.advanceHead task))
  | .advanceHead task =>
    some { state.moveWorker id (.clearTail task) with
      head := (state.heap task).next
      taken := state.taken ++ [task] }
  | .clearTail task =>
    some { state.moveWorker id (.unlockTaken (some task)) with
      tail := if state.head = none then none else state.tail }
  | .unlockTaken task =>
    let position := match task with
      | none => .loopTest
      | some task => .enterBarrier task
    some { state.moveWorker id position with mutex := none }
  | .enterBarrier task =>
    match barrierWait state.barrier with
    | (barrier, .sleeps) =>
      some { state.moveWorker id (.barrierAsleep task) with barrier := barrier }
    | (barrier, .broadcasts) =>
      let workers := broadcast WorkerPosition.BarrierAsleep WorkerPosition.awakenBarrier
        state.workers
      some { state with
        barrier := barrier
        workers := Function.update workers id (.callFunc task) }
  | .barrierAsleep _ => none
  | .barrierAwake task => some (state.moveWorker id (.callFunc task))
  | .callFunc task =>
    let called := if (state.heap task).func ≠ none then state.called ++ [task] else state.called
    some { state.moveWorker id (.signal1 task) with called := called }
  | .signal1 task => some { state.moveWorker id (.eventTest task) with eventState := 1 }
  | .eventTest task =>
    if state.eventState = 2 then
      some { state.moveWorker id (.freeTask task) with eventState := 0 }
    else some (state.moveWorker id (.eventAsleep task))
  | .eventAsleep _ => none
  | .freeTask _ => some (state.moveWorker id .loopTest)
  | .finished => none

omit [DecidableEq Client] in
/-- A timed wait of a worker ends with an error number while the worker is asleep. -/
def expireNext (state : PoolState n Client) (id : Fin n) (ret : ℕ) :
    Option (PoolState n Client) :=
  match state.workers id with
  | .asleep => if ret ≠ 0 then some (state.moveWorker id (.relocking ret)) else none
  | .eventAsleep task =>
    if ret ≠ 0 then
      some (state.moveWorker id (if ret = ETIMEDOUT then .freeTask task else .eventTest task))
    else none
  | _ => none

omit [DecidableEq Client] in
/-- A wait of a worker ends without a signal. -/
def spuriousNext (state : PoolState n Client) (id : Fin n) : Option (PoolState n Client) :=
  match state.workers id with
  | .asleep => some (state.moveWorker id (.relocking 0))
  | .barrierAsleep task => some (state.moveWorker id (.barrierAwake task))
  | .eventAsleep task => some (state.moveWorker id (.eventTest task))
  | _ => none

/-! ### The clients -/

/-- `thread_pool_enqueue` up to the lock, given whether the allocation succeeds. -/
def threadPoolEnqueue (state : PoolState n Client) (client : Client) (func arg : Option ℕ)
    (allocated : Bool) : PoolState n Client :=
  if func = none then state.moveClient client (.outside (-EINVAL))
  else if ¬ allocated then state.moveClient client (.outside (-ENOMEM))
  else
    { state.moveClient client (.locking state.nextTask) with
      heap := Function.update state.heap state.nextTask
        { func := func, arg := arg, next := none }
      nextTask := state.nextTask + 1 }

/-- The next statement of a client inside a call; `woken` is the sleeper a signal wakes. -/
def clientNext (state : PoolState n Client) (client : Client) (woken : Option (Fin n)) :
    Option (PoolState n Client) :=
  match state.clients client with
  | .outside _ => none
  | .locking task =>
    if state.mutex = none then
      some { state.moveClient client (.testHead task) with mutex := some (.client client) }
    else none
  | .testHead task =>
    some (state.moveClient client (if state.head = none then .setHead task else .linkTail task))
  | .setHead task =>
    some { state.moveClient client (.setTail task) with
      head := some task
      enqueued := state.enqueued ++ [task] }
  | .linkTail task =>
    match state.tail with
    | none => none
    | some last =>
      some { state.moveClient client (.setTail task) with
        heap := Function.update state.heap last { state.heap last with next := some task }
        enqueued := state.enqueued ++ [task] }
  | .setTail task => some { state.moveClient client .signalCond with tail := some task }
  | .signalCond =>
    (signal WorkerPosition.Asleep (fun _ ↦ .relocking 0) state.workers woken).map fun workers ↦
      { state.moveClient client .unlocking with workers := workers }
  | .unlocking => some { state.moveClient client (.outside 0) with mutex := none }
  | .lockShutdown =>
    if state.mutex = none then
      some { state.moveClient client .setShutdown with mutex := some (.client client) }
    else none
  | .setShutdown => some { state.moveClient client .broadcastCond with shutdown := true }
  | .broadcastCond =>
    some { state.moveClient client .unlockDestroy with
      workers := broadcast WorkerPosition.Asleep (fun _ ↦ .relocking 0) state.workers }
  | .unlockDestroy => some { state.moveClient client .joining with mutex := none }
  | .joining => none

/-! ### The system -/

/-- The steps of the threads. -/
inductive PoolLabel (n : ℕ) (Client : Type*)
  | worker (id : Fin n)
  | expire (id : Fin n) (ret : ℕ)
  | spurious (id : Fin n)
  | enqueue (client : Client) (func arg : Option ℕ) (allocated : Bool)
  | destroy (client : Client)
  | client (client : Client) (woken : Option (Fin n))
  deriving DecidableEq

/-- One step of the threads. -/
def poolNext (state : PoolState n Client) : PoolLabel n Client → Option (PoolState n Client)
  | .worker id => workerThreadNext state id
  | .expire id ret => expireNext state id ret
  | .spurious id => spuriousNext state id
  | .enqueue client func arg allocated =>
    match state.clients client with
    | .outside _ => some (threadPoolEnqueue state client func arg allocated)
    | _ => none
  | .destroy client =>
    match state.clients client with
    | .outside _ => some (state.moveClient client .lockShutdown)
    | _ => none
  | .client client woken => clientNext state client woken

/-- A pool after `thread_pool_init` with `n` workers, whose threads and clients have not run. -/
def threadPoolInit (n : ℕ) (Client : Type*) (heap : ℕ → Task) (barrier : Barrier) :
    PoolState n Client :=
  { heap := heap
    nextTask := 0
    head := none
    tail := none
    shutdown := false
    mutex := none
    barrier := barrier
    eventState := 0
    workers := fun _ ↦ .loopTest
    clients := fun _ ↦ .outside 0
    enqueued := []
    taken := []
    called := [] }

/-- A pool of `n` workers and any clients. The barrier is initialized for one thread more than
there are workers, and its allocation has succeeded: `thread_pool_init` does not look at what
`barrier_init` returns, and without a barrier `barrier_wait` would return at once. -/
def poolSystem (n : ℕ) (Client : Type*) [DecidableEq Client] :
    TransitionSystem (PoolState n Client) (PoolLabel n Client) where
  initial := fun state ↦
    ∃ heap barrier, barrierInit (n + 1) true = .ok barrier ∧
      state = threadPoolInit n Client heap barrier
  next := poolNext

/-! ### What a statement of a worker does to the positions -/

variable {state successor : PoolState n Client}

omit [DecidableEq Client] in
@[simp] theorem workers_moveWorker (state : PoolState n Client) (id : Fin n)
    (position : WorkerPosition) : (state.moveWorker id position).workers id = position :=
  Function.update_self _ _ _

omit [DecidableEq Client] in
theorem workers_moveWorker_of_ne (state : PoolState n Client) {id other : Fin n}
    (hother : other ≠ id) (position : WorkerPosition) :
    (state.moveWorker id position).workers other = state.workers other :=
  Function.update_of_ne hother _ _

omit [DecidableEq Client] in
/-- A statement of a worker moves no other worker, but that it may wake those asleep at the
barrier. -/
theorem workerThreadNext_other {id other : Fin n}
    (hnext : workerThreadNext state id = some successor) (hother : other ≠ id) :
    successor.workers other = state.workers other ∨
      ((state.workers other).BarrierAsleep ∧
        successor.workers other = (state.workers other).awakenBarrier) := by
  unfold workerThreadNext at hnext
  split at hnext
  case h_5 | h_16 | h_21 | h_23 => cases hnext
  case h_2 | h_6 =>
    split_ifs at hnext
    obtain rfl := Option.some.inj hnext
    exact Or.inl (workers_moveWorker_of_ne state hother _)
  case h_11 | h_20 =>
    split at hnext <;> obtain rfl := Option.some.inj hnext
    · exact Or.inl (workers_moveWorker_of_ne state hother _)
    · exact Or.inl (workers_moveWorker_of_ne state hother _)
  case h_15 task _ =>
    split at hnext <;> obtain rfl := Option.some.inj hnext
    · exact Or.inl (workers_moveWorker_of_ne state hother _)
    · have hwoken := broadcast_apply WorkerPosition.BarrierAsleep WorkerPosition.awakenBarrier
        state.workers other
      dsimp only
      rw [Function.update_of_ne hother]
      exact hwoken.imp_left And.right
  all_goals
    obtain rfl := Option.some.inj hnext
    exact Or.inl (workers_moveWorker_of_ne state hother _)

omit [DecidableEq Client] in
/-- A client moves no worker, but that it may wake those that wait on `tp->cond`. -/
theorem clientNext_workers [DecidableEq Client] {client : Client} {woken : Option (Fin n)}
    (hnext : clientNext state client woken = some successor) (id : Fin n) :
    successor.workers id = state.workers id ∨
      ((state.workers id).Asleep ∧ successor.workers id = .relocking 0) := by
  unfold clientNext at hnext
  split at hnext
  case h_1 | h_13 => cases hnext
  case h_2 | h_9 =>
    split_ifs at hnext
    obtain rfl := Option.some.inj hnext
    exact Or.inl rfl
  case h_5 =>
    split at hnext
    · cases hnext
    · obtain rfl := Option.some.inj hnext
      exact Or.inl rfl
  case h_7 =>
    obtain ⟨workers, hsignal, rfl⟩ := Option.map_eq_some_iff.mp hnext
    exact signal_apply hsignal id
  case h_11 =>
    obtain rfl := Option.some.inj hnext
    exact (broadcast_apply WorkerPosition.Asleep (fun _ ↦ .relocking 0) state.workers id).imp_left
      And.right
  all_goals
    obtain rfl := Option.some.inj hnext
    exact Or.inl rfl

end Bme680.Pool
