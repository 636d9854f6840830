import Bme680.Concurrency.GuardedQueue
import Bme680.Pool.ThreadPool

/-!
# The task queue of the thread pool

The critical sections of the workers and of the clients are those of a linked queue under a mutex,
as long as no worker's timed wait returns `ETIMEDOUT`: `queue_next` matches every other step of the
pool with a step of the guarded queue or with none. The tasks the clients put in are new
(`FreshTasks`), so the invariant of the guarded queue holds of the pool, and `QueueDiscipline` says
what it means for the code: the statements that need the mutex are run by the thread that has it,
the tail is the last task, and tasks are taken in the order they were enqueued, each once.

A worker whose wait has returned `ETIMEDOUT` unlocks the mutex and evaluates its wait condition
again without it. `queue_discipline_iff` states both.
-/

set_option autoImplicit false
set_option relaxedAutoImplicit false

namespace Bme680.Pool

open Concurrency Barriers

variable {n : ℕ} {Client : Type*} [DecidableEq Client]

/-! ### The property -/

/-- The statements of a worker that evaluate the wait condition, wait on `tp->cond`, read or update
`tp->head` and `tp->tail`, or unlock `tp->mutex`. -/
def WorkerPosition.Guarded : WorkerPosition → Prop
  | .waitTest | .waiting | .readHead | .advanceHead _ | .clearTail _ | .unlockTimedOut
  | .unlockFailed | .unlockShutdown | .unlockTaken _ => True
  | _ => False

/-- The statements of a client that read or update `tp->head` and `tp->tail` or unlock
`tp->mutex`. -/
def ClientPosition.Guarded : ClientPosition → Prop
  | .testHead _ | .setHead _ | .linkTail _ | .setTail _ | .unlocking | .unlockDestroy => True
  | _ => False

/-- The task behind another in the queue. -/
def PoolState.nextOf (state : PoolState n Client) (task : ℕ) : Option ℕ :=
  (state.heap task).next

/-- Statements that need the mutex are run by the thread that has it; where the mutex is free the
tail is the last task of the list from the head, and both are null together; every task is taken
at most once; and tasks are taken in the order they were enqueued. -/
structure QueueDiscipline (state : PoolState n Client) : Prop where
  workers : ∀ id, (state.workers id).Guarded → state.mutex = some (.worker id)
  clients : ∀ client, (state.clients client).Guarded → state.mutex = some (.client client)
  tail : state.mutex = none → ∃ tasks, Chain state.nextOf state.head tasks ∧
    state.tail = tasks.getLast? ∧ (state.head = none ↔ state.tail = none)
  once : state.taken.Nodup
  order : state.taken <+: state.enqueued

/-- The step is not the return of a worker's timed wait with `ETIMEDOUT`. -/
def NoTimedOutReturn (state : PoolState n Client) : PoolLabel n Client → Prop
  | .worker id => state.workers id ≠ .relocking ETIMEDOUT
  | _ => True

instance (state : PoolState n Client) : DecidablePred (NoTimedOutReturn state)
  | .worker id => inferInstanceAs (Decidable (state.workers id ≠ .relocking ETIMEDOUT))
  | .expire _ _ | .spurious _ | .enqueue _ _ _ _ | .destroy _ | .client _ _ => .isTrue trivial

/-! ### The guarded queue of a pool -/

/-- The point of a worker in its critical section. -/
def WorkerPosition.point : WorkerPosition → QueuePoint ℕ
  | .waitTest | .waiting | .unlockTimedOut | .unlockFailed | .shutdownTest | .unlockShutdown
  | .readHead | .unlockTaken _ => .inside
  | .advanceHead task => .advancing task
  | .clearTail _ => .clearing
  | _ => .outside

/-- The point of a client in its critical section. -/
def ClientPosition.point : ClientPosition → QueuePoint ℕ
  | .testHead _ | .signalCond | .unlocking | .setShutdown | .broadcastCond | .unlockDestroy =>
    .inside
  | .setHead _ => .settingHead
  | .linkTail _ => .linking
  | .setTail task => .settingTail task
  | _ => .outside

/-- The points of the threads. -/
def PoolState.points (state : PoolState n Client) : PoolThread n Client → QueuePoint ℕ
  | .worker id => (state.workers id).point
  | .client client => (state.clients client).point

/-- The guarded queue of a pool. -/
def PoolState.queue (state : PoolState n Client) : GuardedQueue (PoolThread n Client) ℕ :=
  { next := state.nextOf
    head := state.head
    tail := state.tail
    enqueued := state.enqueued
    taken := state.taken
    mutex := state.mutex
    points := state.points }

/-- Moving a worker moves its point. -/
theorem points_moveWorker (state : PoolState n Client) (id : Fin n) (position : WorkerPosition) :
    (state.moveWorker id position).points =
      Function.update state.points (.worker id) position.point := by
  funext thread
  cases thread with
  | worker other =>
    by_cases hother : other = id
    · subst other
      simp [PoolState.points, PoolState.moveWorker]
    · simp [PoolState.points, PoolState.moveWorker, hother]
  | client client => simp [PoolState.points, PoolState.moveWorker]

/-- Moving a client moves its point. -/
theorem points_moveClient (state : PoolState n Client) (client : Client)
    (position : ClientPosition) :
    (state.moveClient client position).points =
      Function.update state.points (.client client) position.point := by
  funext thread
  cases thread with
  | client other =>
    by_cases hother : other = client
    · subst other
      simp [PoolState.points, PoolState.moveClient]
    · simp [PoolState.points, PoolState.moveClient, hother]
  | worker id => simp [PoolState.points, PoolState.moveClient]

/-- Moving a worker to a position at the same point leaves the points as they were. -/
theorem points_moveWorker_same {state : PoolState n Client} {id : Fin n}
    {position : WorkerPosition} (hsame : position.point = (state.workers id).point) :
    (state.moveWorker id position).points = state.points := by
  rw [points_moveWorker, hsame]
  exact Function.update_eq_self _ _

/-- Moving a client to a position at the same point leaves the points as they were. -/
theorem points_moveClient_same {state : PoolState n Client} {client : Client}
    {position : ClientPosition} (hsame : position.point = (state.clients client).point) :
    (state.moveClient client position).points = state.points := by
  rw [points_moveClient, hsame]
  exact Function.update_eq_self _ _

/-- Waking workers that wait on `tp->cond` leaves them outside their critical sections. -/
theorem point_of_woken {before after : WorkerPosition}
    (hwoken : after = before ∨ (before.Asleep ∧ after = .relocking 0)) :
    after.point = before.point := by
  rcases hwoken with rfl | ⟨hasleep, rfl⟩
  · rfl
  · obtain rfl : before = .asleep := hasleep
    rfl

/-- Waking workers asleep at the barrier leaves them outside their critical sections. -/
theorem point_broadcastBarrier (workers : Fin n → WorkerPosition) (id : Fin n) :
    (broadcast WorkerPosition.BarrierAsleep WorkerPosition.awakenBarrier workers id).point =
      (workers id).point := by
  rcases broadcast_apply WorkerPosition.BarrierAsleep WorkerPosition.awakenBarrier workers id with
    ⟨_, hsame⟩ | ⟨hasleep, hawake⟩
  · rw [hsame]
  · obtain ⟨task, htask⟩ := hasleep.exists_task
    rw [hawake, htask]
    rfl

omit [DecidableEq Client] in
/-- States with the same workers and clients up to their points have the same points. -/
theorem points_congr {first second : PoolState n Client}
    (hworkers : ∀ id, (first.workers id).point = (second.workers id).point)
    (hclients : ∀ client, (first.clients client).point = (second.clients client).point) :
    first.points = second.points := by
  funext thread
  cases thread with
  | worker id => exact hworkers id
  | client client => exact hclients client

/-! ### New tasks -/

/-- The task a client has allocated and not yet put in the queue. -/
def ClientPosition.pending : ClientPosition → Option ℕ
  | .locking task | .testHead task | .setHead task | .linkTail task => some task
  | _ => none

/-- What every reachable state satisfies: the tasks in the queue have been allocated, the tasks the
clients are about to put in are not in it, end the list, and belong to one client each, and the
tail has been put in. -/
structure FreshTasks (state : PoolState n Client) : Prop where
  allocated : ∀ task ∈ state.enqueued, task < state.nextTask
  pending : ∀ client task, (state.clients client).pending = some task →
    task < state.nextTask ∧ task ∉ state.enqueued ∧ state.nextOf task = none
  separate : ∀ first second task, (state.clients first).pending = some task →
    (state.clients second).pending = some task → first = second
  tail : ∀ task, state.tail = some task → task ∈ state.enqueued
  setting : ∀ client task, state.clients client = .setTail task → task ∈ state.enqueued

namespace FreshTasks

variable {state successor : PoolState n Client} {label : PoolLabel n Client}

omit [DecidableEq Client] in
/-- A step that leaves the clients, the tasks and the queue's list as they were, and at most clears
the tail. -/
theorem of_worker (hfresh : FreshTasks state) (hclients : successor.clients = state.clients)
    (hheap : successor.heap = state.heap) (hnext : successor.nextTask = state.nextTask)
    (henqueued : successor.enqueued = state.enqueued)
    (htail : successor.tail = state.tail ∨ successor.tail = none) : FreshTasks successor := by
  constructor
  · rw [henqueued, hnext]
    exact hfresh.allocated
  · unfold PoolState.nextOf
    rw [hclients, hheap, henqueued, hnext]
    exact hfresh.pending
  · rw [hclients]
    exact hfresh.separate
  · rw [henqueued]
    intro task htask
    rcases htail with hsame | hnone
    · exact hfresh.tail task (hsame ▸ htask)
    · cases hnone.symm.trans htask
  · rw [hclients, henqueued]
    exact hfresh.setting

/-- A client moves to a position with the same pending task or with none, and the tail becomes a
task of the queue if it changes. -/
theorem of_client (hfresh : FreshTasks state) {client : Client} {position : ClientPosition}
    (hclients : successor.clients = Function.update state.clients client position)
    (hheap : successor.heap = state.heap) (hnext : successor.nextTask = state.nextTask)
    (henqueued : successor.enqueued = state.enqueued)
    (hpending : position.pending = none ∨ position.pending = (state.clients client).pending)
    (htail : ∀ task, successor.tail = some task → task ∈ state.enqueued)
    (hsetting : ∀ task, position ≠ .setTail task) : FreshTasks successor := by
  have hbefore (other : Client) (task : ℕ)
      (htask : (successor.clients other).pending = some task) :
      (state.clients other).pending = some task := by
    rw [hclients] at htask
    by_cases hother : other = client
    · subst other
      rw [Function.update_self] at htask
      rcases hpending with hnone | hsame
      · cases hnone.symm.trans htask
      · exact hsame.symm.trans htask
    · rwa [Function.update_of_ne hother] at htask
  constructor
  · rw [henqueued, hnext]
    exact hfresh.allocated
  · unfold PoolState.nextOf
    rw [hheap, henqueued, hnext]
    exact fun other task htask ↦ hfresh.pending other task (hbefore other task htask)
  · exact fun first second task hfirst hsecond ↦
      hfresh.separate first second task (hbefore first task hfirst) (hbefore second task hsecond)
  · rw [henqueued]
    exact htail
  · rw [henqueued, hclients]
    intro other task hother
    by_cases hsame : other = client
    · subst other
      rw [Function.update_self] at hother
      exact absurd hother (hsetting task)
    · rw [Function.update_of_ne hsame] at hother
      exact hfresh.setting other task hother

/-- A client puts its pending task in the queue, and links no pending task. -/
theorem of_put (hfresh : FreshTasks state) {client : Client} {task : ℕ}
    (hpending : (state.clients client).pending = some task)
    (hclients : successor.clients = Function.update state.clients client (.setTail task))
    (hnextOf : ∀ other, other ∉ state.enqueued → successor.nextOf other = state.nextOf other)
    (hnext : successor.nextTask = state.nextTask)
    (henqueued : successor.enqueued = state.enqueued ++ [task])
    (htail : successor.tail = state.tail) : FreshTasks successor := by
  have hbefore (other : Client) (otherTask : ℕ)
      (hother : (successor.clients other).pending = some otherTask) :
      other ≠ client ∧ (state.clients other).pending = some otherTask := by
    rw [hclients] at hother
    by_cases hsame : other = client
    · subst other
      rw [Function.update_self] at hother
      cases hother
    · rw [Function.update_of_ne hsame] at hother
      exact ⟨hsame, hother⟩
  constructor
  · rw [henqueued, hnext]
    intro other hother
    rcases List.mem_append.mp hother with hold | hnew
    · exact hfresh.allocated other hold
    · rw [List.mem_singleton.mp hnew]
      exact (hfresh.pending client task hpending).1
  · intro other otherTask hother
    obtain ⟨hne, hold⟩ := hbefore other otherTask hother
    obtain ⟨hallocated, hnotIn, hend⟩ := hfresh.pending other otherTask hold
    refine ⟨hnext ▸ hallocated, ?_, (hnextOf otherTask hnotIn).trans hend⟩
    rw [henqueued]
    intro hmem
    rcases List.mem_append.mp hmem with hin | hnew
    · exact hnotIn hin
    · obtain rfl := List.mem_singleton.mp hnew
      exact hne (hfresh.separate other client otherTask hold hpending)
  · exact fun first second otherTask hfirst hsecond ↦
      hfresh.separate first second otherTask (hbefore first otherTask hfirst).2
        (hbefore second otherTask hsecond).2
  · rw [henqueued, htail]
    exact fun other hother ↦ List.mem_append_left _ (hfresh.tail other hother)
  · rw [henqueued, hclients]
    intro other otherTask hother
    by_cases hsame : other = client
    · subst other
      rw [Function.update_self] at hother
      obtain rfl : task = otherTask := ClientPosition.setTail.inj hother
      exact List.mem_append_right _ List.mem_cons_self
    · rw [Function.update_of_ne hsame] at hother
      exact List.mem_append_left _ (hfresh.setting other otherTask hother)

/-- A new call allocates a task of its own. -/
theorem enqueue (hfresh : FreshTasks state) {client : Client} {ret : ℤ}
    (houtside : state.clients client = .outside ret) (func arg : Option ℕ) (allocated : Bool) :
    FreshTasks (threadPoolEnqueue state client func arg allocated) := by
  unfold threadPoolEnqueue
  split_ifs with hfunc hallocated
  · exact hfresh.of_client rfl rfl rfl rfl (Or.inl rfl) hfresh.tail nofun
  · have hnew : state.nextTask ∉ state.enqueued :=
      fun hmem ↦ lt_irrefl _ (hfresh.allocated _ hmem)
    have hcases (other : Client) (task : ℕ)
        (htask : (Function.update state.clients client (.locking state.nextTask) other).pending =
          some task) :
        (other = client ∧ task = state.nextTask) ∨
          (state.clients other).pending = some task := by
      by_cases hother : other = client
      · subst other
        rw [Function.update_self] at htask
        exact Or.inl ⟨rfl, (Option.some.inj htask).symm⟩
      · rw [Function.update_of_ne hother] at htask
        exact Or.inr htask
    constructor
    · exact fun task htask ↦ Nat.lt_succ_of_lt (hfresh.allocated task htask)
    · intro other task htask
      unfold PoolState.nextOf
      show task < state.nextTask + 1 ∧ task ∉ state.enqueued ∧
        (Function.update state.heap state.nextTask
          { func := func, arg := arg, next := none } task).next = none
      rcases hcases other task htask with ⟨_, rfl⟩ | hold
      · rw [Function.update_self]
        exact ⟨Nat.lt_succ_self _, hnew, rfl⟩
      · obtain ⟨hbelow, hnotIn, hend⟩ := hfresh.pending other task hold
        rw [Function.update_of_ne hbelow.ne]
        exact ⟨Nat.lt_succ_of_lt hbelow, hnotIn, hend⟩
    · intro first second task hfirst hsecond
      rcases hcases first task hfirst with ⟨rfl, hone⟩ | hone <;>
        rcases hcases second task hsecond with ⟨rfl, htwo⟩ | htwo
      · rfl
      · exact absurd hone (hfresh.pending second task htwo).1.ne
      · exact absurd htwo (hfresh.pending first task hone).1.ne
      · exact hfresh.separate first second task hone htwo
    · exact hfresh.tail
    · intro other task hother
      have hclients : Function.update state.clients client (.locking state.nextTask) other =
        .setTail task := hother
      by_cases hsame : other = client
      · subst other
        rw [Function.update_self] at hclients
        cases hclients
      · rw [Function.update_of_ne hsame] at hclients
        exact hfresh.setting other task hclients
  · exact hfresh.of_client rfl rfl rfl rfl (Or.inl rfl) hfresh.tail nofun

omit [DecidableEq Client] in
/-- A statement of a worker leaves the clients and the tasks as they were. -/
theorem worker_next (hfresh : FreshTasks state) {id : Fin n}
    (hnext : workerThreadNext state id = some successor) : FreshTasks successor := by
  unfold workerThreadNext at hnext
  split at hnext
  case h_5 | h_16 | h_21 | h_23 => cases hnext
  case h_2 | h_6 =>
    split_ifs at hnext
    obtain rfl := Option.some.inj hnext
    exact hfresh.of_worker rfl rfl rfl rfl (Or.inl rfl)
  case h_11 | h_15 =>
    split at hnext <;> obtain rfl := Option.some.inj hnext
    · exact hfresh.of_worker rfl rfl rfl rfl (Or.inl rfl)
    · exact hfresh.of_worker rfl rfl rfl rfl (Or.inl rfl)
  case h_13 =>
    obtain rfl := Option.some.inj hnext
    exact hfresh.of_worker rfl rfl rfl rfl
      (ite_eq_or_eq (state.head = none) none state.tail).symm
  case h_20 =>
    split_ifs at hnext <;> obtain rfl := Option.some.inj hnext
    · exact hfresh.of_worker rfl rfl rfl rfl (Or.inl rfl)
    · exact hfresh.of_worker rfl rfl rfl rfl (Or.inl rfl)
  all_goals
    obtain rfl := Option.some.inj hnext
    exact hfresh.of_worker rfl rfl rfl rfl (Or.inl rfl)

/-- A statement of a client puts in its own new task, or leaves the queue's list as it was. -/
theorem client_next (hfresh : FreshTasks state) {client : Client} {woken : Option (Fin n)}
    (hnext : clientNext state client woken = some successor) : FreshTasks successor := by
  unfold clientNext at hnext
  cases hposition : state.clients client with
  | outside ret | joining =>
    rw [hposition] at hnext
    cases hnext
  | locking task =>
    simp only [hposition] at hnext
    split_ifs at hnext
    obtain rfl := Option.some.inj hnext
    exact hfresh.of_client rfl rfl rfl rfl (Or.inr (by rw [hposition]; rfl)) hfresh.tail
      fun _ ↦ ClientPosition.noConfusion
  | testHead task =>
    simp only [hposition] at hnext
    obtain rfl := Option.some.inj hnext
    split_ifs
    · exact hfresh.of_client rfl rfl rfl rfl (Or.inr (by rw [hposition]; rfl)) hfresh.tail
        fun _ ↦ ClientPosition.noConfusion
    · exact hfresh.of_client rfl rfl rfl rfl (Or.inr (by rw [hposition]; rfl)) hfresh.tail
        fun _ ↦ ClientPosition.noConfusion
  | setHead task =>
    simp only [hposition] at hnext
    obtain rfl := Option.some.inj hnext
    exact hfresh.of_put (by rw [hposition]; rfl) rfl (fun _ _ ↦ rfl) rfl rfl rfl
  | linkTail task =>
    simp only [hposition] at hnext
    split at hnext
    · cases hnext
    · rename_i last htail
      obtain rfl := Option.some.inj hnext
      refine hfresh.of_put (by rw [hposition]; rfl) rfl (fun other hother ↦ ?_) rfl rfl rfl
      have hne : other ≠ last := fun hsame ↦ hother (hsame ▸ hfresh.tail last htail)
      unfold PoolState.nextOf
      exact congrArg Task.next (Function.update_of_ne hne _ _)
  | setTail task =>
    simp only [hposition] at hnext
    obtain rfl := Option.some.inj hnext
    refine hfresh.of_client rfl rfl rfl rfl (Or.inl rfl) (fun other hother ↦ ?_)
      fun _ ↦ ClientPosition.noConfusion
    obtain rfl := Option.some.inj hother
    exact hfresh.setting client task hposition
  | signalCond =>
    simp only [hposition] at hnext
    obtain ⟨workers, _, rfl⟩ := Option.map_eq_some_iff.mp hnext
    exact hfresh.of_client rfl rfl rfl rfl (Or.inl rfl) hfresh.tail
      fun _ ↦ ClientPosition.noConfusion
  | lockShutdown =>
    simp only [hposition] at hnext
    split_ifs at hnext
    obtain rfl := Option.some.inj hnext
    exact hfresh.of_client rfl rfl rfl rfl (Or.inl rfl) hfresh.tail
      fun _ ↦ ClientPosition.noConfusion
  | unlocking | setShutdown | broadcastCond | unlockDestroy =>
    simp only [hposition] at hnext
    obtain rfl := Option.some.inj hnext
    exact hfresh.of_client rfl rfl rfl rfl (Or.inl rfl) hfresh.tail
      fun _ ↦ ClientPosition.noConfusion

/-- Every step keeps the tasks new. -/
theorem step (hfresh : FreshTasks state) (hnext : poolNext state label = some successor) :
    FreshTasks successor := by
  cases label with
  | worker id => exact hfresh.worker_next hnext
  | expire id ret =>
    simp only [poolNext, expireNext] at hnext
    split at hnext
    · split_ifs at hnext
      obtain rfl := Option.some.inj hnext
      exact hfresh.of_worker rfl rfl rfl rfl (Or.inl rfl)
    · split_ifs at hnext <;> obtain rfl := Option.some.inj hnext
      · exact hfresh.of_worker rfl rfl rfl rfl (Or.inl rfl)
      · exact hfresh.of_worker rfl rfl rfl rfl (Or.inl rfl)
    · cases hnext
  | spurious id =>
    simp only [poolNext, spuriousNext] at hnext
    split at hnext
    case h_4 => cases hnext
    all_goals
      obtain rfl := Option.some.inj hnext
      exact hfresh.of_worker rfl rfl rfl rfl (Or.inl rfl)
  | enqueue client func arg allocated =>
    simp only [poolNext] at hnext
    split at hnext
    · rename_i ret houtside
      obtain rfl := Option.some.inj hnext
      exact hfresh.enqueue houtside func arg allocated
    · cases hnext
  | destroy client =>
    simp only [poolNext] at hnext
    split at hnext
    · obtain rfl := Option.some.inj hnext
      exact hfresh.of_client rfl rfl rfl rfl (Or.inl rfl) hfresh.tail nofun
    · cases hnext
  | client client woken => exact hfresh.client_next hnext

end FreshTasks

/-! ### The pool refines the guarded queue -/

variable {state successor : PoolState n Client} {label : PoolLabel n Client}

/-- Moving a worker to a position at the same point leaves the guarded queue as it was. -/
theorem queue_moveWorker_same {id : Fin n} {before position : WorkerPosition}
    (hposition : state.workers id = before) (hsame : position.point = before.point) :
    (state.moveWorker id position).queue = state.queue :=
  GuardedQueue.ext rfl rfl rfl rfl rfl rfl (points_moveWorker_same (by rw [hposition, hsame]))

/-- Moving a client to a position at the same point leaves the guarded queue as it was. -/
theorem queue_moveClient_same {client : Client} {before position : ClientPosition}
    (hposition : state.clients client = before) (hsame : position.point = before.point) :
    (state.moveClient client position).queue = state.queue :=
  GuardedQueue.ext rfl rfl rfl rfl rfl rfl (points_moveClient_same (by rw [hposition, hsame]))

/-- A statement of a worker, unless it is the unlock after a timeout, is one of the guarded queue or
leaves the queue as it was. -/
theorem queue_worker_next {id : Fin n}
    (htimedOut : state.workers id ≠ .unlockTimedOut)
    (hnext : workerThreadNext state id = some successor) :
    successor.queue = state.queue ∨ QueueStep state.queue successor.queue := by
  have hpoint : state.queue.points (.worker id) = (state.workers id).point := rfl
  unfold workerThreadNext at hnext
  cases hposition : state.workers id with
  | loopTest | waitTest | shutdownTest =>
    simp only [hposition] at hnext
    obtain rfl := Option.some.inj hnext
    refine Or.inl (queue_moveWorker_same hposition ?_)
    split_ifs <;> rfl
  | locking =>
    simp only [hposition] at hnext
    split_ifs at hnext with hfree
    obtain rfl := Option.some.inj hnext
    rw [hposition] at hpoint
    exact Or.inr ((QueueStep.acquire (PoolThread.worker id) hfree hpoint).to_eq
      (GuardedQueue.ext rfl rfl rfl rfl rfl rfl (points_moveWorker state id _)))
  | relocking ret =>
    simp only [hposition] at hnext
    split_ifs at hnext with hfree
    obtain rfl := Option.some.inj hnext
    rw [hposition] at hpoint
    have hinside : (WorkerPosition.afterTimedwait ret).point = .inside := by
      unfold WorkerPosition.afterTimedwait
      split_ifs <;> rfl
    refine Or.inr ((QueueStep.acquire (PoolThread.worker id) hfree hpoint).to_eq
      (GuardedQueue.ext rfl rfl rfl rfl rfl rfl ((points_moveWorker state id _).trans ?_)))
    rw [hinside]
    rfl
  | unlockTimedOut => exact absurd hposition htimedOut
  | waiting | unlockFailed | unlockShutdown =>
    simp only [hposition] at hnext
    obtain rfl := Option.some.inj hnext
    rw [hposition] at hpoint
    exact Or.inr ((QueueStep.release (PoolThread.worker id) hpoint).to_eq
      (GuardedQueue.ext rfl rfl rfl rfl rfl rfl (points_moveWorker state id _)))
  | readHead =>
    simp only [hposition] at hnext
    rw [hposition] at hpoint
    split at hnext
    · obtain rfl := Option.some.inj hnext
      exact Or.inl (queue_moveWorker_same hposition rfl)
    · rename_i task hhead
      obtain rfl := Option.some.inj hnext
      exact Or.inr ((QueueStep.readHead (PoolThread.worker id) task hpoint hhead).to_eq
        (GuardedQueue.ext rfl rfl rfl rfl rfl rfl (points_moveWorker state id _)))
  | advanceHead task =>
    simp only [hposition] at hnext
    obtain rfl := Option.some.inj hnext
    rw [hposition] at hpoint
    exact Or.inr ((QueueStep.advance (PoolThread.worker id) task hpoint).to_eq
      (GuardedQueue.ext rfl rfl rfl rfl rfl rfl (points_moveWorker state id _)))
  | clearTail task =>
    simp only [hposition] at hnext
    obtain rfl := Option.some.inj hnext
    rw [hposition] at hpoint
    exact Or.inr ((QueueStep.clearTail (PoolThread.worker id) hpoint).to_eq
      (GuardedQueue.ext rfl rfl rfl rfl rfl rfl (points_moveWorker state id _)))
  | unlockTaken task =>
    simp only [hposition] at hnext
    obtain rfl := Option.some.inj hnext
    rw [hposition] at hpoint
    refine Or.inr ((QueueStep.release (PoolThread.worker id) hpoint).to_eq
      (GuardedQueue.ext rfl rfl rfl rfl rfl rfl ((points_moveWorker state id _).trans ?_)))
    cases task <;> rfl
  | enterBarrier task =>
    simp only [hposition] at hnext
    split at hnext
    · obtain rfl := Option.some.inj hnext
      exact Or.inl (queue_moveWorker_same hposition rfl)
    · obtain rfl := Option.some.inj hnext
      refine Or.inl (GuardedQueue.ext rfl rfl rfl rfl rfl rfl
        (points_congr (fun other ↦ ?_) fun _ ↦ rfl))
      dsimp only
      by_cases hother : other = id
      · subst other
        rw [Function.update_self, hposition]
        rfl
      · rw [Function.update_of_ne hother, point_broadcastBarrier]
  | eventTest task =>
    simp only [hposition] at hnext
    split_ifs at hnext <;> obtain rfl := Option.some.inj hnext
    · exact Or.inl (queue_moveWorker_same hposition rfl)
    · exact Or.inl (queue_moveWorker_same hposition rfl)
  | barrierAwake task | callFunc task | signal1 task | freeTask task =>
    simp only [hposition] at hnext
    obtain rfl := Option.some.inj hnext
    exact Or.inl (queue_moveWorker_same hposition rfl)
  | asleep | barrierAsleep _ | eventAsleep _ | finished =>
    simp only [hposition] at hnext
    cases hnext

/-- A statement of a client is one of the guarded queue or leaves the queue as it was. -/
theorem queue_client_next (hfresh : FreshTasks state) {client : Client} {woken : Option (Fin n)}
    (hnext : clientNext state client woken = some successor) :
    successor.queue = state.queue ∨ QueueStep state.queue successor.queue := by
  have hpoint : state.queue.points (.client client) = (state.clients client).point := rfl
  unfold clientNext at hnext
  cases hposition : state.clients client with
  | outside ret | joining =>
    rw [hposition] at hnext
    cases hnext
  | locking task | lockShutdown =>
    simp only [hposition] at hnext
    split_ifs at hnext with hfree
    obtain rfl := Option.some.inj hnext
    rw [hposition] at hpoint
    exact Or.inr ((QueueStep.acquire (PoolThread.client client) hfree hpoint).to_eq
      (GuardedQueue.ext rfl rfl rfl rfl rfl rfl (points_moveClient state client _)))
  | testHead task =>
    simp only [hposition] at hnext
    obtain rfl := Option.some.inj hnext
    rw [hposition] at hpoint
    split_ifs with hempty
    · exact Or.inr ((QueueStep.testEmpty (PoolThread.client client) hpoint hempty).to_eq
        (GuardedQueue.ext rfl rfl rfl rfl rfl rfl (points_moveClient state client _)))
    · exact Or.inr ((QueueStep.testOccupied (PoolThread.client client) hpoint hempty).to_eq
        (GuardedQueue.ext rfl rfl rfl rfl rfl rfl (points_moveClient state client _)))
  | setHead task =>
    simp only [hposition] at hnext
    obtain rfl := Option.some.inj hnext
    obtain ⟨_, hnew, hend⟩ := hfresh.pending client task (by rw [hposition]; rfl)
    rw [hposition] at hpoint
    exact Or.inr ((QueueStep.setHead (PoolThread.client client) task hpoint hnew hend).to_eq
      (GuardedQueue.ext rfl rfl rfl rfl rfl rfl (points_moveClient state client _)))
  | linkTail task =>
    simp only [hposition] at hnext
    obtain ⟨_, hnew, hend⟩ := hfresh.pending client task (by rw [hposition]; rfl)
    rw [hposition] at hpoint
    split at hnext
    · cases hnext
    · rename_i last htail
      obtain rfl := Option.some.inj hnext
      refine Or.inr
        ((QueueStep.link (PoolThread.client client) last task hpoint htail hnew hend).to_eq
          (GuardedQueue.ext ?_ rfl rfl rfl rfl rfl (points_moveClient state client _)))
      funext other
      show (Function.update state.heap last _ other).next =
        Function.update state.nextOf last (some task) other
      by_cases hother : other = last
      · subst other
        rw [Function.update_self, Function.update_self]
      · rw [Function.update_of_ne hother, Function.update_of_ne hother]
        rfl
  | setTail task =>
    simp only [hposition] at hnext
    obtain rfl := Option.some.inj hnext
    rw [hposition] at hpoint
    exact Or.inr ((QueueStep.setTail (PoolThread.client client) task hpoint).to_eq
      (GuardedQueue.ext rfl rfl rfl rfl rfl rfl (points_moveClient state client _)))
  | signalCond =>
    simp only [hposition] at hnext
    obtain ⟨workers, hsignal, rfl⟩ := Option.map_eq_some_iff.mp hnext
    have hmoved : (state.moveClient client .unlocking).points = state.points :=
      points_moveClient_same (by rw [hposition]; rfl)
    refine Or.inl (GuardedQueue.ext rfl rfl rfl rfl rfl rfl (Eq.trans ?_ hmoved))
    exact points_congr (fun id ↦ point_of_woken (signal_apply hsignal id)) fun _ ↦ rfl
  | setShutdown =>
    simp only [hposition] at hnext
    obtain rfl := Option.some.inj hnext
    exact Or.inl (queue_moveClient_same hposition rfl)
  | broadcastCond =>
    simp only [hposition] at hnext
    obtain rfl := Option.some.inj hnext
    have hmoved : (state.moveClient client .unlockDestroy).points = state.points :=
      points_moveClient_same (by rw [hposition]; rfl)
    refine Or.inl (GuardedQueue.ext rfl rfl rfl rfl rfl rfl (Eq.trans ?_ hmoved))
    refine points_congr (fun id ↦ point_of_woken ?_) fun _ ↦ rfl
    exact (broadcast_apply WorkerPosition.Asleep (fun _ ↦ .relocking 0) state.workers id).imp_left
      And.right
  | unlocking | unlockDestroy =>
    simp only [hposition] at hnext
    obtain rfl := Option.some.inj hnext
    rw [hposition] at hpoint
    exact Or.inr ((QueueStep.release (PoolThread.client client) hpoint).to_eq
      (GuardedQueue.ext rfl rfl rfl rfl rfl rfl (points_moveClient state client _)))

/-- A new call allocates a task that is not in the queue, or leaves the queue as it was. -/
theorem queue_enqueue (hfresh : FreshTasks state) {client : Client} {ret : ℤ}
    (houtside : state.clients client = .outside ret) (func arg : Option ℕ) (allocated : Bool) :
    (threadPoolEnqueue state client func arg allocated).queue = state.queue ∨
      QueueStep state.queue (threadPoolEnqueue state client func arg allocated).queue := by
  have hsame (position : ClientPosition) (hpoint : position.point = .outside) :
      (state.moveClient client position).points = state.points :=
    points_moveClient_same (by rw [houtside, hpoint]; rfl)
  unfold threadPoolEnqueue
  split_ifs
  · exact Or.inl (GuardedQueue.ext rfl rfl rfl rfl rfl rfl (hsame _ rfl))
  · have hnew : state.nextTask ∉ state.enqueued :=
      fun hmem ↦ lt_irrefl _ (hfresh.allocated _ hmem)
    refine Or.inr ((QueueStep.allocate state.nextTask hnew).to_eq
      (GuardedQueue.ext ?_ rfl rfl rfl rfl rfl (hsame _ rfl)))
    funext other
    show (Function.update state.heap state.nextTask _ other).next =
      Function.update state.nextOf state.nextTask none other
    by_cases hother : other = state.nextTask
    · subst other
      rw [Function.update_self, Function.update_self]
    · rw [Function.update_of_ne hother, Function.update_of_ne hother]
      rfl
  · exact Or.inl (GuardedQueue.ext rfl rfl rfl rfl rfl rfl (hsame _ rfl))

/-- Every step of the pool, unless it is the unlock after a timeout, is a statement of the guarded
queue or leaves the queue as it was. -/
theorem queue_next (hfresh : FreshTasks state)
    (htimedOut : ∀ id, state.workers id ≠ .unlockTimedOut)
    (hnext : poolNext state label = some successor) :
    successor.queue = state.queue ∨ QueueStep state.queue successor.queue := by
  cases label with
  | worker id => exact queue_worker_next (htimedOut id) hnext
  | client client woken => exact queue_client_next hfresh hnext
  | expire id ret =>
    simp only [poolNext, expireNext] at hnext
    refine Or.inl ?_
    split at hnext
    · rename_i hposition
      split_ifs at hnext
      obtain rfl := Option.some.inj hnext
      exact queue_moveWorker_same hposition rfl
    · rename_i task hposition
      split_ifs at hnext <;> obtain rfl := Option.some.inj hnext
      · exact queue_moveWorker_same hposition rfl
      · exact queue_moveWorker_same hposition rfl
    · cases hnext
  | spurious id =>
    simp only [poolNext, spuriousNext] at hnext
    refine Or.inl ?_
    split at hnext
    case h_4 => cases hnext
    all_goals
      rename_i hposition
      obtain rfl := Option.some.inj hnext
      exact queue_moveWorker_same hposition rfl
  | destroy client =>
    simp only [poolNext] at hnext
    refine Or.inl ?_
    split at hnext
    · rename_i ret hposition
      obtain rfl := Option.some.inj hnext
      exact queue_moveClient_same hposition rfl
    · cases hnext
  | enqueue client func arg allocated =>
    simp only [poolNext] at hnext
    split at hnext
    · rename_i ret hposition
      obtain rfl := Option.some.inj hnext
      exact queue_enqueue hfresh hposition func arg allocated
    · cases hnext

/-! ### The discipline -/

/-- What every state of a run in which no timed wait of a worker returns `ETIMEDOUT` satisfies. -/
structure PoolInvariant (state : PoolState n Client) : Prop where
  fresh : FreshTasks state
  notTimedOut : ∀ id, state.workers id ≠ .unlockTimedOut
  queue : ∃ tasks, QueueInvariant state.queue tasks

namespace PoolInvariant

omit [DecidableEq Client] in
/-- A worker comes to the unlock after a timeout only by a wait that returns `ETIMEDOUT`. -/
theorem relocking_of_unlockTimedOut {id : Fin n}
    (hnext : workerThreadNext state id = some successor)
    (hafter : successor.workers id = .unlockTimedOut) :
    state.workers id = .relocking ETIMEDOUT := by
  unfold workerThreadNext at hnext
  split at hnext
  case h_5 | h_16 | h_21 | h_23 => cases hnext
  case h_1 | h_3 | h_9 =>
    obtain rfl := Option.some.inj hnext
    rw [workers_moveWorker] at hafter
    split_ifs at hafter
  case h_2 =>
    split_ifs at hnext
    obtain rfl := Option.some.inj hnext
    cases (workers_moveWorker state id _).symm.trans hafter
  case h_6 ret hposition =>
    split_ifs at hnext
    obtain rfl := Option.some.inj hnext
    have hret := (workers_moveWorker state id _).symm.trans hafter
    unfold WorkerPosition.afterTimedwait at hret
    split_ifs at hret with htimedOut
    rw [hposition, htimedOut]
  case h_11 | h_15 | h_20 =>
    split at hnext <;> obtain rfl := Option.some.inj hnext
    · cases (workers_moveWorker state id _).symm.trans hafter
    · cases (Function.update_self id _ _).symm.trans hafter
  case h_14 task _ =>
    obtain rfl := Option.some.inj hnext
    have hposition := (workers_moveWorker state id _).symm.trans hafter
    cases task <;> cases hposition
  all_goals
    obtain rfl := Option.some.inj hnext
    cases (workers_moveWorker state id _).symm.trans hafter

/-- No worker comes to the unlock after a timeout while no wait returns `ETIMEDOUT`. -/
theorem notTimedOut_next (hinvariant : PoolInvariant state)
    (hallowed : NoTimedOutReturn state label) (hnext : poolNext state label = some successor)
    (other : Fin n) : successor.workers other ≠ .unlockTimedOut := by
  have hbefore := hinvariant.notTimedOut other
  have hmoved {id : Fin n} {position : WorkerPosition} (hposition : position ≠ .unlockTimedOut) :
      (state.moveWorker id position).workers other ≠ .unlockTimedOut := by
    by_cases hother : other = id
    · rw [hother, workers_moveWorker]
      exact hposition
    · rw [workers_moveWorker_of_ne state hother]
      exact hbefore
  cases label with
  | worker id =>
    by_cases hother : other = id
    · subst other
      exact fun hafter ↦ hallowed (relocking_of_unlockTimedOut hnext hafter)
    · rcases workerThreadNext_other hnext hother with hsame | ⟨hasleep, hawake⟩
      · rw [hsame]
        exact hbefore
      · obtain ⟨task, htask⟩ := hasleep.exists_task
        rw [hawake, htask]
        exact WorkerPosition.noConfusion
  | expire id ret =>
    simp only [poolNext, expireNext] at hnext
    split at hnext
    · split_ifs at hnext
      obtain rfl := Option.some.inj hnext
      exact hmoved nofun
    · split_ifs at hnext <;> obtain rfl := Option.some.inj hnext
      · exact hmoved nofun
      · exact hmoved nofun
    · cases hnext
  | spurious id =>
    simp only [poolNext, spuriousNext] at hnext
    split at hnext
    case h_4 => cases hnext
    all_goals
      obtain rfl := Option.some.inj hnext
      exact hmoved nofun
  | enqueue client func arg allocated =>
    simp only [poolNext] at hnext
    split at hnext
    · obtain rfl := Option.some.inj hnext
      unfold threadPoolEnqueue
      split_ifs <;> exact hbefore
    · cases hnext
  | destroy client =>
    simp only [poolNext] at hnext
    split at hnext
    · obtain rfl := Option.some.inj hnext
      exact hbefore
    · cases hnext
  | client client woken =>
    rcases clientNext_workers hnext other with hsame | ⟨_, hawake⟩
    · rw [hsame]
      exact hbefore
    · rw [hawake]
      exact WorkerPosition.noConfusion

/-- Every step that is not the return of a wait with `ETIMEDOUT` keeps the invariant. -/
theorem step (hinvariant : PoolInvariant state) (hallowed : NoTimedOutReturn state label)
    (hnext : poolNext state label = some successor) : PoolInvariant successor := by
  refine ⟨hinvariant.fresh.step hnext, hinvariant.notTimedOut_next hallowed hnext, ?_⟩
  obtain ⟨tasks, hqueue⟩ := hinvariant.queue
  rcases queue_next hinvariant.fresh hinvariant.notTimedOut hnext with hsame | hstep
  · rw [hsame]
    exact ⟨tasks, hqueue⟩
  · exact hqueue.step hstep

omit [DecidableEq Client] in
/-- A guarded statement of a worker is in its critical section. -/
theorem holds_of_guarded {position : WorkerPosition} (hguarded : position.Guarded) :
    position.point.Holds := by
  cases position <;> first | exact hguarded.elim | nofun

omit [DecidableEq Client] in
/-- A guarded statement of a client is in its critical section. -/
theorem holds_of_guarded_client {position : ClientPosition} (hguarded : position.Guarded) :
    position.point.Holds := by
  cases position <;> first | exact hguarded.elim | nofun

omit [DecidableEq Client] in
/-- The invariant gives the discipline. -/
theorem discipline (hinvariant : PoolInvariant state) : QueueDiscipline state := by
  obtain ⟨tasks, hqueue⟩ := hinvariant.queue
  have horder : state.enqueued = state.taken ++ tasks := hqueue.order
  have hnodup : state.enqueued.Nodup := hqueue.nodup
  refine ⟨fun id hguarded ↦ ?_, fun client hguarded ↦ ?_, fun hfree ↦ ?_, ?_, ?_⟩
  · exact hqueue.mutex_of_point rfl (holds_of_guarded hguarded)
  · exact hqueue.mutex_of_point rfl (holds_of_guarded_client hguarded)
  · have htail : state.tail = tasks.getLast? := by
      have hview := hqueue.view
      rw [GuardedQueue.activePoint, show state.queue.mutex = none from hfree] at hview
      exact hview
    refine ⟨tasks, hqueue.chain, htail, ?_⟩
    rw [htail, List.getLast?_eq_none_iff]
    exact hqueue.chain.eq_nil_iff
  · rw [horder] at hnodup
    exact (List.nodup_append.mp hnodup).1
  · rw [horder]
    exact List.prefix_append _ _

end PoolInvariant

/-- Every state of a run in which no wait returns `ETIMEDOUT` satisfies the invariant. -/
theorem poolInvariant_reachable
    (hreach : (poolSystem n Client).ReachableUnder NoTimedOutReturn state) :
    PoolInvariant state := by
  refine hreach.invariant (fun start hstart ↦ ?_) fun _ _ _ hinvariant hallowed hnext ↦
    hinvariant.step hallowed hnext
  obtain ⟨heap, barrier, _, rfl⟩ := hstart
  refine ⟨⟨nofun, nofun, nofun, nofun, nofun⟩, nofun, [], ?_, rfl, rfl, List.nodup_nil, rfl⟩
  intro thread
  cases thread with
  | worker id => exact iff_of_false nofun (not_not.mpr rfl)
  | client client => exact iff_of_false nofun (not_not.mpr rfl)

/-- After a timed wait has returned `ETIMEDOUT` its worker unlocks the mutex and evaluates the wait
condition without it. -/
theorem undisciplined_of_timedOut {id : Fin n}
    (htimedOut : state.workers id = .relocking ETIMEDOUT)
    (hnext : poolNext state (.worker id) = some successor) :
    NoTimedOutReturn successor (.worker id) ∧
      ∃ final, poolNext successor (.worker id) = some final ∧ ¬ QueueDiscipline final := by
  have hposition : successor.workers id = .unlockTimedOut := by
    simp only [poolNext, workerThreadNext, htimedOut] at hnext
    split_ifs at hnext
    obtain rfl := Option.some.inj hnext
    exact workers_moveWorker _ _ _
  refine ⟨fun hsame ↦ ?_, { successor.moveWorker id .waitTest with mutex := none }, ?_,
    fun hdiscipline ↦ ?_⟩
  · cases hposition.symm.trans hsame
  · simp only [poolNext, workerThreadNext, hposition]
  · have hguarded : ((successor.moveWorker id .waitTest).workers id).Guarded := by
      rw [workers_moveWorker]
      exact trivial
    cases hdiscipline.workers id hguarded

/-- The queue discipline is lost exactly through a worker's timed wait that returns `ETIMEDOUT`. In
a run without such a return the statements that need the mutex are run by the thread that has it,
the tail is the last task wherever the mutex is free, and tasks are taken in the order they were
enqueued, each once; and after such a return, in a state of such a run, the worker comes to evaluate
its wait condition without the mutex. -/
theorem queue_discipline_iff (n : ℕ) (Client : Type*) [DecidableEq Client] :
    (poolSystem n Client).ExactWithin NoTimedOutReturn QueueDiscipline := by
  constructor
  · intro state hreach
    exact (poolInvariant_reachable hreach).discipline
  · intro state label successor _ hreturn hnext
    cases label with
    | worker id =>
      obtain ⟨hallowed, final, hfinal, hundisciplined⟩ :=
        undisciplined_of_timedOut (not_not.mp hreturn) hnext
      exact ⟨final, .single ⟨.worker id, hallowed, hfinal⟩, hundisciplined⟩
    | _ => exact absurd trivial hreturn

/-- A pool of one worker and one client, on which nothing has run. -/
def idlePool : PoolState 1 Unit :=
  threadPoolInit 1 Unit (fun _ ↦ { func := none, arg := none, next := none })
    { count := 0, total := 2 }

/-- The wait of the only worker of an empty pool expires, and the worker evaluates its wait
condition without the mutex. -/
theorem worker_timeout_loses_mutex :
    ¬ ∀ state : PoolState 1 Unit, (poolSystem 1 Unit).Reachable state → QueueDiscipline state := by
  intro hclaim
  obtain ⟨final, hrun, hworker, hmutex⟩ : ∃ final,
      (poolSystem 1 Unit).run idlePool
        [.worker 0, .worker 0, .worker 0, .worker 0, .expire 0 ETIMEDOUT, .worker 0, .worker 0] =
          some final ∧
      final.workers 0 = .waitTest ∧ final.mutex = none := ⟨_, rfl, rfl, rfl⟩
  have hreach : (poolSystem 1 Unit).Reachable final :=
    TransitionSystem.reachable_of_run ⟨_, _, rfl, rfl⟩ _ hrun
  have hguarded : (final.workers 0).Guarded := by
    rw [hworker]
    exact trivial
  cases hmutex.symm.trans ((hclaim final hreach).workers 0 hguarded)

/-- The worker takes the first of two tasks and the second is left in the queue. -/
theorem queue_discipline_iff_two_tasks :
    ∃ state : PoolState 1 Unit,
      (poolSystem 1 Unit).ReachableUnder NoTimedOutReturn state ∧
      state.enqueued = [0, 1] ∧ state.taken = [0] ∧ QueueDiscipline state := by
  let enqueueTask : List (PoolLabel 1 Unit) :=
    .enqueue () (some 1) none true :: List.replicate 6 (.client () none)
  obtain ⟨final, hrun, henqueued, htaken⟩ : ∃ final,
      (poolSystem 1 Unit).runUnder NoTimedOutReturn idlePool
        (enqueueTask ++ enqueueTask ++ List.replicate 8 (.worker 0)) = some final ∧
      final.enqueued = [0, 1] ∧ final.taken = [0] := ⟨_, rfl, rfl, rfl⟩
  have hreach : (poolSystem 1 Unit).ReachableUnder NoTimedOutReturn final :=
    TransitionSystem.ReachableUnder.runUnder _ (.initial ⟨_, _, rfl, rfl⟩) hrun
  exact ⟨final, hreach, henqueued, htaken, (queue_discipline_iff 1 Unit).kept final hreach⟩

end Bme680.Pool
