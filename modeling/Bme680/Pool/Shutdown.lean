import Bme680.Pool.QueueDiscipline
import Bme680.Pool.TaskProgress

/-!
# The end of the thread pool

`thread_pool_destroy` joins its workers one after the other and then walks the queue, freeing its
tasks. Here it goes on from where `poolSystem` leaves it, by one client that calls it while the
others are outside and stay there.

A worker that has taken a task never comes out of the barrier, so the joins are passed only where no
task was taken (`thread_pool_destroy_exact`): the call then returns, with every task ever enqueued
freed once, in order, and none of them run; and where a task was taken it never returns and frees
nothing. As elsewhere about the pool, no wait of a worker returns `ETIMEDOUT` and none asleep in
`barrier_wait` wakes by itself (`UsedProperly`).
-/

set_option autoImplicit false
set_option relaxedAutoImplicit false

namespace Bme680.Pool

open Concurrency Barriers

/-! ### The rest of `thread_pool_destroy` -/

/-- Where `thread_pool_destroy` is after its broadcast: at the join of a worker, at the head of its
loop with a task, or at its end. -/
inductive DestroyPosition
  | joining (id : ℕ)
  | freeing (task : Option ℕ)
  | returned
  deriving DecidableEq, Repr

/-- A pool, where its destruction is, and the tasks that it has freed. -/
structure ShutdownState (n : ℕ) (Client : Type*) where
  pool : PoolState n Client
  destroy : DestroyPosition
  freed : List ℕ

/-- A step of the pool, or of the client inside `thread_pool_destroy` after its broadcast. -/
inductive ShutdownLabel (n : ℕ) (Client : Type*)
  | pool (label : PoolLabel n Client)
  | destroy (client : Client)

variable {n : ℕ} {Client : Type*} [DecidableEq Client]

/-- The state after a step: a join waits for its worker to end, and the loop reads the next task
before it frees one. -/
def shutdownNext (state : ShutdownState n Client) :
    ShutdownLabel n Client → Option (ShutdownState n Client)
  | .pool label => (poolNext state.pool label).map fun pool ↦ { state with pool := pool }
  | .destroy client =>
    if state.pool.clients client = .joining then
      match state.destroy with
      | .joining id =>
        if hid : id < n then
          if state.pool.workers ⟨id, hid⟩ = .finished then
            some { state with destroy := .joining (id + 1) }
          else none
        else some { state with destroy := .freeing state.pool.head }
      | .freeing (some task) =>
        some { state with
          destroy := .freeing (state.pool.heap task).next
          freed := state.freed ++ [task] }
      | .freeing none => some { state with destroy := .returned }
      | .returned => none
    else none

/-- A pool from its initialization to its destruction. -/
def shutdownSystem (n : ℕ) (Client : Type*) [DecidableEq Client] :
    TransitionSystem (ShutdownState n Client) (ShutdownLabel n Client) where
  initial := fun state ↦
    (poolSystem n Client).initial state.pool ∧ state.destroy = .joining 0 ∧ state.freed = []
  next := shutdownNext

/-- The client is inside `thread_pool_destroy`. -/
def ClientPosition.Destroying : ClientPosition → Prop
  | .lockShutdown | .setShutdown | .broadcastCond | .unlockDestroy | .joining => True
  | _ => False

/-- What is asked of a step of the pool: no wait returns `ETIMEDOUT`, no worker asleep in the
barrier wakes by itself, tasks are enqueued before the pool is destroyed, and it is destroyed while
no client is inside a call. -/
def PoolUsedProperly (pool : PoolState n Client) (label : PoolLabel n Client) : Prop :=
  NoTimedOutReturn pool label ∧
    match label with
    | .spurious id => ¬ (pool.workers id).BarrierAsleep
    | .enqueue _ _ _ _ => ∀ client, ¬ (pool.clients client).Destroying
    | .destroy _ => ∀ client, ∃ ret, pool.clients client = .outside ret
    | _ => True

instance : DecidablePred ClientPosition.Destroying
  | .lockShutdown | .setShutdown | .broadcastCond | .unlockDestroy | .joining => .isTrue trivial
  | .outside _ | .locking _ | .testHead _ | .setHead _ | .linkTail _ | .setTail _ | .signalCond
  | .unlocking => .isFalse id

instance (position : ClientPosition) : Decidable (∃ ret, position = .outside ret) :=
  match position with
  | .outside ret => .isTrue ⟨ret, rfl⟩
  | .locking _ | .testHead _ | .setHead _ | .linkTail _ | .setTail _ | .signalCond | .unlocking
  | .lockShutdown | .setShutdown | .broadcastCond | .unlockDestroy | .joining =>
    .isFalse fun ⟨_, hsame⟩ ↦ ClientPosition.noConfusion hsame

instance [Fintype Client] (pool : PoolState n Client) : DecidablePred (PoolUsedProperly pool)
  | .spurious id =>
    inferInstanceAs (Decidable (NoTimedOutReturn pool (.spurious id) ∧
      ¬ (pool.workers id).BarrierAsleep))
  | .enqueue client func arg allocated =>
    inferInstanceAs (Decidable (NoTimedOutReturn pool (.enqueue client func arg allocated) ∧
      ∀ client, ¬ (pool.clients client).Destroying))
  | .destroy client =>
    inferInstanceAs (Decidable (NoTimedOutReturn pool (.destroy client) ∧
      ∀ client, ∃ ret, pool.clients client = .outside ret))
  | .worker id => inferInstanceAs (Decidable (NoTimedOutReturn pool (.worker id) ∧ True))
  | .expire id ret => inferInstanceAs (Decidable (NoTimedOutReturn pool (.expire id ret) ∧ True))
  | .client client woken =>
    inferInstanceAs (Decidable (NoTimedOutReturn pool (.client client woken) ∧ True))

/-- The pool is used properly. -/
def UsedProperly (state : ShutdownState n Client) : ShutdownLabel n Client → Prop
  | .pool label => PoolUsedProperly state.pool label
  | .destroy _ => True

instance [Fintype Client] (state : ShutdownState n Client) : DecidablePred (UsedProperly state)
  | .pool label => inferInstanceAs (Decidable (PoolUsedProperly state.pool label))
  | .destroy _ => .isTrue trivial

/-! ### The tasks taken -/

section Taken

variable {state successor : PoolState n Client} {label : PoolLabel n Client}

omit [DecidableEq Client] in
/-- A worker keeps the task it has taken, and one that takes a task has it. -/
theorem workerThreadNext_taken (hstuck : BarrierStuck state) {id : Fin n}
    (hnext : workerThreadNext state id = some successor) :
    (∀ task, (state.workers id).untried = some task →
        (successor.workers id).untried = some task) ∧
      (successor.taken = state.taken ∨
        ∃ task, successor.taken = state.taken ++ [task] ∧
          (successor.workers id).untried = some task) := by
  have hstopped := hstuck.stopped id
  unfold workerThreadNext at hnext
  cases hposition : state.workers id with
  | asleep | barrierAsleep _ | eventAsleep _ | finished =>
    simp only [hposition] at hnext
    cases hnext
  | barrierAwake _ | callFunc _ | signal1 _ | eventTest _ | freeTask _ =>
    rw [hposition] at hstopped
    exact absurd trivial hstopped
  | enterBarrier task =>
    obtain ⟨hsleeps, -⟩ := hstuck.enter hposition
    simp only [hposition, hsleeps] at hnext
    obtain rfl := Option.some.inj hnext
    refine ⟨fun other hother ↦ ?_, Or.inl rfl⟩
    rw [show (PoolState.moveWorker state id (.barrierAsleep task)).workers id = _ from
      workers_moveWorker state id _]
    exact hother
  | advanceHead task =>
    simp only [hposition] at hnext
    obtain rfl := Option.some.inj hnext
    refine ⟨fun other hother ↦ ?_, Or.inr ⟨task, rfl, ?_⟩⟩
    · cases hother
    · exact congrArg WorkerPosition.untried (workers_moveWorker state id _)
  | clearTail task =>
    simp only [hposition] at hnext
    obtain rfl := Option.some.inj hnext
    refine ⟨fun other hother ↦ ?_, Or.inl rfl⟩
    exact (congrArg WorkerPosition.untried (workers_moveWorker state id _)).trans hother
  | unlockTaken task =>
    simp only [hposition] at hnext
    obtain rfl := Option.some.inj hnext
    refine ⟨fun other hother ↦ ?_, Or.inl rfl⟩
    cases task with
    | none => cases hother
    | some task =>
      exact (congrArg WorkerPosition.untried (workers_moveWorker state id _)).trans hother
  | readHead =>
    simp only [hposition] at hnext
    refine ⟨fun other hother ↦ ?_, ?_⟩
    · cases hother
    · split at hnext <;> obtain rfl := Option.some.inj hnext
      · exact Or.inl rfl
      · exact Or.inl rfl
  | locking | relocking ret =>
    simp only [hposition] at hnext
    split_ifs at hnext
    obtain rfl := Option.some.inj hnext
    refine ⟨fun other hother ↦ ?_, Or.inl rfl⟩
    cases hother
  | loopTest | waitTest | shutdownTest | waiting | unlockTimedOut | unlockFailed
  | unlockShutdown =>
    simp only [hposition] at hnext
    obtain rfl := Option.some.inj hnext
    refine ⟨fun other hother ↦ ?_, Or.inl rfl⟩
    cases hother

omit [DecidableEq Client] in
/-- A worker that is woken from a wait on `tp->cond` has no task. -/
theorem untried_of_woken {before after : WorkerPosition}
    (hwoken : after = before ∨ (before.Asleep ∧ after = .relocking 0)) :
    after.untried = before.untried := by
  rcases hwoken with rfl | ⟨hasleep, rfl⟩
  · rfl
  · obtain rfl : before = .asleep := hasleep
    rfl

/-- A client takes no task. -/
theorem clientNext_taken {client : Client} {woken : Option (Fin n)}
    (hnext : clientNext state client woken = some successor) : successor.taken = state.taken := by
  unfold clientNext at hnext
  split at hnext
  case h_1 | h_13 => cases hnext
  case h_2 | h_9 =>
    split_ifs at hnext
    obtain rfl := Option.some.inj hnext
    rfl
  case h_5 =>
    split at hnext
    · cases hnext
    · obtain rfl := Option.some.inj hnext
      rfl
  case h_7 =>
    obtain ⟨workers, _, rfl⟩ := Option.map_eq_some_iff.mp hnext
    rfl
  all_goals
    obtain rfl := Option.some.inj hnext
    rfl

/-- What a step of the pool does to the tasks taken: every worker keeps the one it has, and at most
one is taken, by a worker that then has it. -/
theorem poolNext_taken (hstuck : BarrierStuck state)
    (hasleep : ∀ id, label = .spurious id → ¬ (state.workers id).BarrierAsleep)
    (hnext : poolNext state label = some successor) :
    (∀ id task, (state.workers id).untried = some task →
        (successor.workers id).untried = some task) ∧
      (successor.taken = state.taken ∨
        ∃ id task, successor.taken = state.taken ++ [task] ∧
          (successor.workers id).untried = some task) := by
  have hmoved {id : Fin n} {position : WorkerPosition} {other : Fin n} {task : ℕ}
      (hnone : (state.workers id).untried = none)
      (hother : (state.workers other).untried = some task) :
      ((state.moveWorker id position).workers other).untried = some task := by
    have hne : other ≠ id := by
      rintro rfl
      cases hnone.symm.trans hother
    rwa [workers_moveWorker_of_ne state hne]
  cases label with
  | worker id =>
    obtain ⟨hkeeps, htaken⟩ := workerThreadNext_taken hstuck hnext
    refine ⟨fun other task hother ↦ ?_, htaken.imp_right fun ⟨task, htask⟩ ↦ ⟨id, task, htask⟩⟩
    by_cases hsame : other = id
    · subst hsame
      exact hkeeps task hother
    · rcases workerThreadNext_other hnext hsame with hstays | ⟨hbarrier, hawake⟩
      · rwa [hstays]
      · obtain ⟨held, hheld⟩ := hbarrier.exists_task
        rw [hheld] at hother hawake
        rw [hawake]
        exact hother
  | expire id ret =>
    simp only [poolNext, expireNext] at hnext
    split at hnext
    · rename_i hposition
      split_ifs at hnext
      obtain rfl := Option.some.inj hnext
      exact ⟨fun other task ↦ hmoved (by rw [hposition]; rfl), Or.inl rfl⟩
    · rename_i task hposition
      have hstopped := hstuck.stopped id
      rw [hposition] at hstopped
      exact absurd trivial hstopped
    · cases hnext
  | spurious id =>
    simp only [poolNext, spuriousNext] at hnext
    split at hnext
    · rename_i hposition
      obtain rfl := Option.some.inj hnext
      exact ⟨fun other task ↦ hmoved (by rw [hposition]; rfl), Or.inl rfl⟩
    · rename_i task hposition
      have hallowed := hasleep id rfl
      rw [hposition] at hallowed
      exact absurd trivial hallowed
    · rename_i task hposition
      have hstopped := hstuck.stopped id
      rw [hposition] at hstopped
      exact absurd trivial hstopped
    · cases hnext
  | enqueue client func arg allocated =>
    simp only [poolNext] at hnext
    split at hnext
    · obtain rfl := Option.some.inj hnext
      unfold threadPoolEnqueue
      split_ifs <;> exact ⟨fun _ _ hother ↦ hother, Or.inl rfl⟩
    · cases hnext
  | destroy client =>
    simp only [poolNext] at hnext
    split at hnext
    · obtain rfl := Option.some.inj hnext
      exact ⟨fun _ _ hother ↦ hother, Or.inl rfl⟩
    · cases hnext
  | client client woken =>
    refine ⟨fun id task hid ↦ ?_, Or.inl (clientNext_taken hnext)⟩
    rw [untried_of_woken (clientNext_workers hnext id)]
    exact hid

end Taken

/-! ### The clients -/

section Clients

variable {state successor : PoolState n Client} {label : PoolLabel n Client}

omit [DecidableEq Client] in
/-- A worker moves no client. -/
theorem workerThreadNext_clients {id : Fin n}
    (hnext : workerThreadNext state id = some successor) :
    successor.clients = state.clients := by
  unfold workerThreadNext at hnext
  split at hnext
  case h_5 | h_16 | h_21 | h_23 => cases hnext
  case h_2 | h_6 =>
    split_ifs at hnext
    obtain rfl := Option.some.inj hnext
    rfl
  case h_11 | h_15 | h_20 =>
    split at hnext <;> obtain rfl := Option.some.inj hnext
    · rfl
    · rfl
  all_goals
    obtain rfl := Option.some.inj hnext
    rfl

/-- A client inside a call moves itself only, and goes on with the same call. -/
theorem clientNext_clients {client : Client} {woken : Option (Fin n)}
    (hnext : clientNext state client woken = some successor) :
    (∀ other, other ≠ client → successor.clients other = state.clients other) ∧
      ((successor.clients client).Destroying ↔ (state.clients client).Destroying) := by
  have hmoved {position before : ClientPosition}
      (hclients : successor.clients = (state.moveClient client position).clients)
      (hsame : position.Destroying ↔ before.Destroying) :
      (∀ other, other ≠ client → successor.clients other = state.clients other) ∧
        ((successor.clients client).Destroying ↔ before.Destroying) := by
    rw [hclients]
    refine ⟨fun other hother ↦ Function.update_of_ne hother _ _, ?_⟩
    rw [show (state.moveClient client position).clients client = position from
      Function.update_self _ _ _]
    exact hsame
  unfold clientNext at hnext
  cases hposition : state.clients client with
  | outside _ | joining =>
    simp only [hposition] at hnext
    cases hnext
  | locking _ | lockShutdown =>
    simp only [hposition] at hnext
    split_ifs at hnext
    obtain rfl := Option.some.inj hnext
    exact hmoved rfl Iff.rfl
  | linkTail task =>
    simp only [hposition] at hnext
    split at hnext
    · cases hnext
    · obtain rfl := Option.some.inj hnext
      exact hmoved rfl Iff.rfl
  | signalCond =>
    simp only [hposition] at hnext
    obtain ⟨workers, -, rfl⟩ := Option.map_eq_some_iff.mp hnext
    exact hmoved rfl Iff.rfl
  | testHead _ =>
    simp only [hposition] at hnext
    obtain rfl := Option.some.inj hnext
    refine hmoved rfl ?_
    split_ifs <;> exact Iff.rfl
  | setHead _ | setTail _ | unlocking | setShutdown | broadcastCond | unlockDestroy =>
    simp only [hposition] at hnext
    obtain rfl := Option.some.inj hnext
    exact hmoved rfl Iff.rfl

end Clients

/-! ### The pool until it is destroyed -/

/-- What every state of a pool that is used properly satisfies: its queue is in order, its barrier
is stuck, every task taken is with a worker, and the other clients are outside while one is
destroying it. -/
structure PoolUsed (pool : PoolState n Client) : Prop where
  queue : PoolInvariant pool
  stuck : BarrierStuck pool
  held : ∀ task ∈ pool.taken, ∃ id, (pool.workers id).untried = some task
  alone : ∀ client, (pool.clients client).Destroying → ∀ other, other ≠ client →
    ∃ ret, pool.clients other = .outside ret

namespace PoolUsed

variable {pool successor : PoolState n Client} {label : PoolLabel n Client}

/-- Every proper step keeps the barrier stuck. -/
theorem stuck_next (hused : PoolUsed pool) (hproper : PoolUsedProperly pool label)
    (hnext : poolNext pool label = some successor) : BarrierStuck successor := by
  have hstuck := hused.stuck
  cases label with
  | destroy client =>
    simp only [poolNext] at hnext
    split at hnext
    · obtain rfl := Option.some.inj hnext
      exact ⟨hstuck.total, hstuck.counted, hstuck.stopped, hstuck.called⟩
    · cases hnext
  | spurious id =>
    have hrunning : PoolRunning pool (.spurious id) := hproper.2
    exact hstuck.step hrunning hnext
  | worker id | expire id ret | enqueue client func arg allocated | client client woken =>
    refine hstuck.step ?_ hnext
    exact trivial

/-- Every proper step leaves the tasks taken with workers. -/
theorem held_next (hused : PoolUsed pool) (hproper : PoolUsedProperly pool label)
    (hnext : poolNext pool label = some successor) :
    ∀ task ∈ successor.taken, ∃ id, (successor.workers id).untried = some task := by
  have hasleep : ∀ id, label = .spurious id → ¬ (pool.workers id).BarrierAsleep := by
    rintro id rfl
    exact hproper.2
  obtain ⟨hkeeps, htaken⟩ := poolNext_taken hused.stuck hasleep hnext
  have hbefore : ∀ task ∈ pool.taken, ∃ id, (successor.workers id).untried = some task := by
    intro task htask
    obtain ⟨id, hid⟩ := hused.held task htask
    exact ⟨id, hkeeps id task hid⟩
  intro task htask
  rcases htaken with hsame | ⟨id, new, hnew, hid⟩
  · rw [hsame] at htask
    exact hbefore task htask
  · rw [hnew] at htask
    rcases List.mem_append.mp htask with hearlier | hlast
    · exact hbefore task hearlier
    · obtain rfl := List.mem_singleton.mp hlast
      exact ⟨id, hid⟩

/-- Every proper step leaves the other clients outside while one is destroying the pool. -/
theorem alone_next (hused : PoolUsed pool) (hproper : PoolUsedProperly pool label)
    (hnext : poolNext pool label = some successor) :
    ∀ client, (successor.clients client).Destroying → ∀ other, other ≠ client →
      ∃ ret, successor.clients other = .outside ret := by
  have hsame (hclients : successor.clients = pool.clients) : ∀ client,
      (successor.clients client).Destroying → ∀ other, other ≠ client →
        ∃ ret, successor.clients other = .outside ret := by
    rw [hclients]
    exact hused.alone
  cases label with
  | worker id => exact hsame (workerThreadNext_clients hnext)
  | expire id ret =>
    refine hsame ?_
    simp only [poolNext, expireNext] at hnext
    split at hnext
    · split_ifs at hnext
      obtain rfl := Option.some.inj hnext
      rfl
    · split_ifs at hnext <;> obtain rfl := Option.some.inj hnext
      · rfl
      · rfl
    · cases hnext
  | spurious id =>
    refine hsame ?_
    simp only [poolNext, spuriousNext] at hnext
    split at hnext
    case h_4 => cases hnext
    all_goals
      obtain rfl := Option.some.inj hnext
      rfl
  | enqueue client func arg allocated =>
    -- nobody is destroying the pool, and the client does not begin to
    have hnobody : ∀ other, ¬ (pool.clients other).Destroying := hproper.2
    intro destroyer hdestroying
    exfalso
    simp only [poolNext] at hnext
    split at hnext
    · obtain rfl := Option.some.inj hnext
      by_cases hclient : destroyer = client
      · subst hclient
        unfold threadPoolEnqueue at hdestroying
        split_ifs at hdestroying
        all_goals
          simp only [PoolState.moveClient, Function.update_self] at hdestroying
          exact hdestroying
      · refine hnobody destroyer ?_
        unfold threadPoolEnqueue at hdestroying
        split_ifs at hdestroying
        all_goals
          simp only [PoolState.moveClient, Function.update_of_ne hclient] at hdestroying
          exact hdestroying
    · cases hnext
  | destroy client =>
    have houtside : ∀ other, ∃ ret, pool.clients other = .outside ret := hproper.2
    simp only [poolNext] at hnext
    split at hnext
    · obtain rfl := Option.some.inj hnext
      intro destroyer hdestroying other hother
      have hdestroyer : destroyer = client := by
        by_contra hne
        obtain ⟨ret, hret⟩ := houtside destroyer
        simp only [PoolState.moveClient, Function.update_of_ne hne, hret] at hdestroying
        exact hdestroying
      subst hdestroyer
      simp only [PoolState.moveClient, Function.update_of_ne hother]
      exact houtside other
    · cases hnext
  | client client woken =>
    obtain ⟨hothers, hself⟩ := clientNext_clients hnext
    intro destroyer hdestroying other hother
    by_cases hclient : destroyer = client
    · subst hclient
      rw [hothers other hother]
      exact hused.alone destroyer (hself.mp hdestroying) other hother
    · -- the client that moves is outside, where it has nothing to do
      rw [hothers destroyer hclient] at hdestroying
      obtain ⟨ret, hret⟩ := hused.alone destroyer hdestroying client (Ne.symm hclient)
      simp only [poolNext, clientNext, hret] at hnext
      cases hnext

/-- Every proper step of the pool keeps what holds of it. -/
theorem next (hused : PoolUsed pool) (hproper : PoolUsedProperly pool label)
    (hnext : poolNext pool label = some successor) : PoolUsed successor :=
  ⟨hused.queue.step hproper.1 hnext, hused.stuck_next hproper hnext,
    hused.held_next hproper hnext, hused.alone_next hproper hnext⟩

omit [DecidableEq Client] in
/-- Where all workers have ended no task has been taken. -/
theorem taken_of_finished (hused : PoolUsed pool) (hfinished : ∀ id, pool.workers id = .finished) :
    pool.taken = [] := by
  refine List.eq_nil_iff_forall_not_mem.mpr fun task htask ↦ ?_
  obtain ⟨id, hid⟩ := hused.held task htask
  rw [hfinished id] at hid
  cases hid

omit [DecidableEq Client] in
/-- Where all workers have ended the queue holds the tasks that have been put in it. -/
theorem chain_of_finished (hused : PoolUsed pool)
    (hfinished : ∀ id, pool.workers id = .finished) :
    Chain pool.nextOf pool.head pool.enqueued := by
  obtain ⟨tasks, hqueue⟩ := hused.queue.queue
  have horder : pool.enqueued = pool.taken ++ tasks := hqueue.order
  rw [hused.taken_of_finished hfinished, List.nil_append] at horder
  rw [horder]
  exact hqueue.chain

/-- A worker that has ended does not go on. -/
theorem finished_next (hnext : poolNext pool label = some successor) {id : Fin n}
    (hfinished : pool.workers id = .finished) : successor.workers id = .finished := by
  have hmoved {other : Fin n} {before position : WorkerPosition}
      (hposition : pool.workers other = before) (hbefore : before ≠ .finished) :
      (pool.moveWorker other position).workers id = .finished := by
    have hne : id ≠ other := by
      rintro rfl
      exact hbefore (hposition.symm.trans hfinished)
    rwa [workers_moveWorker_of_ne pool hne]
  cases label with
  | worker other =>
    by_cases hsame : id = other
    · subst hsame
      simp only [poolNext, workerThreadNext, hfinished] at hnext
      cases hnext
    · rcases workerThreadNext_other hnext hsame with hstays | ⟨hasleep, -⟩
      · rw [hstays, hfinished]
      · rw [hfinished] at hasleep
        exact hasleep.elim
  | expire other ret =>
    simp only [poolNext, expireNext] at hnext
    split at hnext
    · rename_i hposition
      split_ifs at hnext
      obtain rfl := Option.some.inj hnext
      exact hmoved hposition (by simp)
    · rename_i task hposition
      split_ifs at hnext <;> obtain rfl := Option.some.inj hnext
      · exact hmoved hposition (by simp)
      · exact hmoved hposition (by simp)
    · cases hnext
  | spurious other =>
    simp only [poolNext, spuriousNext] at hnext
    split at hnext
    case h_4 => cases hnext
    all_goals
      rename_i hposition
      obtain rfl := Option.some.inj hnext
      exact hmoved hposition (by simp)
  | enqueue client func arg allocated =>
    simp only [poolNext] at hnext
    split at hnext
    · obtain rfl := Option.some.inj hnext
      unfold threadPoolEnqueue
      split_ifs <;> exact hfinished
    · cases hnext
  | destroy client =>
    simp only [poolNext] at hnext
    split at hnext
    · obtain rfl := Option.some.inj hnext
      exact hfinished
    · cases hnext
  | client client woken =>
    rcases clientNext_workers hnext id with hstays | ⟨hasleep, -⟩
    · rw [hstays, hfinished]
    · rw [hfinished] at hasleep
      cases hasleep

/-- Where all workers have ended and a client is at its joins, the pool is at rest. -/
theorem rest_of_finished (hused : PoolUsed pool) (hproper : PoolUsedProperly pool label)
    (hfinished : ∀ id, pool.workers id = .finished) {client : Client}
    (hjoining : pool.clients client = .joining) : poolNext pool label = none := by
  have hdestroying : (pool.clients client).Destroying := by
    rw [hjoining]
    exact trivial
  cases label with
  | worker id => simp only [poolNext, workerThreadNext, hfinished id]
  | expire id ret => simp only [poolNext, expireNext, hfinished id]
  | spurious id => simp only [poolNext, spuriousNext, hfinished id]
  | enqueue other func arg allocated => exact absurd hdestroying (hproper.2 client)
  | destroy other =>
    obtain ⟨ret, hret⟩ := hproper.2 client
    rw [hjoining] at hret
    cases hret
  | client other woken =>
    by_cases hsame : other = client
    · subst hsame
      simp only [poolNext, clientNext, hjoining]
    · obtain ⟨ret, hret⟩ := hused.alone client hdestroying other hsame
      simp only [poolNext, clientNext, hret]

end PoolUsed

/-! ### Every run -/

/-- Where `thread_pool_destroy` is: before the join of a worker all workers before it have ended and
nothing is freed; in its loop the queue from its task on holds the tasks still to free. -/
def DestroyPosition.Reached (state : ShutdownState n Client) : DestroyPosition → Prop
  | .joining id =>
    state.freed = [] ∧ ∀ worker : Fin n, worker < id → state.pool.workers worker = .finished
  | .freeing task =>
    (∀ id, state.pool.workers id = .finished) ∧
      (∃ client, state.pool.clients client = .joining) ∧
      ∃ rest, Chain state.pool.nextOf task rest ∧ state.pool.enqueued = state.freed ++ rest
  | .returned =>
    (∀ id, state.pool.workers id = .finished) ∧
      (∃ client, state.pool.clients client = .joining) ∧ state.pool.enqueued = state.freed

/-- What every state satisfies: the pool is used properly, and its destruction has come as far as it
says. -/
structure ShutdownInvariant (state : ShutdownState n Client) : Prop where
  pool : PoolUsed state.pool
  reached : state.destroy.Reached state

namespace ShutdownInvariant

variable {state successor : ShutdownState n Client} {label : ShutdownLabel n Client}

/-- A step of the pool leaves its destruction where it is. -/
theorem pool_next (hinvariant : ShutdownInvariant state) {label : PoolLabel n Client}
    (hproper : PoolUsedProperly state.pool label) {pool : PoolState n Client}
    (hnext : poolNext state.pool label = some pool) :
    ShutdownInvariant { state with pool := pool } := by
  refine ⟨hinvariant.pool.next hproper hnext, ?_⟩
  have hreached := hinvariant.reached
  dsimp only
  cases hdestroy : state.destroy with
  | joining id =>
    rw [hdestroy] at hreached
    exact ⟨hreached.1, fun worker hworker ↦
      PoolUsed.finished_next hnext (hreached.2 worker hworker)⟩
  | freeing task =>
    rw [hdestroy] at hreached
    obtain ⟨hfinished, ⟨client, hjoining⟩, -⟩ := hreached
    rw [hinvariant.pool.rest_of_finished hproper hfinished hjoining] at hnext
    cases hnext
  | returned =>
    rw [hdestroy] at hreached
    obtain ⟨hfinished, ⟨client, hjoining⟩, -⟩ := hreached
    rw [hinvariant.pool.rest_of_finished hproper hfinished hjoining] at hnext
    cases hnext

omit [DecidableEq Client] in
/-- Behind the last join every worker has ended. -/
theorem finished_of_joining {id : ℕ} (hreached : (DestroyPosition.joining id).Reached state)
    (hlast : ¬ id < n) (worker : Fin n) : state.pool.workers worker = .finished :=
  hreached.2 worker (lt_of_lt_of_le worker.isLt (not_lt.mp hlast))

/-- Every proper step keeps the invariant. -/
theorem next (hinvariant : ShutdownInvariant state) (hproper : UsedProperly state label)
    (hnext : shutdownNext state label = some successor) : ShutdownInvariant successor := by
  cases label with
  | pool label =>
    obtain ⟨pool, hpool, rfl⟩ := Option.map_eq_some_iff.mp hnext
    exact hinvariant.pool_next hproper hpool
  | destroy client =>
    have hreached := hinvariant.reached
    simp only [shutdownNext] at hnext
    split_ifs at hnext with hjoining
    cases hdestroy : state.destroy with
    | joining id =>
      rw [hdestroy] at hreached
      simp only [hdestroy] at hnext
      split_ifs at hnext with hid hended <;> obtain rfl := Option.some.inj hnext
      · refine ⟨hinvariant.pool, hreached.1, fun worker hworker ↦ ?_⟩
        rcases Nat.lt_succ_iff_lt_or_eq.mp hworker with hearlier | hsame
        · exact hreached.2 worker hearlier
        · rwa [show worker = ⟨id, hid⟩ from Fin.ext hsame]
      · have hfinished := finished_of_joining hreached hid
        refine ⟨hinvariant.pool, hfinished, ⟨client, hjoining⟩, state.pool.enqueued,
          hinvariant.pool.chain_of_finished hfinished, ?_⟩
        dsimp only
        rw [hreached.1, List.nil_append]
    | freeing task =>
      rw [hdestroy] at hreached
      simp only [hdestroy] at hnext
      obtain ⟨hfinished, hclient, rest, hchain, henqueued⟩ := hreached
      cases task with
      | none =>
        obtain rfl := Option.some.inj hnext
        refine ⟨hinvariant.pool, hfinished, hclient, ?_⟩
        rw [hchain.eq_nil_iff.mp rfl, List.append_nil] at henqueued
        exact henqueued
      | some task =>
        obtain rfl := Option.some.inj hnext
        cases rest with
        | nil => cases hchain
        | cons first rest =>
          obtain ⟨hfirst, hrest⟩ := hchain
          obtain rfl := Option.some.inj hfirst
          refine ⟨hinvariant.pool, hfinished, hclient, rest, hrest, ?_⟩
          dsimp only
          rw [henqueued, List.append_assoc, List.singleton_append]
    | returned =>
      simp only [hdestroy] at hnext
      cases hnext

omit [DecidableEq Client] in
/-- The destruction after its broadcast leaves the pool as it is. -/
theorem destroy_pool [DecidableEq Client] {client : Client}
    (hnext : shutdownNext state (.destroy client) = some successor) :
    successor.pool = state.pool := by
  simp only [shutdownNext] at hnext
  split_ifs at hnext
  split at hnext
  · split_ifs at hnext <;> obtain rfl := Option.some.inj hnext
    · rfl
    · rfl
  · obtain rfl := Option.some.inj hnext
    rfl
  · obtain rfl := Option.some.inj hnext
    rfl
  · cases hnext

/-- A task that has been taken stays so. -/
theorem taken_next (hinvariant : ShutdownInvariant state) (hproper : UsedProperly state label)
    (hnext : shutdownNext state label = some successor) {task : ℕ}
    (htask : task ∈ state.pool.taken) : task ∈ successor.pool.taken := by
  cases label with
  | pool label =>
    obtain ⟨pool, hpool, rfl⟩ := Option.map_eq_some_iff.mp hnext
    have hasleep : ∀ id, label = .spurious id → ¬ (state.pool.workers id).BarrierAsleep := by
      rintro id rfl
      exact hproper.2
    rcases (poolNext_taken hinvariant.pool.stuck hasleep hpool).2 with hsame | ⟨_, _, hnew, -⟩
    · rw [hsame]
      exact htask
    · rw [hnew]
      exact List.mem_append_left _ htask
  | destroy client =>
    rw [destroy_pool hnext]
    exact htask

omit [DecidableEq Client] in
/-- Where a task has been taken, `thread_pool_destroy` is not past its joins. -/
theorem joining_of_taken (hinvariant : ShutdownInvariant state) {task : ℕ}
    (htask : task ∈ state.pool.taken) :
    state.destroy ≠ .returned ∧ (∀ other, state.destroy ≠ .freeing other) ∧ state.freed = [] := by
  have hreached := hinvariant.reached
  have hended (hfinished : ∀ id, state.pool.workers id = .finished) : False := by
    rw [hinvariant.pool.taken_of_finished hfinished] at htask
    cases htask
  cases hdestroy : state.destroy with
  | joining id =>
    rw [hdestroy] at hreached
    exact ⟨by simp, by simp, hreached.1⟩
  | freeing other =>
    rw [hdestroy] at hreached
    exact (hended hreached.1).elim
  | returned =>
    rw [hdestroy] at hreached
    exact (hended hreached.1).elim

omit [DecidableEq Client] in
/-- What has been freed is a beginning of what was enqueued. -/
theorem freed_prefix (hinvariant : ShutdownInvariant state) :
    state.freed <+: state.pool.enqueued := by
  have hreached := hinvariant.reached
  cases hdestroy : state.destroy with
  | joining id =>
    rw [hdestroy] at hreached
    rw [hreached.1]
    exact List.nil_prefix
  | freeing other =>
    rw [hdestroy] at hreached
    obtain ⟨-, -, rest, -, henqueued⟩ := hreached
    exact ⟨rest, henqueued.symm⟩
  | returned =>
    rw [hdestroy] at hreached
    exact ⟨[], by rw [List.append_nil, hreached.2.2]⟩

end ShutdownInvariant

variable {state : ShutdownState n Client}

/-- Every run in which the pool is used properly keeps the invariant. -/
theorem shutdownInvariant_of_reachable
    (hreach : (shutdownSystem n Client).ReachableUnder UsedProperly state) :
    ShutdownInvariant state := by
  refine hreach.invariant (fun start hinitial ↦ ?_) fun _ _ _ hbefore hproper hnext ↦
    hbefore.next hproper hnext
  obtain ⟨hpool, hdestroy, hfreed⟩ := hinitial
  have hstuck := barrierStuck_initial hpool
  have hqueue : PoolInvariant start.pool := poolInvariant_reachable (.initial hpool)
  obtain ⟨heap, barrier, -, hstart⟩ := hpool
  refine ⟨⟨hqueue, hstuck, fun task htask ↦ ?_, fun client hdestroying ↦ ?_⟩, ?_⟩
  · rw [hstart] at htask
    cases htask
  · rw [hstart] at hdestroying
    exact hdestroying.elim
  · rw [hdestroy]
    exact ⟨hfreed, fun worker hworker ↦ absurd hworker (Nat.not_lt_zero _)⟩

/-- A task that has been taken stays so in every continuation. -/
theorem taken_of_continuation
    (hreach : (shutdownSystem n Client).ReachableUnder UsedProperly state) {task : ℕ}
    (htask : task ∈ state.pool.taken) {final : ShutdownState n Client}
    (hmore : (shutdownSystem n Client).Continuation UsedProperly state final) :
    task ∈ final.pool.taken := by
  induction hmore with
  | refl => exact htask
  | tail hmore hlast ih =>
    obtain ⟨label, hproper, hnext⟩ := hlast
    exact (shutdownInvariant_of_reachable (hreach.continue hmore)).taken_next hproper hnext ih

/-- From the head of its loop on, `thread_pool_destroy` frees the tasks of the queue and returns. -/
theorem exists_returned {rest : List ℕ} {task : Option ℕ} {client : Client}
    (hdestroy : state.destroy = .freeing task) (hchain : Chain state.pool.nextOf task rest)
    (hjoining : state.pool.clients client = .joining) :
    ∃ final, (shutdownSystem n Client).Continuation UsedProperly state final ∧
      final.destroy = .returned ∧ final.pool = state.pool ∧ final.freed = state.freed ++ rest := by
  induction rest generalizing state task with
  | nil =>
    obtain rfl : task = none := hchain
    refine ⟨{ state with destroy := .returned }, .single ⟨.destroy client, trivial, ?_⟩, rfl, rfl,
      (List.append_nil _).symm⟩
    simp only [shutdownSystem, shutdownNext, if_pos hjoining, hdestroy]
  | cons first rest ih =>
    obtain ⟨rfl, hrest⟩ := hchain
    obtain ⟨final, hmore, hreturned, hpool, hfreed⟩ := @ih
      { state with
        destroy := .freeing (state.pool.heap first).next
        freed := state.freed ++ [first] } _ rfl hrest hjoining
    refine ⟨final, .head ⟨.destroy client, trivial, ?_⟩ hmore, hreturned, hpool, ?_⟩
    · simp only [shutdownSystem, shutdownNext, if_pos hjoining, hdestroy]
    · rw [hfreed, List.append_assoc, List.singleton_append]

/-- `thread_pool_destroy` runs no task, and frees tasks in the order they were enqueued, each once.
Once a worker has taken a task it never returns and frees nothing; past its joins no task was taken,
and it comes to its end with every task freed. -/
theorem thread_pool_destroy_exact
    (hreach : (shutdownSystem n Client).ReachableUnder UsedProperly state) :
    state.pool.called = [] ∧ state.freed <+: state.pool.enqueued ∧ state.freed.Nodup ∧
      (∀ task ∈ state.pool.taken, ∀ final,
        (shutdownSystem n Client).Continuation UsedProperly state final →
          final.destroy ≠ .returned ∧ final.freed = []) ∧
      (∀ task, state.destroy = .freeing task → state.pool.taken = [] ∧
        ∃ final, (shutdownSystem n Client).Continuation UsedProperly state final ∧
          final.destroy = .returned ∧ final.freed = state.pool.enqueued) ∧
      (state.destroy = .returned →
        state.pool.taken = [] ∧ state.freed = state.pool.enqueued) := by
  have hinvariant := shutdownInvariant_of_reachable hreach
  have hreached := hinvariant.reached
  have hprefix := hinvariant.freed_prefix
  obtain ⟨tasks, hqueue⟩ := hinvariant.pool.queue.queue
  refine ⟨hinvariant.pool.stuck.called, hprefix, hprefix.sublist.nodup hqueue.nodup,
    fun task htask final hmore ↦ ?_, fun task hfreeing ↦ ?_, fun hreturned ↦ ?_⟩
  · have hfinal := shutdownInvariant_of_reachable (hreach.continue hmore)
    have hjoining := hfinal.joining_of_taken (taken_of_continuation hreach htask hmore)
    exact ⟨hjoining.1, hjoining.2.2⟩
  · rw [hfreeing] at hreached
    obtain ⟨hfinished, ⟨client, hjoining⟩, rest, hchain, henqueued⟩ := hreached
    obtain ⟨final, hmore, hdestroy, -, hfreed⟩ := exists_returned hfreeing hchain hjoining
    exact ⟨hinvariant.pool.taken_of_finished hfinished, final, hmore, hdestroy,
      hfreed.trans henqueued.symm⟩
  · rw [hreturned] at hreached
    exact ⟨hinvariant.pool.taken_of_finished hreached.1, hreached.2.2.symm⟩

/-- A pool of one worker is destroyed before the worker has run: the task in its queue is freed. -/
theorem thread_pool_destroy_exact_one_task : ∃ state : ShutdownState 1 Unit,
    state.destroy = .returned ∧ state.pool.enqueued = [0] ∧ state.pool.taken = [] ∧
      state.freed = [0] := by
  let labels : List (ShutdownLabel 1 Unit) :=
    .pool (.enqueue () (some 1) none true) :: List.replicate 6 (.pool (.client () none)) ++
      .pool (.destroy ()) :: List.replicate 4 (.pool (.client () none)) ++
      .pool (.worker 0) :: List.replicate 4 (.destroy ())
  obtain ⟨final, hrun, hreturned, henqueued⟩ : ∃ final,
      (shutdownSystem 1 Unit).runUnder UsedProperly
        { pool := idlePool, destroy := .joining 0, freed := [] } labels = some final ∧
      final.destroy = .returned ∧ final.pool.enqueued = [0] :=
    ⟨_, rfl, rfl, rfl⟩
  have hreach : (shutdownSystem 1 Unit).ReachableUnder UsedProperly final := by
    refine .runUnder _ (.initial ?_) hrun
    exact ⟨⟨_, _, rfl, rfl⟩, rfl, rfl⟩
  obtain ⟨htaken, hfreed⟩ := (thread_pool_destroy_exact hreach).2.2.2.2.2 hreturned
  exact ⟨final, hreturned, henqueued, htaken, hfreed.trans henqueued⟩

end Bme680.Pool
