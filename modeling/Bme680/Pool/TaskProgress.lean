import Bme680.Pool.ThreadPool

/-!
# The barrier in front of the tasks

A worker that has taken a task calls `barrier_wait` before it runs it, on a barrier that
`thread_pool_init` sets up for one thread more than there are workers. Only workers call
`barrier_wait`, and a worker asleep there takes no second task, so the count stays at the number of
workers asleep (`BarrierStuck`) and never reaches its total: nobody broadcasts, and no task is run.

`taken_tasks_never_run` is about every pool that has a worker and a client, whatever its workers and
clients do, short of a spurious wake-up at the barrier.
-/

set_option autoImplicit false
set_option relaxedAutoImplicit false

namespace Bme680.Pool

open Concurrency Barriers

variable {n : ℕ} {Client : Type*} [DecidableEq Client] {state successor : PoolState n Client}
  {label : PoolLabel n Client}

/-- The task a worker has dequeued and whose function it has not called. -/
def WorkerPosition.untried : WorkerPosition → Option ℕ
  | .clearTail task | .unlockTaken (some task) | .enterBarrier task | .barrierAsleep task
  | .barrierAwake task | .callFunc task => some task
  | _ => none

/-- The step is neither a call of `thread_pool_destroy` nor a spurious wake-up of a worker asleep in
`barrier_wait`. -/
def PoolRunning (state : PoolState n Client) : PoolLabel n Client → Prop
  | .destroy _ => False
  | .spurious id => ¬ (state.workers id).BarrierAsleep
  | _ => True

instance (state : PoolState n Client) : DecidablePred (PoolRunning state)
  | .destroy _ => .isFalse id
  | .spurious id => inferInstanceAs (Decidable (¬ (state.workers id).BarrierAsleep))
  | .worker _ | .expire _ _ | .enqueue _ _ _ _ | .client _ _ => .isTrue trivial

/-- From every reachable state in which a worker has dequeued a task whose function it has not
called, further steps lead to the call. -/
def TakenTasksRun (n : ℕ) (Client : Type*) [DecidableEq Client] : Prop :=
  ∀ state, (poolSystem n Client).ReachableUnder PoolRunning state →
    ∀ id task, (state.workers id).untried = some task →
      ∃ final, (poolSystem n Client).Continuation PoolRunning state final ∧ task ∈ final.called

/-! ### The count of the barrier -/

/-- The worker has come through the barrier. -/
def WorkerPosition.PastBarrier : WorkerPosition → Prop
  | .barrierAwake _ | .callFunc _ | .signal1 _ | .eventTest _ | .eventAsleep _ | .freeTask _ => True
  | _ => False

/-- What every state of a running pool satisfies: the barrier waits for one thread more than there
are workers, it has counted the workers asleep in it, no worker has come through it, and no
task has been run. -/
structure BarrierStuck (state : PoolState n Client) : Prop where
  total : state.barrier.total = n + 1
  counted : state.barrier.count = threadCount WorkerPosition.BarrierAsleep state.workers
  stopped : ∀ id, ¬ (state.workers id).PastBarrier
  called : state.called = []

namespace BarrierStuck

omit [DecidableEq Client] in
/-- A worker moves on elsewhere than at the barrier. -/
theorem move (hstuck : BarrierStuck state) {id : Fin n} {position : WorkerPosition}
    (hbefore : ¬ (state.workers id).BarrierAsleep) (hafter : ¬ position.BarrierAsleep)
    (hstopped : ¬ position.PastBarrier) : BarrierStuck (state.moveWorker id position) := by
  have hcount := threadCount_update_add WorkerPosition.BarrierAsleep state.workers id position
  rw [if_neg hbefore, if_neg hafter] at hcount
  refine ⟨hstuck.total, ?_, fun other ↦ ?_, hstuck.called⟩
  · exact hstuck.counted.trans (congrArg Nat.cast hcount.symm)
  · by_cases hother : other = id
    · rw [hother, workers_moveWorker]
      exact hstopped
    · rw [workers_moveWorker_of_ne state hother]
      exact hstuck.stopped other

omit [DecidableEq Client] in
/-- A worker that enters the barrier falls asleep there. -/
theorem enter (hstuck : BarrierStuck state) {id : Fin n} {task : ℕ}
    (hposition : state.workers id = .enterBarrier task) :
    barrierWait state.barrier =
        ({ state.barrier with count := state.barrier.count + 1 }, .sleeps) ∧
      BarrierStuck { state.moveWorker id (.barrierAsleep task) with
        barrier := { state.barrier with count := state.barrier.count + 1 } } := by
  have hbefore : ¬ (state.workers id).BarrierAsleep := by
    rw [hposition]
    exact fun h ↦ h
  have htotal := hstuck.total
  have hcounted := hstuck.counted
  -- the entering worker is not asleep, so the sleepers are fewer than the workers
  have hfewer := threadCount_lt_card hbefore
  rw [Fintype.card_fin] at hfewer
  have hcount := threadCount_update_add WorkerPosition.BarrierAsleep state.workers id
    (.barrierAsleep task)
  rw [if_neg hbefore, if_pos (show WorkerPosition.BarrierAsleep (.barrierAsleep task) from trivial)]
    at hcount
  refine ⟨barrierWait_sleeps (by omega), htotal, ?_, fun other ↦ ?_, hstuck.called⟩
  · show state.barrier.count + 1 = (threadCount WorkerPosition.BarrierAsleep
      (Function.update state.workers id (.barrierAsleep task)) : ℤ)
    omega
  · show ¬ ((state.moveWorker id (.barrierAsleep task)).workers other).PastBarrier
    by_cases hother : other = id
    · rw [hother, workers_moveWorker]
      exact fun h ↦ h
    · rw [workers_moveWorker_of_ne state hother]
      exact hstuck.stopped other

omit [DecidableEq Client] in
/-- A statement of a worker keeps the barrier stuck. -/
theorem worker_next (hstuck : BarrierStuck state) {id : Fin n}
    (hnext : workerThreadNext state id = some successor) : BarrierStuck successor := by
  have hstopped := hstuck.stopped id
  -- what is left of the step leaves the barrier and the tasks run as they were
  have hmoved {before position : WorkerPosition} (hposition : state.workers id = before)
      (hsame : successor.barrier = state.barrier)
      (hworkers : successor.workers = (state.moveWorker id position).workers)
      (hcalled : successor.called = state.called) (hbefore : ¬ before.BarrierAsleep)
      (hafter : ¬ position.BarrierAsleep) (hpast : ¬ position.PastBarrier) :
      BarrierStuck successor := by
    have hstuck' := hstuck.move (hposition ▸ hbefore) hafter hpast
    refine ⟨?_, ?_, ?_, hcalled.trans hstuck.called⟩
    · rw [hsame]
      exact hstuck.total
    · rw [hsame, hworkers]
      exact hstuck'.counted
    · rw [hworkers]
      exact hstuck'.stopped
  unfold workerThreadNext at hnext
  cases hposition : state.workers id with
  | asleep | barrierAsleep _ | eventAsleep _ | finished =>
    simp only [hposition] at hnext
    cases hnext
  | barrierAwake _ | callFunc _ | signal1 _ | eventTest _ | freeTask _ =>
    rw [hposition] at hstopped
    exact absurd trivial hstopped
  | enterBarrier task =>
    obtain ⟨hsleeps, hentered⟩ := hstuck.enter hposition
    simp only [hposition, hsleeps] at hnext
    obtain rfl := Option.some.inj hnext
    exact hentered
  | loopTest | waitTest | shutdownTest =>
    simp only [hposition] at hnext
    split_ifs at hnext <;> obtain rfl := Option.some.inj hnext
    · exact hmoved hposition rfl rfl rfl nofun nofun nofun
    · exact hmoved hposition rfl rfl rfl nofun nofun nofun
  | locking =>
    simp only [hposition] at hnext
    split_ifs at hnext
    obtain rfl := Option.some.inj hnext
    exact hmoved hposition rfl rfl rfl nofun nofun nofun
  | relocking ret =>
    simp only [hposition, WorkerPosition.afterTimedwait] at hnext
    split_ifs at hnext <;> obtain rfl := Option.some.inj hnext
    · exact hmoved hposition rfl rfl rfl nofun nofun nofun
    · exact hmoved hposition rfl rfl rfl nofun nofun nofun
    · exact hmoved hposition rfl rfl rfl nofun nofun nofun
  | readHead =>
    simp only [hposition] at hnext
    split at hnext <;> obtain rfl := Option.some.inj hnext
    · exact hmoved hposition rfl rfl rfl nofun nofun nofun
    · exact hmoved hposition rfl rfl rfl nofun nofun nofun
  | unlockTaken task =>
    simp only [hposition] at hnext
    obtain rfl := Option.some.inj hnext
    cases task with
    | none => exact hmoved hposition rfl rfl rfl nofun nofun nofun
    | some task => exact hmoved hposition rfl rfl rfl nofun nofun nofun
  | waiting | unlockTimedOut | unlockFailed | unlockShutdown | advanceHead _ | clearTail _ =>
    simp only [hposition] at hnext
    obtain rfl := Option.some.inj hnext
    exact hmoved hposition rfl rfl rfl nofun nofun nofun

omit [DecidableEq Client] in
/-- Waking workers that wait on `tp->cond` keeps the barrier stuck. -/
theorem of_woken (hstuck : BarrierStuck state) (hbarrier : successor.barrier = state.barrier)
    (hcalled : successor.called = state.called)
    (hworkers : ∀ id, successor.workers id = state.workers id ∨
      ((state.workers id).Asleep ∧ successor.workers id = .relocking 0)) :
    BarrierStuck successor := by
  refine ⟨hbarrier ▸ hstuck.total, ?_, fun id ↦ ?_, hcalled.trans hstuck.called⟩
  · rw [hbarrier, hstuck.counted, threadCount_eq_tally, threadCount_eq_tally]
    refine congrArg Nat.cast (tally_congr fun id ↦ ?_)
    rcases hworkers id with hsame | ⟨hasleep, hawake⟩
    · rw [hsame]
    · have hposition : state.workers id = .asleep := hasleep
      rw [hawake, hposition]
      rfl
  · rcases hworkers id with hsame | ⟨_, hawake⟩
    · rw [hsame]
      exact hstuck.stopped id
    · rw [hawake]
      nofun

omit [DecidableEq Client] in
/-- A wait that ends by itself, short of one at the barrier, keeps the barrier stuck. -/
theorem of_asleep (hstuck : BarrierStuck state) {id : Fin n} {ret : ℕ}
    (hasleep : state.workers id = .asleep) :
    BarrierStuck (state.moveWorker id (.relocking ret)) :=
  hstuck.move (by rw [hasleep]; nofun) nofun nofun

/-- A client leaves the barrier and the tasks run as they were. -/
theorem clientNext_frame {client : Client} {woken : Option (Fin n)}
    (hnext : clientNext state client woken = some successor) :
    successor.barrier = state.barrier ∧ successor.called = state.called := by
  unfold clientNext at hnext
  split at hnext
  case h_1 | h_13 => cases hnext
  case h_2 | h_9 =>
    split_ifs at hnext
    obtain rfl := Option.some.inj hnext
    exact ⟨rfl, rfl⟩
  case h_5 =>
    split at hnext
    · cases hnext
    · obtain rfl := Option.some.inj hnext
      exact ⟨rfl, rfl⟩
  case h_7 =>
    obtain ⟨workers, _, rfl⟩ := Option.map_eq_some_iff.mp hnext
    exact ⟨rfl, rfl⟩
  all_goals
    obtain rfl := Option.some.inj hnext
    exact ⟨rfl, rfl⟩

/-- Every step of a running pool keeps the barrier stuck. -/
theorem step (hstuck : BarrierStuck state) (hallowed : PoolRunning state label)
    (hnext : poolNext state label = some successor) : BarrierStuck successor := by
  cases label with
  | worker id => exact hstuck.worker_next hnext
  | expire id ret =>
    have hstopped := hstuck.stopped id
    simp only [poolNext, expireNext] at hnext
    split at hnext
    · rename_i hasleep
      split_ifs at hnext
      obtain rfl := Option.some.inj hnext
      exact hstuck.of_asleep hasleep
    · rename_i task hasleep
      rw [hasleep] at hstopped
      exact absurd trivial hstopped
    · cases hnext
  | spurious id =>
    have hstopped := hstuck.stopped id
    simp only [poolNext, spuriousNext] at hnext
    split at hnext
    · rename_i hasleep
      obtain rfl := Option.some.inj hnext
      exact hstuck.of_asleep hasleep
    · rename_i task hasleep
      simp only [PoolRunning, hasleep] at hallowed
      exact absurd trivial hallowed
    · rename_i task hasleep
      rw [hasleep] at hstopped
      exact absurd trivial hstopped
    · cases hnext
  | enqueue client func arg allocated =>
    simp only [poolNext] at hnext
    split at hnext
    · obtain rfl := Option.some.inj hnext
      unfold threadPoolEnqueue
      split_ifs <;> exact ⟨hstuck.total, hstuck.counted, hstuck.stopped, hstuck.called⟩
    · cases hnext
  | destroy client => exact hallowed.elim
  | client client woken =>
    obtain ⟨hbarrier, hcalled⟩ := clientNext_frame hnext
    exact hstuck.of_woken hbarrier hcalled (clientNext_workers hnext)

end BarrierStuck

/-- The barrier of a pool that has just been set up. -/
theorem barrierStuck_initial (hinitial : (poolSystem n Client).initial state) :
    BarrierStuck state := by
  obtain ⟨heap, barrier, hinit, rfl⟩ := hinitial
  obtain ⟨_, hbarrier⟩ := barrierInit_ok hinit
  have hnobody : threadCount WorkerPosition.BarrierAsleep (fun _ : Fin n ↦ .loopTest) = 0 :=
    threadCount_eq_zero_iff.mpr fun _ ↦ nofun
  refine ⟨?_, ?_, fun _ ↦ nofun, rfl⟩
  · show barrier.total = n + 1
    rw [hbarrier]
  · show barrier.count = _
    rw [hbarrier]
    exact congrArg Nat.cast hnobody.symm

/-! ### No task is run -/

/-- In a running pool no task has been run. -/
theorem called_eq_nil (hreach : (poolSystem n Client).ReachableUnder PoolRunning state) :
    state.called = [] :=
  (hreach.invariant (fun _ hinitial ↦ barrierStuck_initial hinitial)
    fun _ _ _ hstuck hallowed hnext ↦ BarrierStuck.step hstuck hallowed hnext).called

/-- A client outside puts a task in the queue of a pool of which nobody has the mutex. -/
theorem exists_enqueued {client : Client} (houtside : state.clients client = .outside 0)
    (hfree : state.mutex = none) (hempty : state.head = none)
    (hnobody : ∀ id, ¬ (state.workers id).Asleep) :
    ∃ queued, (poolSystem n Client).run state
        (.enqueue client (some 1) none true :: List.replicate 6 (.client client none)) =
          some queued ∧
      queued.head = some state.nextTask ∧ queued.mutex = none ∧
      queued.shutdown = state.shutdown ∧ queued.workers = state.workers := by
  simp [TransitionSystem.run, poolSystem, poolNext, threadPoolEnqueue, clientNext,
    PoolState.moveClient, List.replicate, signal, houtside, hfree, hempty, hnobody]

/-- A worker at the head of its loop dequeues the first task of a pool of which nobody has the
mutex. -/
theorem exists_dequeued {id : Fin n} {task : ℕ}
    (hposition : state.workers id = .loopTest) (hfree : state.mutex = none)
    (hhead : state.head = some task) (hrunning : state.shutdown = false) :
    ∃ final, (poolSystem n Client).run state (List.replicate 6 (.worker id)) = some final ∧
      (final.workers id).untried = some task := by
  simp [TransitionSystem.run, poolSystem, poolNext, workerThreadNext, PoolState.moveWorker,
    List.replicate, WorkerPosition.untried, hposition, hfree, hhead, hrunning]

/-- A pool that has a worker and a client comes to a state in which the worker has dequeued a
task. -/
theorem exists_untried (id : Fin n) (client : Client) :
    ∃ state, (poolSystem n Client).ReachableUnder PoolRunning state ∧
      (state.workers id).untried = some 0 := by
  let start : PoolState n Client :=
    threadPoolInit n Client (fun _ ↦ { func := none, arg := none, next := none })
      { count := 0, total := n + 1 }
  have hinitial : (poolSystem n Client).initial start := by
    refine ⟨_, _, ?_, rfl⟩
    unfold barrierInit
    rw [if_neg (by omega), if_pos rfl]
  have houtside : start.clients client = .outside 0 := rfl
  obtain ⟨queued, henqueue, hhead, hfree, hrunning, hworkers⟩ :=
    exists_enqueued houtside rfl rfl fun _ ↦ nofun
  obtain ⟨final, htake, huntried⟩ := exists_dequeued
    (show queued.workers id = .loopTest by rw [hworkers]; rfl) hfree hhead hrunning
  have hqueued : (poolSystem n Client).ReachableUnder PoolRunning queued := by
    refine TransitionSystem.ReachableUnder.run _ (fun other label hlabel ↦ ?_)
      (.initial hinitial) henqueue
    cases label with
    | destroy _ | spurious _ => simp [List.replicate] at hlabel
    | _ => exact trivial
  refine ⟨final, TransitionSystem.ReachableUnder.run _ (fun other label hlabel ↦ ?_) hqueued
    htake, huntried⟩
  obtain ⟨_, rfl⟩ := List.mem_replicate.mp hlabel
  exact trivial

/-- In no pool with at least one worker can a dequeued task always be run: no task is ever run. -/
theorem taken_tasks_never_run (hone : 1 ≤ n) (client : Client) :
    ¬ TakenTasksRun n Client ∧
      ∀ state : PoolState n Client, (poolSystem n Client).ReachableUnder PoolRunning state →
        state.called = [] := by
  refine ⟨fun hclaim ↦ ?_, fun state ↦ called_eq_nil⟩
  obtain ⟨state, hreach, huntried⟩ := exists_untried ⟨0, hone⟩ client
  obtain ⟨final, hmore, hcalled⟩ := hclaim state hreach _ _ huntried
  rw [called_eq_nil (hreach.continue hmore)] at hcalled
  exact absurd hcalled List.not_mem_nil

/-- The only worker of a pool cannot run the task it has dequeued. -/
theorem single_worker_never_runs :
    ¬ ∀ n : ℕ, 1 ≤ n → TakenTasksRun n Unit := by
  intro hclaim
  obtain ⟨state, hreach, huntried⟩ := exists_untried (0 : Fin 1) ()
  obtain ⟨final, hmore, hcalled⟩ := hclaim 1 le_rfl state hreach _ _ huntried
  rw [called_eq_nil (hreach.continue hmore)] at hcalled
  exact absurd hcalled List.not_mem_nil

/-- A pool of two workers and one client never runs a task. -/
theorem taken_tasks_never_run_two_workers :
    ¬ TakenTasksRun 2 Unit ∧
      ∀ state : PoolState 2 Unit, (poolSystem 2 Unit).ReachableUnder PoolRunning state →
        state.called = [] :=
  taken_tasks_never_run (by decide) ()

end Bme680.Pool
