import Bme680.SectionOutcome
import Bme680.Concurrency.ResourceLedger

/-!
# Failed creation of threads

`thread_pool_init`, `fork_handler_init` and `assembly_line_init` allocate an object and an array of
thread handles or stages, set up what the threads share, and create the threads in order. Where
`pthread_create` fails, and in `assembly_line_init` where the data record cannot be allocated, they
call their destroy function, which also serves objects that are complete, and return an error.

The functions are modelled by what they do with the parts of the object and with the threads:
joining a thread releases it and cancelling it is a use of it. The outcomes of their calls are a
parameter, with what the fresh memory of the object holds where a part was never set.

A destroy function joins as many threads as were asked for (`joinedThreads_destroy`), so a clean-up
after a failed creation never joins the threads that exist and no others. `unwindsExactly_iff` says
which failures are cleaned up: only those of the data record of a line without stages.
-/

set_option autoImplicit false
set_option relaxedAutoImplicit false

namespace Bme680.Threads

open Concurrency

/-! ### Parts and outcomes -/

/-- What the functions allocate, and the threads: the object, its array of handles or stages, the
barrier, the event pair, the philosophers with their forks, and the data record. `stage` is the
address of a stage inside the array. -/
inductive Part
  | object
  | array
  | barrier
  | eventPair
  | philosophers
  | forks
  | data
  | stage (index : ℕ)
  | thread (index : ℕ)
  deriving DecidableEq, Repr

/-- The address of a stage; that of the first is the address of the array. -/
def Part.ofStage : ℕ → Part
  | 0 => .array
  | index + 1 => .stage (index + 1)

/-- The outcomes of the calls: which parts can be allocated, which threads can be created, whether
every fork was initialized, whether the timed lock was taken, which cancelled stages run
`stage_cleanup`; and which pointers of the fresh object are not null. -/
structure CallOutcomes where
  allocated : Part → Bool
  created : ℕ → Bool
  forksInitialized : Bool
  locked : Bool
  cleansUp : ℕ → Bool
  fresh : Part → Bool

/-- What a function does with the parts. -/
abbrev PartActions := List (ResourceAction Part)

/-! ### Shared parts -/

/-- `barrier_init`: whether the pointer to the barrier is not null after it, and what it does. -/
def barrierInit (outcomes : CallOutcomes) (total : ℕ) : Bool × PartActions :=
  if total = 0 then (outcomes.fresh .barrier, [])
  else if outcomes.allocated .barrier then (true, [.create .barrier])
  else (false, [])

/-- `barrier_destroy` of a pointer that is null or not. -/
def barrierDestroy (barrier : Bool) : PartActions :=
  if barrier then [.use .barrier, .release .barrier] else []

/-- `event_pair_init`. -/
def eventPairInit (outcomes : CallOutcomes) : Bool × PartActions :=
  if outcomes.allocated .eventPair then (true, [.create .eventPair]) else (false, [])

/-- `event_pair_destroy`, which makes no test of the pointer before it uses it. -/
def eventPairDestroy (eventPair : Bool) : PartActions :=
  .use .eventPair :: if eventPair then [.release .eventPair] else []

/-- `dining_philosophers_init`, which leaves the pointer set where its forks fail. -/
def diningPhilosophersInit (outcomes : CallOutcomes) (numPhilosophers : ℕ) : Bool × PartActions :=
  if numPhilosophers = 0 then (outcomes.fresh .philosophers, [])
  else if !outcomes.allocated .philosophers then (false, [])
  else if !outcomes.allocated .forks then
    (true, [.create .philosophers, .release .philosophers])
  else if !outcomes.forksInitialized then
    (true, [.create .philosophers, .create .forks, .release .forks, .release .philosophers])
  else (true, [.create .philosophers, .create .forks])

/-- `dining_philosophers_destroy` of a pointer that is null or not. -/
def diningPhilosophersDestroy (philosophers : Bool) : PartActions :=
  if philosophers then [.use .philosophers, .use .forks, .release .forks, .release .philosophers]
  else []

/-- The loop that creates the threads: the threads it created, and the index at which it failed. -/
def createThreads (created : ℕ → Bool) : (remaining index : ℕ) → PartActions × Option ℕ
  | 0, _ => ([], none)
  | remaining + 1, index =>
    if created index then
      let rest := createThreads created remaining (index + 1)
      (.create (.thread index) :: rest.1, rest.2)
    else ([], some index)

/-- Joining the thread of a handle of the array. -/
def joinThread (index : ℕ) : PartActions :=
  [.use .array, .release (.thread index)]

/-! ### Thread pool -/

/-- `thread_pool_destroy`, with no task queued. -/
def threadPoolDestroy (numThreads : ℕ) (barrier eventPair : Bool) : PartActions :=
  (List.range numThreads).flatMap joinThread ++
    barrierDestroy barrier ++ eventPairDestroy eventPair ++ [.release .array, .release .object]

/-- `thread_pool_init`: the code it returns and what it does. -/
def threadPoolInit (outcomes : CallOutcomes) (numThreads : ℕ) : ℤ × PartActions :=
  if !outcomes.allocated .object then (-ENOMEM, [])
  else if !outcomes.allocated .array then (-ENOMEM, [.create .object, .release .object])
  else
    let barrier := barrierInit outcomes (numThreads + 1)
    let eventPair := eventPairInit outcomes
    let threads := createThreads outcomes.created numThreads 0
    let actions := [.create .object, .create .array] ++ barrier.2 ++ eventPair.2 ++ threads.1
    match threads.2 with
    | some _ => (-1, actions ++ threadPoolDestroy numThreads barrier.1 eventPair.1)
    | none => (0, actions)

/-! ### Fork handler -/

/-- `fork_handler_destroy`. -/
def forkHandlerDestroy (numThreads : ℕ) : PartActions :=
  (List.range numThreads).flatMap joinThread ++ [.release .array, .release .object]

/-- `fork_handler_init`. -/
def forkHandlerInit (outcomes : CallOutcomes) (numThreads : ℕ) : ℤ × PartActions :=
  if !outcomes.allocated .object then (-ENOMEM, [])
  else if !outcomes.allocated .array then (-ENOMEM, [.create .object, .release .object])
  else
    let threads := createThreads outcomes.created numThreads 0
    let actions := [.create .object, .create .array] ++ threads.1
    match threads.2 with
    | some _ => (-1, actions ++ forkHandlerDestroy numThreads)
    | none => (0, actions)

/-! ### Assembly line -/

/-- The body of the loop of `assembly_line_destroy`. A stage that is cancelled in its own loop frees
its address. -/
def cancelStage (outcomes : CallOutcomes) (index : ℕ) : PartActions :=
  [.use .array, .use (.thread index)] ++
    (if outcomes.cleansUp index then [.release (Part.ofStage index)] else []) ++
    [.release (.thread index)]

/-- `assembly_line_destroy`. -/
def assemblyLineDestroy (outcomes : CallOutcomes) (numStages : ℕ)
    (barrier philosophers data : Bool) : PartActions :=
  if !outcomes.locked then []
  else
    (List.range numStages).flatMap (cancelStage outcomes) ++
      (if data then [.release .data] else []) ++ barrierDestroy barrier ++
      diningPhilosophersDestroy philosophers ++ [.release .array, .release .object]

/-- `assembly_line_init`. -/
def assemblyLineInit (outcomes : CallOutcomes) (numStages : ℕ) : ℤ × PartActions :=
  if !outcomes.allocated .object then (-ENOMEM, [])
  else if !outcomes.allocated .array then (-ENOMEM, [.create .object, .release .object])
  else
    let barrier := barrierInit outcomes numStages
    let philosophers := diningPhilosophersInit outcomes numStages
    let parts := [.create .object, .create .array] ++ barrier.2 ++ philosophers.2
    if !outcomes.allocated .data then
      (-ENOMEM, parts ++ assemblyLineDestroy outcomes numStages barrier.1 philosophers.1 false)
    else
      let threads := createThreads outcomes.created numStages 0
      let actions := parts ++ [.create .data] ++ threads.1
      match threads.2 with
      | some _ =>
        (-1, actions ++ assemblyLineDestroy outcomes numStages barrier.1 philosophers.1 true)
      | none => (0, actions)

/-! ### Failures and clean-up -/

/-- The three functions. -/
inductive InitFunction
  | threadPool
  | forkHandler
  | assemblyLine
  deriving DecidableEq, Repr

/-- A call with a number of threads. -/
def InitFunction.run (outcomes : CallOutcomes) (numThreads : ℕ) : InitFunction → ℤ × PartActions
  | .threadPool => threadPoolInit outcomes numThreads
  | .forkHandler => forkHandlerInit outcomes numThreads
  | .assemblyLine => assemblyLineInit outcomes numThreads

/-- The call gets as far as the creation of its threads, and that of the thread with the index is
the first that fails. -/
structure InitFunction.FailsToCreate (init : InitFunction) (outcomes : CallOutcomes)
    (numThreads index : ℕ) : Prop where
  object : outcomes.allocated .object = true
  array : outcomes.allocated .array = true
  data : init = .assemblyLine → outcomes.allocated .data = true
  requested : index < numThreads
  created : ∀ earlier < index, outcomes.created earlier = true
  failed : outcomes.created index = false

/-- The call is one of `assembly_line_init` that fails to allocate the data record. -/
structure InitFunction.FailsToAllocate (init : InitFunction) (outcomes : CallOutcomes) : Prop where
  line : init = .assemblyLine
  object : outcomes.allocated .object = true
  array : outcomes.allocated .array = true
  failed : outcomes.allocated .data = false

/-- The threads joined, in order. -/
def joinedThreads (actions : PartActions) : List ℕ :=
  actions.filterMap fun
    | .release (.thread index) => some index
    | _ => none

/-- The threads cancelled, in order. -/
def cancelledThreads (actions : PartActions) : List ℕ :=
  actions.filterMap fun
    | .use (.thread index) => some index
    | _ => none

/-- What a call that fails with a number of threads created is to do: it returns an error, joins
those threads, cancels them where they are stages, uses and releases nothing that is not there, and
releases everything it allocated. -/
structure InitFunction.UnwindsExactly (init : InitFunction) (outcomes : CallOutcomes)
    (numThreads created : ℕ) : Prop where
  error : (init.run outcomes numThreads).1 < 0
  joined : joinedThreads (init.run outcomes numThreads).2 = List.range created
  cancelled : cancelledThreads (init.run outcomes numThreads).2 =
    if init = .assemblyLine then List.range created else []
  sound : (ResourceLedger.empty.perform (init.run outcomes numThreads).2).Sound
  settled : (ResourceLedger.empty.perform (init.run outcomes numThreads).2).Settled

/-! ### The shared parts -/

/-- The part is one that the threads share. -/
def Part.isShared : Part → Bool
  | .barrier | .eventPair | .philosophers | .forks | .data => true
  | .object | .array | .stage _ | .thread _ => false

/-- Every action is on a part that the threads share. -/
def ActsOnShared (actions : PartActions) : Prop :=
  ∀ action ∈ actions, action.resource.isShared = true

theorem barrierInit_shared (outcomes : CallOutcomes) (total : ℕ) :
    ActsOnShared (barrierInit outcomes total).2 := by
  unfold barrierInit
  split_ifs <;> simp [ActsOnShared, ResourceAction.resource, Part.isShared]

theorem barrierDestroy_shared (barrier : Bool) : ActsOnShared (barrierDestroy barrier) := by
  unfold barrierDestroy
  split_ifs <;> simp [ActsOnShared, ResourceAction.resource, Part.isShared]

theorem eventPairInit_shared (outcomes : CallOutcomes) :
    ActsOnShared (eventPairInit outcomes).2 := by
  unfold eventPairInit
  split_ifs <;> simp [ActsOnShared, ResourceAction.resource, Part.isShared]

theorem eventPairDestroy_shared (eventPair : Bool) : ActsOnShared (eventPairDestroy eventPair) := by
  unfold eventPairDestroy
  split_ifs <;> simp [ActsOnShared, ResourceAction.resource, Part.isShared]

theorem diningPhilosophersInit_shared (outcomes : CallOutcomes) (numPhilosophers : ℕ) :
    ActsOnShared (diningPhilosophersInit outcomes numPhilosophers).2 := by
  unfold diningPhilosophersInit
  split_ifs <;> simp [ActsOnShared, ResourceAction.resource, Part.isShared]

theorem diningPhilosophersDestroy_shared (philosophers : Bool) :
    ActsOnShared (diningPhilosophersDestroy philosophers) := by
  unfold diningPhilosophersDestroy
  split_ifs <;> simp [ActsOnShared, ResourceAction.resource, Part.isShared]

/-! ### The threads a clean-up joins -/

theorem joinedThreads_append (first second : PartActions) :
    joinedThreads (first ++ second) = joinedThreads first ++ joinedThreads second :=
  List.filterMap_append

/-- Acting on shared parts joins no thread. -/
theorem ActsOnShared.joinedThreads {actions : PartActions} (hshared : ActsOnShared actions) :
    joinedThreads actions = [] := by
  refine List.filterMap_eq_nil_iff.mpr fun action hmem ↦ ?_
  have hpart := hshared action hmem
  split
  · simp [ResourceAction.resource, Part.isShared] at hpart
  · rfl

theorem joinedThreads_frees : joinedThreads [.release .array, .release .object] = [] := rfl

/-- Creating threads joins none. -/
theorem joinedThreads_createThreads (created : ℕ → Bool) (remaining index : ℕ) :
    joinedThreads (createThreads created remaining index).1 = [] := by
  induction remaining generalizing index with
  | zero => rfl
  | succ remaining ih =>
    unfold createThreads
    split_ifs
    · exact ih (index + 1)
    · rfl

/-- A loop each of whose iterations joins the thread with its index joins them all in order. -/
theorem joinedThreads_flatMap {body : ℕ → PartActions}
    (hbody : ∀ index, joinedThreads (body index) = [index]) (numThreads : ℕ) :
    joinedThreads ((List.range numThreads).flatMap body) = List.range numThreads := by
  induction numThreads with
  | zero => rfl
  | succ numThreads ih =>
    rw [List.range_succ, List.flatMap_append, joinedThreads_append, ih, List.flatMap_singleton,
      hbody]

theorem joinedThreads_cancelStage (outcomes : CallOutcomes) (index : ℕ) :
    joinedThreads (cancelStage outcomes index) = [index] := by
  unfold cancelStage
  cases index <;> split_ifs <;> rfl

/-- `thread_pool_destroy` joins as many threads as were asked for. -/
theorem joinedThreads_threadPoolDestroy (numThreads : ℕ) (barrier eventPair : Bool) :
    joinedThreads (threadPoolDestroy numThreads barrier eventPair) = List.range numThreads := by
  unfold threadPoolDestroy
  rw [joinedThreads_append, joinedThreads_append, joinedThreads_append,
    joinedThreads_flatMap (fun _ ↦ rfl), (barrierDestroy_shared barrier).joinedThreads,
    (eventPairDestroy_shared eventPair).joinedThreads, joinedThreads_frees]
  simp only [List.append_nil]

/-- `fork_handler_destroy` joins as many threads as were asked for. -/
theorem joinedThreads_forkHandlerDestroy (numThreads : ℕ) :
    joinedThreads (forkHandlerDestroy numThreads) = List.range numThreads := by
  unfold forkHandlerDestroy
  rw [joinedThreads_append, joinedThreads_flatMap (fun _ ↦ rfl), joinedThreads_frees,
    List.append_nil]

/-- `assembly_line_destroy` joins as many stages as were asked for, where it takes its lock. -/
theorem joinedThreads_assemblyLineDestroy {outcomes : CallOutcomes}
    (hlocked : outcomes.locked = true) (numStages : ℕ) (barrier philosophers data : Bool) :
    joinedThreads (assemblyLineDestroy outcomes numStages barrier philosophers data) =
      List.range numStages := by
  have hdata : joinedThreads (if data then [.release .data] else []) = [] := by
    split_ifs <;> rfl
  unfold assemblyLineDestroy
  rw [hlocked, Bool.not_true, if_neg Bool.false_ne_true, joinedThreads_append,
    joinedThreads_append, joinedThreads_append, joinedThreads_append,
    joinedThreads_flatMap (joinedThreads_cancelStage outcomes), hdata,
    (barrierDestroy_shared barrier).joinedThreads,
    (diningPhilosophersDestroy_shared philosophers).joinedThreads, joinedThreads_frees]
  simp only [List.append_nil]

/-! ### The loop that creates the threads -/

/-- The loop stops at the first thread that cannot be created. -/
theorem createThreads_failed {created : ℕ → Bool} {failing : ℕ}
    (hcreated : ∀ earlier < failing, created earlier = true) (hfailed : created failing = false)
    (remaining index : ℕ) (hfrom : index ≤ failing) (hwithin : failing < index + remaining) :
    (createThreads created remaining index).2 = some failing := by
  induction remaining generalizing index with
  | zero => omega
  | succ remaining ih =>
    unfold createThreads
    rcases Nat.eq_or_lt_of_le hfrom with heq | hlt
    · rw [heq, hfailed, if_neg Bool.false_ne_true]
    · rw [if_pos (hcreated index hlt)]
      exact ih (index + 1) hlt (by omega)

/-- The loop neither allocates nor frees the object. -/
theorem count_object_createThreads (created : ℕ → Bool) (remaining index : ℕ) :
    (createThreads created remaining index).1.count (.release .object) = 0 := by
  induction remaining generalizing index with
  | zero => rfl
  | succ remaining ih =>
    unfold createThreads
    split_ifs
    · rw [List.count_cons_of_ne (by simp), ih (index + 1)]
    · rfl

/-! ### Failing calls -/

variable {init : InitFunction} {outcomes : CallOutcomes} {numThreads index : ℕ}

theorem InitFunction.FailsToCreate.createThreads
    (hfails : init.FailsToCreate outcomes numThreads index) :
    (createThreads outcomes.created numThreads 0).2 = some index :=
  createThreads_failed hfails.created hfails.failed numThreads 0 (Nat.zero_le index)
    (by simpa using hfails.requested)

/-- After a thread could not be created, as many threads are joined as were asked for. -/
theorem InitFunction.FailsToCreate.joinedThreads
    (hfails : init.FailsToCreate outcomes numThreads index)
    (hlocked : init = .assemblyLine → outcomes.locked = true) :
    joinedThreads (init.run outcomes numThreads).2 = List.range numThreads := by
  have hthreads := hfails.createThreads
  cases init with
  | threadPool =>
    simp only [InitFunction.run, threadPoolInit, hfails.object, hfails.array, hthreads,
      Bool.not_true, Bool.false_eq_true, if_false, joinedThreads_append,
      joinedThreads_threadPoolDestroy, joinedThreads_createThreads,
      (barrierInit_shared outcomes _).joinedThreads, (eventPairInit_shared outcomes).joinedThreads]
    rfl
  | forkHandler =>
    simp only [InitFunction.run, forkHandlerInit, hfails.object, hfails.array, hthreads,
      Bool.not_true, Bool.false_eq_true, if_false, joinedThreads_append,
      joinedThreads_forkHandlerDestroy, joinedThreads_createThreads]
    rfl
  | assemblyLine =>
    simp only [InitFunction.run, assemblyLineInit, hfails.object, hfails.array, hfails.data rfl,
      hthreads, Bool.not_true, Bool.false_eq_true, if_false, joinedThreads_append,
      joinedThreads_assemblyLineDestroy (hlocked rfl), joinedThreads_createThreads,
      (barrierInit_shared outcomes _).joinedThreads,
      (diningPhilosophersInit_shared outcomes _).joinedThreads]
    rfl

/-- After the data record could not be allocated, as many stages are joined as were asked for. -/
theorem InitFunction.FailsToAllocate.joinedThreads (hfails : init.FailsToAllocate outcomes)
    (hlocked : outcomes.locked = true) (numThreads : ℕ) :
    joinedThreads (init.run outcomes numThreads).2 = List.range numThreads := by
  obtain ⟨rfl, hobject, harray, hdata⟩ := hfails
  simp only [InitFunction.run, assemblyLineInit, hobject, harray, hdata, Bool.not_true,
    Bool.not_false, Bool.false_eq_true, if_true, if_false, joinedThreads_append,
    joinedThreads_assemblyLineDestroy hlocked, (barrierInit_shared outcomes _).joinedThreads,
    (diningPhilosophersInit_shared outcomes _).joinedThreads]
  rfl

/-- Acting on shared parts does not free the object. -/
theorem ActsOnShared.count_object {actions : PartActions} (hshared : ActsOnShared actions) :
    actions.count (.release .object) = 0 := by
  refine List.count_eq_zero.mpr fun hmem ↦ ?_
  exact absurd (hshared _ hmem) Bool.false_ne_true

/-- Where `assembly_line_destroy` does not take its lock, the line is not freed. -/
theorem InitFunction.not_settled_of_not_locked (hlocked : outcomes.locked = false)
    (hfails : InitFunction.assemblyLine.FailsToCreate outcomes numThreads index ∨
      InitFunction.assemblyLine.FailsToAllocate outcomes) :
    ¬ (ResourceLedger.empty.perform
      (InitFunction.assemblyLine.run outcomes numThreads).2).Settled := by
  rw [ResourceLedger.settled_perform_iff]
  intro hsettled
  have hobject := hsettled .object
  rcases hfails with hfails | ⟨-, hfresh, harray, hdata⟩
  · have hthreads := hfails.createThreads
    simp [InitFunction.run, assemblyLineInit, hfails.object, hfails.array, hfails.data rfl,
      hthreads, assemblyLineDestroy, hlocked, (barrierInit_shared outcomes _).count_object,
      (diningPhilosophersInit_shared outcomes _).count_object,
      count_object_createThreads] at hobject
  · simp [InitFunction.run, assemblyLineInit, hfresh, harray, hdata, assemblyLineDestroy, hlocked,
      (barrierInit_shared outcomes _).count_object,
      (diningPhilosophersInit_shared outcomes _).count_object] at hobject

/-- A line without stages whose data record cannot be allocated. -/
theorem InitFunction.FailsToAllocate.run_zero (hfails : init.FailsToAllocate outcomes)
    (hlocked : outcomes.locked = true) :
    init.run outcomes 0 =
      (-(ENOMEM : ℤ), [.create .object, .create .array] ++
        barrierDestroy (outcomes.fresh .barrier) ++
        diningPhilosophersDestroy (outcomes.fresh .philosophers) ++
        [.release .array, .release .object]) := by
  obtain ⟨rfl, hobject, harray, hdata⟩ := hfails
  simp [InitFunction.run, assemblyLineInit, hobject, harray, hdata, assemblyLineDestroy, hlocked,
    barrierInit, diningPhilosophersInit]

/-- The clean-up after a failure is exact only for the data record of a line without stages, where
the fresh memory of the line has no pointer to a barrier or to philosophers. -/
theorem unwindsExactly_iff (init : InitFunction) (outcomes : CallOutcomes) (numThreads created : ℕ)
    (hfails : init.FailsToCreate outcomes numThreads created ∨
      init.FailsToAllocate outcomes ∧ created = 0) :
    init.UnwindsExactly outcomes numThreads created ↔
      init.FailsToAllocate outcomes ∧ numThreads = 0 ∧ outcomes.locked = true ∧
        outcomes.fresh .barrier = false ∧ outcomes.fresh .philosophers = false := by
  constructor
  · intro hexact
    have hlocked : init = .assemblyLine → outcomes.locked = true := by
      rintro rfl
      by_contra hnot
      have hleft := InitFunction.not_settled_of_not_locked (Bool.eq_false_iff.mpr hnot)
        (hfails.imp_right And.left)
      exact hleft hexact.settled
    rcases hfails with hfails | ⟨hfails, rfl⟩
    · have hcount := hexact.joined
      rw [hfails.joinedThreads hlocked] at hcount
      have hall : numThreads = created := by simpa using congrArg List.length hcount
      exact absurd hfails.requested (by omega)
    · have hcount := hexact.joined
      rw [hfails.joinedThreads (hlocked hfails.line)] at hcount
      obtain rfl : numThreads = 0 := by simpa using congrArg List.length hcount
      have huses := hexact.sound.2
      rw [hfails.run_zero (hlocked hfails.line)] at huses
      refine ⟨hfails, rfl, hlocked hfails.line, ?_⟩
      generalize outcomes.fresh .barrier = barrier at huses
      generalize outcomes.fresh .philosophers = philosophers at huses
      revert huses
      decide +revert
  · rintro ⟨hfailed, rfl, hlocked, hbarrier, hphilosophers⟩
    have hnone : created = 0 := by
      rcases hfails with hfails | ⟨-, hnone⟩
      · exact absurd hfails.requested (Nat.not_lt_zero created)
      · exact hnone
    have hrun : init.run outcomes 0 = (-(ENOMEM : ℤ),
        [.create .object, .create .array, .release .array, .release .object]) := by
      rw [hfailed.run_zero hlocked, hbarrier, hphilosophers]
      rfl
    have hsettled : (ResourceLedger.empty.perform (init.run outcomes 0).2).Settled := by
      rw [hrun, ResourceLedger.settled_perform_iff]
      intro part
      cases part <;> rfl
    have huses : (ResourceLedger.empty.perform (init.run outcomes 0).2).strayUses = 0 := by
      rw [hrun]
      rfl
    refine ⟨?_, ?_, ?_, hsettled.sound huses, hsettled⟩
    · rw [hrun]
      decide
    · rw [hrun, hnone]
      rfl
    · rw [hrun, hnone, List.range_zero, ite_self]
      rfl

/-- The outcomes where everything succeeds but the creation of the thread with an index. -/
def onlyCreationFails (index : ℕ) : CallOutcomes where
  allocated := fun _ ↦ true
  created := fun other ↦ other != index
  forksInitialized := true
  locked := true
  cleansUp := fun _ ↦ false
  fresh := fun _ ↦ false

theorem onlyCreationFails_failsToCreate (init : InitFunction) {numThreads index : ℕ}
    (hrequested : index < numThreads) :
    init.FailsToCreate (onlyCreationFails index) numThreads index where
  object := rfl
  array := rfl
  data := fun _ ↦ rfl
  requested := hrequested
  created := fun _ hearlier ↦ bne_iff_ne.mpr hearlier.ne
  failed := bne_self_eq_false index

/-- A pool of two threads of which the second cannot be created, and a line without stages whose
data record cannot be allocated. -/
theorem unwindsExactly_iff_two_failures :
    (¬ InitFunction.threadPool.UnwindsExactly (onlyCreationFails 1) 2 1) ∧
      InitFunction.assemblyLine.UnwindsExactly
        { onlyCreationFails 0 with allocated := fun part ↦ part != .data } 0 0 := by
  have hcreation := onlyCreationFails_failsToCreate .threadPool Nat.one_lt_two
  have hallocation : InitFunction.assemblyLine.FailsToAllocate
      { onlyCreationFails 0 with allocated := fun part ↦ part != .data } := ⟨rfl, rfl, rfl, rfl⟩
  constructor
  · intro hexact
    have hzero := ((unwindsExactly_iff _ _ 2 1 (.inl hcreation)).mp hexact).2.1
    exact absurd hzero (by decide)
  · exact (unwindsExactly_iff _ _ 0 0 (.inr ⟨hallocation, rfl⟩)).mpr
      ⟨hallocation, rfl, rfl, rfl, rfl⟩

/-- None of the functions cleans up after the second of two threads could not be created: each
joins both. -/
theorem second_creation_joins_both :
    ¬ ∃ init : InitFunction, init.UnwindsExactly (onlyCreationFails 1) 2 1 := by
  rintro ⟨init, hexact⟩
  have hfails := onlyCreationFails_failsToCreate init Nat.one_lt_two
  have hcount := hexact.joined
  rw [hfails.joinedThreads (fun _ ↦ rfl)] at hcount
  exact absurd hcount (by decide)

end Bme680.Threads
