import Bme680.Philosophers.AssemblyLine

/-!
# Shutting down the assembly line

`assembly_line_destroy` goes through the stages one by one: it clears the `running` flag of a
stage, cancels its thread and joins it. A cancelled thread acts on its cancellation at its next
cancellation point, runs `stage_cleanup` and ends with the locks it holds there; the cleanup
releases none. Asleep in `pthread_cond_wait` it first takes the mutex of the barrier back. The
writes of a debug message are cancellation points too, and two of the messages are logged with
locks held: that of `barrier_wait` under its mutex, and that of `dining_philosophers_eat` with both
forks. Where the writes go to the log file they are made under the mutex of the logger, which
`stage_cleanup` locks in its turn: a thread that acts on its cancellation there waits for itself.
Without a log file the message goes to the standard error, behind the unlock. Where the debug
messages go is a parameter.

The system puts the cancellation, the messages, the mutexes of the barrier and the logger and the
loop of `assembly_line_destroy` around the stages of the assembly line. The memory of the stages is
left out, with the `free` at the end of `stage_cleanup`.

`lineInvariant_reachable` says that no stage ends with a lock, and none has the logger's, while
`CancelsSafely` holds at every step. The steps without it are those that `LineJoins` follows on to
a stage that does.
-/

set_option autoImplicit false
set_option relaxedAutoImplicit false

namespace Bme680.Philosophers

open Concurrency Barriers

variable {n : ℕ}

/-! ### The system -/

/-- Where `assembly_line_destroy` is: not called yet, about to clear the flag of a stage, to cancel
its thread or to join it, or behind its loop. -/
inductive DestroyPhase (n : ℕ)
  | notCalled
  | clears (id : Fin n)
  | cancels (id : Fin n)
  | joins (id : Fin n)
  | joined
  deriving DecidableEq

/-- The head of the loop of `assembly_line_destroy` with a value of its counter. -/
def DestroyPhase.loop (index : ℕ) : DestroyPhase n :=
  if hindex : index < n then .clears ⟨index, hindex⟩ else .joined

/-- Where the debug messages of the stages go: nowhere, since the level of the logger is higher, to
the log file, or to the standard error, where no log file is open. -/
inductive DebugMessages
  | dropped
  | toLogFile
  | toStderr
  deriving DecidableEq

/-- Where a thread acts on its cancellation in a message: not at all, in a write to the log file, or
in a write to the standard error. -/
inductive CancelPoint
  | nowhere
  | logFile
  | stderr
  deriving DecidableEq

/-- The assembly line, the stages that hold the mutex of the barrier or of the logger between two
steps, the stages with a debug message to log, those cancelled, those that acted on it, those of
these behind their `stage_cleanup`, and the place of `assembly_line_destroy`. A stage that acted on
its cancellation stays where it was. -/
structure LineState (n : ℕ) where
  line : AssemblyState n
  barrierMutex : Option (Fin n)
  loggerMutex : Option (Fin n)
  logging : Fin n → Bool
  cancelled : Fin n → Bool
  acted : Fin n → Bool
  ended : Fin n → Bool
  destroyer : DestroyPhase n

/-- The thread of a stage has ended, behind its cleanup or behind its loop. -/
def LineState.Gone (state : LineState n) (id : Fin n) : Prop :=
  state.ended id = true ∨ state.line.positions id = .finished

instance (state : LineState n) (id : Fin n) : Decidable (state.Gone id) :=
  inferInstanceAs (Decidable (_ ∨ _))

/-- The next statement of a stage takes the mutex of the barrier. -/
def StagePosition.TakesBarrier (position : StagePosition) : Prop :=
  position = .entering ∨ position = .awake

instance : DecidablePred StagePosition.TakesBarrier :=
  fun _ ↦ inferInstanceAs (Decidable (_ ∨ _))

/-- The move of a stage is followed by a debug message. -/
def stageLogs : StagePosition → StagePosition → Bool
  | .entering, .dining .thinking => true
  | .dining .thinking, .reading => true
  | .dining .lockingSecond, .dining .eating => true
  | .dining .unlockingNext, .loopHead => true
  | _, _ => false

/-- The stage has a debug message to log at a position where it holds locks: the mutex of the
barrier, or its forks. -/
def StagePosition.LogsWithLocks (position : StagePosition) : Prop :=
  position = .dining .thinking ∨ position = .dining .eating

/-- The state after a stage has moved. The mutex of the barrier stays with a stage that has a
message to log before it releases it. -/
def LineState.moved (state : LineState n) (id : Fin n) (line : AssemblyState n) : LineState n :=
  let logs := stageLogs (state.line.positions id) (line.positions id)
  { state with
    line := line
    barrierMutex :=
      if state.line.positions id = .entering ∧ logs = true then some id else state.barrierMutex
    logging := Function.update state.logging id logs }

/-- The state after a stage has logged its message, and released the mutex of the barrier where the
message was that of the barrier. -/
def LineState.logged (state : LineState n) (id : Fin n) : LineState n :=
  { state with
    barrierMutex := if state.barrierMutex = some id then none else state.barrierMutex
    logging := Function.update state.logging id false }

/-- The state after a stage has acted on its cancellation. -/
def LineState.acts (state : LineState n) (id : Fin n) : LineState n :=
  { state with acted := Function.update state.acted id true }

/-- The next statement of a stage that has not acted on a cancellation and has no message to log. -/
def LineState.stageNext (state : LineState n) (id : Fin n) : Option (LineState n) :=
  if state.acted id = true ∨ state.logging id = true ∨
      ((state.line.positions id).TakesBarrier ∧ state.barrierMutex ≠ none) then none
  else (stageThreadNext state.line id).map (state.moved id)

/-- The next statement of `assembly_line_destroy`. -/
def assemblyLineDestroy (state : LineState n) : Option (LineState n) :=
  match state.destroyer with
  | .notCalled => some { state with destroyer := .loop 0 }
  | .clears id =>
    let running := Function.update state.line.running id false
    some { state with line := { state.line with running := running }, destroyer := .cancels id }
  | .cancels id =>
    some
      { state with
        cancelled := Function.update state.cancelled id true
        destroyer := .joins id }
  | .joins id =>
    if state.Gone id then some { state with destroyer := .loop (id + 1) } else none
  | .joined => none

/-- The steps of the stages: a statement, a spurious wake-up, a debug message with the place in it
where a cancellation is acted on, a cancelled stage acting asleep at the barrier, and the cleanup of
a stage that acted; and those of `assembly_line_destroy`. -/
inductive LineLabel (n : ℕ)
  | stage (id : Fin n)
  | spurious (id : Fin n)
  | log (id : Fin n) (point : CancelPoint)
  | cancelWaiter (id : Fin n)
  | cleanup (id : Fin n)
  | destroy
  deriving DecidableEq

/-- A debug message of a stage. It takes the mutex of the logger, with which a write to the log file
acts on a cancellation and a write to the standard error does not. -/
def LineState.logNext (state : LineState n) (messages : DebugMessages) (id : Fin n)
    (point : CancelPoint) : Option (LineState n) :=
  if state.acted id = true ∨ state.logging id = false ∨
      (messages ≠ .dropped ∧ state.loggerMutex ≠ none) then none
  else
    match point with
    | .nowhere => some (state.logged id)
    | .logFile =>
      if messages = .toLogFile ∧ state.cancelled id = true then
        some { state.acts id with loggerMutex := some id }
      else none
    | .stderr =>
      -- also where a write to the log file failed
      if messages ≠ .dropped ∧ state.cancelled id = true then some (state.acts id) else none

/-- One step, given where the debug messages go. -/
def lineNext (messages : DebugMessages) (state : LineState n) : LineLabel n → Option (LineState n)
  | .stage id => state.stageNext id
  | .spurious id =>
    if state.acted id = true then none
    else (assemblyNext state.line (.spurious id)).map fun line ↦ { state with line := line }
  | .log id point => state.logNext messages id point
  | .cancelWaiter id =>
    if state.acted id = false ∧ state.cancelled id = true ∧
        (state.line.positions id).Asleep ∧ state.barrierMutex = none then
      some { state.acts id with barrierMutex := some id }
    else none
  | .cleanup id =>
    -- `stage_cleanup` logs its message with the mutex of the logger
    if state.acted id = true ∧ state.ended id = false ∧ state.loggerMutex = none then
      some { state with ended := Function.update state.ended id true }
    else none
  | .destroy => assemblyLineDestroy state

/-- An assembly line with its stages running and `assembly_line_destroy` not called. -/
def lineSystem (n : ℕ) (messages : DebugMessages) :
    TransitionSystem (LineState n) (LineLabel n) where
  initial state :=
    (assemblySystem n).initial state.line ∧ state.barrierMutex = none ∧ state.loggerMutex = none ∧
      (∀ id, state.logging id = false ∧ state.cancelled id = false ∧ state.acted id = false ∧
        state.ended id = false) ∧
      state.destroyer = .notCalled
  next := lineNext messages

/-- No stage that has ended holds the mutex of the barrier or a fork. -/
def NoDeadHolder (state : LineState n) : Prop :=
  ∀ id, state.Gone id → state.barrierMutex ≠ some id ∧
    ∀ fork, ¬ HoldsFork state.line.tableState id fork

/-- A stage may be cancelled without meeting its cancellation with a lock: it is not asleep at the
barrier; its debug messages, where they go to the log file, are behind it, so that it is at the test
of its loop, and where they go to the standard error, it has none to log with locks held. -/
def LineState.MayCancel (state : LineState n) (id : Fin n) : DebugMessages → Prop
  | .dropped => ¬ (state.line.positions id).Asleep
  | .toLogFile => state.line.positions id = .loopHead ∧ state.logging id = false
  | .toStderr => ¬ (state.line.positions id).Asleep ∧
      (state.logging id = true → ¬ (state.line.positions id).LogsWithLocks)

/-- A stage that has not acted on a cancellation and has not left its loop. -/
def LineState.Live (state : LineState n) (id : Fin n) : Prop :=
  state.acted id = false ∧ state.line.positions id ≠ .finished

/-- A live stage is cancelled only where it may be, and one that was cancelled does not go to sleep
at the barrier and, where debug messages go to the standard error, does not come to one that it logs
with locks held. -/
def CancelsSafely (messages : DebugMessages) (state : LineState n) : LineLabel n → Prop
  | .stage id => state.cancelled id = true →
      (state.line.positions id = .entering →
        state.line.barrier.total ≤ state.line.barrier.count + 1 ∧ messages ≠ .toStderr) ∧
      (state.line.positions id = .dining .lockingSecond → messages ≠ .toStderr)
  | .destroy => ∀ id, state.destroyer = .cancels id → state.Live id → state.MayCancel id messages
  | _ => True

/-! ### The moves of a stage -/

/-- The position a stage moves to. -/
def StagePosition.following (line : AssemblyState n) (id : Fin n) : StagePosition → StagePosition
  | .loopHead => if line.running id then .entering else .finished
  | .entering =>
    if line.barrier.count + 1 < line.barrier.total then .asleep else .dining .thinking
  | .asleep => .asleep
  | .awake => .dining .thinking
  | .reading => .writing line.data.temp
  | .writing _ => .dining .hungry
  | .dining .thinking => .reading
  | .dining .hungry => .dining .lockingFirst
  | .dining .lockingFirst => .dining .lockingSecond
  | .dining .lockingSecond => .dining .eating
  | .dining .eating => .dining .unlockingNext
  | .dining .unlockingNext => .loopHead
  | .finished => .finished

/-- The phase a philosopher of a running table moves to. -/
theorem philosopherNext_phase {state successor : TableState n} {id : Fin n}
    (hrunning : state.table.running = true) (hnext : philosopherNext state id = some successor) :
    successor.phases id =
      match state.phases id with
      | .thinking => .hungry
      | .hungry => .lockingFirst
      | .lockingFirst => .lockingSecond
      | .lockingSecond => .eating
      | .eating => .unlockingNext
      | .unlockingNext => .thinking := by
  have hcheck := DiningPhilosophers.check_eq_zero hrunning id
  unfold philosopherNext at hnext
  cases hphase : state.phases id with
  | thinking | unlockingNext =>
    simp only [hphase] at hnext
    obtain rfl := Option.some.inj hnext
    simp [TableState.move]
  | hungry =>
    simp only [hphase, if_pos hcheck] at hnext
    obtain rfl := Option.some.inj hnext
    simp
  | eating =>
    simp only [hphase, if_pos hcheck] at hnext
    obtain rfl := Option.some.inj hnext
    simp [TableState.move]
  | lockingFirst | lockingSecond =>
    simp only [hphase] at hnext
    split_ifs at hnext
    obtain rfl := Option.some.inj hnext
    simp [TableState.move]

/-- A stage of a running table moves to the position that follows its own. -/
theorem stageThreadNext_following {state successor : AssemblyState n} {id : Fin n}
    (hrunning : state.table.running = true)
    (hnext : stageThreadNext state id = some successor) :
    successor.positions id = (state.positions id).following state id := by
  unfold stageThreadNext at hnext
  cases hposition : state.positions id with
  | loopHead | awake | reading | writing temp =>
    simp only [hposition] at hnext
    obtain rfl := Option.some.inj hnext
    simp [AssemblyState.move, StagePosition.following]
  | entering =>
    simp only [hposition] at hnext
    by_cases hmissing : state.barrier.count + 1 < state.barrier.total
    · rw [barrierWait_sleeps hmissing] at hnext
      obtain rfl := Option.some.inj hnext
      simp [AssemblyState.move, StagePosition.following, hmissing]
    · rw [barrierWait_broadcasts (not_lt.mp hmissing)] at hnext
      obtain rfl := Option.some.inj hnext
      simp [StagePosition.following, hmissing]
  | asleep | finished => simp [hposition] at hnext
  | dining phase =>
    simp only [hposition] at hnext
    obtain ⟨after, hphilosopher, rfl⟩ := Option.map_eq_some_iff.mp hnext
    have hphase := philosopherNext_phase hrunning hphilosopher
    simp only [AssemblyState.tableState, hposition, StagePosition.phase] at hphase
    simp only [AssemblyState.move, Function.update_self, hphase]
    cases phase <;> rfl

/-- A step of a stage leaves the others where they are, or wakes them at the barrier. -/
theorem stageThreadNext_other {state successor : AssemblyState n} {id other : Fin n}
    (hother : other ≠ id) (hnext : stageThreadNext state id = some successor) :
    successor.positions other = state.positions other ∨
      ((state.positions other).Asleep ∧ successor.positions other = .awake) := by
  unfold stageThreadNext at hnext
  cases hposition : state.positions id with
  | loopHead | awake | reading | writing temp =>
    simp only [hposition] at hnext
    obtain rfl := Option.some.inj hnext
    simp [AssemblyState.move, hother]
  | entering =>
    simp only [hposition] at hnext
    by_cases hmissing : state.barrier.count + 1 < state.barrier.total
    · rw [barrierWait_sleeps hmissing] at hnext
      obtain rfl := Option.some.inj hnext
      simp [AssemblyState.move, hother]
    · rw [barrierWait_broadcasts (not_lt.mp hmissing)] at hnext
      obtain rfl := Option.some.inj hnext
      simp only [Function.update_of_ne hother]
      exact (broadcast_apply _ _ _ other).imp_left And.right
  | asleep | finished => simp [hposition] at hnext
  | dining phase =>
    simp only [hposition] at hnext
    obtain ⟨after, -, rfl⟩ := Option.map_eq_some_iff.mp hnext
    simp [AssemblyState.move, hother]

/-- A step of a stage leaves the flags of the stages. -/
theorem stageThreadNext_running {state successor : AssemblyState n} {id : Fin n}
    (hnext : stageThreadNext state id = some successor) : successor.running = state.running := by
  unfold stageThreadNext at hnext
  split at hnext
  case h_2 =>
    split at hnext <;> obtain rfl := Option.some.inj hnext <;> rfl
  case h_3 | h_8 => cases hnext
  case h_7 =>
    obtain ⟨after, -, rfl⟩ := Option.map_eq_some_iff.mp hnext
    rfl
  all_goals
    obtain rfl := Option.some.inj hnext
    rfl

/-! ### The invariant -/

/-- A stage with a debug message to log is at one of four positions. -/
def StagePosition.LogsAt (position : StagePosition) : Prop :=
  position.LogsWithLocks ∨ position = .reading ∨ position = .loopHead

/-- Where a move that is followed by a message ends. -/
theorem logsAt_of_stageLogs {before after : StagePosition} (hlogs : stageLogs before after = true) :
    after.LogsAt := by
  unfold stageLogs at hlogs
  split at hlogs
  · exact .inl (.inl rfl)
  · exact .inr (.inl rfl)
  · exact .inl (.inr rfl)
  · exact .inr (.inr rfl)
  · cases hlogs

/-- The message that is logged before thinking is that of the barrier. -/
theorem entering_of_stageLogs {before : StagePosition}
    (hlogs : stageLogs before (.dining .thinking) = true) : before = .entering := by
  unfold stageLogs at hlogs
  split at hlogs <;> simp_all

/-- The message that is logged while eating is that after the second fork. -/
theorem lockingSecond_of_stageLogs {before : StagePosition}
    (hlogs : stageLogs before (.dining .eating) = true) : before = .dining .lockingSecond := by
  unfold stageLogs at hlogs
  split at hlogs <;> simp_all

/-- A stage that has a message to log is not asleep. -/
theorem StagePosition.LogsAt.not_asleep {position : StagePosition} (hlogs : position.LogsAt) :
    ¬ position.Asleep := by
  rintro rfl
  rcases hlogs with (h | h) | h | h <;> cases h

/-- Without a message to log under locks a stage holds no fork at its message. -/
theorem StagePosition.LogsAt.not_holding {position : StagePosition} (hlogs : position.LogsAt)
    (hfree : ¬ position.LogsWithLocks) (id fork : Fin n) : ¬ position.phase.Holding id fork := by
  rcases hlogs with hlocks | rfl | rfl
  · exact absurd hlocks hfree
  · exact not_false
  · exact not_false

/-- The table is seated; the mutex of the barrier is with a stage that has not acted on a
cancellation and has the message of the barrier to log, and with every such stage; a stage that
acted holds no fork, and only such a stage is behind its cleanup; the mutex of the logger is free;
and `assembly_line_destroy` has cleared the flags of the stage it cancels and of those it cancelled,
and cancelled the one it joins. -/
structure LineInvariant (state : LineState n) : Prop where
  seated : Seated state.line.tableState
  mutex : ∀ id, state.barrierMutex = some id → state.acted id = false ∧
    state.logging id = true ∧ state.line.positions id = .dining .thinking
  holder : ∀ id, state.logging id = true → state.acted id = false →
    state.line.positions id = .dining .thinking → state.barrierMutex = some id
  acted : ∀ id, state.acted id = true → ∀ fork, ¬ (state.line.positions id).phase.Holding id fork
  ended : ∀ id, state.ended id = true → state.acted id = true
  idle : state.loggerMutex = none
  logs : ∀ id, state.logging id = true → (state.line.positions id).LogsAt
  cleared : ∀ id, state.destroyer = .cancels id → state.line.running id = false
  stopped : ∀ id, state.cancelled id = true → state.line.running id = false
  joining : ∀ id, state.destroyer = .joins id → state.cancelled id = true

namespace LineInvariant

variable {state successor : LineState n}

/-- No stage that has ended holds a lock. -/
theorem noDeadHolder (hinv : LineInvariant state) : NoDeadHolder state := by
  intro id hgone
  constructor
  · intro hmutex
    obtain ⟨halive, -, hposition⟩ := hinv.mutex id hmutex
    rcases hgone with hended | hfinished
    · cases halive.symm.trans (hinv.ended id hended)
    · cases hposition.symm.trans hfinished
  · intro fork hholds
    have hholding := (hinv.seated.holds id fork).mp hholds
    rcases hgone with hended | hfinished
    · exact hinv.acted id (hinv.ended id hended) fork hholding
    · simp only [AssemblyState.tableState, hfinished] at hholding
      exact hholding

/-- The table stays seated when a stage moves. -/
theorem seated_moved (htwo : 2 ≤ n) {line line' : AssemblyState n} {id : Fin n}
    (hseated : Seated line.tableState) (hnext : stageThreadNext line id = some line') :
    Seated line'.tableState := by
  rcases tableState_next hnext with hsame | hphilosopher
  · rwa [hsame]
  · exact hseated.step htwo hphilosopher

/-- A step of a stage keeps the invariant. -/
theorem stage (htwo : 2 ≤ n) (hinv : LineInvariant state) {id : Fin n}
    (hnext : state.stageNext id = some successor) : LineInvariant successor := by
  unfold LineState.stageNext at hnext
  split_ifs at hnext with hstopped
  obtain ⟨line, hline, rfl⟩ := Option.map_eq_some_iff.mp hnext
  simp only [not_or, not_and, not_not, Bool.not_eq_true] at hstopped
  obtain ⟨halive, hquiet, hfree⟩ := hstopped
  have hseated := seated_moved htwo hinv.seated hline
  have hrunning : line.running = state.line.running := stageThreadNext_running hline
  have hother : ∀ other, other ≠ id → ¬ (state.line.positions other).Asleep →
      line.positions other = state.line.positions other := fun other hne hawake ↦
    (stageThreadNext_other hne hline).resolve_right fun hwoken ↦ hawake hwoken.1
  refine ⟨hseated, fun other hmutex ↦ ?_, fun other hlogs hlives hposition ↦ ?_,
    fun other hacted fork ↦ ?_, hinv.ended, hinv.idle, fun other hlogs ↦ ?_,
    fun other hcancels ↦ ?_, fun other hcancelled ↦ ?_, hinv.joining⟩
  · simp only [LineState.moved] at hmutex ⊢
    split_ifs at hmutex with henters
    · obtain rfl := Option.some.inj hmutex
      have hposition := logsAt_of_stageLogs henters.2
      rw [Function.update_self]
      refine ⟨halive, henters.2, ?_⟩
      have hfollows := stageThreadNext_following hinv.seated.running hline
      rw [henters.1, StagePosition.following] at hfollows
      split_ifs at hfollows with hmissing
      · rw [hfollows] at hposition
        exact absurd rfl hposition.not_asleep
      · exact hfollows
    · obtain ⟨hothers, hlogging, hposition⟩ := hinv.mutex other hmutex
      have hne : other ≠ id := by
        rintro rfl
        cases hquiet.symm.trans hlogging
      rw [Function.update_of_ne hne, hother other hne (hinv.logs other hlogging).not_asleep]
      exact ⟨hothers, hlogging, hposition⟩
  · simp only [LineState.moved] at hlogs hposition ⊢
    by_cases hne : other = id
    · subst hne
      rw [Function.update_self, hposition] at hlogs
      exact if_pos ⟨entering_of_stageLogs hlogs, by rw [hposition]; exact hlogs⟩
    · rw [Function.update_of_ne hne] at hlogs
      rw [hother other hne (hinv.logs other hlogs).not_asleep] at hposition
      have hmutex := hinv.holder other hlogs hlives hposition
      rw [if_neg]
      · exact hmutex
      · rintro ⟨henters, -⟩
        cases (hfree (.inl henters)).symm.trans hmutex
  · have hne : other ≠ id := by
      rintro rfl
      cases halive.symm.trans hacted
    simp only [LineState.moved]
    rcases stageThreadNext_other hne hline with hsame | ⟨-, hawake⟩
    · rw [hsame]
      exact hinv.acted other hacted fork
    · rw [hawake]
      exact not_false
  · simp only [LineState.moved] at hlogs ⊢
    by_cases hne : other = id
    · subst hne
      rw [Function.update_self] at hlogs
      exact logsAt_of_stageLogs hlogs
    · rw [Function.update_of_ne hne] at hlogs
      rw [hother other hne (hinv.logs other hlogs).not_asleep]
      exact hinv.logs other hlogs
  · simp only [LineState.moved, hrunning]
    exact hinv.cleared other hcancels
  · simp only [LineState.moved, hrunning]
    exact hinv.stopped other hcancelled

/-- A spurious wake-up keeps the invariant. -/
theorem spurious (hinv : LineInvariant state) {messages : DebugMessages} {id : Fin n}
    (hnext : lineNext messages state (.spurious id) = some successor) :
    LineInvariant successor := by
  simp only [lineNext, assemblyNext] at hnext
  by_cases hasleep : (state.line.positions id).Asleep
  case neg => simp [hasleep] at hnext
  rw [if_pos hasleep] at hnext
  split_ifs at hnext with hacted
  obtain rfl := Option.some.inj hnext
  have hposition : state.line.positions id = .asleep := hasleep
  have htable : (state.line.move id .awake).tableState = state.line.tableState :=
    tableState_move (by rw [hposition]; rfl)
  have hother : ∀ other, ¬ (state.line.positions other).Asleep →
      (state.line.move id .awake).positions other = state.line.positions other := by
    intro other hawake
    refine Function.update_of_ne ?_ _ _
    rintro rfl
    exact hawake hasleep
  have hlogs : ∀ other, state.logging other = true → ¬ (state.line.positions other).Asleep :=
    fun other hlogging ↦ (hinv.logs other hlogging).not_asleep
  refine ⟨by rw [htable]; exact hinv.seated, fun other hmutex ↦ ?_,
    fun other hlogging hlives hafter ↦ ?_, fun other hothers fork ↦ ?_, hinv.ended, hinv.idle,
    fun other hlogging ↦ ?_, hinv.cleared, hinv.stopped, hinv.joining⟩
  · obtain ⟨halive, hlogging, hthinking⟩ := hinv.mutex other hmutex
    exact ⟨halive, hlogging, (hother other (hlogs other hlogging)).trans hthinking⟩
  · refine hinv.holder other hlogging hlives ?_
    exact (hother other (hlogs other hlogging)).symm.trans hafter
  · have hne : other ≠ id := by
      rintro rfl
      exact hacted hothers
    simp only [AssemblyState.move, Function.update_of_ne hne]
    exact hinv.acted other hothers fork
  · show ((state.line.move id .awake).positions other).LogsAt
    rw [hother other (hlogs other hlogging)]
    exact hinv.logs other hlogging

/-- A stage that still has a message to log after one was logged is another one. -/
theorem still_logging {id other : Fin n} (hlogging : (state.logged id).logging other = true) :
    other ≠ id ∧ state.logging other = true := by
  simp only [LineState.logged] at hlogging
  have hne : other ≠ id := by
    rintro rfl
    rw [Function.update_self] at hlogging
    cases hlogging
  rw [Function.update_of_ne hne] at hlogging
  exact ⟨hne, hlogging⟩

/-- A message that is logged by a stage that goes on keeps the invariant. -/
theorem logged (hinv : LineInvariant state) (id : Fin n) : LineInvariant (state.logged id) := by
  refine ⟨hinv.seated, fun other hmutex ↦ ?_, fun other hlogging hlives hposition ↦ ?_,
    hinv.acted, hinv.ended, hinv.idle, fun other hlogging ↦ ?_, hinv.cleared, hinv.stopped,
    hinv.joining⟩
  · simp only [LineState.logged] at hmutex ⊢
    split_ifs at hmutex with hheld
    have hne : other ≠ id := by
      rintro rfl
      exact hheld hmutex
    rw [Function.update_of_ne hne]
    exact hinv.mutex other hmutex
  · obtain ⟨hne, hbefore⟩ := still_logging hlogging
    have hmutex := hinv.holder other hbefore hlives hposition
    simp only [LineState.logged]
    rw [if_neg]
    · exact hmutex
    · intro hheld
      exact hne (Option.some.inj (hmutex.symm.trans hheld))
  · exact hinv.logs other (still_logging hlogging).2

/-- A stage that acts on its cancellation in a message it logs without locks keeps the invariant. -/
theorem acts (hinv : LineInvariant state) {id : Fin n} (hlogging : state.logging id = true)
    (hfree : ¬ (state.line.positions id).LogsWithLocks) : LineInvariant (state.acts id) := by
  refine ⟨hinv.seated, fun other hmutex ↦ ?_, fun other hlogs hlives hposition ↦ ?_,
    fun other hacted ↦ ?_, fun other hended ↦ ?_, hinv.idle, hinv.logs, hinv.cleared,
    hinv.stopped, hinv.joining⟩
  · obtain ⟨halive, hlogs, hposition⟩ := hinv.mutex other hmutex
    have hne : other ≠ id := by
      rintro rfl
      exact hfree (.inl hposition)
    simp only [LineState.acts, Function.update_of_ne hne]
    exact ⟨halive, hlogs, hposition⟩
  · have hne : other ≠ id := by
      rintro rfl
      simp only [LineState.acts, Function.update_self] at hlives
      cases hlives
    simp only [LineState.acts, Function.update_of_ne hne] at hlives
    exact hinv.holder other hlogs hlives hposition
  · by_cases hne : other = id
    · subst hne
      exact (hinv.logs other hlogging).not_holding hfree other
    · simp only [LineState.acts, Function.update_of_ne hne] at hacted
      exact hinv.acted other hacted
  · simp only [LineState.acts, Function.update_apply, hinv.ended other hended, ite_self]

/-- The cleanup of a stage that acted on its cancellation keeps the invariant. -/
theorem cleanup (hinv : LineInvariant state) {id : Fin n} (hacted : state.acted id = true) :
    LineInvariant { state with ended := Function.update state.ended id true } := by
  refine ⟨hinv.seated, hinv.mutex, hinv.holder, hinv.acted, fun other hended ↦ ?_, hinv.idle,
    hinv.logs, hinv.cleared, hinv.stopped, hinv.joining⟩
  by_cases hne : other = id
  · rwa [hne]
  · simp only [Function.update_of_ne hne] at hended
    exact hinv.ended other hended

/-- A step of `assembly_line_destroy` keeps the invariant. -/
theorem destroy (hinv : LineInvariant state) (hnext : assemblyLineDestroy state = some successor) :
    LineInvariant successor := by
  have hloop : ∀ (index : ℕ) (id : Fin n), DestroyPhase.loop index ≠ .cancels id ∧
      DestroyPhase.loop index ≠ .joins id := by
    intro index id
    unfold DestroyPhase.loop
    split_ifs <;> simp
  obtain ⟨hseated, hmutex, hholder, hacted, hended, hidle, hlogs, hcleared, hstopped, hjoining⟩ :=
    hinv
  unfold assemblyLineDestroy at hnext
  cases hdestroyer : state.destroyer with
  | notCalled =>
    simp only [hdestroyer] at hnext
    obtain rfl := Option.some.inj hnext
    exact ⟨hseated, hmutex, hholder, hacted, hended, hidle, hlogs, by simp [hloop], hstopped,
      by simp [hloop]⟩
  | clears id =>
    simp only [hdestroyer] at hnext
    obtain rfl := Option.some.inj hnext
    refine ⟨hseated, hmutex, hholder, hacted, hended, hidle, hlogs, ?_, fun other hcancelled ↦ ?_,
      by simp⟩
    · intro other hother
      obtain rfl : id = other := by simpa using hother
      simp
    · simp only [Function.update_apply, hstopped other hcancelled, ite_self]
  | cancels id =>
    simp only [hdestroyer] at hnext
    obtain rfl := Option.some.inj hnext
    refine ⟨hseated, hmutex, hholder, hacted, hended, hidle, hlogs, by simp, ?_, ?_⟩
    · intro other hcancelled
      by_cases hne : other = id
      · rw [hne]
        exact hcleared id hdestroyer
      · simp only [Function.update_of_ne hne] at hcancelled
        exact hstopped other hcancelled
    · intro other hother
      obtain rfl : id = other := by simpa using hother
      simp
  | joins id =>
    simp only [hdestroyer] at hnext
    split_ifs at hnext
    obtain rfl := Option.some.inj hnext
    exact ⟨hseated, hmutex, hholder, hacted, hended, hidle, hlogs, by simp [hloop], hstopped,
      by simp [hloop]⟩
  | joined => simp [hdestroyer] at hnext

end LineInvariant

/-! ### Cancelling safely -/

/-- A stage that was cancelled and has not acted on it is not asleep at the barrier. Where the debug
messages go to the log file it has none any more, and where they go to the standard error it has
none to log with locks held. -/
structure CancelledOutside (messages : DebugMessages) (state : LineState n) : Prop where
  awake : ∀ id, state.cancelled id = true → state.acted id = false →
    ¬ (state.line.positions id).Asleep
  logFile : messages = .toLogFile → ∀ id, state.cancelled id = true → state.acted id = false →
    (state.line.positions id = .loopHead ∨ state.line.positions id = .finished) ∧
      state.logging id = false
  stderr : messages = .toStderr → ∀ id, state.cancelled id = true → state.acted id = false →
    state.logging id = true → ¬ (state.line.positions id).LogsWithLocks

namespace CancelledOutside

variable {messages : DebugMessages} {state successor : LineState n}

/-- A cancelled stage at the test of its loop or behind it ends its loop. -/
theorem finishes (hinv : LineInvariant state) (houtside : CancelledOutside messages state)
    (hfile : messages = .toLogFile) {id : Fin n} (hcancelled : state.cancelled id = true)
    (halive : state.acted id = false) {line : AssemblyState n}
    (hline : stageThreadNext state.line id = some line) : line.positions id = .finished := by
  have hfollows := stageThreadNext_following hinv.seated.running hline
  rcases (houtside.logFile hfile id hcancelled halive).1 with hhead | hfinished
  · rw [hfollows, hhead, StagePosition.following, hinv.stopped id hcancelled]
    rfl
  · rw [hfollows, hfinished]
    rfl

/-- A safe step of a stage does not bring a cancelled one to sleep or to a message with locks. -/
theorem stage (hinv : LineInvariant state) (houtside : CancelledOutside messages state)
    {id : Fin n} (hsafe : CancelsSafely messages state (.stage id))
    (hnext : state.stageNext id = some successor) : CancelledOutside messages successor := by
  unfold LineState.stageNext at hnext
  split_ifs at hnext with hstopped
  obtain ⟨line, hline, rfl⟩ := Option.map_eq_some_iff.mp hnext
  simp only [not_or, Bool.not_eq_true] at hstopped
  have hfollows := stageThreadNext_following hinv.seated.running hline
  refine ⟨fun other hcancelled halive hasleep ↦ ?_, fun hfile other hcancelled halive ↦ ?_,
    fun hstderr other hcancelled halive hlogging hlocks ↦ ?_⟩
  · simp only [LineState.moved] at hasleep
    by_cases hne : other = id
    · subst hne
      have hafter : line.positions other = .asleep := hasleep
      rw [hafter] at hfollows
      cases hposition : state.line.positions other with
      | entering =>
        rw [hposition, StagePosition.following,
          if_neg (not_lt.mpr ((hsafe hcancelled).1 hposition).1)] at hfollows
        cases hfollows
      | asleep => exact houtside.awake other hcancelled halive hposition
      | loopHead =>
        rw [hposition, StagePosition.following] at hfollows
        split_ifs at hfollows
      | dining phase =>
        rw [hposition] at hfollows
        cases phase <;> cases hfollows
      | awake | reading | writing temp | finished =>
        rw [hposition] at hfollows
        cases hfollows
    · rcases stageThreadNext_other hne hline with hsame | ⟨-, hawake⟩
      · rw [hsame] at hasleep
        exact houtside.awake other hcancelled halive hasleep
      · rw [hawake] at hasleep
        cases hasleep
  · simp only [LineState.moved]
    by_cases hne : other = id
    · subst hne
      have hfinished := houtside.finishes hinv hfile hcancelled halive hline
      refine ⟨.inr hfinished, ?_⟩
      rw [Function.update_self, hfinished]
      unfold stageLogs
      split <;> first | rfl | contradiction
    · rw [Function.update_of_ne hne]
      have hawake := houtside.awake other hcancelled halive
      rw [(stageThreadNext_other hne hline).resolve_right fun hwoken ↦ hawake hwoken.1]
      exact houtside.logFile hfile other hcancelled halive
  · simp only [LineState.moved] at hlogging hlocks
    by_cases hne : other = id
    · subst hne
      rw [Function.update_self] at hlogging
      rcases hlocks with hthinking | heating
      · rw [hthinking] at hlogging
        exact ((hsafe hcancelled).1 (entering_of_stageLogs hlogging)).2 hstderr
      · rw [heating] at hlogging
        exact (hsafe hcancelled).2 (lockingSecond_of_stageLogs hlogging) hstderr
    · rw [Function.update_of_ne hne] at hlogging
      have hawake := (hinv.logs other hlogging).not_asleep
      rw [(stageThreadNext_other hne hline).resolve_right fun hwoken ↦ hawake hwoken.1] at hlocks
      exact houtside.stderr hstderr other hcancelled halive hlogging hlocks

/-- A step that leaves the cancelled stages that have not acted where they were and gives none a
message. -/
theorem mono (houtside : CancelledOutside messages state)
    (hsame : ∀ id, successor.cancelled id = true → successor.acted id = false →
      state.cancelled id = true ∧ state.acted id = false ∧
        successor.line.positions id = state.line.positions id ∧
        (successor.logging id = true → state.logging id = true)) :
    CancelledOutside messages successor := by
  refine ⟨fun id hcancelled halive ↦ ?_, fun hfile id hcancelled halive ↦ ?_,
    fun hstderr id hcancelled halive hlogs ↦ ?_⟩
  · obtain ⟨hbefore, hlives, hposition, -⟩ := hsame id hcancelled halive
    rw [hposition]
    exact houtside.awake id hbefore hlives
  · obtain ⟨hbefore, hlives, hposition, hlogging⟩ := hsame id hcancelled halive
    obtain ⟨hat, hquiet⟩ := houtside.logFile hfile id hbefore hlives
    rw [hposition]
    refine ⟨hat, ?_⟩
    by_contra hlogs
    cases hquiet.symm.trans (hlogging (by simpa using hlogs))
  · obtain ⟨hbefore, hlives, hposition, hlogging⟩ := hsame id hcancelled halive
    rw [hposition]
    exact houtside.stderr hstderr id hbefore hlives (hlogging hlogs)

/-- A spurious wake-up wakes no cancelled stage. -/
theorem spurious (houtside : CancelledOutside messages state) {id : Fin n}
    (hnext : lineNext messages state (.spurious id) = some successor) :
    CancelledOutside messages successor := by
  simp only [lineNext, assemblyNext] at hnext
  by_cases hasleep : (state.line.positions id).Asleep
  case neg => simp [hasleep] at hnext
  rw [if_pos hasleep] at hnext
  split_ifs at hnext with hacted
  obtain rfl := Option.some.inj hnext
  have hcancelled : ¬ state.cancelled id = true := fun hcancelled ↦
    houtside.awake id hcancelled (by simpa using hacted) hasleep
  refine houtside.mono fun other hothers hlives ↦ ⟨hothers, hlives, ?_, fun hlogs ↦ hlogs⟩
  refine Function.update_of_ne ?_ _ _
  rintro rfl
  exact hcancelled hothers

/-- A stage that acts on its cancellation is not one of those any more. -/
theorem acts (houtside : CancelledOutside messages state) (id : Fin n) :
    CancelledOutside messages (state.acts id) := by
  refine houtside.mono fun other hcancelled halive ↦ ?_
  have hne : other ≠ id := by
    rintro rfl
    simp only [LineState.acts, Function.update_self] at halive
    cases halive
  simp only [LineState.acts, Function.update_of_ne hne] at halive
  exact ⟨hcancelled, halive, rfl, fun hlogs ↦ hlogs⟩

/-- A stage that may be cancelled, or has ended, is not in the way of its locks. -/
theorem destroy (hinv : LineInvariant state) (houtside : CancelledOutside messages state)
    (hsafe : CancelsSafely messages state .destroy)
    (hnext : assemblyLineDestroy state = some successor) :
    CancelledOutside messages successor := by
  unfold assemblyLineDestroy at hnext
  cases hdestroyer : state.destroyer with
  | notCalled | clears id =>
    simp only [hdestroyer] at hnext
    obtain rfl := Option.some.inj hnext
    exact ⟨houtside.awake, houtside.logFile, houtside.stderr⟩
  | cancels id =>
    simp only [hdestroyer] at hnext
    obtain rfl := Option.some.inj hnext
    have hplace (halive : state.acted id = false) :
        state.MayCancel id messages ∨ state.line.positions id = .finished := by
      by_cases hfinished : state.line.positions id = .finished
      · exact .inr hfinished
      · exact .inl (hsafe id hdestroyer ⟨halive, hfinished⟩)
    have hquiet (hfinished : state.line.positions id = .finished) : state.logging id = false := by
      by_contra hlogging
      have hlogs := hinv.logs id (by simpa using hlogging)
      rw [hfinished] at hlogs
      rcases hlogs with (h | h) | h | h <;> cases h
    refine ⟨fun other hcancelled halive ↦ ?_, fun hfile other hcancelled halive ↦ ?_,
      fun hstderr other hcancelled halive hlogging ↦ ?_⟩
    · by_cases hne : other = id
      · subst hne
        rcases hplace halive with hmay | hfinished
        · cases messages with
          | dropped => exact hmay
          | toLogFile => exact fun hasleep ↦ by cases hmay.1.symm.trans hasleep
          | toStderr => exact hmay.1
        · exact fun hasleep ↦ by cases hfinished.symm.trans hasleep
      · simp only [Function.update_of_ne hne] at hcancelled
        exact houtside.awake other hcancelled halive
    · by_cases hne : other = id
      · subst hne hfile
        rcases hplace halive with hmay | hfinished
        · exact ⟨.inl hmay.1, hmay.2⟩
        · exact ⟨.inr hfinished, hquiet hfinished⟩
      · simp only [Function.update_of_ne hne] at hcancelled
        exact houtside.logFile hfile other hcancelled halive
    · by_cases hne : other = id
      · subst hne hstderr
        rcases hplace halive with hmay | hfinished
        · exact hmay.2 hlogging
        · cases (hquiet hfinished).symm.trans hlogging
      · simp only [Function.update_of_ne hne] at hcancelled
        exact houtside.stderr hstderr other hcancelled halive hlogging
  | joins id =>
    simp only [hdestroyer] at hnext
    split_ifs at hnext
    obtain rfl := Option.some.inj hnext
    exact ⟨houtside.awake, houtside.logFile, houtside.stderr⟩
  | joined => simp [hdestroyer] at hnext

/-- A message after safe steps keeps the invariant: a stage that acts on its cancellation in it does
so in a write to the standard error, without locks. -/
theorem log (hinv : LineInvariant state) (houtside : CancelledOutside messages state) {id : Fin n}
    {point : CancelPoint} (hnext : state.logNext messages id point = some successor) :
    LineInvariant successor ∧ CancelledOutside messages successor := by
  unfold LineState.logNext at hnext
  split at hnext
  · cases hnext
  rename_i hstopped
  simp only [not_or, Bool.not_eq_true, Bool.not_eq_false] at hstopped
  obtain ⟨halive, hlogging, -⟩ := hstopped
  have hnotFile (hcancelled : state.cancelled id = true) : messages ≠ .toLogFile := by
    intro hfile
    cases (houtside.logFile hfile id hcancelled halive).2.symm.trans hlogging
  cases point with
  | nowhere =>
    obtain rfl := Option.some.inj hnext
    exact ⟨hinv.logged id, houtside.mono fun other hcancelled hlives ↦
      ⟨hcancelled, hlives, rfl, fun hlogs ↦ (LineInvariant.still_logging hlogs).2⟩⟩
  | logFile =>
    simp only at hnext
    split_ifs at hnext with hacts
    exact absurd hacts.1 (hnotFile hacts.2)
  | stderr =>
    simp only at hnext
    split_ifs at hnext with hacts
    obtain rfl := Option.some.inj hnext
    have hstderr : messages = .toStderr := by
      cases messages with
      | dropped => exact absurd rfl hacts.1
      | toLogFile => exact absurd rfl (hnotFile hacts.2)
      | toStderr => rfl
    have hfree := houtside.stderr hstderr id hacts.2 halive hlogging
    exact ⟨hinv.acts hlogging hfree, houtside.acts id⟩

/-- Every safe step keeps the invariant. -/
theorem next (htwo : 2 ≤ n) {label : LineLabel n}
    (hinv : LineInvariant state) (houtside : CancelledOutside messages state)
    (hsafe : CancelsSafely messages state label)
    (hnext : lineNext messages state label = some successor) :
    LineInvariant successor ∧ CancelledOutside messages successor := by
  cases label with
  | stage id => exact ⟨hinv.stage htwo hnext, houtside.stage hinv hsafe hnext⟩
  | spurious id => exact ⟨hinv.spurious hnext, houtside.spurious hnext⟩
  | log id point => exact houtside.log hinv hnext
  | cancelWaiter id =>
    simp only [lineNext] at hnext
    split_ifs at hnext with hwaits
    exact absurd hwaits.2.2.1 (houtside.awake id hwaits.2.1 hwaits.1)
  | cleanup id =>
    simp only [lineNext] at hnext
    split_ifs at hnext with hcleans
    obtain rfl := Option.some.inj hnext
    exact ⟨hinv.cleanup hcleans.1, houtside.mono fun other hcancelled halive ↦
      ⟨hcancelled, halive, rfl, fun hlogs ↦ hlogs⟩⟩
  | destroy => exact ⟨hinv.destroy hnext, houtside.destroy hinv hsafe hnext⟩

end CancelledOutside

/-- The invariant holds in every run of safe steps, and no living stage that was cancelled is in the
way of its locks. -/
theorem lineInvariant_reachable (htwo : 2 ≤ n) {messages : DebugMessages} {state : LineState n}
    (hreach : (lineSystem n messages).ReachableUnder (CancelsSafely messages) state) :
    LineInvariant state ∧ CancelledOutside messages state := by
  have hinitial : ∀ start, (lineSystem n messages).initial start →
      LineInvariant start ∧ CancelledOutside messages start := by
    rintro start ⟨hline, hmutex, hlogger, hstages, hdestroyer⟩
    have hseated : Seated start.line.tableState := by
      refine seated_reachable htwo ((assembly_simulates_table n).reachable ?_)
      exact .initial hline
    refine ⟨⟨hseated, ?_, ?_, ?_, ?_, hlogger, ?_, ?_, ?_, ?_⟩, ?_, ?_, ?_⟩ <;>
      simp [hmutex, hstages, hdestroyer]
  exact hreach.invariant hinitial fun _ _ _ hinv hsafe hnext ↦
    CancelledOutside.next htwo hinv.1 hinv.2 hsafe hnext

end Bme680.Philosophers
