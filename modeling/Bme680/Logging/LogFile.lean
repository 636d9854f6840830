import Bme680.Logging.Logger
import Mathlib.Data.Fintype.Defs
import Mathlib.Data.List.Forall2

/-!
# The lines of the log file

`logger_log` writes a line in three pieces, a header with the level, the text and the newline, with
`logger.mutex` held from before the test of the log file until after the flush. Here the threads of
`loggerSystem` write those pieces one at a time, into the buffer of the stream and from there into
the file, and each piece is recorded with the thread that wrote it. Where a write or a flush fails,
the piece and those still in the buffer may be cut.

At every moment the file is the lines of the messages written so far, in order, and the buffer a
beginning of the line of the thread that holds the mutex; a line is whole unless one of its own
writes or its flush failed (`log_lines_whole`). `logger_init` makes the mutex anew and replaces the
log file without holding it, and a thread that has been refused a destroyed mutex goes on without
it, so this is about the runs in which no other thread is between its lock and the end of its call
where `logger_init` does so, in which it opens the file with a mutex that is not destroyed, and in
which an open file has a descriptor (`InitsAlone`). That a thread may wait for itself in
`logger_set_level` or `logger_destroy` does no harm to the lines, nor does a message logged after
`logger_destroy`.
-/

set_option autoImplicit false
set_option relaxedAutoImplicit false

namespace Bme680.Logging

open Concurrency

/-! ### Messages and their lines -/

/-- The text of a message: the one a client gave, or the one of the function that logs it. -/
inductive LogText (Message : Type*)
  | given (message : Message)
  | own (caller : LogCaller)

/-- What a call of `logger_log` is to write. -/
structure LogEntry (Message : Type*) where
  level : ℤ
  text : LogText Message

/-- What one of the three calls of `fprintf` and `vfprintf` writes. -/
inductive LogPiece (Message : Type*)
  | header (level : ℤ)
  | text (text : LogText Message)
  | newline

variable {Thread Message : Type*}

/-- The line of a message. -/
def LogEntry.pieces (entry : LogEntry Message) : List (LogPiece Message) :=
  [.header entry.level, .text entry.text, .newline]

/-- The text that a caller of `logger_log` passes, given the one a client has passed. -/
def LogCaller.text (caller : LogCaller) (message : Message) : LogText Message :=
  match caller with
  | .client => .given message
  | caller => .own caller

/-- A piece that a thread wrote, and whether all of it got through; a cut one may be there in part
or not at all. -/
structure Written (Thread Message : Type*) where
  thread : Thread
  piece : LogPiece Message
  whole : Bool

/-- The piece cut by a failure. -/
def Written.cut (written : Written Thread Message) : Written Thread Message :=
  { written with whole := false }

/-- The piece with its thread. -/
def Written.item (written : Written Thread Message) : Thread × LogPiece Message :=
  (written.thread, written.piece)

/-- Pieces of which a write or a flush may have failed. -/
def afterWrite (succeeds : Bool) (pieces : List (Written Thread Message)) :
    List (Written Thread Message) :=
  if succeeds then pieces else pieces.map Written.cut

@[simp] theorem afterWrite_nil (succeeds : Bool) :
    afterWrite succeeds ([] : List (Written Thread Message)) = [] := by
  cases succeeds <;> rfl

@[simp] theorem afterWrite_item (succeeds : Bool) (pieces : List (Written Thread Message)) :
    (afterWrite succeeds pieces).map Written.item = pieces.map Written.item := by
  cases succeeds with
  | true => rfl
  | false =>
    rw [afterWrite, if_neg Bool.false_ne_true, List.map_map]
    rfl

/-- A message whose line a thread has written and flushed, and whether nothing failed. -/
structure LogLine (Thread Message : Type*) where
  thread : Thread
  entry : LogEntry Message
  whole : Bool

/-- The pieces are the line's, in order and by its thread, and all whole if nothing failed. -/
def LineOf (line : LogLine Thread Message) (pieces : List (Written Thread Message)) : Prop :=
  pieces.map Written.item = line.entry.pieces.map (Prod.mk line.thread) ∧
    (line.whole = true → ∀ written ∈ pieces, written.whole = true)

/-- The file is the lines of the log, one after the other. -/
def LinesOf (log : List (LogLine Thread Message)) (file : List (Written Thread Message)) : Prop :=
  ∃ blocks, List.Forall₂ LineOf log blocks ∧ file = blocks.flatten

/-- One more line behind the lines of a log. -/
theorem LinesOf.append {log : List (LogLine Thread Message)}
    {file pieces : List (Written Thread Message)} {line : LogLine Thread Message}
    (hlines : LinesOf log file) (hline : LineOf line pieces) :
    LinesOf (log ++ [line]) (file ++ pieces) := by
  obtain ⟨blocks, hblocks, rfl⟩ := hlines
  refine ⟨blocks ++ [pieces], List.rel_append hblocks (.cons hline .nil), ?_⟩
  rw [List.flatten_append, List.flatten_singleton]

/-! ### The system -/

/-- The logger and its threads, and of each thread the text it last passed as a client, the message
its call of `logger_log` is about, the pieces it has still to write, and whether its writes so far
succeeded; the pieces in the file and in the buffer of the stream; and the messages whose lines were
written and flushed. -/
structure LogFileState (Thread Message : Type*) where
  base : LoggerState Thread
  texts : Thread → Message
  entries : Thread → LogEntry Message
  pending : Thread → List (LogPiece Message)
  unbroken : Thread → Bool
  file : List (Written Thread Message)
  buffer : List (Written Thread Message)
  log : List (LogLine Thread Message)

/-- The buffer goes to the file, in part where that fails. -/
def LogFileState.flush (state : LogFileState Thread Message) (succeeds : Bool) :
    LogFileState Thread Message :=
  { state with file := state.file ++ afterWrite succeeds state.buffer, buffer := [] }

variable [DecidableEq Thread]

/-- A step of a thread: it opens a file with an empty buffer, closes the file, enters `logger_log`
with a message, gets to the writing of its line, writes a piece, flushes the line, or does something
that is not about the stream. -/
def LogFileState.step (state : LogFileState Thread Message) (thread : Thread) (succeeds : Bool) :
    Option (LogFileState Thread Message) :=
  let moved := loggerNext state.base (.step thread succeeds)
  match (state.base.threads thread).phase with
  | .initOpens => moved.map fun base ↦ { state with base := base, buffer := [] }
  | .destroyCloses => moved.map fun base ↦ { state.flush succeeds with base := base }
  | .logTests caller level =>
    moved.map fun base ↦
      { state with
        base := base
        entries := Function.update state.entries thread
          { level := level, text := caller.text (state.texts thread) } }
  | .logTestsFile _ =>
    moved.map fun base ↦
      { state with
        base := base
        pending := Function.update state.pending thread (state.entries thread).pieces
        unbroken := Function.update state.unbroken thread true }
  | .logWrites _ =>
    match state.pending thread with
    | piece :: rest =>
      some { state with
        pending := Function.update state.pending thread rest
        unbroken := Function.update state.unbroken thread (state.unbroken thread && succeeds)
        buffer := afterWrite succeeds state.buffer ++
          [{ thread := thread, piece := piece, whole := succeeds }] }
    | [] =>
      moved.map fun base ↦
        { state.flush succeeds with
          base := base
          log := state.log ++ [{ thread := thread, entry := state.entries thread,
                                 whole := state.unbroken thread && succeeds }] }
  | _ => moved.map fun base ↦ { state with base := base }

/-- One step of the threads, with the text that a client passes where it calls `logger_log`. -/
def logFileNext (state : LogFileState Thread Message) :
    LoggerLabel Thread × Message → Option (LogFileState Thread Message)
  | (.step thread succeeds, _) => state.step thread succeeds
  | (.log thread level, message) =>
    (loggerNext state.base (.log thread level)).map fun base ↦
      { state with base := base, texts := Function.update state.texts thread message }
  | (label, _) => (loggerNext state.base label).map fun base ↦ { state with base := base }

/-- Any threads using the logger, with nothing written. -/
def logFileSystem (Thread Message : Type*) [DecidableEq Thread] :
    TransitionSystem (LogFileState Thread Message) (LoggerLabel Thread × Message) where
  initial := fun state ↦
    (loggerSystem Thread).initial state.base ∧ state.file = [] ∧ state.buffer = [] ∧ state.log = []
  next := logFileNext

/-- The thread is between a lock and the end of its call, or has still to destroy the mutex. -/
def LoggerPhase.inside : LoggerPhase → Bool
  | .initFails | .initCloses | .initDestroysMutex => true
  | .destroyTestsFile | .destroyCloses | .destroyUnlocks | .destroyMutex => true
  | .setWrites _ | .setUnlocks => true
  | .logTests caller _ | .logLocks caller | .logWaits caller => caller.holding
  | .logTestsFile _ | .logWrites _ | .logUnlocks _ => true
  | _ => false

omit [DecidableEq Thread] in
/-- Where `logger_init` makes the mutex and opens the file no other thread is inside a call; it
opens the file while the mutex is not destroyed, and an open file has a descriptor. -/
def InitsAlone (state : LoggerState Thread) : LoggerLabel Thread → Prop
  | .step thread succeeds =>
    ((state.threads thread).phase = .initMutex ∨ (state.threads thread).phase = .initOpens →
        ∀ other, other ≠ thread → (state.threads other).phase.inside = false) ∧
      ((state.threads thread).phase = .initOpens → state.logger.mutex.destroyed = false) ∧
      ((state.threads thread).phase = .initFileno → succeeds = true)
  | _ => True

instance [Fintype Thread] (state : LoggerState Thread) : DecidablePred (InitsAlone state)
  | .step thread succeeds =>
    inferInstanceAs (Decidable (
      ((state.threads thread).phase = .initMutex ∨ (state.threads thread).phase = .initOpens →
          ∀ other, other ≠ thread → (state.threads other).phase.inside = false) ∧
        ((state.threads thread).phase = .initOpens → state.logger.mutex.destroyed = false) ∧
        ((state.threads thread).phase = .initFileno → succeeds = true)))
  | .init _ | .destroy _ | .setLevel _ _ | .log _ _ => isTrue trivial

omit [DecidableEq Thread] in
/-- The step leaves `logger_init` alone. -/
def LeavesInitsAlone (state : LogFileState Thread Message)
    (label : LoggerLabel Thread × Message) : Prop :=
  InitsAlone state.base label.1

instance [Fintype Thread] (state : LogFileState Thread Message) :
    DecidablePred (LeavesInitsAlone state) :=
  fun label ↦ inferInstanceAs (Decidable (InitsAlone state.base label.1))

/-! ### Who holds the mutex -/

/-- Where a thread stands while the mutex is not destroyed: between its lock and its unlock the
mutex is its own. A caller that has it may request it once more, and gets no further. -/
def LoggerPhase.Stands (owned : Prop) : LoggerPhase → Prop
  | .destroyTestsFile | .destroyCloses | .destroyUnlocks | .setWrites _ | .setUnlocks => owned
  | .logTests caller _ | .logLocks caller | .logWaits caller => caller.holding = true → owned
  | .logTestsFile caller | .logWrites caller | .logUnlocks caller =>
    owned ∧ caller.holding = false
  | _ => True

/-- The thread has seen the log file closed, and has not returned. -/
def LoggerPhase.Closed : LoggerPhase → Prop
  | .initFails | .destroyUnlocks | .destroyMutex => True
  | _ => False

omit [DecidableEq Thread] in
/-- While the mutex is not destroyed, the threads between a lock and an unlock own it, and while it
is destroyed the file is closed, as it is where a thread has closed it and not returned; the users
counted are the holder; and a line is only written while the mutex is not destroyed. -/
structure WritesLocked (state : LoggerState Thread) : Prop where
  stands : state.logger.mutex.destroyed = false → ∀ thread,
    (state.threads thread).phase.Stands (state.logger.mutex.holder = some thread)
  closed : state.logger.mutex.destroyed = true → state.logger.logFile = false
  closing : ∀ thread, (state.threads thread).phase.Closed → state.logger.logFile = false
  counted : state.logger.mutex.Counted
  writing : ∀ thread caller, (state.threads thread).phase = .logWrites caller →
    state.logger.mutex.destroyed = false
  opened : ∀ thread, (state.threads thread).phase ≠ .initCloses ∧
    (state.threads thread).phase ≠ .initDestroysMutex

/-- A thread stands where it did when the mutex becomes its own. -/
theorem LoggerPhase.Stands.mono {owned owned' : Prop} {phase : LoggerPhase}
    (hstands : phase.Stands owned) (howned : owned → owned') : phase.Stands owned' := by
  cases phase with
  | logTests caller level | logLocks caller | logWaits caller => exact fun h ↦ howned (hstands h)
  | logTestsFile caller | logWrites caller | logUnlocks caller =>
    exact ⟨howned hstands.1, hstands.2⟩
  | destroyTestsFile | destroyCloses | destroyUnlocks | setWrites level | setUnlocks =>
    exact howned hstands
  | _ => trivial

/-- A thread that may have the mutex owns it, while it is not destroyed. -/
theorem LoggerPhase.Stands.owned {owned : Prop} {phase : LoggerPhase} (hstands : phase.Stands owned)
    (hphase : phase.MayHold) : owned := by
  cases phase with
  | logTests caller level => exact hstands hphase
  | logTestsFile caller | logWrites caller | logUnlocks caller => exact hstands.1
  | destroyTestsFile | destroyCloses | destroyUnlocks | setWrites level | setUnlocks =>
    exact hstands
  | _ => exact hphase.elim

/-- A thread that is not inside a call stands anywhere. -/
theorem LoggerPhase.stands_of_not_inside {phase : LoggerPhase} (hoff : phase.inside = false)
    (owned : Prop) : phase.Stands owned := by
  cases phase with
  | logTests caller level | logLocks caller | logWaits caller =>
    intro hholding
    rw [show caller.holding = false from hoff] at hholding
    cases hholding
  | _ => trivial

/-- A thread that has seen the log file closed is inside its call. -/
theorem LoggerPhase.Closed.inside {phase : LoggerPhase} (hclosed : phase.Closed) :
    phase.inside = true := by
  cases phase <;> first | rfl | exact hclosed.elim

/-! ### Every step of the logger -/

/-- Where a call begins. -/
def LoggerPhase.Enters : LoggerPhase → Prop
  | .initMutex | .destroyLocks | .setLocks _ => True
  | .logTests caller _ => caller.holding = false
  | _ => False

/-- Where a call begins the thread is not inside it. -/
theorem LoggerPhase.Enters.not_inside {phase : LoggerPhase} (henters : phase.Enters) :
    phase.inside = false := by
  cases phase <;> first | rfl | exact henters | exact henters.elim

/-- A thread that is outside calls a function, or a thread takes its next step. -/
theorem loggerNext_cases {state successor : LoggerState Thread} {label : LoggerLabel Thread}
    (hnext : loggerNext state label = some successor) :
    (∃ thread phase, (∀ other succeeds, label ≠ .step other succeeds) ∧
        state.call thread phase = some successor ∧ phase.Enters) ∨
      ∃ thread succeeds logger moved, label = .step thread succeeds ∧
        loggerStep thread state.logger (state.threads thread) succeeds = some (logger, moved) ∧
        successor = state.after thread (logger, moved) := by
  cases label with
  | init thread => exact Or.inl ⟨thread, .initMutex, by simp, hnext, trivial⟩
  | destroy thread => exact Or.inl ⟨thread, .destroyLocks, by simp, hnext, trivial⟩
  | setLevel thread level =>
    simp only [loggerNext] at hnext
    split_ifs at hnext
    · exact Or.inl ⟨thread, _, by simp, hnext, rfl⟩
    · exact Or.inl ⟨thread, _, by simp, hnext, trivial⟩
  | log thread level => exact Or.inl ⟨thread, _, by simp, hnext, rfl⟩
  | step thread succeeds =>
    obtain ⟨⟨logger, moved⟩, hstep, rfl⟩ := Option.map_eq_some_iff.mp hnext
    exact Or.inr ⟨thread, succeeds, logger, moved, rfl, hstep, rfl⟩

section Step

omit [DecidableEq Thread]

variable {current : Thread} {logger logger' : Logger Thread} {thread thread' : LoggerThread}
  {succeeds : Bool}

/-- Only `logger_init` opens the file. -/
theorem loggerStep_logFile
    (hstep : loggerStep current logger thread succeeds = some (logger', thread'))
    (hphase : thread.phase ≠ .initOpens) (hclosed : logger.logFile = false) :
    logger'.logFile = false := by
  unfold loggerStep at hstep
  cases hthread : thread.phase with
  | outside => simp [hthread] at hstep
  | initOpens => exact absurd hthread hphase
  | destroyWaits | setWaits level | logWaits caller =>
    simp only [hthread] at hstep
    obtain ⟨mutex, -, hresult⟩ := Option.map_eq_some_iff.mp hstep
    obtain ⟨rfl, -⟩ := Prod.mk.inj hresult
    exact hclosed
  | destroyCloses =>
    simp only [hthread] at hstep
    obtain ⟨rfl, -⟩ := Prod.mk.inj (Option.some.inj hstep)
    rfl
  | _ =>
    simp only [hthread] at hstep
    obtain ⟨rfl, -⟩ := Prod.mk.inj (Option.some.inj hstep)
    exact hclosed

/-- A thread gets beyond the closing of the file with the file closed. -/
theorem loggerStep_closing
    (hstep : loggerStep current logger thread succeeds = some (logger', thread'))
    (hclosing : thread.phase.Closed → logger.logFile = false) (hclosed : thread'.phase.Closed) :
    logger'.logFile = false := by
  unfold loggerStep at hstep
  cases hthread : thread.phase with
  | outside => simp [hthread] at hstep
  | initOpens =>
    simp only [hthread] at hstep
    obtain ⟨rfl, rfl⟩ := Prod.mk.inj (Option.some.inj hstep)
    cases succeeds with
    | true => exact hclosed.elim
    | false => rfl
  | destroyTestsFile =>
    simp only [hthread] at hstep
    obtain ⟨rfl, rfl⟩ := Prod.mk.inj (Option.some.inj hstep)
    refine eq_false_of_ne_true fun hfile ↦ ?_
    dsimp only at hclosed
    rw [if_pos hfile] at hclosed
    exact hclosed
  | destroyUnlocks =>
    simp only [hthread] at hstep hclosing
    obtain ⟨rfl, -⟩ := Prod.mk.inj (Option.some.inj hstep)
    exact hclosing trivial
  | destroyCloses =>
    simp only [hthread] at hstep
    obtain ⟨rfl, -⟩ := Prod.mk.inj (Option.some.inj hstep)
    rfl
  | destroyWaits | setWaits level | logWaits caller =>
    simp only [hthread] at hstep
    rw [(Logger.acquire_moves (by rw [hthread]; trivial) id hstep).2] at hclosed
    exact hclosed.elim
  | destroyLocks | setLocks level | logLocks caller =>
    simp only [hthread] at hstep
    obtain ⟨-, rfl⟩ := Prod.mk.inj (Option.some.inj hstep)
    dsimp only [Logger.lock] at hclosed
    split_ifs at hclosed <;> exact hclosed.elim
  | initFileno | logTestsFile caller =>
    simp only [hthread] at hstep
    obtain ⟨-, rfl⟩ := Prod.mk.inj (Option.some.inj hstep)
    dsimp only at hclosed
    split_ifs at hclosed <;> exact hclosed.elim
  | logTests caller level =>
    simp only [hthread] at hstep
    obtain ⟨-, rfl⟩ := Prod.mk.inj (Option.some.inj hstep)
    dsimp only at hclosed
    split_ifs at hclosed
    · cases caller <;> exact hclosed.elim
    · exact hclosed.elim
  | logUnlocks caller =>
    simp only [hthread] at hstep
    obtain ⟨-, rfl⟩ := Prod.mk.inj (Option.some.inj hstep)
    cases caller <;> exact hclosed.elim
  | _ =>
    simp only [hthread] at hstep
    obtain ⟨-, rfl⟩ := Prod.mk.inj (Option.some.inj hstep)
    exact hclosed.elim

/-- A step gets to the writing of a line from the test of an open log file only. -/
theorem loggerStep_writing
    (hstep : loggerStep current logger thread succeeds = some (logger', thread'))
    {caller : LogCaller} (hwriting : thread'.phase = .logWrites caller) :
    (∃ before, thread.phase = .logTestsFile before) ∧ logger.logFile = true ∧ logger' = logger := by
  unfold loggerStep at hstep
  cases hthread : thread.phase with
  | outside => simp [hthread] at hstep
  | logTestsFile before =>
    simp only [hthread] at hstep
    obtain ⟨rfl, rfl⟩ := Prod.mk.inj (Option.some.inj hstep)
    refine ⟨⟨before, rfl⟩, eq_true_of_ne_false fun hfile ↦ ?_, rfl⟩
    dsimp only at hwriting
    rw [hfile, if_neg Bool.false_ne_true] at hwriting
    cases hwriting
  | destroyWaits | setWaits level | logWaits before =>
    simp only [hthread] at hstep
    rw [(Logger.acquire_moves (by rw [hthread]; trivial) id hstep).2] at hwriting
    cases hwriting
  | destroyLocks | setLocks level | logLocks before =>
    simp only [hthread] at hstep
    obtain ⟨-, rfl⟩ := Prod.mk.inj (Option.some.inj hstep)
    dsimp only [Logger.lock] at hwriting
    split_ifs at hwriting
  | logTests before level =>
    simp only [hthread] at hstep
    obtain ⟨-, rfl⟩ := Prod.mk.inj (Option.some.inj hstep)
    dsimp only at hwriting
    split_ifs at hwriting
    cases before <;> cases hwriting
  | logUnlocks before =>
    simp only [hthread] at hstep
    obtain ⟨-, rfl⟩ := Prod.mk.inj (Option.some.inj hstep)
    cases before <;> cases hwriting
  | initOpens | initFileno | destroyTestsFile =>
    simp only [hthread] at hstep
    obtain ⟨-, rfl⟩ := Prod.mk.inj (Option.some.inj hstep)
    dsimp only at hwriting
    split_ifs at hwriting
  | _ =>
    simp only [hthread] at hstep
    obtain ⟨-, rfl⟩ := Prod.mk.inj (Option.some.inj hstep)
    cases hwriting

/-- A thread that opens a file with a descriptor does not close it in `logger_init`. -/
theorem loggerStep_opened
    (hstep : loggerStep current logger thread succeeds = some (logger', thread'))
    (hfileno : thread.phase = .initFileno → succeeds = true)
    (hphase : thread.phase ≠ .initCloses) :
    thread'.phase ≠ .initCloses ∧ thread'.phase ≠ .initDestroysMutex := by
  unfold loggerStep at hstep
  cases hthread : thread.phase with
  | outside => simp [hthread] at hstep
  | initCloses => exact absurd hthread hphase
  | initFileno =>
    simp only [hthread, hfileno hthread, if_true] at hstep
    obtain ⟨-, rfl⟩ := Prod.mk.inj (Option.some.inj hstep)
    exact ⟨LoggerPhase.noConfusion, LoggerPhase.noConfusion⟩
  | destroyWaits | setWaits level | logWaits caller =>
    simp only [hthread] at hstep
    rw [(Logger.acquire_moves (by rw [hthread]; trivial) id hstep).2]
    exact ⟨LoggerPhase.noConfusion, LoggerPhase.noConfusion⟩
  | destroyLocks | setLocks level | logLocks caller =>
    simp only [hthread] at hstep
    obtain ⟨-, rfl⟩ := Prod.mk.inj (Option.some.inj hstep)
    dsimp only [Logger.lock]
    split_ifs <;> exact ⟨LoggerPhase.noConfusion, LoggerPhase.noConfusion⟩
  | initOpens | destroyTestsFile | logTestsFile caller =>
    simp only [hthread] at hstep
    obtain ⟨-, rfl⟩ := Prod.mk.inj (Option.some.inj hstep)
    dsimp only
    split_ifs <;> exact ⟨LoggerPhase.noConfusion, LoggerPhase.noConfusion⟩
  | logTests caller level =>
    simp only [hthread] at hstep
    obtain ⟨-, rfl⟩ := Prod.mk.inj (Option.some.inj hstep)
    dsimp only
    split_ifs
    · cases caller <;> exact ⟨LoggerPhase.noConfusion, LoggerPhase.noConfusion⟩
    · exact ⟨LoggerPhase.noConfusion, LoggerPhase.noConfusion⟩
  | logUnlocks caller =>
    simp only [hthread] at hstep
    obtain ⟨-, rfl⟩ := Prod.mk.inj (Option.some.inj hstep)
    cases caller <;> exact ⟨LoggerPhase.noConfusion, LoggerPhase.noConfusion⟩
  | _ =>
    simp only [hthread] at hstep
    obtain ⟨-, rfl⟩ := Prod.mk.inj (Option.some.inj hstep)
    exact ⟨LoggerPhase.noConfusion, LoggerPhase.noConfusion⟩

/-- While the mutex is not destroyed a step leaves its thread where it stands. -/
theorem loggerStep_stands
    (hstep : loggerStep current logger thread succeeds = some (logger', thread'))
    (hintact : thread.phase ≠ .initMutex → logger.mutex.destroyed = false)
    (hstands : thread.phase ≠ .initMutex →
      thread.phase.Stands (logger.mutex.holder = some current)) :
    thread'.phase.Stands (logger'.mutex.holder = some current) := by
  unfold loggerStep at hstep
  cases hthread : thread.phase with
  | outside => simp [hthread] at hstep
  | initMutex | initLevel | initFails | initCloses | destroyMutex =>
    simp only [hthread] at hstep
    obtain ⟨-, rfl⟩ := Prod.mk.inj (Option.some.inj hstep)
    trivial
  | initDestroysMutex =>
    simp only [hthread] at hstep
    obtain ⟨-, rfl⟩ := Prod.mk.inj (Option.some.inj hstep)
    intro hholding
    cases hholding
  | initOpens =>
    simp only [hthread] at hstep
    obtain ⟨-, rfl⟩ := Prod.mk.inj (Option.some.inj hstep)
    cases succeeds <;> trivial
  | initFileno =>
    simp only [hthread] at hstep
    obtain ⟨-, rfl⟩ := Prod.mk.inj (Option.some.inj hstep)
    cases succeeds with
    | true => exact fun hholding ↦ absurd hholding Bool.false_ne_true
    | false => trivial
  | destroyLocks | setLocks level =>
    simp only [hthread] at hstep hintact
    obtain ⟨-, rfl⟩ := Prod.mk.inj (Option.some.inj hstep)
    dsimp only [Logger.lock]
    rw [hintact LoggerPhase.noConfusion, if_neg Bool.false_ne_true]
    trivial
  | destroyWaits | setWaits level =>
    simp only [hthread] at hstep
    obtain ⟨mutex, hmutex, hresult⟩ := Option.map_eq_some_iff.mp hstep
    obtain ⟨rfl, rfl⟩ := Prod.mk.inj hresult
    obtain ⟨-, rfl⟩ := DestroyableMutex.acquire_eq_some_iff.mp hmutex
    rfl
  | destroyTestsFile =>
    simp only [hthread] at hstep hstands
    obtain ⟨rfl, rfl⟩ := Prod.mk.inj (Option.some.inj hstep)
    have howned : logger.mutex.holder = some current := hstands LoggerPhase.noConfusion
    dsimp only
    split_ifs
    · exact fun _ ↦ howned
    · exact howned
  | destroyCloses =>
    simp only [hthread] at hstep hstands
    obtain ⟨rfl, rfl⟩ := Prod.mk.inj (Option.some.inj hstep)
    exact hstands LoggerPhase.noConfusion
  | destroyUnlocks | setUnlocks =>
    simp only [hthread] at hstep
    obtain ⟨rfl, rfl⟩ := Prod.mk.inj (Option.some.inj hstep)
    trivial
  | setWrites level =>
    simp only [hthread] at hstep hstands
    obtain ⟨rfl, rfl⟩ := Prod.mk.inj (Option.some.inj hstep)
    exact fun _ ↦ hstands LoggerPhase.noConfusion
  | logTests caller level =>
    simp only [hthread] at hstep hstands
    obtain ⟨rfl, rfl⟩ := Prod.mk.inj (Option.some.inj hstep)
    have howned : caller.holding = true → logger.mutex.holder = some current :=
      hstands LoggerPhase.noConfusion
    dsimp only
    split_ifs
    · cases caller <;> first | trivial | exact howned rfl
    · exact howned
  | logLocks caller =>
    simp only [hthread] at hstep hstands hintact
    obtain ⟨rfl, rfl⟩ := Prod.mk.inj (Option.some.inj hstep)
    dsimp only [Logger.lock]
    rw [hintact LoggerPhase.noConfusion, if_neg Bool.false_ne_true]
    exact hstands LoggerPhase.noConfusion
  | logWaits caller =>
    simp only [hthread] at hstep hstands
    obtain ⟨mutex, hmutex, hresult⟩ := Option.map_eq_some_iff.mp hstep
    obtain ⟨rfl, rfl⟩ := Prod.mk.inj hresult
    obtain ⟨hfree, rfl⟩ := DestroyableMutex.acquire_eq_some_iff.mp hmutex
    refine ⟨rfl, eq_false_of_ne_true fun hholding ↦ ?_⟩
    -- a caller with the mutex would have found it taken, by itself
    rw [hstands LoggerPhase.noConfusion hholding] at hfree
    cases hfree
  | logTestsFile caller =>
    simp only [hthread] at hstep hstands
    obtain ⟨rfl, rfl⟩ := Prod.mk.inj (Option.some.inj hstep)
    dsimp only
    split_ifs <;> exact hstands LoggerPhase.noConfusion
  | logWrites caller =>
    simp only [hthread] at hstep hstands
    obtain ⟨rfl, rfl⟩ := Prod.mk.inj (Option.some.inj hstep)
    exact hstands LoggerPhase.noConfusion
  | logUnlocks caller =>
    simp only [hthread] at hstep hstands
    obtain ⟨rfl, rfl⟩ := Prod.mk.inj (Option.some.inj hstep)
    have hclient := (hstands LoggerPhase.noConfusion).2
    cases caller <;> trivial

end Step

omit [DecidableEq Thread] in
/-- Only the initialization makes a destroyed mutex intact. -/
theorem MutexMove.destroyed_of_destroyed {current : Thread} {logger logger' : Logger Thread}
    {thread thread' : LoggerThread} (hmove : MutexMove current logger logger' thread thread')
    (hphase : thread.phase ≠ .initMutex) (hdestroyed : logger.mutex.destroyed = true) :
    logger'.mutex.destroyed = true := by
  cases hmove with
  | keeps hmutex hholds hwaits => rwa [hmutex]
  | renews hinit hmutex hholds hwaits => exact absurd hinit hphase
  | takes hwaiting hmutex hholds hwaits =>
    obtain ⟨-, hmutex⟩ := DestroyableMutex.acquire_eq_some_iff.mp hmutex
    rwa [hmutex]
  | releases hmay hmutex hholds hwaits => rwa [hmutex, DestroyableMutex.unlock_destroyed]
  | destroys hdestroys hmutex hholds hwaits =>
    rw [hmutex]
    exact DestroyableMutex.destroy_destroyed.mpr (.inl hdestroyed)

namespace WritesLocked

variable {state successor : LoggerState Thread}

omit [DecidableEq Thread] in
/-- A thread that may have a mutex that is not destroyed is its holder. -/
theorem holder_of_mayHold (hlocked : WritesLocked state) {thread : Thread}
    (hintact : state.logger.mutex.destroyed = false)
    (hphase : (state.threads thread).phase.MayHold) :
    state.logger.mutex.holder = some thread :=
  (hlocked.stands hintact thread).owned hphase

/-- A call keeps the writes locked. -/
theorem call (hlocked : WritesLocked state) {thread : Thread} {phase : LoggerPhase}
    (hnext : state.call thread phase = some successor) (henters : phase.Enters) :
    WritesLocked successor := by
  unfold LoggerState.call at hnext
  split_ifs at hnext with houtside
  obtain rfl := Option.some.inj hnext
  have hnot := henters.not_inside
  have hphase (other : Thread) : ((state.after thread (state.logger,
      { state.threads thread with phase := phase })).threads other).phase = phase ∨
        ((state.after thread (state.logger, { state.threads thread with phase := phase })).threads
          other).phase = (state.threads other).phase := by
    by_cases hself : other = thread
    · subst hself
      rw [LoggerState.after_threads_self]
      exact .inl rfl
    · rw [LoggerState.after_threads_of_ne state hself]
      exact .inr rfl
  refine ⟨fun hintact other ↦ ?_, hlocked.closed, fun other hclosed ↦ ?_, hlocked.counted,
    fun other caller hwriting ↦ ?_, fun other ↦ ?_⟩
  · rcases hphase other with hentered | hkept
    · rw [hentered]
      exact LoggerPhase.stands_of_not_inside hnot _
    · rw [hkept]
      exact hlocked.stands hintact other
  · rcases hphase other with hentered | hkept
    · rw [hentered] at hclosed
      rw [hclosed.inside] at hnot
      cases hnot
    · rw [hkept] at hclosed
      exact hlocked.closing other hclosed
  · rcases hphase other with hentered | hkept
    · rw [hentered.symm.trans hwriting] at hnot
      cases hnot
    · rw [hkept] at hwriting
      exact hlocked.writing other caller hwriting
  · rcases hphase other with hentered | hkept
    · rw [hentered]
      constructor <;>
        · rintro rfl
          cases hnot
    · rw [hkept]
      exact hlocked.opened other

section After

variable {thread : Thread} {logger : Logger Thread} {moved : LoggerThread} {succeeds : Bool}

omit [DecidableEq Thread] in
/-- The users counted are the holder after a step. -/
theorem counted_after (hlocked : WritesLocked state)
    (hmove : MutexMove thread state.logger logger (state.threads thread) moved) :
    logger.mutex.Counted := by
  cases hmove with
  | keeps hmutex hholds hwaits =>
    rw [hmutex]
    exact hlocked.counted
  | renews hphase hmutex hholds hwaits =>
    rw [hmutex]
    exact DestroyableMutex.counted_intact
  | takes hphase hmutex hholds hwaits => exact hlocked.counted.acquire hmutex
  | releases hphase hmutex hholds hwaits =>
    rw [hmutex]
    cases hdestroyed : state.logger.mutex.destroyed with
    | true => exact hlocked.counted.unlock_of_destroyed hdestroyed
    | false => exact hlocked.counted.unlock (hlocked.holder_of_mayHold hdestroyed hphase)
  | destroys hphase hmutex hholds hwaits =>
    rw [hmutex]
    exact hlocked.counted.destroy

omit [DecidableEq Thread] in
/-- A thread that destroys the mutex has seen the file closed. -/
theorem closed_of_destroys (hlocked : WritesLocked state)
    (hphase : (state.threads thread).phase.Destroys) : (state.threads thread).phase.Closed := by
  cases hthread : (state.threads thread).phase with
  | initFails | destroyMutex => trivial
  | initDestroysMutex => exact absurd hthread (hlocked.opened thread).2
  | _ =>
    rw [hthread] at hphase
    exact hphase.elim

omit [DecidableEq Thread] in
/-- A step with the mutex of another thread leaves that thread where it stands. -/
theorem stands_other (hlocked : WritesLocked state)
    (hmove : MutexMove thread state.logger logger (state.threads thread) moved)
    (halone : (state.threads thread).phase = .initMutex → ∀ other, other ≠ thread →
      (state.threads other).phase.inside = false)
    (hintact : logger.mutex.destroyed = false) {other : Thread} (hother : other ≠ thread) :
    (state.threads other).phase.Stands (logger.mutex.holder = some other) := by
  cases hmove with
  | keeps hmutex hholds hwaits =>
    rw [hmutex] at hintact ⊢
    exact hlocked.stands hintact other
  | renews hphase hmutex hholds hwaits =>
    exact LoggerPhase.stands_of_not_inside (halone hphase other hother) _
  | takes hphase hmutex hholds hwaits =>
    obtain ⟨hfree, hmutex⟩ := DestroyableMutex.acquire_eq_some_iff.mp hmutex
    rw [hmutex] at hintact
    refine (hlocked.stands hintact other).mono fun hholder ↦ ?_
    rw [hfree] at hholder
    cases hholder
  | releases hphase hmutex hholds hwaits =>
    rw [hmutex, DestroyableMutex.unlock_destroyed] at hintact
    refine (hlocked.stands hintact other).mono fun hholder ↦ ?_
    rw [hlocked.holder_of_mayHold hintact hphase] at hholder
    exact absurd (Option.some.inj hholder).symm hother
  | destroys hphase hmutex hholds hwaits =>
    rw [hmutex] at hintact ⊢
    rw [DestroyableMutex.destroy_holder]
    refine hlocked.stands (eq_false_of_ne_true fun hdestroyed ↦ ?_) other
    rw [DestroyableMutex.destroy_destroyed.mpr (.inl hdestroyed)] at hintact
    cases hintact

omit [DecidableEq Thread] in
/-- The file is closed after a step that leaves the mutex destroyed. -/
theorem closed_after (hlocked : WritesLocked state)
    (hstep : loggerStep thread state.logger (state.threads thread) succeeds = some (logger, moved))
    (hopens : (state.threads thread).phase = .initOpens → state.logger.mutex.destroyed = false)
    (hdestroyed : logger.mutex.destroyed = true) : logger.logFile = false := by
  have hbefore (hbeforehand : state.logger.mutex.destroyed = true) : logger.logFile = false := by
    refine loggerStep_logFile hstep (fun hphase ↦ ?_) (hlocked.closed hbeforehand)
    rw [hopens hphase] at hbeforehand
    cases hbeforehand
  cases loggerStep_moves hstep with
  | keeps hmutex hholds hwaits => exact hbefore (by rwa [hmutex] at hdestroyed)
  | renews hphase hmutex hholds hwaits =>
    rw [hmutex] at hdestroyed
    cases hdestroyed
  | takes hphase hmutex hholds hwaits =>
    obtain ⟨-, hmutex⟩ := DestroyableMutex.acquire_eq_some_iff.mp hmutex
    exact hbefore (by rwa [hmutex] at hdestroyed)
  | releases hphase hmutex hholds hwaits =>
    exact hbefore (by rwa [hmutex, DestroyableMutex.unlock_destroyed] at hdestroyed)
  | destroys hphase hmutex hholds hwaits =>
    refine loggerStep_logFile hstep (fun hopens ↦ ?_)
      (hlocked.closing thread (hlocked.closed_of_destroys hphase))
    rw [hopens] at hphase
    exact hphase

omit [DecidableEq Thread] in
/-- A step does not destroy the mutex under a thread that is writing. -/
theorem intact_of_writing (hlocked : WritesLocked state)
    (hmove : MutexMove thread state.logger logger (state.threads thread) moved) {writer : Thread}
    {caller : LogCaller} (hwriting : (state.threads writer).phase = .logWrites caller) :
    logger.mutex.destroyed = false := by
  have hintact := hlocked.writing writer caller hwriting
  cases hmove with
  | keeps hmutex hholds hwaits => rwa [hmutex]
  | renews hphase hmutex hholds hwaits =>
    rw [hmutex]
    rfl
  | takes hphase hmutex hholds hwaits =>
    obtain ⟨-, hmutex⟩ := DestroyableMutex.acquire_eq_some_iff.mp hmutex
    rwa [hmutex]
  | releases hphase hmutex hholds hwaits => rwa [hmutex, DestroyableMutex.unlock_destroyed]
  | destroys hphase hmutex hholds hwaits =>
    refine eq_false_of_ne_true fun hdestroyed ↦ ?_
    rw [hmutex, DestroyableMutex.destroy_destroyed] at hdestroyed
    rcases hdestroyed with hbeforehand | husers
    · rw [hintact] at hbeforehand
      cases hbeforehand
    · have hholds : (state.threads writer).phase.MayHold := by
        rw [hwriting]
        trivial
      have hfree := hlocked.counted.free_of_users husers
      rw [hlocked.holder_of_mayHold hintact hholds] at hfree
      cases hfree

end After

/-- Every step that leaves `logger_init` alone keeps the writes locked. -/
theorem next (hlocked : WritesLocked state) {label : LoggerLabel Thread}
    (halone : InitsAlone state label) (hnext : loggerNext state label = some successor) :
    WritesLocked successor := by
  rcases loggerNext_cases hnext with ⟨thread, phase, -, hcall, hphase⟩ |
    ⟨thread, succeeds, logger, moved, rfl, hstep, rfl⟩
  · exact hlocked.call hcall hphase
  · obtain ⟨hothers, hopens, hfileno⟩ := halone
    have hmove := loggerStep_moves hstep
    have hsplit (other : Thread) : (other = thread ∧
        (state.after thread (logger, moved)).threads other = moved) ∨
          (other ≠ thread ∧
            (state.after thread (logger, moved)).threads other = state.threads other) := by
      by_cases hself : other = thread
      · exact .inl ⟨hself, by rw [hself, LoggerState.after_threads_self]⟩
      · exact .inr ⟨hself, LoggerState.after_threads_of_ne state hself _⟩
    refine ⟨fun hintact other ↦ ?_, hlocked.closed_after hstep hopens, fun other hclosed ↦ ?_,
      hlocked.counted_after hmove, fun other caller hwriting ↦ ?_, fun other ↦ ?_⟩
    · rcases hsplit other with ⟨rfl, hmoved⟩ | ⟨hother, hkept⟩
      · rw [hmoved]
        have hbefore (hphase : (state.threads other).phase ≠ .initMutex) :
            state.logger.mutex.destroyed = false := by
          refine eq_false_of_ne_true fun hdestroyed ↦ ?_
          rw [LoggerState.after_logger, hmove.destroyed_of_destroyed hphase hdestroyed] at hintact
          cases hintact
        exact loggerStep_stands hstep hbefore fun hphase ↦ hlocked.stands (hbefore hphase) other
      · rw [hkept]
        exact hlocked.stands_other hmove (fun hphase ↦ hothers (.inl hphase)) hintact hother
    · rcases hsplit other with ⟨rfl, hmoved⟩ | ⟨hother, hkept⟩
      · rw [hmoved] at hclosed
        exact loggerStep_closing hstep (hlocked.closing other) hclosed
      · rw [hkept] at hclosed
        refine loggerStep_logFile hstep (fun hphase ↦ ?_) (hlocked.closing other hclosed)
        have hinside := hothers (.inr hphase) other hother
        rw [hclosed.inside] at hinside
        cases hinside
    · rcases hsplit other with ⟨rfl, hmoved⟩ | ⟨hother, hkept⟩
      · rw [hmoved] at hwriting
        obtain ⟨-, hfile, rfl⟩ := loggerStep_writing hstep hwriting
        refine eq_false_of_ne_true fun hdestroyed ↦ ?_
        rw [hlocked.closed hdestroyed] at hfile
        cases hfile
      · rw [hkept] at hwriting
        exact hlocked.intact_of_writing hmove hwriting
    · rcases hsplit other with ⟨rfl, hmoved⟩ | ⟨hother, hkept⟩
      · rw [hmoved]
        exact loggerStep_opened hstep hfileno (hlocked.opened other).1
      · rw [hkept]
        exact hlocked.opened other

end WritesLocked

/-! ### The threads that write -/

/-- The thread is writing its line. -/
def LoggerState.Writing (state : LoggerState Thread) (thread : Thread) : Prop :=
  ∃ caller, (state.threads thread).phase = .logWrites caller

omit [DecidableEq Thread] in
/-- A thread that is writing may have the mutex. -/
theorem LoggerState.Writing.mayHold {state : LoggerState Thread} {thread : Thread}
    (hwriting : state.Writing thread) : (state.threads thread).phase.MayHold := by
  obtain ⟨caller, hphase⟩ := hwriting
  rw [hphase]
  trivial

omit [DecidableEq Thread] in
/-- A thread that is writing its line holds the mutex. -/
theorem WritesLocked.holder_of_writing {state : LoggerState Thread} (hlocked : WritesLocked state)
    {thread : Thread} (hwriting : state.Writing thread) :
    state.logger.mutex.holder = some thread := by
  have hholds := hwriting.mayHold
  obtain ⟨caller, hphase⟩ := hwriting
  exact hlocked.holder_of_mayHold (hlocked.writing thread caller hphase) hholds

omit [DecidableEq Thread] in
/-- While one thread is writing no other is inside a call with the mutex. -/
theorem WritesLocked.eq_of_writing {state : LoggerState Thread} (hlocked : WritesLocked state)
    {thread other : Thread} (hwriting : state.Writing thread)
    (hother : (state.threads other).phase.MayHold) : other = thread := by
  have hholder := hlocked.holder_of_writing hwriting
  obtain ⟨caller, hphase⟩ := hwriting
  rw [hlocked.holder_of_mayHold (hlocked.writing thread caller hphase) hother] at hholder
  exact Option.some.inj hholder

/-- A call gets no thread to the writing of a line. -/
theorem LoggerState.call_writing {state successor : LoggerState Thread} {thread : Thread}
    {phase : LoggerPhase} (hnext : state.call thread phase = some successor)
    (hphase : phase.Enters) {other : Thread} (hwriting : successor.Writing other) :
    state.Writing other := by
  unfold LoggerState.call at hnext
  split_ifs at hnext
  obtain rfl := Option.some.inj hnext
  obtain ⟨caller, hother⟩ := hwriting
  by_cases hsame : other = thread
  · subst hsame
    rw [LoggerState.after_threads_self] at hother
    replace hother : phase = .logWrites caller := hother
    rw [hother] at hphase
    exact hphase.elim
  · rw [LoggerState.after_threads_of_ne state hsame] at hother
    exact ⟨caller, hother⟩

/-- A thread that is writing after a step was so before and did not take it, or got there from the
test of the log file. -/
theorem loggerNext_writing {state successor : LoggerState Thread} {label : LoggerLabel Thread}
    (hnext : loggerNext state label = some successor) {writer : Thread}
    (hwriting : successor.Writing writer) :
    (state.Writing writer ∧ ∀ succeeds, label ≠ .step writer succeeds) ∨
      ∃ succeeds caller, label = .step writer succeeds ∧
        (state.threads writer).phase = .logTestsFile caller := by
  rcases loggerNext_cases hnext with ⟨thread, phase, hlabel, hcall, hphase⟩ |
    ⟨thread, succeeds, logger, moved, rfl, hstep, rfl⟩
  · exact Or.inl ⟨state.call_writing hcall hphase hwriting, hlabel writer⟩
  · obtain ⟨caller, hmoved⟩ := hwriting
    by_cases hsame : writer = thread
    · subst hsame
      rw [LoggerState.after_threads_self] at hmoved
      obtain ⟨⟨before, hbefore⟩, -, -⟩ := loggerStep_writing hstep hmoved
      exact Or.inr ⟨succeeds, before, rfl, hbefore⟩
    · rw [LoggerState.after_threads_of_ne state hsame] at hmoved
      exact Or.inl ⟨⟨caller, hmoved⟩, fun _ hstepper ↦
        hsame (LoggerLabel.step.inj hstepper).1.symm⟩

/-- A thread that is writing goes on to be so while it takes no step. -/
theorem loggerNext_still_writing {state successor : LoggerState Thread}
    {label : LoggerLabel Thread} (hnext : loggerNext state label = some successor)
    {writer : Thread} (hwriting : state.Writing writer)
    (hother : ∀ succeeds, label ≠ .step writer succeeds) : successor.Writing writer := by
  obtain ⟨caller, hphase⟩ := hwriting
  rcases loggerNext_cases hnext with ⟨thread, phase, -, hcall, -⟩ |
    ⟨thread, succeeds, logger, moved, rfl, -, rfl⟩
  · unfold LoggerState.call at hcall
    split_ifs at hcall with houtside
    obtain rfl := Option.some.inj hcall
    have hne : writer ≠ thread := by
      rintro rfl
      rw [hphase] at houtside
      cases houtside
    exact ⟨caller, by rw [LoggerState.after_threads_of_ne state hne, hphase]⟩
  · have hne : writer ≠ thread := by
      rintro rfl
      exact hother succeeds rfl
    exact ⟨caller, by rw [LoggerState.after_threads_of_ne state hne, hphase]⟩

/-! ### The stream -/

/-- The file is the lines of the messages written; the buffer is empty and, while a thread is
writing its line, the pieces of it that the thread has written, whole if none of these writes
failed. -/
structure StreamWhole (state : LogFileState Thread Message) : Prop where
  written : LinesOf state.log state.file
  idle : (∀ thread, ¬ state.base.Writing thread) → state.buffer = []
  writing : ∀ thread, state.base.Writing thread →
    ∃ part, (state.entries thread).pieces = part ++ state.pending thread ∧
      state.buffer.map Written.item = part.map (Prod.mk thread) ∧
      (state.unbroken thread = true → ∀ written ∈ state.buffer, written.whole = true)

omit [DecidableEq Thread] in
/-- There is nothing to flush in an empty buffer. -/
theorem LogFileState.flush_of_empty {state : LogFileState Thread Message}
    (hempty : state.buffer = []) (succeeds : Bool) : state.flush succeeds = state := by
  rw [LogFileState.flush, hempty, afterWrite_nil, List.append_nil, ← hempty]

omit [DecidableEq Thread] in
/-- What is written and was whole is whole after a write that succeeds. -/
theorem whole_afterWrite {pieces : List (Written Thread Message)} {unbroken succeeds : Bool}
    (hwhole : unbroken = true → ∀ written ∈ pieces, written.whole = true)
    (hsucceeds : (unbroken && succeeds) = true) :
    ∀ written ∈ afterWrite succeeds pieces, written.whole = true := by
  obtain ⟨hunbroken, rfl⟩ := Bool.and_eq_true_iff.mp hsucceeds
  exact hwhole hunbroken

namespace StreamWhole

variable {state successor : LogFileState Thread Message}

/-- A step of a thread that is not testing the log file or writing keeps the stream whole, if it
leaves the messages of the writers. -/
theorem quiet (hwhole : StreamWhole state) {base : LoggerState Thread}
    {label : LoggerLabel Thread} (hnext : loggerNext state.base label = some base)
    (hwriter : ∀ thread succeeds, label = .step thread succeeds → ∀ caller,
      (state.base.threads thread).phase ≠ .logTestsFile caller ∧
        (state.base.threads thread).phase ≠ .logWrites caller)
    {texts : Thread → Message} {entries : Thread → LogEntry Message}
    (hentries : ∀ thread, state.base.Writing thread → entries thread = state.entries thread) :
    StreamWhole { state with base := base, texts := texts, entries := entries } := by
  have hiff (thread : Thread) : base.Writing thread ↔ state.base.Writing thread := by
    constructor
    · intro hwriting
      rcases loggerNext_writing hnext hwriting with
        ⟨hbefore, -⟩ | ⟨succeeds, caller, hlabel, hphase⟩
      · exact hbefore
      · exact absurd hphase (hwriter thread succeeds hlabel caller).1
    · intro hbefore
      refine loggerNext_still_writing hnext hbefore fun succeeds hlabel ↦ ?_
      obtain ⟨caller, hphase⟩ := hbefore
      exact (hwriter thread succeeds hlabel caller).2 hphase
  refine ⟨hwhole.written, fun hnone ↦ ?_, fun thread hthread ↦ ?_⟩
  · exact hwhole.idle fun thread hthread ↦ hnone thread ((hiff thread).mpr hthread)
  · have hbefore := (hiff thread).mp hthread
    obtain ⟨part, hpieces, hstream⟩ := hwhole.writing thread hbefore
    exact ⟨part, (congrArg LogEntry.pieces (hentries thread hbefore)).trans hpieces, hstream⟩

/-- A thread that has tested the log file with the mutex may begin its line. -/
theorem begins (hwhole : StreamWhole state) (hlocked : WritesLocked state.base)
    {base : LoggerState Thread} {thread : Thread} {succeeds : Bool} {caller : LogCaller}
    (hnext : loggerNext state.base (.step thread succeeds) = some base)
    (hphase : (state.base.threads thread).phase = .logTestsFile caller) :
    StreamWhole { state with
      base := base
      pending := Function.update state.pending thread (state.entries thread).pieces
      unbroken := Function.update state.unbroken thread true } := by
  have hnobody : ∀ other, ¬ state.base.Writing other := by
    intro other hwriting
    have hholds : (state.base.threads thread).phase.MayHold := by
      rw [hphase]
      trivial
    obtain rfl := hlocked.eq_of_writing hwriting hholds
    obtain ⟨otherCaller, hother⟩ := hwriting
    rw [hphase] at hother
    cases hother
  have hbuffer := hwhole.idle hnobody
  refine ⟨hwhole.written, fun _ ↦ hbuffer, fun writer hwriting ↦ ⟨[], ?_, ?_, fun _ ↦ ?_⟩⟩
  · rcases loggerNext_writing hnext hwriting with ⟨hbefore, -⟩ | ⟨_, _, hlabel, -⟩
    · exact absurd hbefore (hnobody writer)
    · obtain rfl := (LoggerLabel.step.inj hlabel).1
      dsimp only
      rw [Function.update_self, List.nil_append]
  · dsimp only
    rw [hbuffer, List.map_nil, List.map_nil]
  · dsimp only
    rw [hbuffer]
    exact fun _ hmem ↦ absurd hmem List.not_mem_nil

/-- The thread that is writing writes its next piece, or a part of it. -/
theorem writes (hwhole : StreamWhole state) (hlocked : WritesLocked state.base) {thread : Thread}
    {piece : LogPiece Message} {rest : List (LogPiece Message)} (succeeds : Bool)
    (hwriting : state.base.Writing thread) (hpending : state.pending thread = piece :: rest) :
    StreamWhole { state with
      pending := Function.update state.pending thread rest
      unbroken := Function.update state.unbroken thread (state.unbroken thread && succeeds)
      buffer := afterWrite succeeds state.buffer ++
        [{ thread := thread, piece := piece, whole := succeeds }] } := by
  refine ⟨hwhole.written, fun hnone ↦ absurd hwriting (hnone thread), fun writer hwriter ↦ ?_⟩
  obtain rfl : writer = thread :=
    hlocked.eq_of_writing hwriting (LoggerState.Writing.mayHold hwriter)
  obtain ⟨part, hpieces, hstream, hunbroken⟩ := hwhole.writing writer hwriting
  refine ⟨part ++ [piece], ?_, ?_, fun hsucceeds written hmem ↦ ?_⟩
  · dsimp only
    rw [hpieces, hpending, Function.update_self, List.append_assoc, List.singleton_append]
  · dsimp only
    rw [List.map_append, afterWrite_item, hstream, List.map_append]
    rfl
  · dsimp only at hsucceeds hmem
    rw [Function.update_self] at hsucceeds
    rcases List.mem_append.mp hmem with hbefore | hlast
    · exact whole_afterWrite hunbroken hsucceeds written hbefore
    · rw [List.mem_singleton.mp hlast]
      exact (Bool.and_eq_true_iff.mp hsucceeds).2

/-- The thread that has written its line flushes it. -/
theorem flushes (hwhole : StreamWhole state) (hlocked : WritesLocked state.base)
    {base : LoggerState Thread} {thread : Thread} {succeeds : Bool}
    (hnext : loggerNext state.base (.step thread succeeds) = some base)
    (hwriting : state.base.Writing thread) (hpending : state.pending thread = []) :
    StreamWhole { state.flush succeeds with
      base := base
      log := state.log ++ [{ thread := thread, entry := state.entries thread,
                             whole := state.unbroken thread && succeeds }] } := by
  obtain ⟨part, hpieces, hstream, hunbroken⟩ := hwhole.writing thread hwriting
  rw [hpending, List.append_nil] at hpieces
  refine ⟨hwhole.written.append ⟨?_, fun hsucceeds ↦ ?_⟩, fun _ ↦ rfl, fun writer hwriter ↦ ?_⟩
  · rw [afterWrite_item, hstream, hpieces]
  · exact whole_afterWrite hunbroken hsucceeds
  · exfalso
    rcases loggerNext_writing hnext hwriter with ⟨hbefore, hother⟩ | ⟨_, caller, hlabel, hphase⟩
    · obtain rfl := hlocked.eq_of_writing hwriting hbefore.mayHold
      exact hother succeeds rfl
    · obtain rfl := (LoggerLabel.step.inj hlabel).1
      obtain ⟨other, hother⟩ := hwriting
      rw [hphase] at hother
      cases hother

/-- Where `logger_init` opens the file and where `logger_destroy` closes it the buffer is empty. -/
theorem buffer_empty (hwhole : StreamWhole state) (hlocked : WritesLocked state.base)
    {thread : Thread} {succeeds : Bool} (halone : InitsAlone state.base (.step thread succeeds))
    (hphase : (state.base.threads thread).phase = .initOpens ∨
      (state.base.threads thread).phase = .destroyCloses) : state.buffer = [] := by
  refine hwhole.idle fun writer hwriting ↦ ?_
  obtain ⟨caller, hwriter⟩ := hwriting
  have hsame : thread = writer := by
    rcases hphase with hopens | hcloses
    · by_contra hne
      have hoff := halone.1 (.inr hopens) writer (Ne.symm hne)
      rw [hwriter] at hoff
      cases hoff
    · exact hlocked.eq_of_writing ⟨caller, hwriter⟩ (by rw [hcloses]; trivial)
  rw [hsame, hwriter] at hphase
  rcases hphase with hopens | hcloses
  · cases hopens
  · cases hcloses

/-- Every step keeps the stream whole while the writes are locked. -/
theorem step (hwhole : StreamWhole state) (hlocked : WritesLocked state.base) {thread : Thread}
    {succeeds : Bool} (halone : InitsAlone state.base (.step thread succeeds))
    (hnext : state.step thread succeeds = some successor) : StreamWhole successor := by
  unfold LogFileState.step at hnext
  have hquiet {base : LoggerState Thread}
      (hbase : loggerNext state.base (.step thread succeeds) = some base)
      (hphase : ∀ caller, (state.base.threads thread).phase ≠ .logTestsFile caller ∧
        (state.base.threads thread).phase ≠ .logWrites caller) :
      StreamWhole { state with base := base } := by
    refine hwhole.quiet hbase (fun other _ hlabel before ↦ ?_) fun _ _ ↦ rfl
    obtain rfl := (LoggerLabel.step.inj hlabel).1
    exact hphase before
  cases hphase : (state.base.threads thread).phase with
  | initOpens =>
    simp only [hphase] at hnext
    obtain ⟨base, hbase, rfl⟩ := Option.map_eq_some_iff.mp hnext
    rw [← hwhole.buffer_empty hlocked halone (.inl hphase)]
    exact hquiet hbase fun _ ↦ by simp [hphase]
  | destroyCloses =>
    simp only [hphase] at hnext
    obtain ⟨base, hbase, rfl⟩ := Option.map_eq_some_iff.mp hnext
    rw [LogFileState.flush_of_empty (hwhole.buffer_empty hlocked halone (.inr hphase))]
    exact hquiet hbase fun _ ↦ by simp [hphase]
  | logTests caller level =>
    simp only [hphase] at hnext
    obtain ⟨base, hbase, rfl⟩ := Option.map_eq_some_iff.mp hnext
    refine hwhole.quiet hbase (fun other _ hlabel before ↦ ?_) fun other hother ↦ ?_
    · obtain rfl := (LoggerLabel.step.inj hlabel).1
      rw [hphase]
      exact ⟨LoggerPhase.noConfusion, LoggerPhase.noConfusion⟩
    · have hne : other ≠ thread := by
        rintro rfl
        obtain ⟨before, hbefore⟩ := hother
        rw [hphase] at hbefore
        cases hbefore
      exact Function.update_of_ne hne _ _
  | logTestsFile caller =>
    simp only [hphase] at hnext
    obtain ⟨base, hbase, rfl⟩ := Option.map_eq_some_iff.mp hnext
    exact hwhole.begins hlocked hbase hphase
  | logWrites caller =>
    simp only [hphase] at hnext
    cases hpending : state.pending thread with
    | cons piece rest =>
      simp only [hpending] at hnext
      obtain rfl := Option.some.inj hnext
      exact hwhole.writes hlocked succeeds ⟨caller, hphase⟩ hpending
    | nil =>
      simp only [hpending] at hnext
      obtain ⟨base, hbase, rfl⟩ := Option.map_eq_some_iff.mp hnext
      exact hwhole.flushes hlocked hbase ⟨caller, hphase⟩ hpending
  | _ =>
    simp only [hphase] at hnext
    obtain ⟨base, hbase, rfl⟩ := Option.map_eq_some_iff.mp hnext
    exact hquiet hbase fun _ ↦ by simp [hphase]

/-- Every step of the threads keeps the stream whole while the writes are locked. -/
theorem next (hwhole : StreamWhole state) (hlocked : WritesLocked state.base)
    {label : LoggerLabel Thread × Message} (halone : LeavesInitsAlone state label)
    (hnext : logFileNext state label = some successor) : StreamWhole successor := by
  obtain ⟨label, message⟩ := label
  cases label with
  | step thread succeeds => exact hwhole.step hlocked halone hnext
  | init thread | destroy thread | setLevel thread level | log thread level =>
    obtain ⟨base, hbase, rfl⟩ := Option.map_eq_some_iff.mp hnext
    refine hwhole.quiet hbase (fun _ _ hlabel ↦ ?_) fun _ _ ↦ rfl
    cases hlabel

end StreamWhole

/-! ### Every run -/

/-- A step is one of the logger, or writes a piece and leaves the logger as it is. -/
theorem logFileNext_base {state successor : LogFileState Thread Message}
    {label : LoggerLabel Thread × Message} (hnext : logFileNext state label = some successor) :
    successor.base = state.base ∨ loggerNext state.base label.1 = some successor.base := by
  obtain ⟨label, message⟩ := label
  cases label with
  | init thread | destroy thread | setLevel thread level | log thread level =>
    obtain ⟨base, hbase, rfl⟩ := Option.map_eq_some_iff.mp hnext
    exact Or.inr hbase
  | step thread succeeds =>
    simp only [logFileNext, LogFileState.step] at hnext
    cases hphase : (state.base.threads thread).phase with
    | logWrites caller =>
      simp only [hphase] at hnext
      cases hpending : state.pending thread with
      | cons piece rest =>
        simp only [hpending] at hnext
        obtain rfl := Option.some.inj hnext
        exact Or.inl rfl
      | nil =>
        simp only [hpending] at hnext
        obtain ⟨base, hbase, rfl⟩ := Option.map_eq_some_iff.mp hnext
        exact Or.inr hbase
    | _ =>
      simp only [hphase] at hnext
      obtain ⟨base, hbase, rfl⟩ := Option.map_eq_some_iff.mp hnext
      exact Or.inr hbase

/-- In every run that leaves `logger_init` alone, the writes are locked and the stream is whole. -/
theorem streamWhole_of_reachable {state : LogFileState Thread Message}
    (hreach : (logFileSystem Thread Message).ReachableUnder LeavesInitsAlone state) :
    WritesLocked state.base ∧ StreamWhole state := by
  induction hreach with
  | @initial start hinitial =>
    obtain ⟨hbase, hfile, hbuffer, hlog⟩ := hinitial
    have hstart : start.base = _ := hbase
    refine ⟨⟨?_, ?_, ?_, ?_, ?_, ?_⟩, ?_, fun _ ↦ hbuffer, fun thread hwriting ↦ ?_⟩
    · rw [hstart]
      exact fun _ _ ↦ trivial
    · rw [hstart]
      exact fun _ ↦ rfl
    · rw [hstart]
      exact fun _ _ ↦ rfl
    · rw [hstart]
      exact DestroyableMutex.counted_intact
    · rw [hstart]
      exact fun _ _ _ ↦ rfl
    · rw [hstart]
      exact fun _ ↦ ⟨LoggerPhase.noConfusion, LoggerPhase.noConfusion⟩
    · rw [hfile, hlog]
      exact ⟨[], .nil, rfl⟩
    · obtain ⟨caller, hphase⟩ := hwriting
      rw [hstart] at hphase
      cases hphase
  | step hbefore halone hnext ih =>
    refine ⟨?_, ih.2.next ih.1 halone hnext⟩
    rcases logFileNext_base hnext with hsame | hbase
    · rw [hsame]
      exact ih.1
    · exact ih.1.next halone hbase

/-- The lines of the log file are never mixed: as long as no other thread is inside a call where
`logger_init` makes the mutex anew and opens the file, with a mutex that is not destroyed, the file
is the lines of the messages written, in order, each whole unless one of its own writes failed; and
the buffer is a beginning of the line of the thread that holds the mutex, and empty while the mutex
is free. -/
theorem log_lines_whole {state : LogFileState Thread Message}
    (hreach : (logFileSystem Thread Message).ReachableUnder LeavesInitsAlone state) :
    LinesOf state.log state.file ∧
      (state.base.logger.mutex.holder = none → state.buffer = []) ∧
      ∀ holder, state.base.logger.mutex.holder = some holder →
        ∃ part, part <+: (state.entries holder).pieces ∧
          state.buffer.map Written.item = part.map (Prod.mk holder) := by
  obtain ⟨hlocked, hwhole⟩ := streamWhole_of_reachable hreach
  refine ⟨hwhole.written, fun hfree ↦ hwhole.idle fun writer hwriting ↦ ?_, fun holder hholder ↦ ?_⟩
  · rw [hlocked.holder_of_writing hwriting] at hfree
    cases hfree
  · by_cases hwriting : state.base.Writing holder
    · obtain ⟨part, hpieces, hstream, -⟩ := hwhole.writing holder hwriting
      exact ⟨part, ⟨state.pending holder, hpieces.symm⟩, hstream⟩
    · -- the holder is not writing, and nobody else is
      refine ⟨[], List.nil_prefix, ?_⟩
      rw [List.map_nil, List.map_eq_nil_iff]
      refine hwhole.idle fun writer hwriter ↦ hwriting ?_
      have hsame := (hlocked.holder_of_writing hwriter).symm.trans hholder
      rwa [← Option.some.inj hsame]

/-- A thread that has opened the log file, and failed to write the text of the message about it,
writes the header of its next line while another one waits for the mutex. -/
theorem log_lines_whole_half_written : ∃ state : LogFileState Bool ℕ,
    state.file.map Written.item = [(true, .header LOG_INFO), (true, .text (.own .initDone)),
      (true, .newline)] ∧
    state.file.map Written.whole = [false, false, true] ∧ LinesOf state.log state.file ∧
    state.buffer.map Written.item = [(true, .header LOG_ERROR)] ∧
    ∃ part, part <+: (state.entries true).pieces ∧
      state.buffer.map Written.item = part.map (Prod.mk true) := by
  obtain ⟨final, hrun, hmutex, hfile, hcut, hbuffer⟩ : ∃ final,
      (logFileSystem Bool ℕ).runUnder LeavesInitsAlone
        { base :=
            { logger := { logFile := false, mutex := .intact, level := LOG_DEBUG }
              threads := fun _ ↦ { phase := .outside, holds := false } }
          texts := fun _ ↦ 0
          entries := fun _ ↦ { level := 0, text := .given 0 }
          pending := fun _ ↦ []
          unbroken := fun _ ↦ true
          file := []
          buffer := []
          log := [] }
        [(.init true, 0), (.step true true, 0), (.step true true, 0), (.step true true, 0),
          (.step true true, 0), (.step true true, 0), (.step true true, 0), (.step true true, 0),
          (.step true true, 0), (.step true true, 0), (.step true false, 0), (.step true true, 0),
          (.step true true, 0), (.step true true, 0), (.log true LOG_ERROR, 7),
          (.step true true, 0), (.step true true, 0), (.step true true, 0), (.step true true, 0),
          (.log false LOG_ERROR, 9), (.step false true, 0), (.step false true, 0),
          (.step true true, 0)] = some final ∧
        final.base.logger.mutex.holder = some true ∧
        final.file.map Written.item = [(true, .header LOG_INFO), (true, .text (.own .initDone)),
          (true, .newline)] ∧
        final.file.map Written.whole = [false, false, true] ∧
        final.buffer.map Written.item = [(true, .header LOG_ERROR)] :=
    ⟨_, rfl, rfl, rfl, rfl, rfl⟩
  have hreach : (logFileSystem Bool ℕ).ReachableUnder LeavesInitsAlone final := by
    refine .runUnder _ (.initial ?_) hrun
    exact ⟨rfl, rfl, rfl, rfl⟩
  obtain ⟨hlines, -, hheld⟩ := log_lines_whole hreach
  exact ⟨final, hfile, hcut, hlines, hbuffer, hheld true hmutex⟩

end Bme680.Logging
