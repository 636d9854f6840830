import Bme680.FifoData
import Bme680.Concurrency.RingBuffer
import Bme680.Concurrency.ThreadTally
import Bme680.Deadlock.DeadlockDetector
import Bme680.ReadWriteLock.Sections

/-!
# The sensor monitor

`monitor.c` keeps sensor records in a ring buffer under one mutex. A write waits on `not_full`
while the ring is full, a read on `not_empty` while it is empty; both ask the deadlock detector
before they lock the mutex and report to it after unlocking it.

The first part translates the two calls section by section, each section between two points at
which the mutex is released. An access outside the array and a remainder by zero give a section no
result. The read-write lock of the monitor is only used under the mutex, so that its lock calls
run alone; what they return is ignored.

The second part is the system of any number of threads calling the two functions. Besides the
monitor and the positions of the threads, its states record what a run did: the records of the
writes and reads that succeeded, the threads whose call changed the ring, and whether a section had
no result.
-/

set_option autoImplicit false
set_option relaxedAutoImplicit false

namespace Bme680.Monitor

open Concurrency Deadlock ReadWriteLock

/-! ### The monitor -/

/-- `struct bme680_monitor`. -/
structure Bme680Monitor (Thread : Type*) where
  data : List Bme680FifoData
  head : ℤ
  tail : ℤ
  size : ℤ
  count : ℤ
  rwlock : Rwlock
  dd : DeadlockDetector Thread 2

variable {Thread : Type*}

/-- `bme680_monitor_init`, given whether the two allocations succeed and what the memory they
return holds. `rwlock_init` and `deadlock_detector_init` assign what they set up to their own
parameters, so that the monitor keeps a lock and a detector as the memory holds them. -/
def bme680MonitorInit (size : ℤ) (allocated dataAllocated : Bool)
    (memory : Bme680Monitor Thread) (dataMemory : Fin size.toNat → Bme680FifoData) :
    Except ℤ (Bme680Monitor Thread) :=
  if ¬ allocated then .error (-ENOMEM)
  else if ¬ dataAllocated then .error (-ENOMEM)
  else .ok { memory with
    data := List.ofFn dataMemory
    size := size
    head := 0
    tail := 0
    count := 0 }

/-- The ring buffer of a monitor. -/
def Bme680Monitor.ring (monitor : Bme680Monitor Thread) : RingBuffer Bme680FifoData where
  slots := monitor.data
  head := monitor.head
  tail := monitor.tail
  size := monitor.size
  count := monitor.count

/-- The range test of `bme680_monitor_write`. -/
def InvalidSensorData (data : Bme680FifoData) : Prop :=
  data.temp < -40 ∨ data.temp > 85 ∨ data.pressure < 30000 ∨ data.pressure > 110000 ∨
    data.humidity < 0 ∨ data.humidity > 100

instance : DecidablePred InvalidSensorData :=
  fun _ ↦ inferInstanceAs (Decidable (_ ∨ _))

/-! ### The sections of the two calls -/

/-- The end of a section: the monitor it leaves, whether the call sleeps or returns, and the record
it stored where the caller asked for it. -/
structure MonitorSection (Thread : Type*) where
  monitor : Bme680Monitor Thread
  ending : SectionEnd
  received : Option Bme680FifoData

/-- The end of a section that leaves the monitor as it is. -/
def Bme680Monitor.leftBy (monitor : Bme680Monitor Thread) (ending : SectionEnd) :
    MonitorSection Thread :=
  { monitor := monitor, ending := ending, received := none }

/-- A lock call of the monitor's read-write lock from the end of its first section, given what its
waits return; a wait after these times out. -/
def rwlockLockAlone (mode : LockMode) : Rwlock × SectionEnd → List ℕ → Rwlock
  | (rwlock, .returns _), _ => rwlock
  | (rwlock, .sleeps), [] => (rwlockWoken mode rwlock ETIMEDOUT).1
  | (rwlock, .sleeps), ret :: rest => rwlockLockAlone mode (rwlockWoken mode rwlock ret) rest

/-- `bme680_monitor_write` from the head of its wait loop. -/
def bme680MonitorWriteLoop (monitor : Bme680Monitor Thread) (data : Bme680FifoData)
    (rwlockWaits : List ℕ) : Option (MonitorSection Thread) :=
  if monitor.count = monitor.size then some (monitor.leftBy .sleeps)
  else if monitor.count < 0 ∨ monitor.count > monitor.size then
    some (monitor.leftBy (.returns (-EINVAL)))
  else
    let rwlock := rwlockLockAlone .write (rwlockWrlock monitor.rwlock) rwlockWaits
    (setElement monitor.data monitor.tail data).bind fun stored ↦
      (remainder (monitor.tail + 1) monitor.size).map fun tail ↦
        { monitor := { monitor with
            data := stored
            tail := tail
            count := monitor.count + 1
            rwlock := (rwlockUnlock rwlock).1 }
          ending := .returns 0
          received := none }

/-- `bme680_monitor_read` from the head of its wait loop. -/
def bme680MonitorReadLoop (monitor : Bme680Monitor Thread) (rwlockWaits : List ℕ) :
    Option (MonitorSection Thread) :=
  if monitor.count = 0 then some (monitor.leftBy .sleeps)
  else if monitor.count < 0 ∨ monitor.count > monitor.size then
    some (monitor.leftBy (.returns (-EINVAL)))
  else
    let rwlock := rwlockLockAlone .read (rwlockRdlock monitor.rwlock) rwlockWaits
    (element monitor.data monitor.head).bind fun data ↦
      (remainder (monitor.head + 1) monitor.size).map fun head ↦
        { monitor := { monitor with
            head := head
            count := monitor.count - 1
            rwlock := (rwlockUnlock rwlock).1 }
          ending := .returns 0
          received := some data }

/-- `bme680_monitor_write` from the return `ret` of `pthread_cond_timedwait`. -/
def bme680MonitorWriteWoken (monitor : Bme680Monitor Thread) (data : Bme680FifoData) (ret : ℕ)
    (rwlockWaits : List ℕ) : Option (MonitorSection Thread) :=
  if ret = ETIMEDOUT then some (monitor.leftBy (.returns (-ETIMEDOUT)))
  else if ret ≠ 0 then some (monitor.leftBy (.returns ret))
  else bme680MonitorWriteLoop monitor data rwlockWaits

/-- `bme680_monitor_read` from the return `ret` of `pthread_cond_timedwait`. -/
def bme680MonitorReadWoken (monitor : Bme680Monitor Thread) (ret : ℕ) (rwlockWaits : List ℕ) :
    Option (MonitorSection Thread) :=
  if ret = ETIMEDOUT then some (monitor.leftBy (.returns (-ETIMEDOUT)))
  else if ret ≠ 0 then some (monitor.leftBy (.returns ret))
  else bme680MonitorReadLoop monitor rwlockWaits

section Calls

variable [DecidableEq Thread]

/-- `bme680_monitor_write` up to locking the mutex, given whether the detector's mutex was obtained
in time: zero where it goes on to lock it, or the code it returns. -/
def bme680MonitorWrite (monitor : Bme680Monitor Thread) (thread : Thread) (data : Bme680FifoData)
    (obtained : Bool) : Bme680Monitor Thread × ℤ :=
  if InvalidSensorData data then (monitor, -EINVAL)
  else
    let result := deadlockDetectorLock monitor.dd thread 0 obtained
    ({ monitor with dd := result.1 }, if result.2 ≠ 0 then -EDEADLK else 0)

/-- `bme680_monitor_read` up to locking the mutex, given whether the detector's mutex was obtained
in time: zero where it goes on to lock it, or the code it returns. -/
def bme680MonitorRead (monitor : Bme680Monitor Thread) (thread : Thread) (obtained : Bool) :
    Bme680Monitor Thread × ℤ :=
  let result := deadlockDetectorLock monitor.dd thread 1 obtained
  ({ monitor with dd := result.1 }, if result.2 ≠ 0 then -EDEADLK else 0)

end Calls

/-! ### The two calls together -/

/-- A call of one of the two functions, with the record it is given. -/
inductive MonitorCall
  | write (data : Bme680FifoData)
  | read
  deriving DecidableEq

/-- The two sides of the monitor. -/
inductive MonitorRole
  | writer
  | reader
  deriving DecidableEq, Repr

/-- The side of the monitor a call waits on. -/
def MonitorCall.role : MonitorCall → MonitorRole
  | .write _ => .writer
  | .read => .reader

/-- The side a successful call signals. -/
def MonitorRole.other : MonitorRole → MonitorRole
  | .writer => .reader
  | .reader => .writer

/-- The number a call gives the monitor's mutex towards the detector. -/
def MonitorCall.mutexId : MonitorCall → ℤ
  | .write _ => 0
  | .read => 1

/-- A call up to locking the mutex. -/
def monitorEnter [DecidableEq Thread] (monitor : Bme680Monitor Thread) (thread : Thread)
    (obtained : Bool) : MonitorCall → Bme680Monitor Thread × ℤ
  | .write data => bme680MonitorWrite monitor thread data obtained
  | .read => bme680MonitorRead monitor thread obtained

/-- A call from the return of `pthread_cond_timedwait`. A call that has just locked the mutex goes
on as one whose wait returned zero. -/
def monitorWoken (monitor : Bme680Monitor Thread) (ret : ℕ) (rwlockWaits : List ℕ) :
    MonitorCall → Option (MonitorSection Thread)
  | .write data => bme680MonitorWriteWoken monitor data ret rwlockWaits
  | .read => bme680MonitorReadWoken monitor ret rwlockWaits

/-! ### The threads -/

/-- Where a thread is: outside the monitor, about to lock the mutex, asleep or made awake in the
wait loop, or past unlocking the mutex with the code its call returns. -/
inductive MonitorPhase
  | idle
  | entering (call : MonitorCall)
  | asleep (call : MonitorCall)
  | awake (call : MonitorCall)
  | leaving (call : MonitorCall) (ret : ℤ)
  deriving DecidableEq

/-- A thread using the monitor: where it is, the code its last call returned, and the record its
last successful read stored. -/
structure MonitorClient where
  phase : MonitorPhase
  lastReturn : ℤ
  received : Option Bme680FifoData
  deriving DecidableEq

namespace MonitorClient

/-- A thread that has not used the monitor. -/
def fresh : MonitorClient :=
  { phase := .idle, lastReturn := 0, received := none }

/-- The thread is asleep on the condition variable of a side. -/
def AsleepAs (role : MonitorRole) (client : MonitorClient) : Prop :=
  match client.phase with
  | .asleep call => call.role = role
  | _ => False

instance (role : MonitorRole) : DecidablePred (AsleepAs role) := fun client ↦ by
  unfold AsleepAs
  cases client.phase <;> infer_instance

/-- The thread made awake where it sleeps. -/
def awaken (client : MonitorClient) : MonitorClient :=
  match client.phase with
  | .asleep call => { client with phase := .awake call }
  | _ => client

/-- The thread after asking the detector: on its way to the mutex, or returned with a code. -/
def enter (client : MonitorClient) (call : MonitorCall) (ret : ℤ) : MonitorClient :=
  if ret = 0 then { client with phase := .entering call } else { client with lastReturn := ret }

/-- The thread at the end of a section of its call. -/
def finish (client : MonitorClient) (call : MonitorCall) (result : MonitorSection Thread) :
    MonitorClient :=
  match result.ending with
  | .sleeps => { client with phase := .asleep call }
  | .returns ret =>
    { client with phase := .leaving call ret, received := result.received.or client.received }

/-- The last call of the thread has come to return a code. -/
def Returned (client : MonitorClient) (ret : ℤ) : Prop :=
  client.phase = .idle ∧ client.lastReturn = ret ∨ ∃ call, client.phase = .leaving call ret

end MonitorClient

/-! ### The system -/

/-- The monitor and its threads, and of the run so far: the records of the writes and reads that
succeeded, the threads whose last call changed the ring, and whether a section had no result. -/
structure MonitorState (Thread : Type*) where
  monitor : Bme680Monitor Thread
  clients : Thread → MonitorClient
  history : FifoHistory Bme680FifoData
  changed : Thread → Bool
  fault : Bool

/-- The steps of a thread: calling one of the functions up to locking the mutex, checking the wait
condition under the mutex and what follows, a spurious wake-up, the return of a wait with an error
number, and reporting to the detector on the way out. `woken` is the sleeper a signal wakes. -/
inductive MonitorLabel (Thread : Type*)
  | call (thread : Thread) (call : MonitorCall) (obtained : Bool)
  | check (thread : Thread) (rwlockWaits : List ℕ) (woken : Option Thread)
  | spurious (thread : Thread)
  | giveUp (thread : Thread) (ret : ℕ)
  | leave (thread : Thread)

/-- The thread that takes a step. -/
def MonitorLabel.thread : MonitorLabel Thread → Thread
  | .call thread _ _ => thread
  | .check thread _ _ => thread
  | .spurious thread => thread
  | .giveUp thread _ => thread
  | .leave thread => thread

/-- The step begins a call. -/
def MonitorLabel.starts : MonitorLabel Thread → Bool
  | .call _ _ _ => true
  | _ => false

/-- The records of the successful calls after a section of a call. -/
def MonitorSection.record (result : MonitorSection Thread) (call : MonitorCall)
    (history : FifoHistory Bme680FifoData) : FifoHistory Bme680FifoData :=
  if result.ending = .returns 0 then
    match call with
    | .write data => history.put data
    | .read => { history with delivered := history.delivered ++ result.received.toList }
  else history

variable [Fintype Thread] [DecidableEq Thread]

/-- The threads after the signal of a section: a successful call signals the other side. -/
def wakeOther (call : MonitorCall) (ending : SectionEnd) (clients : Thread → MonitorClient)
    (woken : Option Thread) : Option (Thread → MonitorClient) :=
  if ending = .returns 0 then
    signal (MonitorClient.AsleepAs call.role.other) MonitorClient.awaken clients woken
  else some clients

/-- The state at the end of a section of the call of a thread. -/
def MonitorState.finish (state : MonitorState Thread) (thread : Thread) (call : MonitorCall)
    (woken : Option Thread) : Option (MonitorSection Thread) → Option (MonitorState Thread)
  | none => some { state with fault := true }
  | some result =>
    (wakeOther call result.ending
      (Function.update state.clients thread ((state.clients thread).finish call result))
      woken).map fun clients ↦
        { state with
          monitor := result.monitor
          clients := clients
          history := result.record call state.history }

/-- The state after a step of the code, where the step is possible. -/
def monitorStep (state : MonitorState Thread) : MonitorLabel Thread → Option (MonitorState Thread)
  | .call thread call obtained =>
    if (state.clients thread).phase = .idle then
      let result := monitorEnter state.monitor thread obtained call
      some { state with
        monitor := result.1
        clients := Function.update state.clients thread
          ((state.clients thread).enter call result.2) }
    else none
  | .check thread rwlockWaits woken =>
    match (state.clients thread).phase with
    | .entering call | .awake call =>
      state.finish thread call woken (monitorWoken state.monitor 0 rwlockWaits call)
    | _ => none
  | .spurious thread =>
    match (state.clients thread).phase with
    | .asleep _ =>
      some { state with
        clients := Function.update state.clients thread (state.clients thread).awaken }
    | _ => none
  | .giveUp thread ret =>
    match (state.clients thread).phase with
    | .asleep call =>
      if ret ≠ 0 then state.finish thread call none (monitorWoken state.monitor ret [] call)
      else none
    | _ => none
  | .leave thread =>
    match (state.clients thread).phase with
    | .leaving call ret =>
      some { state with
        monitor := { state.monitor with
          dd := (deadlockDetectorUnlock state.monitor.dd thread call.mutexId).1 }
        clients := Function.update state.clients thread
          { state.clients thread with phase := .idle, lastReturn := ret } }
    | _ => none

/-- The state after a step of the code, with the note whether the call of its thread has changed
the ring since it began. -/
def monitorNext (state : MonitorState Thread) (label : MonitorLabel Thread) :
    Option (MonitorState Thread) :=
  (monitorStep state label).map fun successor ↦
    { successor with
      changed := Function.update state.changed label.thread
        (decide (successor.monitor.ring ≠ state.monitor.ring) ||
          (!label.starts && state.changed label.thread)) }

/-- Threads that share a monitor initialized for a size. -/
def monitorSystem (Thread : Type*) [Fintype Thread] [DecidableEq Thread] (size : ℤ) :
    TransitionSystem (MonitorState Thread) (MonitorLabel Thread) where
  initial := fun state ↦
    (∃ allocated dataAllocated memory dataMemory,
      bme680MonitorInit size allocated dataAllocated memory dataMemory = .ok state.monitor) ∧
      (∀ thread, state.clients thread = .fresh) ∧
      state.history = { accepted := [], delivered := [] } ∧
      (∀ thread, state.changed thread = false) ∧ state.fault = false
  next := monitorNext

end Bme680.Monitor
