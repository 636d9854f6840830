import Bme680.ReadWriteLock.Sections
import Bme680.Concurrency.TransitionSystem
import Bme680.Concurrency.ThreadTally

/-!
# Threads using the read-write lock

The system of any number of threads calling `rwlock_rdlock`, `rwlock_wrlock` and `rwlock_unlock`
on one lock. Every section under the mutex is one step: a lock call up to its first wait, the
re-check of a thread that a signal, a broadcast or a spurious wake-up made awake, a timed wait
that fails while its thread is still asleep, and an unlock. A thread unlocks only a hold of its
own, obtained by a lock call that returned zero, and each hold once; it may hold the lock for
reading several times over.

`LockInvariant` ties the four counters to the threads: the active counts are the holds, the
waiting counts the threads inside the wait loops, and no reader is active beside a writer.
`lockInvariant_reachable` is the run lemma, and `rwlock_counters_sound` reads the safety of the
lock off it: whichever thread unlocks, the unlock releases a hold of the mode it was taken in, and
no call ends in an `Invalid rwlock state` branch, in the runs in which an `int` can count the holds.
-/

set_option autoImplicit false
set_option relaxedAutoImplicit false

namespace Bme680.ReadWriteLock

open Concurrency

/-! ### The system -/

/-- Where a thread is in the lock's code: outside, asleep on the condition variable of a mode, or
awake and about to re-check its wait condition. -/
inductive LockPhase
  | idle
  | asleep (mode : LockMode)
  | awake (mode : LockMode)
  deriving DecidableEq, Repr

/-- A thread using the lock: its phase, the holds it has for reading and for writing, and the
code its last call returned. -/
structure LockClient where
  phase : LockPhase
  readHolds : ℕ
  writeHolds : ℕ
  lastReturn : ℤ
  deriving DecidableEq, Repr

namespace LockClient

/-- A thread that has not used the lock. -/
def fresh : LockClient :=
  { phase := .idle, readHolds := 0, writeHolds := 0, lastReturn := 0 }

/-- The holds a thread has for a mode. -/
def holds (client : LockClient) : LockMode → ℕ
  | .read => client.readHolds
  | .write => client.writeHolds

/-- The thread with one hold more for a mode. -/
def hold (client : LockClient) : LockMode → LockClient
  | .read => { client with readHolds := client.readHolds + 1 }
  | .write => { client with writeHolds := client.writeHolds + 1 }

/-- The thread after an unlock that gave back a hold of a mode and returned a code. -/
def unlocked (client : LockClient) (ret : ℤ) : LockMode → LockClient
  | .read => { client with readHolds := client.readHolds - 1, lastReturn := ret }
  | .write => { client with writeHolds := client.writeHolds - 1, lastReturn := ret }

/-- The thread is suspended inside the wait loop of a mode. -/
def Waiting (mode : LockMode) (client : LockClient) : Prop :=
  client.phase = .asleep mode ∨ client.phase = .awake mode

instance (mode : LockMode) (client : LockClient) : Decidable (client.Waiting mode) :=
  inferInstanceAs (Decidable (_ ∨ _))

/-- The thread is asleep on the condition variable of a mode. -/
def Asleep (mode : LockMode) (client : LockClient) : Prop :=
  client.phase = .asleep mode

instance (mode : LockMode) : DecidablePred (Asleep mode) :=
  fun client ↦ inferInstanceAs (Decidable (client.phase = .asleep mode))

/-- The thread made awake in the wait loop of a mode. -/
def awaken (mode : LockMode) (client : LockClient) : LockClient :=
  { client with phase := .awake mode }

/-- The thread at the end of a section of its lock call. -/
def finish (client : LockClient) (mode : LockMode) : SectionEnd → LockClient
  | .sleeps => { client with phase := .asleep mode }
  | .returns ret =>
    { (if ret = 0 then client.hold mode else client) with phase := .idle, lastReturn := ret }

end LockClient

/-- The lock and the threads using it. -/
structure LockState (Thread : Type*) where
  lock : Rwlock
  clients : Thread → LockClient

/-- The steps of the threads. The mode of an unlock is the mode of the hold given back, and
`woken` the sleeper a signal wakes. -/
inductive LockLabel (Thread : Type*)
  | lock (thread : Thread) (mode : LockMode)
  | spurious (thread : Thread)
  | recheck (thread : Thread)
  | giveUp (thread : Thread) (ret : ℕ)
  | unlock (thread : Thread) (mode : LockMode) (woken : Option Thread)
  deriving DecidableEq

variable {Thread : Type*} [Fintype Thread] [DecidableEq Thread]

/-- The sleepers after the wake-up of an unlock. -/
def wakeSleepers (clients : Thread → LockClient) (woken : Option Thread) :
    Wakeup → Option (Thread → LockClient)
  | .nobody => some clients
  | .signalWriter => signal (LockClient.Asleep .write) (LockClient.awaken .write) clients woken
  | .broadcastReaders =>
    some (broadcast (LockClient.Asleep .read) (LockClient.awaken .read) clients)

omit [Fintype Thread] in
/-- The state at the end of a section of the lock call of a thread. -/
def LockState.finish (state : LockState Thread) (thread : Thread) (mode : LockMode)
    (result : Rwlock × SectionEnd) : LockState Thread :=
  { lock := result.1
    clients := Function.update state.clients thread
      ((state.clients thread).finish mode result.2) }

/-- One step of the lock's code, whatever the threads use the lock for. -/
def lockNext (state : LockState Thread) : LockLabel Thread → Option (LockState Thread)
  | .lock thread mode =>
    if (state.clients thread).phase = .idle then
      some (state.finish thread mode (rwlockLock mode state.lock))
    else none
  | .spurious thread =>
    match (state.clients thread).phase with
    | .asleep mode =>
      let client := (state.clients thread).awaken mode
      some { state with clients := Function.update state.clients thread client }
    | _ => none
  | .recheck thread =>
    match (state.clients thread).phase with
    | .awake mode => some (state.finish thread mode (rwlockWoken mode state.lock 0))
    | _ => none
  | .giveUp thread ret =>
    match (state.clients thread).phase with
    | .asleep mode =>
      if ret ≠ 0 then some (state.finish thread mode (rwlockWoken mode state.lock ret)) else none
    | _ => none
  | .unlock thread mode woken =>
    if (state.clients thread).phase = .idle then
      let result := rwlockUnlock state.lock
      let clients := Function.update state.clients thread
        ((state.clients thread).unlocked result.2.2 mode)
      (wakeSleepers clients woken result.2.1).map fun clients ↦
        { lock := result.1, clients := clients }
    else none

omit [Fintype Thread] [DecidableEq Thread] in
/-- A thread unlocks only a hold of its own. -/
def Matched (state : LockState Thread) : LockLabel Thread → Prop
  | .unlock thread mode _ => 0 < (state.clients thread).holds mode
  | _ => True

instance (state : LockState Thread) : DecidablePred (Matched state)
  | .unlock thread mode _ => inferInstanceAs (Decidable (0 < (state.clients thread).holds mode))
  | .lock _ _ => .isTrue trivial
  | .spurious _ => .isTrue trivial
  | .recheck _ => .isTrue trivial
  | .giveUp _ _ => .isTrue trivial

/-- One step of threads that unlock only holds of their own. -/
def matchedNext (state : LockState Thread) (label : LockLabel Thread) :
    Option (LockState Thread) :=
  if Matched state label then lockNext state label else none

theorem matchedNext_eq_some {state successor : LockState Thread} {label : LockLabel Thread} :
    matchedNext state label = some successor ↔
      Matched state label ∧ lockNext state label = some successor := by
  unfold matchedNext
  split_ifs with hmatched <;> simp [hmatched]

/-- The threads using one lock in matched pairs, all outside its code at first. -/
def rwlockSystem (Thread : Type*) [Fintype Thread] [DecidableEq Thread] :
    TransitionSystem (LockState Thread) (LockLabel Thread) where
  initial := fun state ↦
    rwlockInit true = .ok state.lock ∧ ∀ thread, state.clients thread = LockClient.fresh
  next := matchedNext

/-! ### What a step changes -/

namespace LockClient

@[simp] theorem holds_awaken (client : LockClient) (mode other : LockMode) :
    (client.awaken mode).holds other = client.holds other := by
  cases other <;> rfl

@[simp] theorem lastReturn_awaken (client : LockClient) (mode : LockMode) :
    (client.awaken mode).lastReturn = client.lastReturn := rfl

/-- A thread outside the lock's code waits in no mode. -/
theorem not_waiting_of_idle {client : LockClient} (hidle : client.phase = .idle)
    (mode : LockMode) : ¬ client.Waiting mode := by
  simp [Waiting, hidle]

/-- A thread awake or asleep in the wait loop of a mode waits in that mode alone. -/
theorem waiting_iff {client : LockClient} {mode : LockMode}
    (hphase : client.phase = .awake mode ∨ client.phase = .asleep mode) (other : LockMode) :
    client.Waiting other ↔ other = mode := by
  rcases hphase with hphase | hphase <;> simp [Waiting, hphase, eq_comm]

/-- Waking a sleeper keeps it inside its wait loop. -/
theorem waiting_awaken {client : LockClient} {mode : LockMode} (hasleep : client.Asleep mode)
    (other : LockMode) : (client.awaken mode).Waiting other ↔ client.Waiting other := by
  have hphase : client.phase = .asleep mode := hasleep
  simp [Waiting, awaken, hphase]

theorem holds_unlocked (client : LockClient) (ret : ℤ) (mode other : LockMode) :
    (client.unlocked ret mode).holds other =
      client.holds other - if other = mode then 1 else 0 := by
  cases mode <;> cases other <;> rfl

theorem phase_unlocked (client : LockClient) (ret : ℤ) (mode : LockMode) :
    (client.unlocked ret mode).phase = client.phase := by
  cases mode <;> rfl

theorem lastReturn_unlocked (client : LockClient) (ret : ℤ) (mode : LockMode) :
    (client.unlocked ret mode).lastReturn = ret := by
  cases mode <;> rfl

/-- The holds at the end of a section depend on the code it returns only. -/
theorem holds_finish (client : LockClient) (mode other : LockMode) (outcome : SectionEnd) :
    (client.finish mode outcome).holds other =
      client.holds other + if outcome = .returns 0 ∧ other = mode then 1 else 0 := by
  cases outcome with
  | sleeps => cases other <;> simp [finish, holds]
  | returns ret =>
    by_cases hret : ret = 0
    · cases mode <;> cases other <;> simp [finish, holds, hold, hret]
    · cases other <;> simp [finish, holds, hret]

/-- At the end of a section the thread is inside the wait loop exactly when it sleeps. -/
theorem waiting_finish (client : LockClient) (mode other : LockMode) (outcome : SectionEnd) :
    (client.finish mode outcome).Waiting other ↔ outcome = .sleeps ∧ other = mode := by
  cases outcome with
  | sleeps => simp [finish, Waiting, eq_comm]
  | returns ret => simp [finish, Waiting]

end LockClient

/-- The counters agree with the threads: the active counts are the holds and the waiting counts
the threads inside the wait loops. -/
structure Accounts (lock : Rwlock) (clients : Thread → LockClient) : Prop where
  active : ∀ mode : LockMode,
    mode.active lock = tally (fun client ↦ client.holds mode) clients
  waiting : ∀ mode : LockMode, mode.waiting lock = threadCount (LockClient.Waiting mode) clients

namespace Accounts

variable {lock : Rwlock} {clients : Thread → LockClient}

omit [DecidableEq Thread] in
/-- Counters that agree with the threads have no negative active count. -/
theorem valid (haccounts : Accounts lock clients) : lock.Valid := by
  have hreaders := haccounts.active .read
  have hwriters := haccounts.active .write
  simp only [LockMode.active] at hreaders hwriters
  constructor
  · rw [hreaders]
    exact Int.natCast_nonneg _
  · rw [hwriters]
    exact Int.natCast_nonneg _

omit [DecidableEq Thread] in
/-- Counters that agree with the threads have no negative waiting count. -/
theorem waiting_nonneg (haccounts : Accounts lock clients) (mode : LockMode) :
    0 ≤ mode.waiting lock := by
  rw [haccounts.waiting mode]
  exact Int.natCast_nonneg _

omit [DecidableEq Thread] in
/-- A thread inside the wait loop of a mode makes its waiting count positive. -/
theorem waiting_pos (haccounts : Accounts lock clients) {thread : Thread} {mode : LockMode}
    (hwaiting : (clients thread).Waiting mode) : 0 < mode.waiting lock := by
  have hcount : 0 < threadCount (LockClient.Waiting mode) clients :=
    threadCount_pos_iff.mpr ⟨thread, hwaiting⟩
  have hbefore := haccounts.waiting mode
  omega

/-- One thread moves and the counters follow its change of holds and of waiting. -/
theorem move (haccounts : Accounts lock clients) {after : Rwlock} {thread : Thread}
    {client : LockClient}
    (hactive : ∀ mode : LockMode, mode.active after + (clients thread).holds mode =
      mode.active lock + client.holds mode)
    (hwaiting : ∀ mode : LockMode,
      mode.waiting after + (if (clients thread).Waiting mode then 1 else 0) =
        mode.waiting lock + if client.Waiting mode then 1 else 0) :
    Accounts after (Function.update clients thread client) := by
  constructor
  · intro mode
    have htally := tally_update_add (fun client ↦ client.holds mode) clients thread client
    have hbefore := haccounts.active mode
    have hchange := hactive mode
    omega
  · intro mode
    have hcount := threadCount_update_add (LockClient.Waiting mode) clients thread client
    have hbefore := haccounts.waiting mode
    have hchange := hwaiting mode
    split_ifs at hcount hchange <;> omega

/-- Waking sleepers keeps the accounts. -/
theorem wake (haccounts : Accounts lock clients) {woken : Option Thread} {wakeup : Wakeup}
    {successors : Thread → LockClient}
    (hwake : wakeSleepers clients woken wakeup = some successors) :
    Accounts lock successors := by
  cases wakeup with
  | nobody =>
    obtain rfl : clients = successors := Option.some.inj hwake
    exact haccounts
  | signalWriter =>
    constructor
    · intro mode
      rw [haccounts.active mode, tally_signal (fun client : LockClient ↦ client.holds mode)
        (fun _ _ ↦ LockClient.holds_awaken _ _ _) hwake]
    · intro mode
      rw [haccounts.waiting mode, threadCount_signal (LockClient.Waiting mode)
        (fun _ hasleep ↦ LockClient.waiting_awaken hasleep mode) hwake]
  | broadcastReaders =>
    obtain rfl := Option.some.inj hwake
    constructor
    · intro mode
      rw [haccounts.active mode, tally_broadcast (fun client : LockClient ↦ client.holds mode)
        fun _ _ ↦ LockClient.holds_awaken _ _ _]
    · intro mode
      rw [haccounts.waiting mode, threadCount_broadcast (LockClient.Waiting mode)
        fun _ hasleep ↦ LockClient.waiting_awaken hasleep mode]

end Accounts

/-- A client after a wake-up is the one before it or a sleeper made awake. -/
theorem wakeSleepers_apply {clients successors : Thread → LockClient} {woken : Option Thread}
    {wakeup : Wakeup} (hwake : wakeSleepers clients woken wakeup = some successors)
    (thread : Thread) :
    successors thread = clients thread ∨ ∃ mode, (clients thread).Asleep mode ∧
      successors thread = (clients thread).awaken mode := by
  cases wakeup with
  | nobody =>
    obtain rfl : clients = successors := Option.some.inj hwake
    exact Or.inl rfl
  | signalWriter => exact (signal_apply hwake thread).imp_right fun hawake ↦ ⟨.write, hawake⟩
  | broadcastReaders =>
    obtain rfl := Option.some.inj hwake
    exact (broadcast_apply _ _ clients thread).imp And.right fun hawake ↦ ⟨.read, hawake⟩

/-! ### The invariant -/

/-- What every reachable state satisfies: the counters agree with the threads, a writer excludes
every other holder, the waiting counts stay within their limits, and no call returned through an
`Invalid rwlock state` branch. -/
structure LockInvariant (state : LockState Thread) : Prop where
  accounts : Accounts state.lock state.clients
  oneWriter : state.lock.activeWriters ≤ 1
  exclusive : state.lock.activeWriters = 0 ∨ state.lock.activeReaders = 0
  bounded : ∀ mode : LockMode, mode.waiting state.lock ≤ mode.maxWaiting
  returns : ∀ thread, (state.clients thread).lastReturn ≠ -EINVAL

/-- What a step can do to a lock in which a writer excludes every other holder. -/
inductive LockStep (state : LockState Thread) : LockLabel Thread → LockState Thread → Prop
  | refused {thread : Thread} {mode : LockMode} (hidle : (state.clients thread).phase = .idle)
      (hfull : mode.maxWaiting ≤ mode.waiting state.lock) :
      LockStep state (.lock thread mode)
        (state.finish thread mode (state.lock, .returns (-EAGAIN)))
  | sleeps {thread : Thread} {mode : LockMode} (hidle : (state.clients thread).phase = .idle)
      (hroom : mode.waiting state.lock < mode.maxWaiting) (hbusy : mode.Busy state.lock) :
      LockStep state (.lock thread mode)
        (state.finish thread mode (state.lock.addWaiting mode 1, .sleeps))
  | acquires {thread : Thread} {mode : LockMode} (hidle : (state.clients thread).phase = .idle)
      (hroom : mode.waiting state.lock < mode.maxWaiting) (hfree : ¬ mode.Busy state.lock) :
      LockStep state (.lock thread mode)
        (state.finish thread mode (state.lock.addActive mode 1, .returns 0))
  | spurious {thread : Thread} {mode : LockMode}
      (hasleep : (state.clients thread).phase = .asleep mode) :
      LockStep state (.spurious thread)
        { state with
          clients := Function.update state.clients thread
            ((state.clients thread).awaken mode) }
  | sleepsAgain {thread : Thread} {mode : LockMode}
      (hawake : (state.clients thread).phase = .awake mode) (hbusy : mode.Busy state.lock) :
      LockStep state (.recheck thread) (state.finish thread mode (state.lock, .sleeps))
  | acquiresAwake {thread : Thread} {mode : LockMode}
      (hawake : (state.clients thread).phase = .awake mode) (hfree : ¬ mode.Busy state.lock) :
      LockStep state (.recheck thread)
        (state.finish thread mode
          ((state.lock.addWaiting mode (-1)).addActive mode 1, .returns 0))
  | givesUp {thread : Thread} {mode : LockMode} {ret : ℕ}
      (hasleep : (state.clients thread).phase = .asleep mode) (hret : ret ≠ 0) :
      LockStep state (.giveUp thread ret)
        (state.finish thread mode
          (state.lock.addWaiting mode (-1), .returns (failureCode ret)))
  | unlocks {thread : Thread} {mode : LockMode} {woken : Option Thread}
      {clients : Thread → LockClient} (hidle : (state.clients thread).phase = .idle)
      (hheld : 0 < (state.clients thread).holds mode)
      (hwake : wakeSleepers (Function.update state.clients thread
        ((state.clients thread).unlocked 0 mode)) woken (mode.wakeup state.lock) =
          some clients) :
      LockStep state (.unlock thread mode woken)
        { lock := state.lock.addActive mode (-1), clients := clients }

namespace LockInvariant

variable {state successor : LockState Thread} {label : LockLabel Thread}

omit [DecidableEq Thread] in
/-- A thread that holds the lock in a mode makes the active count of the mode positive. -/
theorem active_pos (hinvariant : LockInvariant state) {thread : Thread} {mode : LockMode}
    (hheld : 0 < (state.clients thread).holds mode) : 0 < mode.active state.lock := by
  have hweight := le_tally (fun client : LockClient ↦ client.holds mode) state.clients thread
  have hactive := hinvariant.accounts.active mode
  omega

omit [DecidableEq Thread] in
/-- Whichever mode a thread holds the lock in, its unlock releases a hold of that mode. -/
theorem unlock_releases (hinvariant : LockInvariant state) {thread : Thread} {mode : LockMode}
    (hheld : 0 < (state.clients thread).holds mode) :
    rwlockUnlock state.lock =
      (state.lock.addActive mode (-1), mode.wakeup state.lock, 0) := by
  have hactive := hinvariant.active_pos hheld
  cases mode with
  | write => exact rwlockUnlock_writer hinvariant.accounts.valid hactive
  | read =>
    have hnowriter : state.lock.activeWriters = 0 :=
      hinvariant.exclusive.resolve_right hactive.ne'
    exact rwlockUnlock_reader hnowriter hactive

/-- Every step of the system is one of the listed ones. -/
theorem step_cases (hinvariant : LockInvariant state)
    (hmatchedNext : matchedNext state label = some successor) :
    LockStep state label successor := by
  have hvalid := hinvariant.accounts.valid
  obtain ⟨hmatched, hnext⟩ := matchedNext_eq_some.mp hmatchedNext
  cases label with
  | lock thread mode =>
    simp only [lockNext] at hnext
    split_ifs at hnext with hidle
    obtain rfl := Option.some.inj hnext
    by_cases hfull : mode.maxWaiting ≤ mode.waiting state.lock
    · rw [rwlockLock_refused hfull]
      exact .refused hidle hfull
    · have hroom := not_le.mp hfull
      rw [rwlockLock_enters hroom]
      by_cases hbusy : mode.Busy state.lock
      · rw [rwlockWoken_busy ((busy_addWaiting _ _ _).mpr hbusy)]
        exact .sleeps hidle hroom hbusy
      · rw [rwlockWoken_acquires (valid_addWaiting hvalid _ _)
          fun h ↦ hbusy ((busy_addWaiting _ _ _).mp h), addWaiting_cancel]
        exact .acquires hidle hroom hbusy
  | spurious thread =>
    simp only [lockNext] at hnext
    split at hnext
    · rename_i mode hasleep
      obtain rfl := Option.some.inj hnext
      exact .spurious hasleep
    · cases hnext
  | recheck thread =>
    simp only [lockNext] at hnext
    split at hnext
    · rename_i mode hawake
      obtain rfl := Option.some.inj hnext
      by_cases hbusy : mode.Busy state.lock
      · rw [rwlockWoken_busy hbusy]
        exact .sleepsAgain hawake hbusy
      · rw [rwlockWoken_acquires hvalid hbusy]
        exact .acquiresAwake hawake hbusy
    · cases hnext
  | giveUp thread ret =>
    simp only [lockNext] at hnext
    split at hnext
    · rename_i mode hasleep
      split_ifs at hnext with hret
      obtain rfl := Option.some.inj hnext
      rw [rwlockWoken_failed mode state.lock hret]
      exact .givesUp hasleep hret
    · cases hnext
  | unlock thread mode woken =>
    simp only [lockNext] at hnext
    split_ifs at hnext with hidle
    have hheld : 0 < (state.clients thread).holds mode := hmatched
    simp only [hinvariant.unlock_releases hheld, Option.map_eq_some_iff] at hnext
    obtain ⟨clients, hwake, rfl⟩ := hnext
    exact .unlocks hidle hheld hwake

omit [Fintype Thread] [DecidableEq Thread] in
/-- A lock call that finds the lock free leaves at most one writer active. -/
theorem oneWriter_acquire {lock : Rwlock} {mode : LockMode} (hone : lock.activeWriters ≤ 1)
    (hfree : ¬ mode.Busy lock) : (lock.addActive mode 1).activeWriters ≤ 1 := by
  cases mode with
  | read => exact hone
  | write =>
    simp only [LockMode.Busy, not_or, not_not] at hfree
    simp only [Rwlock.addActive]
    omega

omit [Fintype Thread] [DecidableEq Thread] in
/-- A lock call that finds the lock free keeps writers and readers apart. -/
theorem exclusive_acquire {lock : Rwlock} {mode : LockMode} (hfree : ¬ mode.Busy lock) :
    (lock.addActive mode 1).activeWriters = 0 ∨ (lock.addActive mode 1).activeReaders = 0 := by
  cases mode with
  | read =>
    simp only [LockMode.Busy, not_or, not_not] at hfree
    exact Or.inl hfree.1
  | write =>
    simp only [LockMode.Busy, not_or, not_not] at hfree
    exact Or.inr hfree.1

omit [Fintype Thread] [DecidableEq Thread] in
/-- A thread that stops waiting keeps the waiting counts within their limits. -/
theorem waiting_le_of_leaves {lock : Rwlock}
    (hbounded : ∀ mode : LockMode, mode.waiting lock ≤ mode.maxWaiting) (mode other : LockMode) :
    other.waiting (lock.addWaiting mode (-1)) ≤ other.maxWaiting := by
  have hbound := hbounded other
  rw [waiting_addWaiting]
  split_ifs <;> omega

/-- The end of a section keeps the accounts when the counters follow its outcome: a thread that
was not inside the wait loop now is exactly when it sleeps. -/
theorem finish_accounts (haccounts : Accounts state.lock state.clients) {after : Rwlock}
    {thread : Thread} {mode : LockMode} {outcome : SectionEnd}
    (hactive : ∀ other : LockMode, other.active after =
      other.active state.lock + if outcome = .returns 0 ∧ other = mode then 1 else 0)
    (hwaiting : ∀ other : LockMode,
      other.waiting after + (if (state.clients thread).Waiting other then 1 else 0) =
        other.waiting state.lock + if outcome = .sleeps ∧ other = mode then 1 else 0) :
    Accounts (state.finish thread mode (after, outcome)).lock
      (state.finish thread mode (after, outcome)).clients := by
  show Accounts after (Function.update state.clients thread
    ((state.clients thread).finish mode outcome))
  refine haccounts.move (fun other ↦ ?_) fun other ↦ ?_
  · have hchange := hactive other
    rw [LockClient.holds_finish]
    split_ifs at hchange ⊢ <;> omega
  · rw [hwaiting other]
    simp only [LockClient.waiting_finish]

omit [Fintype Thread] in
/-- A thread moves to a last code that is not that of an `Invalid rwlock state` branch. -/
theorem update_returns {clients : Thread → LockClient}
    (hreturns : ∀ thread, (clients thread).lastReturn ≠ -EINVAL) (thread : Thread)
    {client : LockClient} (hclient : client.lastReturn ≠ -EINVAL) (other : Thread) :
    (Function.update clients thread client other).lastReturn ≠ -EINVAL := by
  by_cases hother : other = thread
  · subst other
    rw [Function.update_self]
    exact hclient
  · rw [Function.update_of_ne hother]
    exact hreturns other

omit [Fintype Thread] in
/-- The end of a section that does not take the `Invalid rwlock state` branch. -/
theorem finish_returns (hreturns : ∀ thread, (state.clients thread).lastReturn ≠ -EINVAL)
    {after : Rwlock} {thread : Thread} {mode : LockMode} {outcome : SectionEnd}
    (houtcome : outcome ≠ .returns (-EINVAL)) (other : Thread) :
    ((state.finish thread mode (after, outcome)).clients other).lastReturn ≠ -EINVAL := by
  refine update_returns hreturns thread ?_ other
  cases outcome with
  | sleeps => exact hreturns thread
  | returns ret => exact fun hret ↦ houtcome (congrArg SectionEnd.returns hret)

/-- A thread that gives back a hold, and the threads it wakes, keep the invariant. -/
theorem unlocks (hinvariant : LockInvariant state) {thread : Thread} {mode : LockMode}
    {woken : Option Thread} {clients : Thread → LockClient}
    (hidle : (state.clients thread).phase = .idle) (hheld : 0 < (state.clients thread).holds mode)
    (hwake : wakeSleepers (Function.update state.clients thread
      ((state.clients thread).unlocked 0 mode)) woken (mode.wakeup state.lock) = some clients) :
    LockInvariant { lock := state.lock.addActive mode (-1), clients := clients } := by
  have hexclusive := hinvariant.exclusive
  have hone := hinvariant.oneWriter
  have hactive := hinvariant.active_pos hheld
  refine ⟨(hinvariant.accounts.move (fun other ↦ ?_) fun other ↦ ?_).wake hwake, ?_, ?_,
    fun other ↦ ?_, fun other ↦ ?_⟩
  · show other.active (state.lock.addActive mode (-1)) +
        ((state.clients thread).holds other : ℤ) =
      other.active state.lock + (((state.clients thread).unlocked 0 mode).holds other : ℤ)
    rw [LockClient.holds_unlocked, active_addActive]
    split_ifs with hsame
    · subst other
      omega
    · omega
  · have hunlocked := LockClient.not_waiting_of_idle
      ((LockClient.phase_unlocked (state.clients thread) 0 mode).trans hidle) other
    rw [waiting_addActive, if_neg hunlocked,
      if_neg (LockClient.not_waiting_of_idle hidle other)]
  · cases mode with
    | read => exact hone
    | write =>
      simp only [Rwlock.addActive]
      omega
  · refine Or.inl ?_
    cases mode with
    | read => exact hexclusive.resolve_right hactive.ne'
    | write =>
      simp only [LockMode.active] at hactive
      simp only [Rwlock.addActive]
      omega
  · show other.waiting (state.lock.addActive mode (-1)) ≤ other.maxWaiting
    rw [waiting_addActive]
    exact hinvariant.bounded other
  · show (clients other).lastReturn ≠ -EINVAL
    have hunlocked : ((state.clients thread).unlocked 0 mode).lastReturn ≠ -EINVAL := by
      rw [LockClient.lastReturn_unlocked]
      decide
    have hbefore := update_returns hinvariant.returns thread hunlocked other
    rcases wakeSleepers_apply hwake other with hsame | ⟨_, _, hawake⟩
    · rw [hsame]
      exact hbefore
    · rw [hawake, LockClient.lastReturn_awaken]
      exact hbefore

/-- Every step keeps the invariant. -/
theorem step (hinvariant : LockInvariant state) (hnext : matchedNext state label = some successor) :
    LockInvariant successor := by
  have hexclusive := hinvariant.exclusive
  have hone := hinvariant.oneWriter
  cases hinvariant.step_cases hnext with
  | @refused thread mode hidle hfull =>
    refine ⟨finish_accounts hinvariant.accounts (fun other ↦ ?_) fun other ↦ ?_, hone, hexclusive,
      hinvariant.bounded, finish_returns hinvariant.returns (by decide)⟩
    · simp [EAGAIN]
    · simp [LockClient.not_waiting_of_idle hidle]
  | @sleeps thread mode hidle hroom hbusy =>
    refine ⟨finish_accounts hinvariant.accounts (fun other ↦ ?_) fun other ↦ ?_, ?_, ?_,
      fun other ↦ ?_, finish_returns hinvariant.returns (by decide)⟩
    · simp
    · simp [LockClient.not_waiting_of_idle hidle]
    · cases mode <;> exact hone
    · cases mode <;> exact hexclusive
    · have hbounded := hinvariant.bounded other
      show other.waiting (state.lock.addWaiting mode 1) ≤ other.maxWaiting
      rw [waiting_addWaiting]
      split_ifs with hsame
      · subst other
        omega
      · omega
  | @acquires thread mode hidle hroom hfree =>
    refine ⟨finish_accounts hinvariant.accounts (fun other ↦ ?_) fun other ↦ ?_, ?_, ?_,
      fun other ↦ ?_, finish_returns hinvariant.returns (by decide)⟩
    · simp
    · simp [LockClient.not_waiting_of_idle hidle]
    · exact oneWriter_acquire hone hfree
    · exact exclusive_acquire hfree
    · show other.waiting (state.lock.addActive mode 1) ≤ other.maxWaiting
      rw [waiting_addActive]
      exact hinvariant.bounded other
  | @spurious thread mode hasleep =>
    refine ⟨hinvariant.accounts.move (fun other ↦ ?_) fun other ↦ ?_, hone, hexclusive,
      hinvariant.bounded, fun other ↦ ?_⟩
    · rw [LockClient.holds_awaken]
    · simp only [LockClient.waiting_awaken hasleep]
    · refine update_returns hinvariant.returns thread ?_ other
      rw [LockClient.lastReturn_awaken]
      exact hinvariant.returns thread
  | @sleepsAgain thread mode hawake hbusy =>
    refine ⟨finish_accounts hinvariant.accounts (fun other ↦ ?_) fun other ↦ ?_, hone, hexclusive,
      hinvariant.bounded, finish_returns hinvariant.returns (by decide)⟩
    · simp
    · simp [LockClient.waiting_iff (Or.inl hawake)]
  | @acquiresAwake thread mode hawake hfree =>
    have hfree' : ¬ mode.Busy (state.lock.addWaiting mode (-1)) :=
      fun hbusy ↦ hfree ((busy_addWaiting _ _ _).mp hbusy)
    refine ⟨finish_accounts hinvariant.accounts (fun other ↦ ?_) fun other ↦ ?_, ?_, ?_,
      fun other ↦ ?_, finish_returns hinvariant.returns (by decide)⟩
    · simp
    · simp only [LockClient.waiting_iff (Or.inl hawake), waiting_addActive, waiting_addWaiting]
      split_ifs <;> simp_all
    · exact oneWriter_acquire (by cases mode <;> exact hone) hfree'
    · exact exclusive_acquire hfree'
    · exact (waiting_addActive _ _ _ _).trans_le
        (waiting_le_of_leaves hinvariant.bounded mode other)
  | @givesUp thread mode ret hasleep hret =>
    refine ⟨finish_accounts hinvariant.accounts (fun other ↦ ?_) fun other ↦ ?_, ?_, ?_,
      waiting_le_of_leaves hinvariant.bounded mode,
      finish_returns hinvariant.returns (failureCode_ne hret).2⟩
    · simp [(failureCode_ne hret).1]
    · simp only [LockClient.waiting_iff (Or.inr hasleep), waiting_addWaiting]
      split_ifs <;> simp_all
    · cases mode <;> exact hone
    · cases mode <;> exact hexclusive
  | unlocks hidle hheld hwake => exact hinvariant.unlocks hidle hheld hwake

end LockInvariant

/-- Every reachable state satisfies the invariant. -/
theorem lockInvariant_reachable {state : LockState Thread}
    (hreach : (rwlockSystem Thread).Reachable state) : LockInvariant state := by
  refine hreach.invariant (fun start hstart ↦ ?_) fun _ _ _ hinvariant _ hnext ↦
    hinvariant.step hnext
  obtain ⟨hlock, hclients⟩ := hstart
  have hzero : start.lock = ⟨0, 0, 0, 0⟩ := (Except.ok.inj hlock).symm
  have hholds (mode : LockMode) : tally (fun client : LockClient ↦ client.holds mode)
      start.clients = 0 :=
    tally_eq_zero fun thread ↦ by rw [hclients thread]; cases mode <;> rfl
  have hwaiting (mode : LockMode) : threadCount (LockClient.Waiting mode) start.clients = 0 :=
    threadCount_eq_zero_iff.mpr fun thread ↦ by
      rw [hclients thread]
      exact LockClient.not_waiting_of_idle rfl mode
  constructor
  · constructor
    · intro mode
      rw [hholds mode, hzero]
      cases mode <;> rfl
    · intro mode
      rw [hwaiting mode, hzero]
      cases mode <;> rfl
  · rw [hzero]
    decide
  · exact Or.inl (by rw [hzero])
  · intro mode
    rw [hzero]
    cases mode <;> decide
  · intro thread
    rw [hclients thread]
    decide

/-! ### Safety of the lock -/

/-- The greatest value of an `int`. -/
def INT_MAX : ℤ := 2147483647

/-- After the step an `int` can count the holds for reading. -/
def HoldsFit (state : LockState Thread) (label : LockLabel Thread) : Prop :=
  ∀ successor ∈ matchedNext state label,
    ∑ thread, ((successor.clients thread).readHolds : ℤ) ≤ INT_MAX

instance (state : LockState Thread) : DecidablePred (HoldsFit state) :=
  fun label ↦ Option.decidableForallMem (matchedNext state label)

/-- The counters are in the range of an `int`, and none is negative. -/
structure Rwlock.Fits (lock : Rwlock) : Prop where
  active : ∀ mode : LockMode, 0 ≤ mode.active lock ∧ mode.active lock ≤ INT_MAX
  waiting : ∀ mode : LockMode, 0 ≤ mode.waiting lock ∧ mode.waiting lock ≤ INT_MAX

namespace LockInvariant

variable {state successor : LockState Thread} {label : LockLabel Thread}

omit [DecidableEq Thread] in
/-- The active readers are the holds for reading of all threads. -/
theorem activeReaders_eq (hinvariant : LockInvariant state) :
    state.lock.activeReaders = ∑ thread, ((state.clients thread).readHolds : ℤ) := by
  have hactive : state.lock.activeReaders = tally LockClient.readHolds state.clients :=
    hinvariant.accounts.active .read
  rw [hactive, tally, Nat.cast_sum]

omit [DecidableEq Thread] in
/-- Counters that agree with the threads are in the range of an `int` if the active readers are. -/
theorem fits (hinvariant : LockInvariant state) (hbound : state.lock.activeReaders ≤ INT_MAX) :
    state.lock.Fits := by
  have hvalid := hinvariant.accounts.valid
  have hone := hinvariant.oneWriter
  refine ⟨fun mode ↦ ?_, fun mode ↦ ⟨hinvariant.accounts.waiting_nonneg mode, ?_⟩⟩
  · cases mode with
    | read => exact ⟨hvalid.1, hbound⟩
    | write => exact ⟨hvalid.2, hone.trans (by decide)⟩
  · refine (hinvariant.bounded mode).trans ?_
    cases mode <;> decide

end LockInvariant

/-- In the runs in which an `int` can count the holds for reading it does, as do the other counters,
and they satisfy the invariant. -/
theorem lockInvariant_of_holdsFit {state : LockState Thread}
    (hreach : (rwlockSystem Thread).ReachableUnder HoldsFit state) :
    LockInvariant state ∧ state.lock.activeReaders ≤ INT_MAX := by
  have hstep : ∀ before label after, LockInvariant before ∧ before.lock.activeReaders ≤ INT_MAX →
      HoldsFit before label → (rwlockSystem Thread).next before label = some after →
      LockInvariant after ∧ after.lock.activeReaders ≤ INT_MAX := by
    rintro before label after ⟨hinvariant, -⟩ hfits hnext
    have hafter := hinvariant.step hnext
    exact ⟨hafter, hafter.activeReaders_eq.trans_le (hfits after hnext)⟩
  refine hreach.invariant (fun start hstart ↦ ?_) hstep
  have hzero : start.lock = ⟨0, 0, 0, 0⟩ := (Except.ok.inj hstart.1).symm
  refine ⟨lockInvariant_reachable (.initial hstart), ?_⟩
  rw [hzero]
  decide

/-- In every state of a run in which an `int` can count the holds for reading, at most one writer is
active and then no reader is; the active readers are the holds for reading, a thread that holds the
lock several times over counting once for each hold, so that they are the threads holding for
reading where no thread does; the active writers are the threads holding for writing; the waiting
counts are the threads suspended inside the two wait loops and stay within their limits; no counter
leaves the range of an `int`; and no call has returned through an `Invalid rwlock state` branch. -/
theorem rwlock_counters_sound {state : LockState Thread}
    (hreach : (rwlockSystem Thread).ReachableUnder HoldsFit state) :
    (state.lock.activeWriters = 0 ∨ state.lock.activeWriters = 1) ∧
      (state.lock.activeWriters = 1 → state.lock.activeReaders = 0) ∧
      state.lock.activeReaders = ∑ thread, (state.clients thread).readHolds ∧
      ((∀ thread, (state.clients thread).readHolds ≤ 1) →
        state.lock.activeReaders =
          threadCount (fun client : LockClient ↦ 0 < client.readHolds) state.clients) ∧
      state.lock.activeWriters =
        threadCount (fun client : LockClient ↦ 0 < client.writeHolds) state.clients ∧
      state.lock.waitingReaders = threadCount (LockClient.Waiting .read) state.clients ∧
      state.lock.waitingWriters = threadCount (LockClient.Waiting .write) state.clients ∧
      state.lock.waitingReaders ≤ 10 ∧ state.lock.waitingWriters ≤ 5 ∧ state.lock.Fits ∧
      ∀ thread, (state.clients thread).lastReturn ≠ -EINVAL := by
  obtain ⟨hinvariant, hbound⟩ := lockInvariant_of_holdsFit hreach
  have hone := hinvariant.oneWriter
  have hvalid := hinvariant.accounts.valid
  have hreaders : state.lock.activeReaders = tally LockClient.readHolds state.clients :=
    hinvariant.accounts.active .read
  have hwriters : state.lock.activeWriters = tally LockClient.writeHolds state.clients :=
    hinvariant.accounts.active .write
  refine ⟨?_, fun hwriter ↦ ?_, hreaders, fun hsingle ↦ ?_, ?_, hinvariant.accounts.waiting .read,
    hinvariant.accounts.waiting .write, hinvariant.bounded .read, hinvariant.bounded .write,
    hinvariant.fits hbound, hinvariant.returns⟩
  · have hnonneg := hvalid.2
    omega
  · exact hinvariant.exclusive.resolve_left (by omega)
  · rw [hreaders, tally_eq_threadCount hsingle]
  · have hsingle (thread : Thread) : (state.clients thread).writeHolds ≤ 1 := by
      have hweight := le_tally LockClient.writeHolds state.clients thread
      omega
    rw [hwriters, tally_eq_threadCount hsingle]

/-- Thread 0 holds the lock for reading twice over, thread 1 once, and thread 2 waits to write. -/
theorem rwlock_counters_sound_nested_reader :
    ∃ state : LockState (Fin 3), (rwlockSystem (Fin 3)).ReachableUnder HoldsFit state ∧
      state.lock = ⟨3, 0, 0, 1⟩ ∧
      (state.lock.activeWriters = 0 ∨ state.lock.activeWriters = 1) ∧
      state.lock.activeReaders = ∑ thread, (state.clients thread).readHolds ∧ state.lock.Fits := by
  obtain ⟨final, hrun, hlock⟩ : ∃ final,
      (rwlockSystem (Fin 3)).runUnder HoldsFit
        { lock := ⟨0, 0, 0, 0⟩, clients := fun _ ↦ LockClient.fresh }
        [.lock 0 .read, .lock 0 .read, .lock 1 .read, .lock 2 .write] = some final ∧
      final.lock = ⟨3, 0, 0, 1⟩ := ⟨_, rfl, by decide⟩
  have hreach : (rwlockSystem (Fin 3)).ReachableUnder HoldsFit final :=
    .runUnder _ (.initial ⟨rfl, fun _ ↦ rfl⟩) hrun
  have hsound := rwlock_counters_sound hreach
  exact ⟨final, hreach, hlock, hsound.1, hsound.2.2.1, hsound.2.2.2.2.2.2.2.2.2.1⟩

/-- One thread that locks for reading twice over makes two active readers. -/
theorem nested_reader_counted_twice :
    ¬ ∀ state : LockState (Fin 1), (rwlockSystem (Fin 1)).Reachable state →
      state.lock.activeReaders =
        threadCount (fun client : LockClient ↦ 0 < client.readHolds) state.clients := by
  intro hclaim
  obtain ⟨final, hrun, hdiffer⟩ : ∃ final,
      (rwlockSystem (Fin 1)).run { lock := ⟨0, 0, 0, 0⟩, clients := fun _ ↦ LockClient.fresh }
        [.lock 0 .read, .lock 0 .read] = some final ∧
      final.lock.activeReaders ≠
        threadCount (fun client : LockClient ↦ 0 < client.readHolds) final.clients :=
    ⟨_, rfl, by decide⟩
  exact hdiffer (hclaim final (TransitionSystem.reachable_of_run ⟨rfl, fun _ ↦ rfl⟩ _ hrun))

end Bme680.ReadWriteLock
