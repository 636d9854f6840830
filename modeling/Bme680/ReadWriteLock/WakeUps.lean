import Bme680.ReadWriteLock.LockClients
import Mathlib.Tactic.FinCases

/-!
# Sleepers the read-write lock leaves behind

A free lock with nobody about to re-check it must have nobody asleep: `Stranded` is the state in
which that fails. The lock signals a writer whenever it becomes free with writers waiting, and
broadcasts to the readers when a writer leaves with none waiting. What it misses is the writer
that gives up. A waiting writer keeps new readers out; when the last waiting writer times out
while only readers are active, the condition the sleeping readers wait for becomes true and nobody
signals them, neither the writer that leaves nor any later unlock of a reader.

`LastWriterGivesUp` is that step, a condition on the state before it. `sleepers_stranded_iff`
shows that runs without such a step never strand a sleeper, and that after any such step the
remaining holders only have to release the lock for a reader to be stranded.
-/

set_option autoImplicit false
set_option relaxedAutoImplicit false

namespace Bme680.ReadWriteLock

open Concurrency

variable {Thread : Type*} [Fintype Thread] [DecidableEq Thread]

/-- The lock is free and no thread is awake to re-check it, yet some thread is asleep on one of
the two condition variables. -/
def Stranded (state : LockState Thread) : Prop :=
  state.lock.activeReaders = 0 ∧ state.lock.activeWriters = 0 ∧
    (∀ thread mode, (state.clients thread).phase ≠ .awake mode) ∧
    ∃ thread mode, (state.clients thread).phase = .asleep mode

/-- The wait of the only waiting writer fails, no writer is active, and a reader that holds
nothing is asleep. -/
def LastWriterGivesUp (state : LockState Thread) : LockLabel Thread → Prop
  | .giveUp thread _ =>
    (state.clients thread).phase = .asleep .write ∧ state.lock.waitingWriters = 1 ∧
      state.lock.activeWriters = 0 ∧
      ∃ reader, (state.clients reader).phase = .asleep .read ∧
        (state.clients reader).readHolds = 0
  | _ => False

/-- No step is one in which the last waiting writer gives up. -/
def WritersPersist (state : LockState Thread) (label : LockLabel Thread) : Prop :=
  ¬ LastWriterGivesUp state label

/-- A sleeping writer has an active thread or an awake writer to wake it. -/
def WritersWoken (lock : Rwlock) (clients : Thread → LockClient) : Prop :=
  ∀ thread, (clients thread).phase = .asleep .write →
    LockMode.write.Busy lock ∨ ∃ other, (clients other).phase = .awake .write

/-- A sleeping reader that holds nothing waits for an active or a waiting writer. -/
def ReadersWoken (lock : Rwlock) (clients : Thread → LockClient) : Prop :=
  ∀ thread, (clients thread).phase = .asleep .read → (clients thread).readHolds = 0 →
    LockMode.read.Busy lock

/-- Why nobody sleeps in vain. -/
structure WakeInvariant (state : LockState Thread) : Prop where
  lock : LockInvariant state
  writers : WritersWoken state.lock state.clients
  readers : ReadersWoken state.lock state.clients

section Busy

variable {lock : Rwlock}

/-- Counting waiting threads does not change what a writer waits for. -/
theorem writeBusy_addWaiting (lock : Rwlock) (mode : LockMode) (change : ℤ) :
    LockMode.write.Busy (lock.addWaiting mode change) ↔ LockMode.write.Busy lock := by
  cases mode <;> rfl

/-- A lock that somebody just acquired is busy for writers. -/
theorem writeBusy_addActive (hvalid : lock.Valid) (mode : LockMode) :
    LockMode.write.Busy (lock.addActive mode 1) := by
  obtain ⟨hreaders, hwriters⟩ := hvalid
  cases mode with
  | read => exact Or.inl (show lock.activeReaders + 1 ≠ 0 by omega)
  | write => exact Or.inr (show lock.activeWriters + 1 ≠ 0 by omega)

/-- Another waiting thread keeps a lock busy for readers. -/
theorem readBusy_addWaiting (hwaiting : 0 ≤ lock.waitingWriters) (mode : LockMode)
    (hbusy : LockMode.read.Busy lock) : LockMode.read.Busy (lock.addWaiting mode 1) := by
  cases mode with
  | read => exact hbusy
  | write => exact Or.inr (show lock.waitingWriters + 1 ≠ 0 by omega)

/-- An acquisition keeps a lock busy for readers. -/
theorem readBusy_addActive (hvalid : lock.Valid) (mode : LockMode)
    (hbusy : LockMode.read.Busy lock) :
    LockMode.read.Busy (lock.addActive mode 1) := by
  have hwriters := hvalid.2
  cases mode with
  | read => exact hbusy
  | write => exact Or.inl (show lock.activeWriters + 1 ≠ 0 by omega)

/-- An awake thread's acquisition keeps a lock busy for readers. -/
theorem readBusy_acquiresAwake (hvalid : lock.Valid) (mode : LockMode)
    (hbusy : LockMode.read.Busy lock) :
    LockMode.read.Busy ((lock.addWaiting mode (-1)).addActive mode 1) := by
  have hwriters := hvalid.2
  cases mode with
  | read => exact hbusy
  | write => exact Or.inl (show lock.activeWriters + 1 ≠ 0 by omega)

/-- An unlock that leaves the lock free with writers waiting signals a writer. -/
theorem wakeup_eq_signalWriter {mode : LockMode}
    (hfree : ¬ LockMode.write.Busy (lock.addActive mode (-1)))
    (hwaiting : lock.waitingWriters ≠ 0) : mode.wakeup lock = .signalWriter := by
  cases mode with
  | read =>
    simp only [LockMode.Busy, Rwlock.addActive, not_or, not_not] at hfree
    exact if_pos ⟨by omega, hwaiting⟩
  | write => exact if_pos hwaiting

end Busy

section Move

variable {lock after : Rwlock} {clients : Thread → LockClient} {thread : Thread}
  {client : LockClient}

omit [Fintype Thread] in
/-- A thread moves and sleeping writers keep their waker: the lock stays busy where it was, the
thread is no awake writer that stops being one on a free lock, and it falls asleep as a writer on
a busy lock only. -/
theorem WritersWoken.move (hwoken : WritersWoken lock clients)
    (hbusy : LockMode.write.Busy lock → LockMode.write.Busy after)
    (hawake : (clients thread).phase = .awake .write →
      LockMode.write.Busy after ∨ client.phase = .awake .write)
    (hsleeps : client.phase = .asleep .write → LockMode.write.Busy after) :
    WritersWoken after (Function.update clients thread client) := by
  intro sleeper hasleep
  by_cases hself : sleeper = thread
  · subst sleeper
    rw [Function.update_self] at hasleep
    exact Or.inl (hsleeps hasleep)
  · rw [Function.update_of_ne hself] at hasleep
    rcases hwoken sleeper hasleep with hstill | ⟨waker, hwaker⟩
    · exact Or.inl (hbusy hstill)
    · by_cases hmoved : waker = thread
      · subst waker
        refine (hawake hwaker).imp_right fun hclient ↦ ⟨thread, ?_⟩
        rw [Function.update_self]
        exact hclient
      · refine Or.inr ⟨waker, ?_⟩
        rw [Function.update_of_ne hmoved]
        exact hwaker

omit [Fintype Thread] in
/-- A thread moves and sleeping readers keep a writer to wait for. -/
theorem ReadersWoken.move (hwoken : ReadersWoken lock clients)
    (hbusy : LockMode.read.Busy lock → LockMode.read.Busy after)
    (hsleeps : client.phase = .asleep .read → LockMode.read.Busy after) :
    ReadersWoken after (Function.update clients thread client) := by
  intro sleeper hasleep hholds
  by_cases hself : sleeper = thread
  · subst sleeper
    rw [Function.update_self] at hasleep
    exact hsleeps hasleep
  · rw [Function.update_of_ne hself] at hasleep hholds
    exact hbusy (hwoken sleeper hasleep hholds)

end Move

namespace WakeInvariant

variable {state successor : LockState Thread} {label : LockLabel Thread}

omit [DecidableEq Thread] in
/-- Under the invariant nobody is stranded. -/
theorem not_stranded (hinvariant : WakeInvariant state) : ¬ Stranded state := by
  rintro ⟨hreaders, hwriters, hnobody, thread, mode, hasleep⟩
  have hwriterBusy (other : Thread) : (state.clients other).phase ≠ .asleep .write := by
    intro hother
    rcases hinvariant.writers other hother with hbusy | ⟨awake, hawake⟩
    · exact hbusy.elim (fun h ↦ h hreaders) fun h ↦ h hwriters
    · exact hnobody awake .write hawake
  cases mode with
  | write => exact hwriterBusy thread hasleep
  | read =>
    have hholds : (state.clients thread).readHolds = 0 := by
      have hweight := le_tally LockClient.readHolds state.clients thread
      have hactive : state.lock.activeReaders = tally LockClient.readHolds state.clients :=
        hinvariant.lock.accounts.active .read
      omega
    rcases hinvariant.readers thread hasleep hholds with hbusy | hbusy
    · exact hbusy hwriters
    · -- a waiting writer is awake, or asleep with nobody to wake it
      have hwaiting : state.lock.waitingWriters =
          threadCount (LockClient.Waiting .write) state.clients :=
        hinvariant.lock.accounts.waiting .write
      obtain ⟨writer, hwriter⟩ := threadCount_pos_iff.mp
        (show 0 < threadCount (LockClient.Waiting .write) state.clients by omega)
      exact hwriter.elim (hwriterBusy writer) (hnobody writer .write)

/-- A writer that gives up keeps the sleeping readers waiting for a writer, unless it is the last
one. -/
theorem readers_givesUp (hinvariant : WakeInvariant state) {thread : Thread} {mode : LockMode}
    {ret : ℕ} (hasleep : (state.clients thread).phase = .asleep mode)
    (hpersists : WritersPersist state (.giveUp thread ret)) :
    ReadersWoken (state.lock.addWaiting mode (-1))
      (Function.update state.clients thread
        ((state.clients thread).finish mode (.returns (failureCode ret)))) := by
  intro sleeper hsleeper hholds
  have hother : sleeper ≠ thread := by
    rintro rfl
    rw [Function.update_self] at hsleeper
    cases hsleeper
  rw [Function.update_of_ne hother] at hsleeper hholds
  have hbusy := hinvariant.readers sleeper hsleeper hholds
  cases mode with
  | read => exact hbusy
  | write =>
    by_contra hfree
    simp only [LockMode.Busy, Rwlock.addWaiting, not_or, not_not] at hfree
    exact hpersists ⟨hasleep, by omega, hfree.1, sleeper, hsleeper, hholds⟩

/-- A client asleep after an unlock was asleep in the same mode, with the same holds, before it. -/
theorem asleep_of_unlocks {thread : Thread} {mode : LockMode} {woken : Option Thread}
    {clients : Thread → LockClient} {wakeup : Wakeup}
    (hidle : (state.clients thread).phase = .idle)
    (hwake : wakeSleepers (Function.update state.clients thread
      ((state.clients thread).unlocked 0 mode)) woken wakeup = some clients)
    {sleeper : Thread} {asleepMode : LockMode}
    (hasleep : (clients sleeper).phase = .asleep asleepMode) :
    sleeper ≠ thread ∧ clients sleeper = state.clients sleeper := by
  have hsame : clients sleeper = Function.update state.clients thread
      ((state.clients thread).unlocked 0 mode) sleeper := by
    rcases wakeSleepers_apply hwake sleeper with hsame | ⟨other, _, hawake⟩
    · exact hsame
    · rw [hawake] at hasleep
      cases hasleep
  have hother : sleeper ≠ thread := by
    rintro rfl
    rw [hsame, Function.update_self, LockClient.phase_unlocked, hidle] at hasleep
    cases hasleep
  exact ⟨hother, hsame.trans (Function.update_of_ne hother _ _)⟩

/-- An unlock keeps sleeping writers a waker: when it frees the lock it signals one of them. -/
theorem writers_unlocks (hinvariant : WakeInvariant state) {thread : Thread} {mode : LockMode}
    {woken : Option Thread} {clients : Thread → LockClient}
    (hidle : (state.clients thread).phase = .idle)
    (hwake : wakeSleepers (Function.update state.clients thread
      ((state.clients thread).unlocked 0 mode)) woken (mode.wakeup state.lock) = some clients) :
    WritersWoken (state.lock.addActive mode (-1)) clients := by
  intro sleeper hasleep
  by_cases hbusy : LockMode.write.Busy (state.lock.addActive mode (-1))
  · exact Or.inl hbusy
  refine Or.inr ?_
  obtain ⟨hother, hsame⟩ := asleep_of_unlocks hidle hwake hasleep
  rw [hsame] at hasleep
  have hwaiting : 0 < LockMode.write.waiting state.lock :=
    hinvariant.lock.accounts.waiting_pos (Or.inl hasleep)
  rw [wakeup_eq_signalWriter hbusy hwaiting.ne'] at hwake
  rcases signal_cases hwake with ⟨hnobody, _⟩ | ⟨writer, _, rfl⟩
  · refine absurd ?_ (hnobody sleeper)
    rw [Function.update_of_ne hother]
    exact hasleep
  · refine ⟨writer, ?_⟩
    rw [Function.update_self]
    rfl

/-- An unlock keeps sleeping readers a writer to wait for: when the last writer leaves, it wakes
them all. -/
theorem readers_unlocks (hinvariant : WakeInvariant state) {thread : Thread} {mode : LockMode}
    {woken : Option Thread} {clients : Thread → LockClient}
    (hidle : (state.clients thread).phase = .idle)
    (hwake : wakeSleepers (Function.update state.clients thread
      ((state.clients thread).unlocked 0 mode)) woken (mode.wakeup state.lock) = some clients) :
    ReadersWoken (state.lock.addActive mode (-1)) clients := by
  intro sleeper hasleep hholds
  have hsame := (asleep_of_unlocks hidle hwake hasleep).2
  cases mode with
  | read =>
    rw [hsame] at hasleep hholds
    exact hinvariant.readers sleeper hasleep hholds
  | write =>
    by_cases hwaiting : state.lock.waitingWriters ≠ 0
    · exact Or.inr hwaiting
    · rw [LockMode.wakeup, if_neg hwaiting] at hwake
      obtain rfl := Option.some.inj hwake
      have hnobody (client : LockClient) : ¬ (client.awaken .read).Asleep .read :=
        LockPhase.noConfusion
      exact absurd hasleep (@not_asleep_broadcast _ _ (LockClient.Asleep .read) _
        (LockClient.awaken .read) hnobody _ sleeper)

/-- Every step other than that of the last waiting writer giving up keeps the invariant. -/
theorem step (hinvariant : WakeInvariant state) (hpersists : WritersPersist state label)
    (hnext : matchedNext state label = some successor) : WakeInvariant successor := by
  have hvalid := hinvariant.lock.accounts.valid
  have hnotAwake {thread : Thread} {phase : LockPhase}
      (hphase : (state.clients thread).phase = phase) (hne : phase ≠ .awake .write) {goal : Prop}
      (hawake : (state.clients thread).phase = .awake .write) : goal :=
    absurd (hphase.symm.trans hawake) hne
  cases hinvariant.lock.step_cases hnext with
  | @refused thread mode hidle hfull =>
    refine ⟨hinvariant.lock.step hnext,
      hinvariant.writers.move id (hnotAwake hidle (by decide)) fun hsleeps ↦ ?_,
      hinvariant.readers.move id fun hsleeps ↦ ?_⟩ <;> cases hsleeps
  | @sleeps thread mode hidle hroom hbusy =>
    refine ⟨hinvariant.lock.step hnext,
      hinvariant.writers.move (writeBusy_addWaiting _ _ _).mpr (hnotAwake hidle (by decide))
        fun hsleeps ↦ ?_,
      hinvariant.readers.move
        (readBusy_addWaiting (hinvariant.lock.accounts.waiting_nonneg .write) mode)
        fun hsleeps ↦ ?_⟩
    · cases hsleeps
      exact (writeBusy_addWaiting _ _ _).mpr hbusy
    · cases hsleeps
      exact (busy_addWaiting _ _ _).mpr hbusy
  | @acquires thread mode hidle hroom hfree =>
    refine ⟨hinvariant.lock.step hnext, fun _ _ ↦ Or.inl (writeBusy_addActive hvalid mode),
      hinvariant.readers.move (readBusy_addActive hvalid mode) fun hsleeps ↦ ?_⟩
    cases hsleeps
  | @spurious thread mode hasleep =>
    refine ⟨hinvariant.lock.step hnext,
      hinvariant.writers.move id (hnotAwake hasleep (by simp)) fun hsleeps ↦ ?_,
      hinvariant.readers.move id fun hsleeps ↦ ?_⟩ <;> cases hsleeps
  | @sleepsAgain thread mode hawake hbusy =>
    refine ⟨hinvariant.lock.step hnext,
      hinvariant.writers.move id (fun hwriter ↦ Or.inl ?_) fun hsleeps ↦ ?_,
      hinvariant.readers.move id fun hsleeps ↦ ?_⟩
    · cases hawake.symm.trans hwriter
      exact hbusy
    · cases hsleeps
      exact hbusy
    · cases hsleeps
      exact hbusy
  | @acquiresAwake thread mode hawake hfree =>
    refine ⟨hinvariant.lock.step hnext,
      fun _ _ ↦ Or.inl (writeBusy_addActive (valid_addWaiting hvalid _ _) mode),
      hinvariant.readers.move (readBusy_acquiresAwake hvalid mode) fun hsleeps ↦ ?_⟩
    cases hsleeps
  | @givesUp thread mode ret hasleep hret =>
    refine ⟨hinvariant.lock.step hnext,
      hinvariant.writers.move (writeBusy_addWaiting _ _ _).mpr (hnotAwake hasleep (by simp))
        fun hsleeps ↦ ?_,
      hinvariant.readers_givesUp hasleep hpersists⟩
    cases hsleeps
  | @unlocks thread mode woken clients hidle hheld hwake =>
    exact ⟨hinvariant.lock.step hnext, hinvariant.writers_unlocks hidle hwake,
      hinvariant.readers_unlocks hidle hwake⟩

end WakeInvariant

/-- A state of a run in which no last waiting writer gives up satisfies the invariant. -/
theorem wakeInvariant_of_writersPersist {state : LockState Thread}
    (hreach : (rwlockSystem Thread).ReachableUnder WritersPersist state) :
    WakeInvariant state := by
  refine hreach.invariant (fun start hstart ↦ ?_) fun _ _ _ hinvariant hpersists hnext ↦
    hinvariant.step hpersists hnext
  have hidle (thread : Thread) : (start.clients thread).phase = .idle := by
    rw [hstart.2 thread]
    rfl
  refine ⟨lockInvariant_reachable (.initial hstart), fun thread hasleep ↦ ?_,
    fun thread hasleep ↦ ?_⟩ <;>
    cases (hidle thread).symm.trans hasleep

/-! ### After the last waiting writer gave up -/

/-- No writer is active or waiting, and a reader that holds nothing is asleep. -/
structure Forgotten (state : LockState Thread) (reader : Thread) : Prop where
  lock : LockInvariant state
  noActive : state.lock.activeWriters = 0
  noWaiting : state.lock.waitingWriters = 0
  asleep : (state.clients reader).phase = .asleep .read
  holdsNothing : (state.clients reader).readHolds = 0

/-- What a thread still has to do before it is outside the lock's code without holds. -/
def remaining (client : LockClient) : ℕ :=
  client.readHolds + if client.phase = .idle then 0 else 2

namespace Forgotten

variable {state : LockState Thread} {reader : Thread}

omit [DecidableEq Thread] in
/-- With no waiting writer every suspended thread waits for reading. -/
theorem mode_eq_read (hforgotten : Forgotten state reader) {thread : Thread} {mode : LockMode}
    (hphase : (state.clients thread).phase = .asleep mode ∨
      (state.clients thread).phase = .awake mode) : mode = .read := by
  cases mode with
  | read => rfl
  | write =>
    have hwaiting : 0 < LockMode.write.waiting state.lock :=
      hforgotten.lock.accounts.waiting_pos hphase
    exact absurd hforgotten.noWaiting hwaiting.ne'

/-- When every other thread is done, the reader is stranded. -/
theorem stranded (hforgotten : Forgotten state reader)
    (hdone : ∀ thread, thread ≠ reader → remaining (state.clients thread) = 0) :
    Stranded state := by
  have hidle (thread : Thread) (hother : thread ≠ reader) :
      (state.clients thread).readHolds = 0 ∧ (state.clients thread).phase = .idle := by
    have hremaining := hdone thread hother
    unfold remaining at hremaining
    split_ifs at hremaining with hphase
    exact ⟨by omega, hphase⟩
  have hactive : state.lock.activeReaders = tally LockClient.readHolds state.clients :=
    hforgotten.lock.accounts.active .read
  have hzero : tally LockClient.readHolds state.clients = 0 := by
    refine tally_eq_zero fun thread ↦ ?_
    by_cases hother : thread = reader
    · rw [hother]
      exact hforgotten.holdsNothing
    · exact (hidle thread hother).1
  refine ⟨?_, hforgotten.noActive, fun thread mode hawake ↦ ?_, reader, .read, hforgotten.asleep⟩
  · rw [hactive, hzero, Nat.cast_zero]
  · by_cases hother : thread = reader
    · rw [hother, hforgotten.asleep] at hawake
      cases hawake
    · cases (hidle thread hother).2.symm.trans hawake

/-- Another thread moves and leaves the writers' counters alone: the reader stays forgotten, and
the remaining work changes by that thread's. -/
theorem move (hforgotten : Forgotten state reader) {label : LockLabel Thread} {after : Rwlock}
    {thread : Thread} {client : LockClient} (hother : thread ≠ reader)
    (hnext : matchedNext state label =
      some { lock := after, clients := Function.update state.clients thread client })
    (hactive : after.activeWriters = state.lock.activeWriters)
    (hwaiting : after.waitingWriters = state.lock.waitingWriters) :
    Forgotten { lock := after, clients := Function.update state.clients thread client } reader := by
  refine ⟨hforgotten.lock.step hnext, hactive.trans hforgotten.noActive,
    hwaiting.trans hforgotten.noWaiting, ?_, ?_⟩
  · show (Function.update state.clients thread client reader).phase = .asleep .read
    rw [Function.update_of_ne hother.symm]
    exact hforgotten.asleep
  · show (Function.update state.clients thread client reader).readHolds = 0
    rw [Function.update_of_ne hother.symm]
    exact hforgotten.holdsNothing

/-- A thread that is not done can take a step that leaves less to do: an awake reader
acquires, a sleeping one times out, and a holder unlocks. -/
theorem exists_step (hforgotten : Forgotten state reader) {thread : Thread}
    (hleft : 0 < remaining (state.clients thread)) :
    ∃ label after client,
      WritersPersist state label ∧
      matchedNext state label =
        some { lock := after, clients := Function.update state.clients thread client } ∧
      after.activeWriters = state.lock.activeWriters ∧
      after.waitingWriters = state.lock.waitingWriters ∧
      remaining client < remaining (state.clients thread) := by
  have hvalid := hforgotten.lock.accounts.valid
  have hfree : ¬ LockMode.read.Busy state.lock := by
    simp [LockMode.Busy, hforgotten.noActive, hforgotten.noWaiting]
  cases hphase : (state.clients thread).phase with
  | awake mode =>
    obtain rfl := hforgotten.mode_eq_read (Or.inr hphase)
    refine ⟨.recheck thread, (state.lock.addWaiting .read (-1)).addActive .read 1,
      (state.clients thread).finish .read (.returns 0), id, ?_, rfl, rfl, ?_⟩
    · refine matchedNext_eq_some.mpr ⟨trivial, ?_⟩
      simp only [lockNext, hphase, rwlockWoken_acquires hvalid hfree]
      rfl
    · simp [remaining, hphase, LockClient.finish, LockClient.hold]
  | asleep mode =>
    obtain rfl := hforgotten.mode_eq_read (Or.inl hphase)
    refine ⟨.giveUp thread ETIMEDOUT, state.lock.addWaiting .read (-1),
      (state.clients thread).finish .read (.returns (failureCode ETIMEDOUT)), ?_, ?_, rfl, rfl,
      ?_⟩
    · rintro ⟨hasleep, _⟩
      cases hphase.symm.trans hasleep
    · have hret : ETIMEDOUT ≠ 0 := by decide
      refine matchedNext_eq_some.mpr ⟨trivial, ?_⟩
      simp only [lockNext, hphase, if_pos hret, rwlockWoken_failed _ _ hret]
      rfl
    · simp [remaining, hphase, LockClient.finish, failureCode, ETIMEDOUT]
  | idle =>
    have hheld : 0 < (state.clients thread).holds .read := by
      rw [remaining, if_pos hphase] at hleft
      exact hleft
    refine ⟨.unlock thread .read none, state.lock.addActive .read (-1),
      (state.clients thread).unlocked 0 .read, id, ?_, rfl, rfl, ?_⟩
    · have hnobody : LockMode.read.wakeup state.lock = .nobody :=
        if_neg fun h ↦ h.2 hforgotten.noWaiting
      refine matchedNext_eq_some.mpr ⟨hheld, ?_⟩
      simp only [lockNext, hphase, if_true,
        hforgotten.lock.unlock_releases hheld, hnobody]
      rfl
    · simp only [remaining, LockClient.unlocked, hphase, if_true]
      exact Nat.sub_lt hheld Nat.one_pos

/-- The other threads finish and leave the reader stranded. -/
theorem exists_stranded (hforgotten : Forgotten state reader) :
    ∃ final, (rwlockSystem Thread).Continuation WritersPersist state final ∧ Stranded final := by
  -- on the work all threads have left, which every step lowers
  induction hwork : tally remaining state.clients using Nat.strong_induction_on
    generalizing state with
  | _ work ih =>
    by_cases hdone : ∀ thread, thread ≠ reader → remaining (state.clients thread) = 0
    · exact ⟨state, .refl, hforgotten.stranded hdone⟩
    · simp only [not_forall] at hdone
      obtain ⟨thread, hother, hleft⟩ := hdone
      obtain ⟨label, after, client, hpersists, hnext, hactive, hwaiting, hless⟩ :=
        hforgotten.exists_step (Nat.pos_of_ne_zero hleft)
      have htally := tally_update_add remaining state.clients thread client
      obtain ⟨final, hmore, hstranded⟩ :=
        ih _ (show tally remaining (Function.update state.clients thread client) < work by omega)
          (hforgotten.move hother hnext hactive hwaiting) rfl
      exact ⟨final, .head ⟨label, hpersists, hnext⟩ hmore, hstranded⟩

end Forgotten

/-- The step in which the last waiting writer gives up forgets a sleeping reader. -/
theorem LastWriterGivesUp.forgotten {state successor : LockState Thread}
    {label : LockLabel Thread} (hinvariant : LockInvariant state)
    (hgivesUp : LastWriterGivesUp state label) (hnext : matchedNext state label = some successor) :
    ∃ reader, Forgotten successor reader := by
  have hafter := hinvariant.step hnext
  cases hinvariant.step_cases hnext with
  | @givesUp thread mode ret hasleep hret =>
    obtain ⟨hwriter, hlast, hnoActive, reader, hreader, hholds⟩ := hgivesUp
    cases hasleep.symm.trans hwriter
    have hother : reader ≠ thread := by
      rintro rfl
      cases hreader.symm.trans hwriter
    refine ⟨reader, hafter, hnoActive, ?_, ?_, ?_⟩
    · show state.lock.waitingWriters + -1 = 0
      omega
    · show (Function.update state.clients thread _ reader).phase = .asleep .read
      rw [Function.update_of_ne hother]
      exact hreader
    · show (Function.update state.clients thread _ reader).readHolds = 0
      rw [Function.update_of_ne hother]
      exact hholds
  | _ => exact hgivesUp.elim

/-- The lock strands a sleeper exactly through a last waiting writer that gives up. In a run
without such a step no reachable state has a stranded sleeper; and after such a step, taken in a
state of such a run, further steps none of which is such a step lead to a stranded sleeper. -/
theorem sleepers_stranded_iff (Thread : Type*) [Fintype Thread] [DecidableEq Thread] :
    (rwlockSystem Thread).ExactWithin WritersPersist fun state ↦ ¬ Stranded state := by
  constructor
  · intro state hreach
    exact (wakeInvariant_of_writersPersist hreach).not_stranded
  · intro state label successor hreach hgivesUp hnext
    obtain ⟨reader, hforgotten⟩ :=
      (not_not.mp hgivesUp).forgotten (lockInvariant_reachable hreach.reachable) hnext
    obtain ⟨final, hmore, hstranded⟩ := hforgotten.exists_stranded
    exact ⟨final, hmore, not_not.mpr hstranded⟩

/-- The start of three threads on a fresh lock. -/
def threeThreads : LockState (Fin 3) :=
  { lock := ⟨0, 0, 0, 0⟩, clients := fun _ ↦ LockClient.fresh }

/-- A thread reads, one waits to write, and one waits to read behind it. -/
def readerBehindWriter (active writer behind : Thread) : List (LockLabel Thread) :=
  [.lock active .read, .lock writer .write, .lock behind .read]

/-- The writer times out, the active reader unlocks, and the reader behind the writer sleeps on
beside a free lock. -/
theorem writer_timeout_strands_reader :
    ¬ ∀ state : LockState (Fin 3), (rwlockSystem (Fin 3)).Reachable state → ¬ Stranded state := by
  intro hclaim
  obtain ⟨final, hrun, hstranded⟩ : ∃ final,
      (rwlockSystem (Fin 3)).run threeThreads
        (readerBehindWriter 0 1 2 ++ [.giveUp 1 ETIMEDOUT, .unlock 0 .read none]) = some final ∧
      Stranded final := by
    refine ⟨_, rfl, rfl, rfl, fun thread mode ↦ ?_, 2, .read, rfl⟩
    fin_cases thread <;> cases mode <;> decide
  exact hclaim final (TransitionSystem.reachable_of_run ⟨rfl, fun _ ↦ rfl⟩ _ hrun) hstranded

/-- With thread 2 waiting behind the writer nobody is stranded, and the writer's timeout leads to
a stranded sleeper. -/
theorem sleepers_stranded_iff_reader_behind_writer :
    ∃ state successor final : LockState (Fin 3), ¬ Stranded state ∧
      (rwlockSystem (Fin 3)).next state (.giveUp 1 ETIMEDOUT) = some successor ∧
      (rwlockSystem (Fin 3)).Continuation WritersPersist successor final ∧ Stranded final := by
  obtain ⟨state, successor, hrun, hgivesUp, hnext⟩ : ∃ state successor,
      (rwlockSystem (Fin 3)).run threeThreads (readerBehindWriter 0 1 2) = some state ∧
      LastWriterGivesUp state (.giveUp 1 ETIMEDOUT) ∧
      (rwlockSystem (Fin 3)).next state (.giveUp 1 ETIMEDOUT) = some successor :=
    ⟨_, _, rfl, ⟨rfl, rfl, rfl, 2, rfl, rfl⟩, rfl⟩
  have hpersist (other : LockState (Fin 3)) (label : LockLabel (Fin 3))
      (hlabel : label ∈ readerBehindWriter 0 1 2) : WritersPersist other label := by
    simp only [readerBehindWriter, List.mem_cons, List.not_mem_nil, or_false] at hlabel
    rcases hlabel with rfl | rfl | rfl <;> exact id
  have hreach : (rwlockSystem (Fin 3)).ReachableUnder WritersPersist state :=
    TransitionSystem.ReachableUnder.run (readerBehindWriter 0 1 2) hpersist
      (.initial ⟨rfl, fun _ ↦ rfl⟩) hrun
  obtain ⟨final, hmore, hstranded⟩ :=
    (sleepers_stranded_iff (Fin 3)).broken state _ successor hreach (not_not.mpr hgivesUp) hnext
  exact ⟨state, successor, final, (sleepers_stranded_iff (Fin 3)).kept state hreach, hnext, hmore,
    not_not.mp hstranded⟩

end Bme680.ReadWriteLock
