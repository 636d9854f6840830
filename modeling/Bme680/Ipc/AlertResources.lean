import Bme680.SectionOutcome
import Bme680.Concurrency.TransitionSystem
import Bme680.Concurrency.ResourceLedger

/-!
# The resources behind the alerts

`bme680_ipc_init` allocates the block `ipc_data` points to, initialises the mutex in it, and
creates a netlink socket and a message queue; where one of them fails it takes back what it has.
`bme680_ipc_cleanup` releases everything. Neither ever sets the global pointer back to `NULL`, so
after a failed `bme680_ipc_init`, and after a cleanup, `ipc_data` still points to the block that
was freed, and the test in the next cleanup lets it through.

`timer_init` takes its timer by value: the timer it allocates is assigned to its own parameter, and
`ipc_data->timer` keeps the null pointer `kzalloc` gave it, which `timer_destroy` then follows. So
as the code stands the first cleanup after a successful init does not get beyond that call. The
system has a parameter for it, so that what the cleanup would do with the timer stored can be
followed as well.

Resources are numbered by the call of `bme680_ipc_init` that created them.
`ipc_resources_released_once_iff` says when they are all released exactly once.
-/

set_option autoImplicit false
set_option relaxedAutoImplicit false

namespace Bme680.Ipc

open Concurrency

/-! ### The resources and the calls -/

/-- What `bme680_ipc_init` creates. -/
inductive IpcResourceKind
  | block
  | lock
  | netlinkSocket
  | messageQueue
  deriving DecidableEq, Repr

/-- A resource, with the number of the call that created it. -/
structure IpcResource where
  kind : IpcResourceKind
  call : ℕ
  deriving DecidableEq, Repr

/-- What `struct bme680_ipc_data` holds: whether `nl_sk` is not null, whether `sysv_msgid` is not
negative, and whether `timer` is not null. The number is that of the call that allocated it. -/
structure Bme680IpcData where
  call : ℕ
  nlSk : Bool
  sysvMsgid : Bool
  timer : Bool
  deriving DecidableEq, Repr

/-- How far a call of `bme680_ipc_init` gets: the allocation, the netlink socket or the message
queue fails, or it returns zero. -/
inductive IpcInitOutcome
  | noMemory
  | noSocket
  | noQueue
  | succeeds
  deriving DecidableEq, Repr

/-- What a call of `bme680_ipc_init` does with the resources, in order. -/
def ipcInitActions (call : ℕ) : IpcInitOutcome → List (ResourceAction IpcResource)
  | .noMemory => []
  | .noSocket =>
    [.create ⟨.block, call⟩, .create ⟨.lock, call⟩, .use ⟨.block, call⟩, .release ⟨.lock, call⟩,
      .release ⟨.block, call⟩]
  | .noQueue =>
    [.create ⟨.block, call⟩, .create ⟨.lock, call⟩, .create ⟨.netlinkSocket, call⟩,
      .use ⟨.block, call⟩, .release ⟨.netlinkSocket, call⟩, .release ⟨.lock, call⟩,
      .release ⟨.block, call⟩]
  | .succeeds =>
    [.create ⟨.block, call⟩, .create ⟨.lock, call⟩, .create ⟨.netlinkSocket, call⟩,
      .create ⟨.messageQueue, call⟩, .use ⟨.block, call⟩]

/-- What `ipc_data` points to after a call of `bme680_ipc_init`, freed or not, given whether
`timer_init` stores the timer. The block is zeroed when it is allocated, and zero is not a negative
`sysv_msgid`. -/
def ipcInitPointer (timerStored : Bool) (call : ℕ) : IpcInitOutcome → Option Bme680IpcData
  | .noMemory => none
  | .noSocket => some { call := call, nlSk := false, sysvMsgid := true, timer := false }
  | .noQueue => some { call := call, nlSk := true, sysvMsgid := false, timer := false }
  | .succeeds => some { call := call, nlSk := true, sysvMsgid := true, timer := timerStored }

/-- The code a call of `bme680_ipc_init` returns. -/
def ipcInitReturn : IpcInitOutcome → ℤ
  | .noMemory | .noSocket | .noQueue => -ENOMEM
  | .succeeds => 0

/-- What `bme680_ipc_cleanup` does with the resources, in order, where `ipc_data` is not null. It
does not get beyond `timer_destroy` where the timer is null. -/
def ipcCleanupActions (data : Bme680IpcData) : List (ResourceAction IpcResource) :=
  [.use ⟨.block, data.call⟩, .use ⟨.lock, data.call⟩] ++
    if data.timer then
      (if data.nlSk then [.release ⟨.netlinkSocket, data.call⟩] else []) ++
        (if data.sysvMsgid then [.release ⟨.messageQueue, data.call⟩] else []) ++
        [.use ⟨.lock, data.call⟩, .release ⟨.lock, data.call⟩, .release ⟨.block, data.call⟩]
    else []

/-! ### The system -/

/-- The global pointer with what it points to, the ledger, the calls of `bme680_ipc_init` so far,
the code the last one returned, whether the last one succeeded and no cleanup was called since,
whether a null pointer was followed, and whether a cleanup did something when nothing was left to
release. -/
structure IpcResourcesState where
  ipcData : Option Bme680IpcData
  ledger : ResourceLedger IpcResource
  calls : ℕ
  lastReturn : ℤ
  awaitsCleanup : Bool
  faulted : Bool
  lateCleanup : Bool

/-- A call of one of the two functions. -/
inductive IpcResourcesLabel
  | init (outcome : IpcInitOutcome)
  | cleanup
  deriving DecidableEq, Repr

/-- One call. `bme680_ipc_init` is not called again before the cleanup of one that succeeded, and
nothing is called after a null pointer was followed. -/
def ipcResourcesNext (timerStored : Bool) (state : IpcResourcesState) :
    IpcResourcesLabel → Option IpcResourcesState
  | .init outcome =>
    if state.awaitsCleanup = true ∨ state.faulted = true then none
    else
      some
        { state with
          ipcData := ipcInitPointer timerStored state.calls outcome
          ledger := state.ledger.perform (ipcInitActions state.calls outcome)
          calls := state.calls + 1
          lastReturn := ipcInitReturn outcome
          awaitsCleanup := outcome = .succeeds }
  | .cleanup =>
    if state.faulted = true then none
    else
      match state.ipcData with
      | none => some state
      | some data =>
        some
          { state with
            ledger := state.ledger.perform (ipcCleanupActions data)
            awaitsCleanup := false
            faulted := !data.timer
            lateCleanup := state.lateCleanup || !state.awaitsCleanup }

/-- Calls of the two functions from the loading of the module on. -/
def ipcResourcesSystem (timerStored : Bool) :
    TransitionSystem IpcResourcesState IpcResourcesLabel where
  initial state :=
    state.ipcData = none ∧ state.ledger = .empty ∧ state.calls = 0 ∧
      state.awaitsCleanup = false ∧ state.faulted = false ∧ state.lateCleanup = false
  next := ipcResourcesNext timerStored

/-! ### Released exactly once -/

/-- Nothing was released twice or used while it was not live; unless the last `bme680_ipc_init`
succeeded and was not cleaned up, everything created was released; and no cleanup did anything when
nothing was left to release. -/
def ReleasedOnce (state : IpcResourcesState) : Prop :=
  state.ledger.Sound ∧ (state.awaitsCleanup = false → state.ledger.Settled) ∧
    state.lateCleanup = false

/-- A cleanup is called only where `ipc_data` is null, or, had `timer_init` stored the timer, as
the first one after a `bme680_ipc_init` that succeeded. -/
def CleanupSafe (timerStored : Bool) (state : IpcResourcesState) : IpcResourcesLabel → Prop
  | .init _ => True
  | .cleanup => state.ipcData = none ∨ (timerStored = true ∧ state.awaitsCleanup = true)

/-- The resources of the calls so far: those of a call that succeeded and was not cleaned up are
live, and `ipc_data` points to them; all others were released as often as created. -/
structure IpcResourcesInvariant (timerStored : Bool) (state : IpcResourcesState) : Prop where
  sound : state.ledger.Sound
  fresh : ∀ kind call, state.calls ≤ call →
    state.ledger.created ⟨kind, call⟩ = 0 ∧ state.ledger.released ⟨kind, call⟩ = 0
  settled : state.awaitsCleanup = false → state.ledger.Settled
  held : state.awaitsCleanup = true → ∃ call, state.calls = call + 1 ∧
    state.ipcData = ipcInitPointer timerStored call .succeeds ∧
    ∀ kind other, state.ledger.created ⟨kind, other⟩ =
      state.ledger.released ⟨kind, other⟩ + if other = call then 1 else 0
  late : state.lateCleanup = false

/-- A ledger is fresh for a call that has not been made. -/
def FreshFor (ledger : ResourceLedger IpcResource) (call : ℕ) : Prop :=
  ∀ kind, ledger.created ⟨kind, call⟩ = 0 ∧ ledger.released ⟨kind, call⟩ = 0

/-- What a call of `bme680_ipc_init` leaves in the ledger. -/
theorem perform_init {ledger : ResourceLedger IpcResource} {call : ℕ}
    (hfresh : FreshFor ledger call) (outcome : IpcInitOutcome) :
    let after := ledger.perform (ipcInitActions call outcome)
    after.strayUses = ledger.strayUses ∧ ∀ kind other,
      (other ≠ call → after.created ⟨kind, other⟩ = ledger.created ⟨kind, other⟩ ∧
        after.released ⟨kind, other⟩ = ledger.released ⟨kind, other⟩) ∧
      after.created ⟨kind, call⟩ =
        after.released ⟨kind, call⟩ + if outcome = .succeeds then 1 else 0 := by
  have hblock := hfresh .block
  intro after
  refine ⟨?_, fun kind other ↦ ⟨fun hother ↦ ?_, ?_⟩⟩
  · cases outcome <;>
      simp [after, ipcInitActions, ResourceLedger.perform, ResourceLedger.act,
        ResourceLedger.Live, hblock]
  · cases outcome <;>
      simp [after, ipcInitActions, ResourceLedger.perform, ResourceLedger.act,
        ResourceLedger.Live, hblock, hother]
  · have hkind := hfresh kind
    cases outcome <;> cases kind <;>
      simp [after, ipcInitActions, ResourceLedger.perform, ResourceLedger.act,
        ResourceLedger.Live, hblock, hkind]

/-- What is left to release is what one call created. -/
def Owes (ledger : ResourceLedger IpcResource) (call : ℕ) : Prop :=
  ∀ kind other, ledger.created ⟨kind, other⟩ =
    ledger.released ⟨kind, other⟩ + if other = call then 1 else 0

/-- The resources of the call are live. -/
theorem Owes.live {ledger : ResourceLedger IpcResource} {call : ℕ} (howes : Owes ledger call)
    (kind : IpcResourceKind) : ledger.released ⟨kind, call⟩ < ledger.created ⟨kind, call⟩ := by
  simp [howes kind call]

/-- A cleanup that gets to its end releases what the call that succeeded had created. -/
theorem perform_cleanup {ledger : ResourceLedger IpcResource} {call : ℕ}
    (howes : Owes ledger call) :
    let after := ledger.perform
      (ipcCleanupActions { call := call, nlSk := true, sysvMsgid := true, timer := true })
    after.strayUses = ledger.strayUses ∧ after.created = ledger.created ∧ after.Settled := by
  have hlive := howes.live
  intro after
  refine ⟨?_, ?_, fun resource ↦ ?_⟩
  · simp [after, ipcCleanupActions, ResourceLedger.perform, ResourceLedger.act,
      ResourceLedger.Live, hlive]
  · simp [after, ipcCleanupActions, ResourceLedger.perform, ResourceLedger.act,
      ResourceLedger.Live, hlive]
  · obtain ⟨kind, other⟩ := resource
    have hbefore := howes kind other
    by_cases hother : other = call
    · subst hother
      cases kind <;>
        simp [after, ipcCleanupActions, ResourceLedger.perform, ResourceLedger.act,
          ResourceLedger.Live, hlive, hbefore]
    · simp [after, ipcCleanupActions, ResourceLedger.perform, ResourceLedger.act,
        ResourceLedger.Live, hlive, hbefore, hother]

/-- A cleanup that stops at a null timer releases nothing. -/
theorem perform_cleanup_null {ledger : ResourceLedger IpcResource} {call : ℕ}
    (howes : Owes ledger call) :
    ¬ (ledger.perform (ipcCleanupActions
      { call := call, nlSk := true, sysvMsgid := true, timer := false })).Settled := by
  have hlive := howes.live
  intro hsettled
  have hblock := hsettled ⟨.block, call⟩
  simp [ipcCleanupActions, ResourceLedger.perform, ResourceLedger.act, ResourceLedger.Live,
    hlive] at hblock
  exact (hlive .block).ne hblock

/-- A call of `bme680_ipc_init` keeps the invariant. -/
theorem IpcResourcesInvariant.init {timerStored : Bool} {state successor : IpcResourcesState}
    {outcome : IpcInitOutcome} (hinv : IpcResourcesInvariant timerStored state)
    (hnext : ipcResourcesNext timerStored state (.init outcome) = some successor) :
    IpcResourcesInvariant timerStored successor := by
  simp only [ipcResourcesNext] at hnext
  split_ifs at hnext with hbusy
  obtain rfl := Option.some.inj hnext
  obtain ⟨hawaits, -⟩ := not_or.mp hbusy
  have hsettled := hinv.settled (by simpa using hawaits)
  have hfresh : FreshFor state.ledger state.calls := fun kind ↦ hinv.fresh kind _ le_rfl
  obtain ⟨hstray, heffect⟩ := perform_init hfresh outcome
  refine ⟨⟨fun resource ↦ ?_, hstray.trans hinv.sound.2⟩, fun kind call hcall ↦ ?_,
    fun hfailed resource ↦ ?_, fun hsucceeds ↦ ?_, hinv.late⟩
  · obtain ⟨kind, other⟩ := resource
    by_cases hother : other = state.calls
    · subst hother
      exact (heffect kind state.calls).2 ▸ Nat.le_add_right _ _
    · obtain ⟨hcreated, hreleased⟩ := (heffect kind other).1 hother
      rw [hcreated, hreleased]
      exact hinv.sound.1 _
  · have hother : call ≠ state.calls := by
      change state.calls + 1 ≤ call at hcall
      omega
    obtain ⟨hcreated, hreleased⟩ := (heffect kind call).1 hother
    rw [hcreated, hreleased]
    exact hinv.fresh kind call (Nat.le_of_succ_le hcall)
  · obtain ⟨kind, other⟩ := resource
    by_cases hother : other = state.calls
    · subst hother
      have hcreated := (heffect kind state.calls).2
      rw [if_neg (by simpa using hfailed)] at hcreated
      exact hcreated.symm
    · obtain ⟨hcreated, hreleased⟩ := (heffect kind other).1 hother
      rw [hcreated, hreleased]
      exact hsettled _
  · obtain rfl : outcome = .succeeds := by simpa using hsucceeds
    refine ⟨state.calls, rfl, rfl, fun kind other ↦ ?_⟩
    by_cases hother : other = state.calls
    · subst hother
      simpa using (heffect kind state.calls).2
    · obtain ⟨hcreated, hreleased⟩ := (heffect kind other).1 hother
      rw [if_neg hother, hcreated, hreleased]
      exact (hsettled _).symm

/-- A safe cleanup keeps the invariant. -/
theorem IpcResourcesInvariant.cleanup {timerStored : Bool} {state successor : IpcResourcesState}
    (hinv : IpcResourcesInvariant timerStored state)
    (hsafe : CleanupSafe timerStored state .cleanup)
    (hnext : ipcResourcesNext timerStored state .cleanup = some successor) :
    IpcResourcesInvariant timerStored successor := by
  simp only [ipcResourcesNext] at hnext
  split_ifs at hnext
  rcases hsafe with hnull | ⟨rfl, hawaits⟩
  · rw [hnull] at hnext
    obtain rfl := Option.some.inj hnext
    exact hinv
  · obtain ⟨call, hcalls, hpointer, hheld⟩ := hinv.held hawaits
    rw [hpointer] at hnext
    obtain rfl := Option.some.inj hnext
    obtain ⟨hstray, hcreated, hsettled⟩ := perform_cleanup hheld
    refine ⟨⟨fun resource ↦ (hsettled resource).le, hstray.trans hinv.sound.2⟩,
      fun kind other hother ↦ ?_, fun _ ↦ hsettled, fun hlater ↦ ?_, ?_⟩
    · have hzero := (congrFun hcreated ⟨kind, other⟩).trans (hinv.fresh kind other hother).1
      exact ⟨hzero, (hsettled _).trans hzero⟩
    · cases hlater
    · simp [hinv.late, hawaits]

/-- The invariant holds in every run of safe calls. -/
theorem ipcResourcesInvariant_reachable {timerStored : Bool} {state : IpcResourcesState}
    (hreach : (ipcResourcesSystem timerStored).ReachableUnder (CleanupSafe timerStored) state) :
    IpcResourcesInvariant timerStored state := by
  refine hreach.invariant ?_ ?_
  · rintro start ⟨-, hledger, hcalls, hawaits, -, hlate⟩
    refine ⟨?_, fun _ _ _ ↦ ?_, fun _ ↦ ?_, fun hawaiting ↦ ?_, hlate⟩
    · rw [hledger]
      exact ⟨fun _ ↦ le_rfl, rfl⟩
    · rw [hledger]
      exact ⟨rfl, rfl⟩
    · rw [hledger]
      exact fun _ ↦ rfl
    · cases hawaits.symm.trans hawaiting
  · intro before label after hinv hsafe hnext
    cases label with
    | init outcome => exact hinv.init hnext
    | cleanup => exact hinv.cleanup hsafe hnext

/-- The resources of the alerts are released exactly once, whether or not `timer_init` stores the
timer, exactly while every cleanup is safe. As the code stands it does not store it, so that leaves
the cleanups called while `ipc_data` is null. -/
theorem ipc_resources_released_once_iff (timerStored : Bool) :
    (ipcResourcesSystem timerStored).ExactFor (CleanupSafe timerStored) ReleasedOnce := by
  refine ⟨fun state hreach ↦ ?_, fun state label successor hreach hnot hnext ↦ ?_⟩
  · have hinv := ipcResourcesInvariant_reachable hreach
    exact ⟨hinv.sound, hinv.settled, hinv.late⟩
  · have hinv := ipcResourcesInvariant_reachable hreach
    refine ⟨successor, .refl, ?_⟩
    cases label with
    | init outcome => exact absurd trivial hnot
    | cleanup =>
      obtain ⟨hpointer, hunsafe⟩ := not_or.mp hnot
      obtain ⟨data, hdata⟩ := Option.ne_none_iff_exists'.mp hpointer
      simp only [ipcResourcesSystem, ipcResourcesNext, hdata] at hnext
      split_ifs at hnext
      obtain rfl := Option.some.inj hnext
      rintro ⟨-, hsettled, hlate⟩
      cases hawaits : state.awaitsCleanup with
      | false =>
        -- a freed block is taken for a live one
        simp [hawaits] at hlate
      | true =>
        -- the cleanup that was due stops at the null timer
        obtain ⟨call, -, hinit, hheld⟩ := hinv.held hawaits
        have hnull : timerStored = false := by simpa [hawaits] using hunsafe
        obtain rfl := Option.some.inj (hdata.symm.trans hinit)
        subst hnull
        exact perform_cleanup_null hheld (hsettled rfl)

/-- `bme680_ipc_init` fails to create its netlink socket and frees the block, and the cleanup that
follows locks the mutex in the freed block. -/
theorem ipc_resources_used_after_release :
    ∃ state, (ipcResourcesSystem false).Reachable state ∧ ¬ ReleasedOnce state := by
  obtain ⟨final, hrun, hstray⟩ : ∃ final,
      (ipcResourcesSystem false).run
        { ipcData := none, ledger := .empty, calls := 0, lastReturn := 0, awaitsCleanup := false,
          faulted := false, lateCleanup := false }
        [.init .noSocket, .cleanup] = some final ∧ final.ledger.strayUses = 2 :=
    ⟨_, rfl, by decide⟩
  refine ⟨final, TransitionSystem.reachable_of_run ⟨rfl, rfl, rfl, rfl, rfl, rfl⟩ _ hrun, ?_⟩
  rintro ⟨⟨-, hnone⟩, -⟩
  cases hstray.symm.trans hnone

end Bme680.Ipc
