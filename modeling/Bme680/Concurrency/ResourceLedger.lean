import Mathlib.Data.List.Count
import Mathlib.Logic.Function.Basic
import Mathlib.Order.Basic
import Mathlib.Tactic.Common

/-!
# Ledgers of resources

A ledger counts how often each resource was created and released, and the uses that found the
resource not live, before its creation or after its release. It is sound when no resource was
released more often than created and there was no such use.

A soundness proof looks at one action at a time: creating a resource is always sound, a use of a
live resource changes nothing, releasing a live one is sound, and neither is sound where the
resource is not live (`live_of_sound_use`, `live_of_sound_release`). A ledger is settled when every
resource was released as often as created. Where no resource is created or released twice, `Follows`
gives the ledger from the lifetime of each of them.
-/

set_option autoImplicit false
set_option relaxedAutoImplicit false

namespace Bme680.Concurrency

/-- How often each resource was created and released, and how many uses found it not live. -/
@[ext] structure ResourceLedger (Resource : Type*) where
  created : Resource → ℕ
  released : Resource → ℕ
  strayUses : ℕ

/-- What a program does with a resource. -/
inductive ResourceAction (Resource : Type*)
  | create (resource : Resource)
  | use (resource : Resource)
  | release (resource : Resource)
  deriving DecidableEq, Repr

/-- The resource of an action. -/
def ResourceAction.resource {Resource : Type*} : ResourceAction Resource → Resource
  | .create resource | .use resource | .release resource => resource

namespace ResourceLedger

variable {Resource : Type*}

/-- Nothing was created yet. -/
def empty : ResourceLedger Resource :=
  { created := fun _ ↦ 0, released := fun _ ↦ 0, strayUses := 0 }

/-- The resource was created more often than released. -/
def Live (ledger : ResourceLedger Resource) (resource : Resource) : Prop :=
  ledger.released resource < ledger.created resource

instance (ledger : ResourceLedger Resource) : DecidablePred ledger.Live :=
  fun resource ↦ inferInstanceAs (Decidable (ledger.released resource < ledger.created resource))

/-- Nothing was released more often than created, or used while it was not live. -/
def Sound (ledger : ResourceLedger Resource) : Prop :=
  (∀ resource, ledger.released resource ≤ ledger.created resource) ∧ ledger.strayUses = 0

/-- Everything was released as often as created. -/
def Settled (ledger : ResourceLedger Resource) : Prop :=
  ∀ resource, ledger.released resource = ledger.created resource

/-- A settled ledger is sound where every use found its resource. -/
theorem Settled.sound {ledger : ResourceLedger Resource} (hsettled : ledger.Settled)
    (huses : ledger.strayUses = 0) : ledger.Sound :=
  ⟨fun resource ↦ Nat.le_of_eq (hsettled resource), huses⟩

/-! ### Single actions -/

variable [DecidableEq Resource]

/-- The ledger after an action. -/
def act (ledger : ResourceLedger Resource) : ResourceAction Resource → ResourceLedger Resource
  | .create resource =>
    { ledger with
      created := Function.update ledger.created resource (ledger.created resource + 1) }
  | .use resource =>
    if ledger.Live resource then ledger else { ledger with strayUses := ledger.strayUses + 1 }
  | .release resource =>
    { ledger with
      released := Function.update ledger.released resource (ledger.released resource + 1) }

variable {ledger : ResourceLedger Resource} {resource other : Resource}

@[simp] theorem created_use (ledger : ResourceLedger Resource) (resource other : Resource) :
    (ledger.act (.use resource)).created other = ledger.created other := by
  by_cases hlive : ledger.Live resource <;> simp [act, hlive]

@[simp] theorem released_use (ledger : ResourceLedger Resource) (resource other : Resource) :
    (ledger.act (.use resource)).released other = ledger.released other := by
  by_cases hlive : ledger.Live resource <;> simp [act, hlive]

@[simp] theorem created_release (ledger : ResourceLedger Resource) (resource other : Resource) :
    (ledger.act (.release resource)).created other = ledger.created other := rfl

@[simp] theorem released_create (ledger : ResourceLedger Resource) (resource other : Resource) :
    (ledger.act (.create resource)).released other = ledger.released other := rfl

@[simp] theorem created_create_self (ledger : ResourceLedger Resource) (resource : Resource) :
    (ledger.act (.create resource)).created resource = ledger.created resource + 1 := by
  simp [act]

@[simp] theorem released_release_self (ledger : ResourceLedger Resource) (resource : Resource) :
    (ledger.act (.release resource)).released resource = ledger.released resource + 1 := by
  simp [act]

theorem created_create_of_ne (hother : other ≠ resource) :
    (ledger.act (.create resource)).created other = ledger.created other :=
  Function.update_of_ne hother _ _

theorem released_release_of_ne (hother : other ≠ resource) :
    (ledger.act (.release resource)).released other = ledger.released other :=
  Function.update_of_ne hother _ _

/-- Creating a resource is sound. -/
theorem sound_create (hsound : ledger.Sound) : (ledger.act (.create resource)).Sound := by
  refine ⟨fun other ↦ ?_, hsound.2⟩
  have hbefore := hsound.1 other
  by_cases hother : other = resource
  · subst hother
    simpa using Nat.le_succ_of_le hbefore
  · simpa [created_create_of_ne hother] using hbefore

/-- A use of a live resource leaves the ledger as it is. -/
theorem act_use (hlive : ledger.Live resource) : ledger.act (.use resource) = ledger :=
  if_pos hlive

/-- A use is not sound where the resource is not live. -/
theorem live_of_sound_use (hafter : (ledger.act (.use resource)).Sound) : ledger.Live resource := by
  by_contra hdead
  have hstray := hafter.2
  simp [act, hdead] at hstray

/-- Releasing a live resource is sound. -/
theorem sound_release (hsound : ledger.Sound) (hlive : ledger.Live resource) :
    (ledger.act (.release resource)).Sound := by
  refine ⟨fun other ↦ ?_, hsound.2⟩
  by_cases hother : other = resource
  · subst hother
    rw [released_release_self, created_release]
    exact hlive
  · simpa [released_release_of_ne hother] using hsound.1 other

/-- A release is not sound where the resource is not live. -/
theorem live_of_sound_release (hafter : (ledger.act (.release resource)).Sound) :
    ledger.Live resource := by
  have hcount := hafter.1 resource
  simpa [Live, Nat.succ_le_iff] using hcount

/-- A resource that was created once is not live after its release. -/
theorem not_live_release (honce : ledger.created resource ≤ 1) :
    ¬ (ledger.act (.release resource)).Live resource := by
  rw [Live, released_release_self, created_release]
  omega

/-- Releasing another resource leaves a resource live or not. -/
theorem live_release_of_ne (hother : other ≠ resource) :
    (ledger.act (.release resource)).Live other ↔ ledger.Live other := by
  rw [Live, Live, released_release_of_ne hother, created_release]

/-- Creating another resource leaves a resource live or not. -/
theorem live_create_of_ne (hother : other ≠ resource) :
    (ledger.act (.create resource)).Live other ↔ ledger.Live other := by
  rw [Live, Live, created_create_of_ne hother, released_create]

/-- A use leaves a resource live or not. -/
theorem live_use : (ledger.act (.use resource)).Live other ↔ ledger.Live other := by
  rw [Live, Live, created_use, released_use]

/-- A release brings no resource to life. -/
theorem live_of_live_release (hlive : (ledger.act (.release other)).Live resource) :
    ledger.Live resource := by
  by_cases hsame : resource = other
  · subst hsame
    rw [Live, released_release_self, created_release] at hlive
    exact Nat.lt_of_succ_lt hlive
  · exact (live_release_of_ne hsame).mp hlive

/-- A use that finds a resource not live is counted. -/
theorem strayUses_use (hdead : ¬ ledger.Live resource) :
    (ledger.act (.use resource)).strayUses = ledger.strayUses + 1 := by
  simp [act, hdead]

/-- An action forgets no use that found a resource not live. -/
theorem strayUses_le_act (action : ResourceAction Resource) :
    ledger.strayUses ≤ (ledger.act action).strayUses := by
  cases action with
  | create resource => exact Nat.le_refl _
  | use resource =>
    by_cases hlive : ledger.Live resource
    · exact Nat.le_of_eq (congrArg strayUses (act_use hlive)).symm
    · rw [strayUses_use hlive]
      exact Nat.le_succ _
  | release resource => exact Nat.le_refl _

/-! ### Lifetimes -/

/-- Where a resource is in its life. -/
inductive Lifetime
  | unborn
  | alive
  | dead
  deriving DecidableEq, Repr

/-- The ledger of resources that are created and released once at most, from where each of them is
in its life. -/
structure Follows (ledger : ResourceLedger Resource) (lifetime : Resource → Lifetime) : Prop where
  created : ∀ resource, ledger.created resource = if lifetime resource = .unborn then 0 else 1
  released : ∀ resource, ledger.released resource = if lifetime resource = .dead then 1 else 0
  uses : ledger.strayUses = 0

namespace Follows

variable {lifetime : Resource → Lifetime}

omit [DecidableEq Resource] in
/-- A ledger in which nothing was created follows resources that are all unborn. -/
theorem empty (hunborn : ∀ resource, lifetime resource = .unborn) :
    (ResourceLedger.empty : ResourceLedger Resource).Follows lifetime :=
  ⟨fun resource ↦ by rw [hunborn resource]; rfl, fun resource ↦ by rw [hunborn resource]; rfl, rfl⟩

omit [DecidableEq Resource] in
/-- The live resources are those that are alive. -/
theorem live_iff (hfollows : ledger.Follows lifetime) :
    ledger.Live resource ↔ lifetime resource = .alive := by
  rw [Live, hfollows.created, hfollows.released]
  cases lifetime resource <;> simp

omit [DecidableEq Resource] in
/-- A ledger that follows lifetimes is sound. -/
theorem sound (hfollows : ledger.Follows lifetime) : ledger.Sound := by
  refine ⟨fun resource ↦ ?_, hfollows.uses⟩
  rw [hfollows.created, hfollows.released]
  cases lifetime resource <;> simp

omit [DecidableEq Resource] in
/-- A ledger follows lifetimes that are the same for every resource. -/
theorem congr {same : Resource → Lifetime} (hfollows : ledger.Follows lifetime)
    (hsame : ∀ resource, same resource = lifetime resource) : ledger.Follows same := by
  obtain rfl : same = lifetime := funext hsame
  exact hfollows

/-- A ledger goes on following lifetimes of which one has changed with its counts. -/
theorem change {after : ResourceLedger Resource} (hfollows : ledger.Follows lifetime)
    {state : Lifetime} (huses : after.strayUses = 0)
    (hcreated : after.created resource = if state = .unborn then 0 else 1)
    (hreleased : after.released resource = if state = .dead then 1 else 0)
    (hother : ∀ other, other ≠ resource → after.created other = ledger.created other ∧
      after.released other = ledger.released other) :
    after.Follows (Function.update lifetime resource state) := by
  refine ⟨fun other ↦ ?_, fun other ↦ ?_, huses⟩
  · by_cases hsame : other = resource
    · subst hsame
      rw [Function.update_self, hcreated]
    · rw [Function.update_of_ne hsame, (hother other hsame).1, hfollows.created]
  · by_cases hsame : other = resource
    · subst hsame
      rw [Function.update_self, hreleased]
    · rw [Function.update_of_ne hsame, (hother other hsame).2, hfollows.released]

/-- Creating an unborn resource brings it to life. -/
theorem create (hfollows : ledger.Follows lifetime) (hunborn : lifetime resource = .unborn) :
    (ledger.act (.create resource)).Follows (Function.update lifetime resource .alive) := by
  refine hfollows.change hfollows.uses ?_ ?_ fun other hother ↦
    ⟨created_create_of_ne hother, released_create _ _ _⟩
  · rw [created_create_self, hfollows.created, hunborn]
    rfl
  · rw [released_create, hfollows.released, hunborn]
    rfl

/-- Using a resource that is alive changes nothing. -/
theorem use (hfollows : ledger.Follows lifetime) (halive : lifetime resource = .alive) :
    (ledger.act (.use resource)).Follows lifetime := by
  rwa [act_use (hfollows.live_iff.mpr halive)]

/-- Releasing a resource that is alive ends its life. -/
theorem release (hfollows : ledger.Follows lifetime) (halive : lifetime resource = .alive) :
    (ledger.act (.release resource)).Follows (Function.update lifetime resource .dead) := by
  refine hfollows.change hfollows.uses ?_ ?_ fun other hother ↦
    ⟨created_release _ _ _, released_release_of_ne hother⟩
  · rw [created_release, hfollows.created, halive]
    rfl
  · rw [released_release_self, hfollows.released, halive]
    rfl

end Follows

/-! ### Sequences of actions -/

/-- The ledger after a sequence of actions. -/
def perform (ledger : ResourceLedger Resource) (actions : List (ResourceAction Resource)) :
    ResourceLedger Resource :=
  actions.foldl act ledger

@[simp] theorem perform_nil (ledger : ResourceLedger Resource) : ledger.perform [] = ledger := rfl

@[simp] theorem perform_cons (ledger : ResourceLedger Resource) (action : ResourceAction Resource)
    (actions : List (ResourceAction Resource)) :
    ledger.perform (action :: actions) = (ledger.act action).perform actions := rfl

theorem perform_append (ledger : ResourceLedger Resource)
    (first second : List (ResourceAction Resource)) :
    ledger.perform (first ++ second) = (ledger.perform first).perform second :=
  List.foldl_append

/-- A sequence creates a resource as often as it has its creation. -/
theorem created_perform (ledger : ResourceLedger Resource)
    (actions : List (ResourceAction Resource)) (resource : Resource) :
    (ledger.perform actions).created resource =
      ledger.created resource + actions.count (.create resource) := by
  induction actions generalizing ledger with
  | nil => rfl
  | cons action actions ih =>
    rw [perform_cons, ih]
    cases action with
    | create other =>
      by_cases hother : resource = other
      · subst hother
        rw [created_create_self, List.count_cons_self, Nat.add_right_comm, Nat.add_assoc]
      · rw [created_create_of_ne hother, List.count_cons_of_ne (by simpa using Ne.symm hother)]
    | use other => rw [created_use, List.count_cons_of_ne (by simp)]
    | release other => rw [created_release, List.count_cons_of_ne (by simp)]

/-- A sequence releases a resource as often as it has its release. -/
theorem released_perform (ledger : ResourceLedger Resource)
    (actions : List (ResourceAction Resource)) (resource : Resource) :
    (ledger.perform actions).released resource =
      ledger.released resource + actions.count (.release resource) := by
  induction actions generalizing ledger with
  | nil => rfl
  | cons action actions ih =>
    rw [perform_cons, ih]
    cases action with
    | create other => rw [released_create, List.count_cons_of_ne (by simp)]
    | use other => rw [released_use, List.count_cons_of_ne (by simp)]
    | release other =>
      by_cases hother : resource = other
      · subst hother
        rw [released_release_self, List.count_cons_self, Nat.add_right_comm, Nat.add_assoc]
      · rw [released_release_of_ne hother, List.count_cons_of_ne (by simpa using Ne.symm hother)]

/-- A sequence without uses leaves the uses that found nothing as they were. -/
theorem strayUses_perform (actions : List (ResourceAction Resource))
    (hnone : ∀ resource, .use resource ∉ actions) (ledger : ResourceLedger Resource) :
    (ledger.perform actions).strayUses = ledger.strayUses := by
  induction actions generalizing ledger with
  | nil => rfl
  | cons action actions ih =>
    have hrest : ∀ resource, .use resource ∉ actions :=
      fun resource hmem ↦ hnone resource (List.mem_cons_of_mem action hmem)
    rw [perform_cons, ih hrest]
    cases action with
    | create resource => rfl
    | use resource => exact absurd (List.mem_cons_self ..) (hnone resource)
    | release resource => rfl

/-- Uses of live resources leave the ledger as it is. -/
theorem perform_uses (resources : List Resource)
    (hlive : ∀ resource ∈ resources, ledger.Live resource) :
    ledger.perform (resources.map .use) = ledger := by
  induction resources with
  | nil => rfl
  | cons resource resources ih =>
    rw [List.map_cons, perform_cons, act_use (hlive resource (List.mem_cons_self ..))]
    exact ih fun other hmem ↦ hlive other (List.mem_cons_of_mem resource hmem)

/-- Uses leave a resource live or not. -/
theorem live_perform_uses (resources : List Resource) :
    (ledger.perform (resources.map .use)).Live resource ↔ ledger.Live resource := by
  induction resources generalizing ledger with
  | nil => exact Iff.rfl
  | cons other resources ih => rw [List.map_cons, perform_cons, ih, live_use]

/-- A sequence forgets no use that found a resource not live. -/
theorem strayUses_le_perform (actions : List (ResourceAction Resource)) :
    ledger.strayUses ≤ (ledger.perform actions).strayUses := by
  induction actions generalizing ledger with
  | nil => exact Nat.le_refl _
  | cons action actions ih => exact Nat.le_trans (strayUses_le_act action) ih

/-- A sequence that begins with a use of a resource that is not live is not sound. -/
theorem not_sound_perform_use (hdead : ¬ ledger.Live resource)
    (actions : List (ResourceAction Resource)) :
    ¬ (ledger.perform (.use resource :: actions)).Sound := by
  intro hsound
  have hcounted : (ledger.act (.use resource)).strayUses ≤ _ := strayUses_le_perform actions
  rw [strayUses_use hdead, ← perform_cons, hsound.2] at hcounted
  exact Nat.not_succ_le_zero _ hcounted

/-- From nothing, a sequence is settled where it releases every resource as often as it creates
it. -/
theorem settled_perform_iff (actions : List (ResourceAction Resource)) :
    (empty.perform actions).Settled ↔
      ∀ resource, actions.count (.release resource) = actions.count (.create resource) := by
  refine forall_congr' fun resource ↦ ?_
  rw [released_perform, created_perform]
  exact Nat.add_left_cancel_iff

/-! ### The same action on several resources -/

section Counts

variable (resources : List Resource) (resource : Resource)

@[simp] theorem count_create_map_create :
    (resources.map ResourceAction.create).count (.create resource) = resources.count resource :=
  List.count_map_of_injective _ _ (fun _ _ ↦ ResourceAction.create.inj) _

@[simp] theorem count_release_map_release :
    (resources.map ResourceAction.release).count (.release resource) = resources.count resource :=
  List.count_map_of_injective _ _ (fun _ _ ↦ ResourceAction.release.inj) _

@[simp] theorem count_create_map_use :
    (resources.map ResourceAction.use).count (.create resource) = 0 := by
  simp [List.count_eq_zero]

@[simp] theorem count_create_map_release :
    (resources.map ResourceAction.release).count (.create resource) = 0 := by
  simp [List.count_eq_zero]

@[simp] theorem count_release_map_create :
    (resources.map ResourceAction.create).count (.release resource) = 0 := by
  simp [List.count_eq_zero]

@[simp] theorem count_release_map_use :
    (resources.map ResourceAction.use).count (.release resource) = 0 := by
  simp [List.count_eq_zero]

end Counts

end ResourceLedger

end Bme680.Concurrency
