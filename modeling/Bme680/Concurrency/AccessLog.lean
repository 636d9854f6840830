import Mathlib.Data.List.Basic
import Mathlib.Logic.Function.Basic

/-!
# What a store delivered

A store keeps a value under every key. A log of its accesses, the last one first, says which values
were stored and which were delivered. The log is faithful if every value delivered is the one the
store held at that moment, which is the last one stored under the key, or the one it started with
(`Faithful.delivered_latest`).
-/

set_option autoImplicit false
set_option relaxedAutoImplicit false

namespace Bme680.Concurrency

/-- An access to a store: a value was stored under a key, or delivered for it. -/
inductive StoreAccess (Key Value : Type*)
  | stored (key : Key) (value : Value)
  | delivered (key : Key) (value : Value)

variable {Key Value : Type*}

/-- The log holds a value under a key: the last one stored, or the first one of the store where none
was stored. -/
def Latest (start : Key → Value) (log : List (StoreAccess Key Value)) (key : Key)
    (value : Value) : Prop :=
  (∃ later earlier, log = later ++ .stored key value :: earlier ∧
      ∀ other, .stored key other ∉ later) ∨
    (∀ other, .stored key other ∉ log) ∧ value = start key

/-- An access that stores nothing under a key keeps what is latest there. -/
theorem Latest.cons {start : Key → Value} {log : List (StoreAccess Key Value)} {key : Key}
    {value : Value} (hlatest : Latest start log key value) {access : StoreAccess Key Value}
    (hother : ∀ other, .stored key other ≠ access) : Latest start (access :: log) key value := by
  rcases hlatest with ⟨later, earlier, rfl, hnone⟩ | ⟨hnone, hstart⟩
  · refine Or.inl ⟨access :: later, earlier, rfl, fun other hmem ↦ ?_⟩
    rcases List.mem_cons.mp hmem with hhead | htail
    · exact hother other hhead
    · exact hnone other htail
  · refine Or.inr ⟨fun other hmem ↦ ?_, hstart⟩
    rcases List.mem_cons.mp hmem with hhead | htail
    · exact hother other hhead
    · exact hnone other htail

variable [DecidableEq Key]

/-- What a store holds after the accesses of a log. -/
def contents (start : Key → Value) : List (StoreAccess Key Value) → Key → Value
  | [] => start
  | .stored key value :: earlier => Function.update (contents start earlier) key value
  | .delivered _ _ :: earlier => contents start earlier

/-- Every value delivered is the one the store held. -/
def Faithful (start : Key → Value) : List (StoreAccess Key Value) → Prop
  | [] => True
  | .stored _ _ :: earlier => Faithful start earlier
  | .delivered key value :: earlier => value = contents start earlier key ∧ Faithful start earlier

/-- What the store holds is what is latest in its log. -/
theorem latest_contents (start : Key → Value) (log : List (StoreAccess Key Value)) (key : Key) :
    Latest start log key (contents start log key) := by
  induction log with
  | nil => exact Or.inr ⟨fun _ ↦ List.not_mem_nil, rfl⟩
  | cons access earlier ih =>
    cases access with
    | stored other value =>
      by_cases hkey : key = other
      · subst hkey
        refine Or.inl ⟨[], earlier, ?_, fun _ ↦ List.not_mem_nil⟩
        simp only [contents, Function.update_self, List.nil_append]
      · simp only [contents, Function.update_of_ne hkey]
        exact ih.cons fun _ hsame ↦ hkey (StoreAccess.stored.inj hsame).1
    | delivered other value =>
      refine ih.cons fun _ hsame ↦ ?_
      cases hsame

/-- Every value a faithful log delivers is the latest one before it. -/
theorem Faithful.delivered_latest {start : Key → Value} {log : List (StoreAccess Key Value)}
    (hfaithful : Faithful start log) {later earlier : List (StoreAccess Key Value)} {key : Key}
    {value : Value} (hlog : log = later ++ .delivered key value :: earlier) :
    Latest start earlier key value := by
  subst hlog
  induction later with
  | nil =>
    rw [hfaithful.1]
    exact latest_contents start earlier key
  | cons access rest ih =>
    cases access with
    | stored other stored => exact ih hfaithful
    | delivered other delivered => exact ih hfaithful.2

end Bme680.Concurrency
