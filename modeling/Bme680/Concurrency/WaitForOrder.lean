import Mathlib.Logic.Relation
import Mathlib.Order.WellFounded
import Mathlib.Order.RelClasses

/-!
# Wait-for relations ordered by a rank of the resources

Threads hold resources and wait for resources, and a thread waits for another when it waits for a
resource the other holds. `OrderedWaits` is the discipline that rules deadlocks out: every
resource a waiting thread holds has a smaller rank than the resource it waits for. It needs no
global numbering by which resources are acquired; a rank that the reachable states happen to
respect is enough.

`OrderedWaits.acyclic` shows that no thread then waits, through others, for itself, and
`OrderedWaits.exists_running_holder` that where somebody waits and ranks cannot increase forever,
some thread that holds a resource does not wait.
-/

set_option autoImplicit false
set_option relaxedAutoImplicit false

namespace Bme680.Concurrency

variable {Thread Resource Rank : Type*} {holds waits : Thread → Resource → Prop}

/-- A thread waits for another when it waits for a resource the other holds. -/
def WaitsFor (holds waits : Thread → Resource → Prop) (thread holder : Thread) : Prop :=
  ∃ resource, waits thread resource ∧ holds holder resource

/-- Every resource a waiting thread holds has a smaller rank than the one it waits for. -/
def OrderedWaits [Preorder Rank] (rank : Resource → Rank)
    (holds waits : Thread → Resource → Prop) : Prop :=
  ∀ thread held wanted, holds thread held → waits thread wanted → rank held < rank wanted

namespace OrderedWaits

variable [Preorder Rank] {rank : Resource → Rank}

/-- Along a chain of waiting threads the rank of the resource waited for does not exceed that of
a resource held at the end of the chain. -/
theorem rank_le_of_transGen (hordered : OrderedWaits rank holds waits) {thread holder : Thread}
    (hchain : Relation.TransGen (WaitsFor holds waits) thread holder) :
    ∃ wanted held, waits thread wanted ∧ holds holder held ∧ rank wanted ≤ rank held := by
  induction hchain with
  | single hwaits =>
    obtain ⟨resource, hwanted, hheld⟩ := hwaits
    exact ⟨resource, resource, hwanted, hheld, le_rfl⟩
  | tail _ hlast ih =>
    obtain ⟨wanted, held, hwanted, hheld, hrank⟩ := ih
    obtain ⟨resource, hresource, hholder⟩ := hlast
    exact ⟨wanted, resource, hwanted, hholder,
      hrank.trans (hordered _ held resource hheld hresource).le⟩

/-- No thread waits, through others, for itself. -/
theorem acyclic (hordered : OrderedWaits rank holds waits) (thread : Thread) :
    ¬ Relation.TransGen (WaitsFor holds waits) thread thread := by
  intro hcycle
  obtain ⟨wanted, held, hwanted, hheld, hrank⟩ := hordered.rank_le_of_transGen hcycle
  exact absurd (hordered thread held wanted hheld hwanted) (not_lt_of_ge hrank)

/-- Where somebody waits for a held resource and ranks cannot increase forever, some thread that
holds a resource does not wait. -/
theorem exists_running_holder [WellFoundedGT Rank] (hordered : OrderedWaits rank holds waits)
    (hheld : ∀ thread resource, waits thread resource → ∃ holder, holds holder resource)
    {thread : Thread} {resource : Resource} (hwaits : waits thread resource) :
    ∃ holder held, holds holder held ∧ ∀ wanted, ¬ waits holder wanted := by
  -- the rank of the resource waited for increases from a waiting thread to the holder
  induction hvalue : rank resource using WellFoundedGT.induction generalizing thread resource with
  | ind value ih =>
    obtain ⟨holder, hholder⟩ := hheld thread resource hwaits
    by_cases hholderWaits : ∃ wanted, waits holder wanted
    · obtain ⟨wanted, hwanted⟩ := hholderWaits
      have hgreater : rank resource < rank wanted := hordered holder resource wanted hholder hwanted
      exact ih (rank wanted) (hvalue ▸ hgreater) hwanted rfl
    · exact ⟨holder, resource, hholder, not_exists.mp hholderWaits⟩

end OrderedWaits

end Bme680.Concurrency
