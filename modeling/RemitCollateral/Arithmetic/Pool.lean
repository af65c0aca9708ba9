import Mathlib

/-! # Claims on a pool

A family of amounts `f : ι → M`, one for each holder, and one pool that is to cover them all.
`Backed f pool` says that no finite set of holders can claim more than the pool. The update rule is
all a system needs to keep it: whenever one holder's amount changes, the pool must change by at
least as much. -/

namespace Pool

variable {ι M : Type*} [AddCommGroup M]

/-- A total changes by what one of its terms changes. -/
theorem sum_eq_add_sub [DecidableEq ι] {f f' : ι → M} {keys : Finset ι} {i : ι} (hi : i ∈ keys)
    (hoff : ∀ j, j ≠ i → f' j = f j) :
    ∑ j ∈ keys, f' j = ∑ j ∈ keys, f j + (f' i - f i) := by
  rw [← Finset.add_sum_erase keys f' hi, ← Finset.add_sum_erase keys f hi,
    Finset.sum_congr rfl fun j hj => hoff j (Finset.ne_of_mem_erase hj)]
  abel

/-- So does the total of finitely many. -/
theorem finsum_eq_add_sub {f f' : ι → M} {i : ι} (hfin : (Function.support f).Finite)
    (hoff : ∀ j, j ≠ i → f' j = f j) : ∑ᶠ j, f' j = ∑ᶠ j, f j + (f' i - f i) := by
  classical
  let keys : Finset ι := insert i hfin.toFinset
  have hsub : Function.support f ⊆ (keys : Set ι) := by
    intro j hj
    exact Finset.mem_insert_of_mem (hfin.mem_toFinset.mpr hj)
  have hsub' : Function.support f' ⊆ (keys : Set ι) := by
    intro j hj
    by_cases heq : j = i
    · rw [heq]
      exact Finset.mem_insert_self i _
    · rw [Function.mem_support, hoff j heq] at hj
      exact hsub hj
  rw [finsum_eq_sum_of_support_subset f' hsub', finsum_eq_sum_of_support_subset f hsub]
  exact sum_eq_add_sub (Finset.mem_insert_self i _) hoff

variable [PartialOrder M]

/-- Every finite set of holders claims at most the pool. -/
def Backed (f : ι → M) (pool : M) : Prop := ∀ keys : Finset ι, ∑ i ∈ keys, f i ≤ pool

namespace Backed

variable {f f' : ι → M} {pool pool' : M}

/-- A backed holder claims at most the pool. -/
theorem le (h : Backed f pool) (i : ι) : f i ≤ pool := by
  simpa using h {i}

/-- A larger pool backs the same claims. -/
theorem mono (h : Backed f pool) (hle : pool ≤ pool') : Backed f pool' :=
  fun keys => (h keys).trans hle

/-- With finitely many holders, the pool covers the total of all claims. -/
theorem finsum_le (h : Backed f pool) (hfin : (Function.support f).Finite) : ∑ᶠ i, f i ≤ pool := by
  rw [finsum_eq_sum f hfin]
  exact h _

/-- One holder's claim and the pool may change together. -/
theorem update [DecidableEq ι] [IsOrderedAddMonoid M] (h : Backed f pool) {i : ι}
    (hoff : ∀ j, j ≠ i → f' j = f j) (hnonneg : 0 ≤ f' i) (hpool : pool + (f' i - f i) ≤ pool') :
    Backed f' pool' := by
  intro keys
  calc ∑ j ∈ keys, f' j ≤ ∑ j ∈ insert i keys, f' j := by
        by_cases hi : i ∈ keys
        · rw [Finset.insert_eq_of_mem hi]
        · rw [Finset.sum_insert hi]
          exact le_add_of_nonneg_left hnonneg
    _ = ∑ j ∈ insert i keys, f j + (f' i - f i) :=
        sum_eq_add_sub (Finset.mem_insert_self i keys) hoff
    _ ≤ pool + (f' i - f i) := by gcongr; exact h _
    _ ≤ pool' := hpool

end Backed

end Pool
