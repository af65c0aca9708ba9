import Mathlib

/-! # A book of pledges

Owners pay into their accounts, pledge parts of what they have, each under an id, and take out what
is free. A pledge is drawn on in parts: of what is drawn, some is taken and leaves the account, and
the rest is free again. No account ever pledges more than it has: the book carries the proof. -/

namespace Pledges

variable {Owner Id M : Type*}

/-- What can be entered in a book. -/
inductive Entry (Owner Id M : Type*)
  | payIn (owner : Owner) (amount : M)
  | payOut (owner : Owner) (amount : M)
  | pledge (owner : Owner) (id : Id) (amount : M)
  /-- Part of a pledge is drawn: `taken` leaves the account, `returned` is free again. -/
  | draw (owner : Owner) (id : Id) (taken returned : M)
  deriving DecidableEq, Repr

namespace Entry

/-- The account an entry is about. -/
def owner : Entry Owner Id M → Owner
  | payIn owner _ | payOut owner _ | pledge owner _ _ | draw owner _ _ _ => owner

variable [AddCommGroup M]

/-- What an entry adds to the balance of its account. -/
def paid : Entry Owner Id M → M
  | payIn _ amount => amount
  | payOut _ amount => -amount
  | pledge _ _ _ => 0
  | draw _ _ taken _ => -taken

/-- What an entry adds to the pledges of its account. -/
noncomputable def pledged : Entry Owner Id M → Id →₀ M
  | payIn _ _ | payOut _ _ => 0
  | pledge _ id amount => .single id amount
  | draw _ id taken returned => .single id (-(taken + returned))

end Entry

section Book

variable [AddCommGroup M] [LinearOrder M] [IsOrderedAddMonoid M]

/-- The balance of each owner, and what it has pledged under each id: in total, no more than the
balance. -/
structure Book (Owner Id M : Type*) [AddCommGroup M] [LinearOrder M] where
  balance : Owner → M
  pledged : Owner → Id →₀ M
  pledged_nonneg : ∀ owner id, 0 ≤ pledged owner id
  covered : ∀ owner, (pledged owner).degree ≤ balance owner

namespace Book

/-- The book nobody has paid into. -/
noncomputable def empty : Book Owner Id M where
  balance _ := 0
  pledged _ := 0
  pledged_nonneg _ _ := le_refl 0
  covered _ := le_of_eq (map_zero _)

/-- What an owner has not pledged. -/
noncomputable def free (book : Book Owner Id M) (owner : Owner) : M :=
  book.balance owner - (book.pledged owner).degree

/-- The entries a book has room for. -/
def Allows (book : Book Owner Id M) : Entry Owner Id M → Prop
  | .payIn _ amount => 0 ≤ amount
  | .payOut owner amount => 0 ≤ amount ∧ amount ≤ book.free owner
  | .pledge owner id amount => book.pledged owner id = 0 ∧ 0 ≤ amount ∧ amount ≤ book.free owner
  | .draw owner id taken returned =>
      0 ≤ taken ∧ 0 ≤ returned ∧ taken + returned ≤ book.pledged owner id

variable {book : Book Owner Id M} {entry : Entry Owner Id M}

/-- An allowed entry leaves no pledge below zero. -/
theorem Allows.pledged_nonneg (h : book.Allows entry) (id : Id) :
    0 ≤ (book.pledged entry.owner + entry.pledged) id := by
  classical
  have hbefore := book.pledged_nonneg entry.owner id
  rw [Finsupp.add_apply]
  cases entry with
  | payIn owner amount | payOut owner amount =>
      rw [Entry.pledged, Finsupp.zero_apply, add_zero]
      exact hbefore
  | pledge owner id' amount =>
      rw [Entry.pledged, Finsupp.single_apply]
      split
      · exact add_nonneg hbefore h.2.1
      · rw [add_zero]
        exact hbefore
  | draw owner id' taken returned =>
      rw [Entry.pledged, Finsupp.single_apply]
      split
      · rename_i hid
        rw [← sub_eq_add_neg, sub_nonneg]
        exact hid ▸ h.2.2
      · rw [add_zero]
        exact hbefore

/-- An allowed entry leaves its account covered. -/
theorem Allows.covered (h : book.Allows entry) :
    (book.pledged entry.owner + entry.pledged).degree ≤ book.balance entry.owner + entry.paid := by
  have hbefore := book.covered entry.owner
  rw [map_add]
  cases entry with
  | payIn owner amount =>
      rw [Entry.pledged, map_zero]
      exact add_le_add hbefore h
  | payOut owner amount =>
      rw [Entry.pledged, map_zero, add_zero, Entry.paid, ← sub_eq_add_neg]
      exact le_sub_comm.mp h.2
  | pledge owner id amount =>
      rw [Entry.pledged, Finsupp.degree_single, Entry.paid, add_zero]
      exact le_sub_iff_add_le'.mp h.2.2
  | draw owner id taken returned =>
      rw [Entry.pledged, Finsupp.degree_single, Entry.paid]
      refine add_le_add hbefore (neg_le_neg ?_)
      exact le_add_of_nonneg_right h.2.1

variable [DecidableEq Owner]

/-- The book after an entry it allows. -/
noncomputable def enter (book : Book Owner Id M) (entry : Entry Owner Id M)
    (h : book.Allows entry) : Book Owner Id M where
  balance := Function.update book.balance entry.owner (book.balance entry.owner + entry.paid)
  pledged := Function.update book.pledged entry.owner (book.pledged entry.owner + entry.pledged)
  pledged_nonneg owner id := by
    by_cases howner : owner = entry.owner
    · rw [howner, Function.update_self]
      exact h.pledged_nonneg id
    · rw [Function.update_of_ne howner]
      exact book.pledged_nonneg owner id
  covered owner := by
    by_cases howner : owner = entry.owner
    · rw [howner, Function.update_self, Function.update_self]
      exact h.covered
    · rw [Function.update_of_ne howner, Function.update_of_ne howner]
      exact book.covered owner

/-! ## What an entry changes -/

theorem enter_balance (h : book.Allows entry) (owner : Owner) :
    (book.enter entry h).balance owner =
      book.balance owner + if entry.owner = owner then entry.paid else 0 := by
  show Function.update book.balance entry.owner _ owner = _
  by_cases howner : entry.owner = owner
  · rw [if_pos howner, ← howner, Function.update_self]
  · rw [if_neg howner, add_zero, Function.update_of_ne (Ne.symm howner)]

theorem enter_pledged (h : book.Allows entry) (owner : Owner) :
    (book.enter entry h).pledged owner =
      book.pledged owner + if entry.owner = owner then entry.pledged else 0 := by
  show Function.update book.pledged entry.owner _ owner = _
  by_cases howner : entry.owner = owner
  · rw [if_pos howner, ← howner, Function.update_self]
  · rw [if_neg howner, add_zero, Function.update_of_ne (Ne.symm howner)]

end Book

end Book

end Pledges
