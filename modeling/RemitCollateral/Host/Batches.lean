import Mathlib

/-! # Batches of operations

Operations that each concern one item are run one after the other, in the order of a batch. If
operations on different items can be exchanged, up to an equivalence of states that operations
cannot tell apart, then all that counts of the order of a batch is what it says item by item: two
batches with the same operations for each item, in the same order, give the same receipts for each
item and end in equivalent states. -/

namespace Soroban

variable {σ ω ρ κ : Type}

/-- Run a batch: a receipt for each operation, and the state it leaves; `none` when one of them
traps. -/
def runBatch (run : ω → σ → Option (ρ × σ)) : List ω → σ → Option (List (ω × ρ) × σ)
  | [], s => some ([], s)
  | op :: batch, s => do
      let (value, s) ← run op s
      let (receipts, s) ← runBatch run batch s
      some ((op, value) :: receipts, s)

section Equations

variable {run : ω → σ → Option (ρ × σ)} {op : ω} {batch : List ω} {s s' : σ}
  {receipts : List (ω × ρ)}

@[simp] theorem runBatch_nil : runBatch run [] s = some ([], s) := rfl

/-- A batch runs when its first operation runs and the others run after it. -/
theorem runBatch_cons_eq_some : runBatch run (op :: batch) s = some (receipts, s') ↔
    ∃ value s₁ rest, run op s = some (value, s₁) ∧ runBatch run batch s₁ = some (rest, s') ∧
      (op, value) :: rest = receipts := by
  simp only [runBatch, Option.bind_eq_bind, Option.bind_eq_some_iff, Prod.exists, Option.some.injEq,
    Prod.mk.injEq]
  constructor
  · rintro ⟨value, s₁, hop, rest, s₂, hbatch, hreceipts, rfl⟩
    exact ⟨value, s₁, rest, hop, hbatch, hreceipts⟩
  · rintro ⟨value, s₁, rest, hop, hbatch, hreceipts⟩
    exact ⟨value, s₁, hop, rest, s', hbatch, hreceipts, rfl⟩

/-- A step of a batch. -/
theorem runBatch_cons {value : ρ} {s₁ : σ} (hop : run op s = some (value, s₁))
    (hbatch : runBatch run batch s₁ = some (receipts, s')) :
    runBatch run (op :: batch) s = some ((op, value) :: receipts, s') :=
  runBatch_cons_eq_some.mpr ⟨value, s₁, receipts, hop, hbatch, rfl⟩

end Equations

/-- Operations on items: from the states of `I`, operations on different items can be exchanged, up
to the equivalence `E`. -/
structure Itemwise (I : σ → Prop) (E : σ → σ → Prop) (item : ω → κ)
    (run : ω → σ → Option (ρ × σ)) : Prop where
  equivalence : Equivalence E
  /-- Operations keep the invariant. -/
  keeps : ∀ {op value s s'}, I s → run op s = some (value, s') → I s'
  /-- Operations cannot tell equivalent states apart. -/
  congr : ∀ {op value s s' s₁}, I s → I s' → E s s' → run op s = some (value, s₁) →
    ∃ s₁', run op s' = some (value, s₁') ∧ E s₁ s₁'
  /-- Operations on different items can be exchanged. -/
  exchange : ∀ {op op' value value' s s₁ s₁₂}, item op ≠ item op' → I s →
    run op s = some (value, s₁) → run op' s₁ = some (value', s₁₂) →
      ∃ s₂ s₂₁, run op' s = some (value', s₂) ∧ run op s₂ = some (value, s₂₁) ∧ E s₁₂ s₂₁

namespace Itemwise

variable [DecidableEq κ] {I : σ → Prop} {E : σ → σ → Prop} {item : ω → κ}
  {run : ω → σ → Option (ρ × σ)} {s s' t : σ} {op : ω} {batch batch' before after : List ω}
  {receipts : List (ω × ρ)}

/-- The part of a batch that concerns one item. -/
def onItem (item : ω → κ) (k : κ) (batch : List ω) : List ω := batch.filter (item · = k)

/-- The receipts of the operations that concern one item. -/
def receiptsOn (item : ω → κ) (k : κ) (receipts : List (ω × ρ)) : List (ω × ρ) :=
  receipts.filter (item ·.1 = k)

section Receipts

variable {k : κ} {r r' : ω × ρ} {rest rest' : List (ω × ρ)}

theorem receiptsOn_cons_congr (h : receiptsOn item k rest = receiptsOn item k rest') :
    receiptsOn item k (r :: rest) = receiptsOn item k (r :: rest') := by
  unfold receiptsOn at h ⊢
  rw [List.filter_cons, List.filter_cons, h]

/-- Each item has at most one of the receipts for two items. -/
theorem receiptsOn_swap (h : item r.1 ≠ item r'.1) :
    receiptsOn item k (r :: r' :: rest) = receiptsOn item k (r' :: r :: rest) := by
  unfold receiptsOn
  by_cases hk : item r.1 = k
  · have hk' : item r'.1 ≠ k := fun heq => h (hk.trans heq.symm)
    simp [hk, hk']
  · simp [List.filter_cons, hk]

end Receipts

omit [DecidableEq κ] in
/-- Equivalent states run a batch with the same receipts. -/
theorem runBatch_congr (h : Itemwise I E item run) (hs : I s) (hs' : I s') (hE : E s s')
    (hbatch : runBatch run batch s = some (receipts, t)) :
    ∃ t', runBatch run batch s' = some (receipts, t') ∧ E t t' := by
  induction batch generalizing s s' receipts with
  | nil =>
      obtain ⟨rfl, rfl⟩ := Prod.mk.inj (Option.some.inj hbatch)
      exact ⟨s', rfl, hE⟩
  | cons op batch ih =>
      obtain ⟨value, s₁, rest, hop, hrest, rfl⟩ := runBatch_cons_eq_some.mp hbatch
      obtain ⟨s₁', hop', hE₁⟩ := h.congr hs hs' hE hop
      obtain ⟨t', hrest', hEt⟩ := ih (h.keeps hs hop) (h.keeps hs' hop') hE₁ hrest
      exact ⟨t', runBatch_cons hop' hrest', hEt⟩

/-- The first operation of a batch can be run after operations on other items. -/
theorem runBatch_postpone (h : Itemwise I E item run) (hs : I s)
    (hothers : ∀ other ∈ before, item op ≠ item other)
    (hbatch : runBatch run (op :: (before ++ after)) s = some (receipts, t)) :
    ∃ receipts' t', runBatch run (before ++ op :: after) s = some (receipts', t') ∧ E t t' ∧
      ∀ k, receiptsOn item k receipts' = receiptsOn item k receipts := by
  induction before generalizing s receipts t with
  | nil => exact ⟨receipts, t, hbatch, h.equivalence.refl t, fun k => rfl⟩
  | cons other before ih =>
      obtain ⟨hne, hbefore⟩ := List.forall_mem_cons.mp hothers
      obtain ⟨value, s₁, rest, hop, hrest, rfl⟩ := runBatch_cons_eq_some.mp hbatch
      obtain ⟨value', s₁₂, rest', hother, hrest', rfl⟩ := runBatch_cons_eq_some.mp hrest
      -- exchange the two, and run the rest from the state that this leaves
      obtain ⟨s₂, s₂₁, hother', hop', hE⟩ := h.exchange hne hs hop hother
      have hs₁₂ := h.keeps (h.keeps hs hop) hother
      have hs₂ := h.keeps hs hother'
      obtain ⟨t₁, hrest₁, hE₁⟩ := h.runBatch_congr hs₁₂ (h.keeps hs₂ hop') hE hrest'
      obtain ⟨receipts', t', hlater, hE', hsame⟩ := ih hs₂ hbefore (runBatch_cons hop' hrest₁)
      refine ⟨(other, value') :: receipts', t', runBatch_cons hother' hlater,
        h.equivalence.trans hE₁ hE', fun k => ?_⟩
      rw [receiptsOn_cons_congr (hsame k), receiptsOn_swap (Ne.symm hne)]

/-- **Item by item.** Of two batches with the same operations for each item, in the same order, one
runs when the other does; then each item has the same receipts, and the states they leave are
equivalent. -/
theorem runBatch_of_onItem (h : Itemwise I E item run) (hs : I s)
    (hsame : ∀ k, onItem item k batch = onItem item k batch')
    (hbatch : runBatch run batch s = some (receipts, t)) :
    ∃ receipts' t', runBatch run batch' s = some (receipts', t') ∧ E t t' ∧
      ∀ k, receiptsOn item k receipts' = receiptsOn item k receipts := by
  induction batch generalizing batch' s receipts t with
  | nil =>
      -- nothing is left for any item
      have hnil : batch' = [] := by
        refine List.eq_nil_iff_forall_not_mem.mpr fun op hop => ?_
        have hmem : op ∈ onItem item (item op) batch' := List.mem_filter.mpr ⟨hop, by simp⟩
        rw [← hsame] at hmem
        cases hmem
      subst hnil
      exact ⟨receipts, t, hbatch, h.equivalence.refl t, fun k => rfl⟩
  | cons op batch ih =>
      obtain ⟨value, s₁, rest, hop, hrest, rfl⟩ := runBatch_cons_eq_some.mp hbatch
      -- the other batch comes to `op` after operations on other items
      have hfirst : onItem item (item op) batch' = op :: onItem item (item op) batch := by
        rw [← hsame]
        exact List.filter_cons_of_pos (by simp)
      obtain ⟨before, after, rfl, hbefore, -, hafter⟩ := List.filter_eq_cons_iff.mp hfirst
      have hothers : ∀ other ∈ before, item op ≠ item other := by
        intro other hother heq
        exact hbefore other hother (by simp [heq])
      have hremaining : ∀ k, onItem item k batch = onItem item k (before ++ after) := by
        intro k
        have hk := hsame k
        unfold onItem at hk ⊢
        rw [List.filter_append] at hk ⊢
        by_cases hitem : item op = k
        · have hnone : before.filter (item · = k) = [] := by
            refine List.filter_eq_nil_iff.mpr fun other hother => ?_
            have hne := hothers other hother
            rw [hitem] at hne
            simpa using Ne.symm hne
          rw [List.filter_cons_of_pos (by simpa using hitem),
            List.filter_cons_of_pos (by simpa using hitem), hnone, List.nil_append] at hk
          rw [hnone, List.nil_append]
          exact (List.cons.inj hk).2
        · rw [List.filter_cons_of_neg (by simpa using hitem),
            List.filter_cons_of_neg (by simpa using hitem)] at hk
          exact hk
      obtain ⟨receipts₁, t₁, hrest₁, hE₁, hsame₁⟩ := ih (h.keeps hs hop) hremaining hrest
      obtain ⟨receipts', t', hbatch', hE', hsame'⟩ :=
        h.runBatch_postpone hs hothers (runBatch_cons hop hrest₁)
      refine ⟨receipts', t', hbatch', h.equivalence.trans hE₁ hE', fun k => ?_⟩
      rw [hsame' k]
      exact receiptsOn_cons_congr (hsame₁ k)

end Itemwise

end Soroban
