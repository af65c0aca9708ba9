import RemitCollateral.Host.Refinement

/-! # Journals

A journal is a list of entries, latest first. Each entry is about one account and states what the
account is after it, so that the journal can be read in two ways: the latest entry about an account
states it, and what the entries say was done adds up to it. A journal is sound when the two agree
all along, and somebody who missed exactly one entry finds it unsound as soon as the account is
entered again. Entries that undo each other can be missed together. -/

namespace Soroban

variable {ε κ ρ : Type}

/-- What the entries of a journal mean. -/
structure Journal (ε κ ρ : Type) where
  /-- The account an entry is about. -/
  key : ε → κ
  /-- What the account is after the entry, as it states. -/
  states : ε → ρ
  /-- What an account is before it is entered. -/
  opening : ρ
  /-- What the entry makes of an account, if it can be made of it. -/
  apply : ε → ρ → Option ρ

namespace Journal

variable [DecidableEq κ] (J : Journal ε κ ρ)

/-- An account, as its latest entry states it. -/
def account (k : κ) : List ε → ρ
  | [] => J.opening
  | e :: log => if J.key e = k then J.states e else account k log

/-- An account, as its entries add up. -/
def replay (k : κ) : List ε → Option ρ
  | [] => some J.opening
  | e :: log => if J.key e = k then (replay k log).bind (J.apply e) else replay k log

/-- Every entry makes what it states of what the entries before it state. -/
def Sound : List ε → Prop
  | [] => True
  | e :: log => J.apply e (J.account (J.key e) log) = some (J.states e) ∧ Sound log

variable {J} {log newer older : List ε} {e : ε} {k : κ}

theorem account_cons_self (e : ε) (log : List ε) : J.account (J.key e) (e :: log) = J.states e :=
  if_pos rfl

theorem account_cons_of_ne (h : J.key e ≠ k) (log : List ε) :
    J.account k (e :: log) = J.account k log := if_neg h

/-- Entries about other accounts do not matter. -/
theorem account_append (h : ∀ e ∈ newer, J.key e ≠ k) (older : List ε) :
    J.account k (newer ++ older) = J.account k older := by
  induction newer with
  | nil => rfl
  | cons e newer ih =>
      rw [List.cons_append, account_cons_of_ne (h e List.mem_cons_self)]
      exact ih fun e he => h e (List.mem_cons_of_mem _ he)

/-- In a sound journal the entries of every account add up to what the latest states. -/
theorem Sound.replay_eq (h : J.Sound log) (k : κ) : J.replay k log = some (J.account k log) := by
  induction log with
  | nil => rfl
  | cons e log ih =>
      obtain ⟨happlies, hsound⟩ := h
      rw [replay, ih hsound, account]
      by_cases hk : J.key e = k
      · subst hk
        rw [if_pos rfl, if_pos rfl, Option.bind_some]
        exact happlies
      · rw [if_neg hk, if_neg hk]

theorem Sound.of_append (h : J.Sound (newer ++ older)) : J.Sound older := by
  induction newer with
  | nil => exact h
  | cons e newer ih => exact ih h.2

/-- Entries that change the account, and from which one can tell what it was. -/
structure Telling (J : Journal ε κ ρ) : Prop where
  moves : ∀ {e : ε} {a : ρ}, J.apply e a ≠ some a
  injective : ∀ {e : ε} {a a' b : ρ}, J.apply e a = some b → J.apply e a' = some b → a = a'

/-- **A gap shows.** A sound journal without one of its entries is not sound, once there is a later
entry about the same account. -/
theorem Sound.not_without (htelling : J.Telling) (h : J.Sound (newer ++ e :: older))
    (hlater : ∃ later ∈ newer, J.key later = J.key e) : ¬ J.Sound (newer ++ older) := by
  induction newer with
  | nil =>
      obtain ⟨later, hmem, -⟩ := hlater
      cases hmem
  | cons next newer ih =>
      intro hwithout
      by_cases hrest : ∃ later ∈ newer, J.key later = J.key e
      · exact ih h.2 hrest hwithout.2
      -- `next` is the first entry about the account after `e`
      · have hothers : ∀ later ∈ newer, J.key later ≠ J.key e :=
          fun later hmem hkey => hrest ⟨later, hmem, hkey⟩
        have hkey : J.key next = J.key e := by
          obtain ⟨later, hmem, hkey⟩ := hlater
          rcases List.mem_cons.mp hmem with rfl | hmem
          · exact hkey
          · exact absurd hkey (hothers later hmem)
        have hwith : J.apply next (J.states e) = some (J.states next) := by
          have happlies : J.apply next (J.account (J.key next) (newer ++ e :: older)) =
              some (J.states next) := h.1
          rw [hkey, account_append hothers, account_cons_self] at happlies
          exact happlies
        have hwithout' : J.apply next (J.account (J.key e) older) = some (J.states next) := by
          have happlies : J.apply next (J.account (J.key next) (newer ++ older)) =
              some (J.states next) := hwithout.1
          rw [hkey, account_append hothers] at happlies
          exact happlies
        -- so `e` would have left the account as it was
        have hsame : J.states e = J.account (J.key e) older :=
          htelling.injective hwith hwithout'
        have hentered : J.apply e (J.account (J.key e) older) = some (J.states e) :=
          h.2.of_append.1
        rw [hsame] at hentered
        exact htelling.moves hentered

end Journal

/-! ## Machines that keep a journal -/

namespace Machine

variable {σ ι : Type} [DecidableEq κ]

/-- `M` keeps the journal `log` of its accounts: a call writes at most one entry, and changes the
account this is about as the entry says and no other. -/
structure Keeps (M : Machine σ ι) (J : Journal ε κ ρ) (log : σ → List ε) (account : σ → κ → ρ)
    (entry : Clock → σ → ι → Option ε) : Prop where
  initial : ∀ {s : Timed σ}, M.initial s → log s.state = [] ∧ ∀ k, account s.state k = J.opening
  skips : ∀ {clock : Clock} {s : σ} {input : ι} {s' : σ}, M.Reachable ⟨clock, s⟩ →
    M.act clock s input s' → entry clock s input = none → log s' = log s ∧ account s' = account s
  writes : ∀ {clock : Clock} {s : σ} {input : ι} {s' : σ} {e : ε}, M.Reachable ⟨clock, s⟩ →
    M.act clock s input s' → entry clock s input = some e → log s' = e :: log s ∧
      J.apply e (account s (J.key e)) = some (J.states e) ∧
      account s' = Function.update (account s) (J.key e) (J.states e)

variable {M : Machine σ ι} {J : Journal ε κ ρ} {log : σ → List ε} {account : σ → κ → ρ}
  {entry : Clock → σ → ι → Option ε}

/-- **Journal.** Where a run ends the journal has one entry for each call that enters one, in their
order, it is sound, and the accounts are as it states. -/
theorem Keeps.run (h : M.Keeps J log account entry) {history : List (Transition σ ι)} {s : Timed σ}
    (hrun : M.Run history s) : log s.state = history.filterMap (standsFor entry) ∧
      J.Sound (log s.state) ∧ ∀ k, account s.state k = J.account k (log s.state) := by
  induction hrun with
  | start initial =>
      obtain ⟨hlog, hopening⟩ := h.initial initial
      rw [hlog]
      exact ⟨rfl, trivial, hopening⟩
  | @step history s s' input run step ih =>
      obtain ⟨hentries, hsound, haccount⟩ := ih
      rw [List.filterMap_cons]
      cases step with
      | tick => exact ⟨hentries, hsound, haccount⟩
      | @call clock s s' input acts =>
          show log s' = _ ∧ J.Sound (log s') ∧ ∀ k, account s' k = J.account k (log s')
          rw [show standsFor entry ⟨⟨clock, s⟩, some input, ⟨clock, s'⟩⟩ = entry clock s input
            from rfl]
          cases hentry : entry clock s input with
          | none =>
              obtain ⟨hlog, hsame⟩ := h.skips run.reachable acts hentry
              rw [hlog, hsame]
              exact ⟨hentries, hsound, haccount⟩
          | some e =>
              obtain ⟨hlog, happlies, hupdated⟩ := h.writes run.reachable acts hentry
              rw [hlog, hupdated]
              refine ⟨congrArg (e :: ·) hentries, ⟨?_, hsound⟩, ?_⟩
              · rw [← haccount]
                exact happlies
              · intro k
                rw [Journal.account]
                by_cases hk : J.key e = k
                · subst hk
                  rw [if_pos rfl, Function.update_self]
                · rw [if_neg hk, Function.update_of_ne (Ne.symm hk)]
                  exact haccount k

end Machine

end Soroban
