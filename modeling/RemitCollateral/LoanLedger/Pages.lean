import RemitCollateral.Host.Readers
import RemitCollateral.LoanLedger.Index
import RemitCollateral.LoanLedger.Terms

/-! # Reading pages of a ledger in use

A client that pages through the loans does so in several calls, and between two pages loans are
opened, repaid and closed. It misses none of them and reads none twice: ids are never reused and no
loan is removed, so what it has read stays the beginning of the store, as each page found it. -/

namespace RemitCollateral.LoanLedger

open Soroban

/-- What a client has read. -/
structure Notes where
  /-- The id the next page starts at. -/
  startId : ℕ
  pages : List (List Loan)
  /-- The last page was empty. -/
  stopped : Bool

namespace Notes

/-- A client that has read nothing. -/
def fresh : Notes where
  startId := 1
  pages := []
  stopped := false

/-- Read the next page, of at most `limit` loans but at least one. -/
def read (limit : ℕ) (s : State) (notes : Notes) : Option Notes :=
  if limit = 0 ∨ notes.stopped = true then none
  else (outcome (getLoansRange notes.startId limit s)).map fun page =>
    page.getLast?.elim { notes with stopped := true } fun last =>
      { notes with startId := last.id + 1, pages := notes.pages ++ [page] }

/-- What has been read so far is the beginning of the store, as it was read. -/
structure Sound (s : State) (notes : Notes) : Prop where
  start_pos : 1 ≤ notes.startId
  start_le : notes.startId ≤ getLoanCount s + 1
  ids : notes.pages.flatten.map Loan.id = List.range' 1 (notes.startId - 1)
  advanced : ∀ loan ∈ notes.pages.flatten, ∃ loan', s.loans loan.id = some loan' ∧
    loan.Advances loan'

end Notes

variable {config : Config} {here : Address} {s : State} {startId limit : ℕ} {page : List Loan}

/-- A page that is returned is exactly the loans under its ids. -/
theorem getLoansRange_ok (h : Dense s) (hok : getLoansRange startId limit s = .ok page) :
    page.map Loan.id = pageIds startId limit (getLoanCount s) ∧
      ∀ loan ∈ page, s.loans loan.id = some loan := by
  by_cases hempty : startId = 0 ∨ getLoanCount s < startId
  · rw [getLoansRange, if_pos hempty] at hok
    obtain rfl := pure_eq_ok.mp hok
    rw [pageIds, if_pos hempty]
    exact ⟨rfl, fun loan hmem => absurd hmem List.not_mem_nil⟩
  · simp only [getLoansRange, if_neg hempty, bind_eq_ok, u64_eq_ok, pure_eq_ok] at hok
    obtain ⟨-, ⟨-, rfl⟩, -, ⟨-, rfl⟩, rfl⟩ := hok
    rw [pageIds, if_neg hempty]
    refine ⟨h.map_id (by omega) (by omega), ?_⟩
    intro loan hmem
    obtain ⟨id, -, hfound⟩ := List.mem_filterMap.mp hmem
    rw [h.keyed _ _ hfound]
    exact hfound

/-- What a reading finds: the end of the store, or a page that goes on from the last. -/
theorem Notes.read_cases {notes notes' : Notes} (h : Dense s)
    (hstart : 1 ≤ notes.startId) (hread : notes.read limit s = some notes') :
    (getLoanCount s < notes.startId ∧ notes' = { notes with stopped := true }) ∨
    ∃ length page, 0 < length ∧ notes.startId + length ≤ getLoanCount s + 1 ∧
      page.map Loan.id = List.range' notes.startId length ∧
      (∀ loan ∈ page, s.loans loan.id = some loan) ∧
      notes' = { notes with
        startId := notes.startId + length, pages := notes.pages ++ [page] } := by
  rw [Notes.read, Option.ite_none_left_eq_some, Option.map_eq_some_iff] at hread
  obtain ⟨hasks, page, hpage, hnotes⟩ := hread
  obtain ⟨hids, hstored⟩ := getLoansRange_ok h (outcome_eq_some.mp hpage)
  have hlimit : limit ≠ 0 := fun hzero => hasks (.inl hzero)
  by_cases hend : getLoanCount s < notes.startId
  · rw [pageIds, if_pos (.inr hend), List.map_eq_nil_iff] at hids
    rw [hids] at hnotes
    exact .inl ⟨hend, hnotes.symm⟩
  · obtain ⟨length, hlength, hpos⟩ : ∃ length,
        min (notes.startId + min limit 50) (getLoanCount s + 1) = notes.startId + length ∧
          0 < length :=
      ⟨min (notes.startId + min limit 50) (getLoanCount s + 1) - notes.startId, by omega, by omega⟩
    rw [pageIds, if_neg (by omega), hlength, Nat.add_sub_cancel_left] at hids
    have hlast : page.getLast?.map Loan.id = some (notes.startId + length - 1) := by
      rw [← List.getLast?_map, hids, List.getLast?_range', if_neg (by omega)]
    obtain ⟨last, hlast, hlastId⟩ := Option.map_eq_some_iff.mp hlast
    refine .inr ⟨length, page, hpos, by omega, hids, hstored, ?_⟩
    rw [← hnotes, hlast, Option.elim_some, hlastId]
    congr 1
    omega

/-- What others do leaves the notes the beginning of the store. -/
theorem Notes.Sound.step {s s' : Timed State} {input : Option Input} {notes : Notes}
    (h : notes.Sound s.state) (hreach : (machine config here).Reachable s)
    (hstep : (machine config here).Step s input s') : notes.Sound s'.state := by
  have hbooks := machine_books config here
  have hdense := Dense.of_reachable hreach
  have hdense' := Dense.of_reachable (hreach.step hstep)
  obtain ⟨history, hrun⟩ := hreach
  refine { h with start_le := ?_, advanced := ?_ }
  · by_cases hfirst : notes.startId = 1
    · omega
    · -- the loan read last is still there
      have hpos := h.start_pos
      have hle := h.start_le
      have hpresent := (hdense.present (notes.startId - 1)).mpr ⟨by omega, by omega⟩
      obtain ⟨loan, hloan⟩ := Option.isSome_iff_exists.mp hpresent
      obtain ⟨loan', hloan', -⟩ := hbooks.persists hrun hstep hloan
      have hbound := (hdense'.present (notes.startId - 1)).mp (by rw [hloan', Option.isSome_some])
      omega
  · intro loan hmem
    obtain ⟨before, hbefore, hadvances⟩ := h.advanced loan hmem
    obtain ⟨after, hafter, hmove⟩ := hbooks.persists hrun hstep hbefore
    have hsound := hbooks.sound hrun hbefore
    have hconfig := hbooks.accepted_of_run hrun
    exact ⟨after, hafter, hadvances.trans (hmove.advances hconfig hsound)⟩

/-- So does reading on. -/
theorem Notes.Sound.read {notes notes' : Notes} (h : notes.Sound s) (hdense : Dense s)
    (hread : notes.read limit s = some notes') : notes'.Sound s := by
  have hpos := h.start_pos
  rcases Notes.read_cases hdense hpos hread with ⟨-, rfl⟩ | ⟨length, page, hnew, hle, hids,
    hstored, rfl⟩
  · exact { h with }
  · refine ⟨by show 1 ≤ notes.startId + length; omega, hle, ?_, ?_⟩
    · show (notes.pages ++ [page]).flatten.map Loan.id =
        List.range' 1 (notes.startId + length - 1)
      rw [List.flatten_append, List.map_append, h.ids, List.flatten_singleton, hids]
      rw [show notes.startId + length - 1 = notes.startId - 1 + length by omega,
        ← List.range'_append]
      congr 2
      omega
    · intro loan hmem
      rw [List.flatten_append, List.flatten_singleton, List.mem_append] at hmem
      rcases hmem with hmem | hmem
      · exact h.advanced loan hmem
      · exact ⟨loan, hstored loan hmem, .refl loan⟩

/-- A client that has read nothing has read the beginning. -/
theorem Notes.Sound.fresh (s : State) : Notes.fresh.Sound s where
  start_pos := le_refl _
  start_le := Nat.succ_le_succ (Nat.zero_le _)
  ids := rfl
  advanced := fun _ hmem => absurd hmem List.not_mem_nil

variable (config here) in
/-- A ledger with a client that pages through its loans. -/
def pagedMachine : Machine (State × Notes) (Input ⊕ ℕ) :=
  (machine config here).readBy .fresh Notes.read

/-- At all times the notes are the beginning of the store. -/
theorem Notes.Sound.of_reachable {s : Timed (State × Notes)}
    (h : (pagedMachine config here).Reachable s) : s.state.2.Sound s.state.1 := by
  refine Machine.readBy_invariant (P := fun s notes => notes.Sound s.state) ?_ ?_ ?_ h
  · intro s _
    exact .fresh s.state
  · intro s s' input notes hreach hstep hnotes
    exact hnotes.step hreach hstep
  · intro s limit notes notes' hreach hnotes hread
    exact hnotes.read (.of_reachable hreach) hread

section Readings

variable {history : List (Transition (State × Notes) (Input ⊕ ℕ))} {s : Timed (State × Notes)}
  {t : Transition (State × Notes) (Input ⊕ ℕ)}

/-- A reading of a run reads a dense store and leaves it as it was. -/
theorem reads_of_mem (hrun : (pagedMachine config here).Run history s) (hmem : t ∈ history)
    (hcall : t.call = some (.inr limit)) :
    Dense t.pre.state.1 ∧ t.post.state.1 = t.pre.state.1 ∧
      t.pre.state.2.read limit t.pre.state.1 = some t.post.state.2 := by
  obtain ⟨hreach, hstep⟩ := hrun.step_of_mem hmem
  have hdense : Dense t.pre.state.1 := .of_reachable (Machine.readBy_reachable hreach)
  obtain ⟨pre, input, post⟩ := t
  obtain rfl : input = some (.inr limit) := hcall
  cases hstep with
  | call acts => exact ⟨hdense, acts⟩

/-- Every record in the notes was read in the run, when the loan had it. -/
theorem read_of_run (hrun : (pagedMachine config here).Run history s) :
    ∀ loan ∈ s.state.2.pages.flatten, ∃ t ∈ history, ∃ limit, t.call = some (.inr limit) ∧
      t.pre.state.1.loans loan.id = some loan := by
  induction hrun with
  | start initial =>
      intro loan hmem
      rw [initial.2] at hmem
      exact absurd hmem List.not_mem_nil
  | @step history s s' input run step ih =>
      have hearlier : ∀ loan ∈ s.state.2.pages.flatten, ∃ t ∈ ⟨s, input, s'⟩ :: history,
          ∃ limit, t.call = some (.inr limit) ∧ t.pre.state.1.loans loan.id = some loan := by
        intro loan hmem
        obtain ⟨t, ht, hread⟩ := ih loan hmem
        exact ⟨t, List.mem_cons_of_mem _ ht, hread⟩
      have hpos := (Notes.Sound.of_reachable run.reachable).start_pos
      have hdense : Dense s.state.1 := .of_reachable (Machine.readBy_reachable run.reachable)
      cases step with
      | tick => exact hearlier
      | @call clock state state' input acts =>
          cases input with
          | inl input =>
              show ∀ loan ∈ state'.2.pages.flatten, _
              rw [acts.2]
              exact hearlier
          | inr limit =>
              intro loan hmem
              rcases Notes.read_cases hdense hpos acts.2 with ⟨-, hnotes⟩ |
                ⟨length, page, -, -, -, hstored, hnotes⟩
              · have hpages : state'.2.pages = state.2.pages := by rw [hnotes]
                exact hearlier loan (hpages ▸ hmem)
              · rw [show state'.2.pages = state.2.pages ++ [page] from congrArg Notes.pages hnotes,
                  List.flatten_append, List.flatten_singleton, List.mem_append] at hmem
                rcases hmem with hmem | hmem
                · exact hearlier loan hmem
                · exact ⟨_, List.mem_cons_self, limit, rfl, hstored loan hmem⟩

/-- **Pages of a ledger in use.** Let a client page through the loans, with any limits of at least
one, while others make any calls of the ledger between its readings. At every moment it has read the
loans from one to where it is, each once and in order; of each it has read the record that the loan
had at that reading, and from which it has only advanced. Each of its readings is the last, and then
it has read every loan there is at that moment, or adds a page of at least one loan, as the loans
are at that moment; and none fails before the store is nearly full. -/
theorem pages_survive_calls (hrun : (pagedMachine config here).Run history s) :
    (s.state.2.startId ≤ getLoanCount s.state.1 + 1 ∧
      s.state.2.pages.flatten.map Loan.id = List.range' 1 (s.state.2.startId - 1) ∧
      ∀ loan ∈ s.state.2.pages.flatten,
        (∃ t ∈ history, ∃ limit, t.call = some (.inr limit) ∧
          t.pre.state.1.loans loan.id = some loan) ∧
        ∃ loan', s.state.1.loans loan.id = some loan' ∧ loan.Advances loan') ∧
    (∀ t ∈ history, ∀ limit, t.call = some (.inr limit) →
      (t.post.state.2.stopped = true ∧ t.post.state.2.pages = t.pre.state.2.pages ∧
        t.post.state.2.pages.flatten.map Loan.id = List.range' 1 (getLoanCount t.post.state.1)) ∨
      (t.post.state.2.stopped = false ∧ ∃ page ≠ [],
        t.post.state.2.pages = t.pre.state.2.pages ++ [page] ∧
        ∀ loan ∈ page, t.pre.state.1.loans loan.id = some loan)) ∧
    (s.state.2.stopped = false → getLoanCount s.state.1 < 2 ^ 64 - 51 → ∀ limit, 1 ≤ limit →
      (s.state.2.read limit s.state.1).isSome = true) := by
  have hsound := Notes.Sound.of_reachable hrun.reachable
  refine ⟨⟨hsound.start_le, hsound.ids, ?_⟩, ?_, ?_⟩
  · intro loan hmem
    exact ⟨read_of_run hrun loan hmem, hsound.advanced loan hmem⟩
  · intro t hmem limit hcall
    obtain ⟨hreach, hstep⟩ := hrun.step_of_mem hmem
    have hpre := Notes.Sound.of_reachable hreach
    have hpost := Notes.Sound.of_reachable (hreach.step hstep)
    obtain ⟨hdense, hsame, hread⟩ := reads_of_mem hrun hmem hcall
    have hrunning : t.pre.state.2.stopped = false := by
      rw [Notes.read, Option.ite_none_left_eq_some] at hread
      exact Bool.eq_false_iff.mpr fun hstopped => hread.1 (.inr hstopped)
    rcases Notes.read_cases hdense hpre.start_pos hread with ⟨hend, hnotes⟩ |
      ⟨length, page, hnew, -, hids, hstored, hnotes⟩
    · have hpages : t.post.state.2.pages = t.pre.state.2.pages := by rw [hnotes]
      have hstart : t.post.state.2.startId = t.pre.state.2.startId := by rw [hnotes]
      refine .inl ⟨congrArg Notes.stopped hnotes, hpages, ?_⟩
      have hle : t.pre.state.2.startId ≤ getLoanCount t.pre.state.1 + 1 := hpre.start_le
      rw [hpost.ids, hstart, hsame]
      congr 1
      omega
    · have hpage : page ≠ [] := by
        intro hnil
        rw [hnil, List.map_nil, eq_comm, List.range'_eq_nil_iff] at hids
        omega
      exact .inr ⟨(congrArg Notes.stopped hnotes).trans hrunning, page, hpage,
        congrArg Notes.pages hnotes, hstored⟩
  · intro hrunning hcount limit hlimit
    have hdense : Dense s.state.1 := .of_reachable (Machine.readBy_reachable hrun.reachable)
    obtain ⟨page, hpage, -⟩ := getLoansRange_eq hdense hcount s.state.2.startId limit
    have hasks : ¬ (limit = 0 ∨ s.state.2.stopped = true) := by
      rw [hrunning]
      rintro (hzero | hstopped)
      · omega
      · cases hstopped
    rw [Notes.read, if_neg hasks, hpage]
    rfl

end Readings

/-- A call that goes through against the funded vault is one of the machine's. -/
theorem next_acts {clock : Clock} {s s' : State} {input : Input}
    (h : next here clock s input = some s') : (machine config here).act clock s input s' := by
  rw [next, Option.ite_none_right_eq_some] at h
  obtain ⟨hwasm, hnext⟩ := h
  obtain ⟨⟨s₁, x₁⟩, hok, rfl⟩ := Option.map_eq_some_iff.mp hnext
  exact ⟨hwasm, Unit, fun _ => fundedVault, (), x₁, fun _ => fundedVault_refusesEmpty,
    outcome_eq_some.mp hok⟩

/-- A client reads loan by loan. There is one loan when it starts; two are opened and the first is
repaid while it reads, and it stops having read three. -/
theorem pages_survive_calls_opened : ∃ history s, (pagedMachine deployConfig ⟨0⟩).Run history s ∧
    s.state.2.pages.flatten.map Loan.id = [1, 2, 3] ∧
    ∀ loan ∈ s.state.2.pages.flatten,
      (∃ t ∈ history, ∃ limit, t.call = some (.inr limit) ∧
        t.pre.state.1.loans loan.id = some loan) ∧
      ∃ loan', s.state.1.loans loan.id = some loan' ∧ loan.Advances loan' := by
  let origin : Origin := ⟨none, [⟨1⟩, ⟨4⟩, ⟨5⟩, ⟨6⟩], 0⟩
  let calls : List Call :=
    [.setPartner ⟨1⟩ ⟨5⟩ true, .setVerifier ⟨1⟩ ⟨6⟩ true, .originate ⟨4⟩ 7 ⟨5⟩ 120 3 86400]
  let inputs : List (Input ⊕ ℕ) := calls.map (fun call => .inl ⟨origin, call⟩) ++
    [.inr 1, .inl ⟨origin, .originate ⟨4⟩ 8 ⟨5⟩ 90 3 86400⟩, .inr 1,
      .inl ⟨origin, .attestRepayment ⟨5⟩ ⟨6⟩ 1 120⟩,
      .inl ⟨origin, .originate ⟨4⟩ 9 ⟨5⟩ 60 2 86400⟩, .inr 1, .inr 1]
  have hplayed : ((outcome (construct (origin.env ⟨0, 0⟩ ⟨0⟩) ⟨1⟩ ⟨2⟩ deployConfig 0)).any
      fun s => (Machine.replay (Machine.nextRead (next ⟨0⟩) Notes.read)
        (inputs.map fun input => (⟨0, 0⟩, input)) ([], ⟨⟨0, 0⟩, s, .fresh⟩)).any fun run =>
          run.2.state.2.stopped = true ∧ run.2.state.2.startId = 4) = true := by
    decide +kernel
  obtain ⟨s, hstart, hplayed⟩ := Option.any_eq_true _ _ |>.mp hplayed
  obtain ⟨⟨history, s'⟩, hreplay, hchecked⟩ := Option.any_eq_true _ _ |>.mp hplayed
  obtain ⟨-, hstartId⟩ := of_decide_eq_true hchecked
  have hempty : (pagedMachine deployConfig ⟨0⟩).Run [] ⟨⟨0, 0⟩, s, .fresh⟩ :=
    .start ⟨⟨origin, ⟨1⟩, ⟨2⟩, 0, outcome_eq_some.mp hstart⟩, rfl⟩
  have hrun : (pagedMachine deployConfig ⟨0⟩).Run history s' :=
    hempty.replay (fun _ _ _ _ => Machine.nextRead_acts fun _ _ _ _ => next_acts) hreplay
  obtain ⟨⟨-, hids, hadvanced⟩, -⟩ := pages_survive_calls hrun
  rw [hstartId] at hids
  exact ⟨history, s', hrun, hids, hadvanced⟩

end RemitCollateral.LoanLedger
