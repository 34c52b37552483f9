import LogEgress.Config
import LogEgress.Diode
import LogEgress.Egress.Retry
import LogEgress.Proofs.Except
import LogEgress.Proofs.Ingress.Turns
import LogEgress.Proofs.Text.Integer
import LogEgress.Scheduler.Paging
import LogEgress.Scheduler.Term

set_option autoImplicit false

/-! # Settings of zero

A number in the environment may be zero. Where a number says how many there are of something, zero
is as good as one: a page has room for a binding, a pool has a slot, an envelope has an attempt and
a ring has a bucket. But an interval of zero has no ticker, and no configuration is refused for it.

The main theorem, `accepted_runs_unless_interval_zero`, says which texts make an interval zero, and
what becomes of a program that is started with it: a scheduler has no term, and an adapter has no
monitor, so that no client is ever dialed for. With any other interval both do their work at once.
-/

namespace LogEgress

/-! ## Tickers -/

namespace Ticker

theorem start?_eq_none_iff {period now : Nat} : start? period now = none ↔ period = 0 := by
  unfold start?
  split <;> simp_all

theorem start?_of_ne_zero {period : Nat} (h : period ≠ 0) (now : Nat) :
    start? period now = some ⟨period, now⟩ := if_neg h

/-- The first tick is due before any later time. -/
theorem ticksBefore_pos {period start stop : Nat} (h : period ≠ 0) (hstop : start < stop) :
    0 < (⟨period, start⟩ : Ticker).ticksBefore stop :=
  Nat.div_pos (by simp only; omega) (Nat.pos_of_ne_zero h)

end Ticker

/-! ## The monitor of a pool -/

namespace Ingress.Pool

variable {p : Pool} {dial : Dialer} {rules : Rules}

theorem dials_replace (idx : Nat) (slot : Option Slot) (p : Pool) :
    (p.replace idx slot).dials = p.dials := by
  have hclose : ∀ (clients : List Nat) (q : Pool),
      (clients.foldl (fun q c => q.close c) q).dials = q.dials := by
    intro clients
    induction clients with
    | nil => exact fun q => rfl
    | cons c clients ih => exact fun q => ih (q.close c)
  rw [replace_eq, hclose]
  rfl

theorem dials_redial (now idx : Nat) (p : Pool) :
    (p.redial dial now idx).2.dials = p.dials + 1 := by
  have hdial : (p.dialOnce dial now).2.dials = p.dials + 1 := by
    cases hanswer : dial p.dials with
    | ok answer => rw [dialOnce_of_ok hanswer]
    | error e => rw [dialOnce_of_error hanswer]
  rw [redial_eq, dials_replace, hdial]

/-- Each slot that is dialed for counts as one dial. -/
theorem dials_redialAll (now : Nat) (due : List Nat) (p : Pool) :
    (redialAll dial now due p).2.dials = p.dials + due.length := by
  induction due generalizing p with
  | nil => rfl
  | cons idx due ih =>
    show (redialAll dial now due (p.redial dial now idx).2).2.dials = _
    rw [ih, dials_redial, List.length_cons]
    omega

theorem dials_check_le (lifetime now : Nat) (p : Pool) :
    p.dials ≤ (p.check dial lifetime now).2.dials := by
  rw [check, dials_redialAll]
  exact Nat.le_add_right _ _

theorem dials_checks_le (lifetime n : Nat) (t : Ticker) (p : Pool) :
    p.dials ≤ (p.checks dial lifetime n t).2.dials := by
  induction n generalizing t p with
  | zero => exact Nat.le_refl _
  | succ n ih => exact Nat.le_trans (dials_check_le lifetime t.due p) (ih t.next _)

/-- Every slot of an empty pool has to be dialed for. -/
theorem length_due_ofSize (lifetime now size : Nat) :
    ((ofSize size).due lifetime now).length = max 1 size := by
  have hall : ∀ s ∈ (List.replicate (max 1 size) (none : Option Slot)).zipIdx,
      (ofSize size).needsDial lifetime now s.1 = true := by
    intro s hs
    rw [List.eq_of_mem_replicate (List.fst_mem_of_mem_zipIdx hs)]
    rfl
  show ((List.filter _ (List.replicate (max 1 size) none).zipIdx).map _).length = _
  rw [List.filter_eq_self.mpr hall, List.length_map, List.length_zipIdx, List.length_replicate]

/-- Without an interval nothing becomes of the pool. -/
theorem monitor_of_zero (h : rules.checkInterval = 0) (start stop : Nat) (p : Pool) :
    p.monitor dial rules start stop = ([], p) := by
  rw [monitor, h]
  rfl

/-- With an interval every slot of an empty pool is dialed for at once. -/
theorem le_dials_monitor (h : rules.checkInterval ≠ 0) {start stop : Nat} (hstop : start < stop)
    (size : Nat) : max 1 size ≤ ((ofSize size).monitor dial rules start stop).2.dials := by
  obtain ⟨n, hn⟩ := Nat.exists_eq_succ_of_ne_zero (Ticker.ticksBefore_pos h hstop).ne'
  rw [monitor, Ticker.start?_of_ne_zero h]
  simp only
  rw [hn]
  -- The first tick is due at once; the checks after it add to the dials.
  have hfirst : ((ofSize size).check dial rules.lifetime start).2.dials = max 1 size := by
    rw [check, dials_redialAll, length_due_ofSize]
    exact Nat.zero_add _
  exact Nat.le_trans (Nat.le_of_eq hfirst.symm) (dials_checks_le rules.lifetime n _ _)

/-- No one ever finds a client in a pool that no one has dialed for. -/
theorem next_ofSize (size now : Nat) : (ofSize size).next rules now = none := by
  refine (seek_eq_none_iff (show 0 < lookLimit by decide)).mpr fun j _ => ?_
  have hslot (idx : Nat) : (ofSize size).slots[idx]?.join = none := by
    show (List.replicate (max 1 size) none)[idx]?.join = none
    rw [List.getElem?_replicate]
    split <;> rfl
  rw [usable, hslot]
  rfl

end Ingress.Pool

/-! ## Attempts -/

/-- An envelope has one attempt at least. -/
theorem Egress.Retry.calls_lt_attempt {σ : Type} (policy : Policy) (inner : Writer σ)
    (e : Envelope) (more k : Nat) (p : Progress) (s : σ) :
    p.calls < (attempt policy inner e more k p s).2.1.calls := by
  fun_induction attempt policy inner e more k p s with
  | case1 | case2 | case3 | case4 => exact Nat.lt_succ_self _
  | case5 _ _ _ _ _ _ _ _ _ _ _ _ _ hrest _ ih =>
    rw [hrest] at ih
    exact Nat.lt_of_succ_lt ih

/-! ## Pages -/

/-- A page that has room for nothing has room for one application. -/
theorem Scheduler.Paging.fetch_max (base : String) (n : Nat) (answers : List Http.Outcome) :
    fetch ⟨base, max 1 n⟩ answers = fetch ⟨base, n⟩ answers := by
  have hrequest : (⟨base, max 1 n⟩ : Provider).request = (⟨base, n⟩ : Provider).request := by
    funext id
    simp only [Provider.request, Provider.pageUrl, sup_left_idem]
  rw [fetch, fetch, hrequest]

/-! ## Configurations -/

namespace Config

/-- A variable is set, and not to blanks alone. -/
def Environment.Sets (env : Environment) (name : String) : Prop :=
  ∃ v, env name = some v ∧ Text.trim v.toList ≠ []

/-- A variable is set to zero; blanks around it do not count. -/
def Environment.SetsZero (env : Environment) (name : String) : Prop :=
  ∃ v, env name = some v ∧ Text.IsZero (Text.trim v.toList)

variable {env : Environment}

theorem Environment.exists_required_iff {name : String} :
    (∃ v, env.required name = .ok v) ↔ env.Sets name := by
  unfold required Sets
  cases env name with
  | none => exact iff_of_false nofun nofun
  | some v =>
    simp only [Option.some.injEq, exists_eq_left']
    by_cases hblank : Text.trim v.toList = []
    · rw [if_pos hblank]
      exact iff_of_false nofun (not_not_intro hblank)
    · rw [if_neg hblank]
      exact iff_of_true ⟨v, rfl⟩ hblank

theorem Environment.number_eq_zero_iff {name : String} {default : Nat} (h : default ≠ 0) :
    env.number name default = 0 ↔ env.SetsZero name := by
  unfold number number? SetsZero
  cases env name with
  | none => exact iff_of_false h nofun
  | some v =>
    have hread (t : List Char) : Text.IsZero t ↔ Text.readNat Text.greatest64 t = .ok 0 :=
      Text.readNat_eq_zero_iff.symm
    simp only [Option.bind_some, Option.some.injEq, exists_eq_left', hread]
    cases Text.readNat Text.greatest64 (Text.trim v.toList) with
    | error f => exact iff_of_false h nofun
    | ok n => exact Except.ok.injEq n 0 ▸ Iff.rfl

/-- The variable of the time between two terms. -/
def pollingVariable : String := "SCHEDULER_API_POLLING_INTERVAL_SECS"

/-- The variable of the time between two checks of the pool. -/
def checkVariable : String := "ADAPTER_RLP_CHECK_INTERVAL_MS"

/-- What an accepted configuration of a scheduler says of the environment. -/
theorem Scheduler.of_read {c : Scheduler} (h : Scheduler.read env = .ok c) :
    env.Sets "SCHEDULER_API_URL" ∧ env.list "SCHEDULER_ADAPTER_ADDRS" ≠ [] ∧
      (∃ bl, Blacklist.parse (env.text "SCHEDULER_BLACKLIST_RANGES" "").toList = .ok bl) ∧
      c.pollingInterval = env.number pollingVariable 15 * 1000 := by
  obtain ⟨apiUrl, hurl, h⟩ := exists_of_bind_eq_ok h
  dsimp only at h
  split at h
  · cases h
  · next hlist =>
    split at h
    · next bl hranges =>
      cases h
      exact ⟨Environment.exists_required_iff.mp ⟨apiUrl, hurl⟩, mt List.isEmpty_iff.mpr hlist,
        ⟨bl, hranges⟩, rfl⟩
    · cases h

theorem Scheduler.exists_read {bl : Blacklist} (hurl : env.Sets "SCHEDULER_API_URL")
    (hlist : env.list "SCHEDULER_ADAPTER_ADDRS" ≠ [])
    (hranges : Blacklist.parse (env.text "SCHEDULER_BLACKLIST_RANGES" "").toList = .ok bl) :
    ∃ c, Scheduler.read env = .ok c := by
  obtain ⟨v, hv⟩ := Environment.exists_required_iff.mpr hurl
  unfold Scheduler.read
  rw [hv]
  simp only [hranges]
  exact ⟨_, if_neg (mt List.isEmpty_iff.mp hlist)⟩

theorem Adapter.of_read {c : Adapter} (h : Adapter.read env = .ok c) :
    env.Sets "ADAPTER_RLP_ADDR" ∧ c.checkInterval = env.number checkVariable 1000 := by
  obtain ⟨address, haddress, h⟩ := exists_of_bind_eq_ok h
  cases h
  exact ⟨Environment.exists_required_iff.mp ⟨address, haddress⟩, rfl⟩

theorem Adapter.exists_read (h : env.Sets "ADAPTER_RLP_ADDR") : ∃ c, Adapter.read env = .ok c := by
  obtain ⟨v, hv⟩ := Environment.exists_required_iff.mpr h
  unfold Adapter.read
  rw [hv]
  exact ⟨_, rfl⟩

/-! ## Programs -/

/-- The rules of the pool of an adapter. -/
def Adapter.poolRules (c : Adapter) : Ingress.Pool.Rules :=
  ⟨c.checkInterval, c.connectionLifetime, c.retryWait⟩

open Ingress in
/-- The pool of an adapter before anyone has dialed for it. -/
def Adapter.pool (c : Adapter) : Pool := .ofSize c.connectionCount

open LogEgress.Scheduler in
/-- What becomes of a scheduler that is started with an accepted configuration. -/
structure Scheduler.Fate (env : Environment) (c : Scheduler) : Prop where
  /-- It has no ticker just if the variable of its interval is set to zero. -/
  stuck_iff : Ticker.start? c.pollingInterval 0 = none ↔ env.SetsZero pollingVariable
  /-- Then it never has a term. -/
  stuck : Ticker.start? c.pollingInterval 0 = none →
    ∀ {σ : Type} (srv : Server σ) (deadlines : Deadlines) (fetch : FetchResult) (stop : Nat)
      (s : State σ), runTerms srv deadlines fetch c.pollingInterval stop s = ⟨0, [], s⟩
  /-- Otherwise it has its first term at once. -/
  running : Ticker.start? c.pollingInterval 0 ≠ none →
    ∀ {σ : Type} (srv : Server σ) (deadlines : Deadlines) (fetch : FetchResult) (stop : Nat)
      (s : State σ), 0 < stop → 0 < (runTerms srv deadlines fetch c.pollingInterval stop s).terms
  /-- It asks for pages with room for one application at least. -/
  room : ∀ answers, Paging.fetch ⟨c.apiUrl, c.batchSize⟩ answers =
    Paging.fetch ⟨c.apiUrl, max 1 c.batchSize⟩ answers

open Ingress in
/-- What becomes of an adapter that is started with an accepted configuration. -/
structure Adapter.Fate (env : Environment) (c : Adapter) : Prop where
  /-- Its monitor has no ticker just if the variable of its interval is set to zero. -/
  stuck_iff : Ticker.start? c.checkInterval 0 = none ↔ env.SetsZero checkVariable
  /-- Then no client is dialed for, and no one who waits for one ever gets it. -/
  stuck : Ticker.start? c.checkInterval 0 = none → ∀ (dial : Dialer) (start stop now : Nat),
    c.pool.monitor dial c.poolRules start stop = ([], c.pool) ∧ c.pool.next c.poolRules now = none
  /-- Otherwise every slot is dialed for at once. -/
  running : Ticker.start? c.checkInterval 0 ≠ none → ∀ (dial : Dialer) (start stop : Nat),
    start < stop → c.pool.size ≤ (c.pool.monitor dial c.poolRules start stop).2.dials
  /-- The pool has a slot. -/
  slot : 0 < c.pool.size
  /-- An envelope has an attempt. -/
  attempt : ∀ {σ : Type} (delay : Nat → Nat) (cancellation : Egress.Retry.Cancellation)
    (drain : String) (inner : Egress.Writer σ) (e : Envelope) (p : Egress.Retry.Progress) (s : σ),
      p.calls < (Egress.Retry.write ⟨c.maxRetries, delay, cancellation, drain⟩ inner e p s).2.1.calls

theorem Scheduler.fate_of_read {c : Scheduler} (h : Scheduler.read env = .ok c) :
    Scheduler.Fate env c where
  stuck_iff := by
    obtain ⟨-, -, -, hinterval⟩ := Scheduler.of_read h
    have hzero : env.number pollingVariable 15 * 1000 = 0 ↔ env.number pollingVariable 15 = 0 := by
      omega
    rw [Ticker.start?_eq_none_iff, hinterval, hzero, Environment.number_eq_zero_iff (by decide)]
  stuck := by
    intro hnone σ srv deadlines fetch stop s
    rw [LogEgress.Scheduler.runTerms, hnone]
  running := by
    intro hsome σ srv deadlines fetch stop s hstop
    have hinterval := mt Ticker.start?_eq_none_iff.mpr hsome
    rw [LogEgress.Scheduler.runTerms, Ticker.start?_of_ne_zero hinterval]
    simp only
    have htaken : (⟨c.pollingInterval, 0⟩ : Ticker).takenAt 0 = 0 := Nat.max_self 0
    rw [LogEgress.Scheduler.termsUntil, htaken, if_neg (Nat.not_le.mpr hstop)]
    exact Nat.succ_pos _
  room := fun answers => (LogEgress.Scheduler.Paging.fetch_max _ _ answers).symm

theorem Adapter.fate_of_read {c : Adapter} (h : Adapter.read env = .ok c) :
    Adapter.Fate env c where
  stuck_iff := by
    obtain ⟨-, hinterval⟩ := Adapter.of_read h
    rw [Ticker.start?_eq_none_iff, hinterval, Environment.number_eq_zero_iff (by decide)]
  stuck := by
    intro hnone dial start stop now
    exact ⟨Ingress.Pool.monitor_of_zero (Ticker.start?_eq_none_iff.mp hnone) start stop _,
      Ingress.Pool.next_ofSize _ now⟩
  running := by
    intro hsome dial start stop hstop
    have hinterval : c.poolRules.checkInterval ≠ 0 := mt Ticker.start?_eq_none_iff.mpr hsome
    have hsize : c.pool.size = max 1 c.connectionCount := List.length_replicate
    rw [hsize]
    exact Ingress.Pool.le_dials_monitor hinterval hstop _
  slot := by
    have hsize : c.pool.size = max 1 c.connectionCount := List.length_replicate
    omega
  attempt := fun _ _ _ inner e p s => Egress.Retry.calls_lt_attempt _ inner e _ 0 p s

/-- **An accepted configuration runs unless its interval is set to zero.** Whether it is accepted
depends on other variables alone. An interval of zero leaves a scheduler without terms and an
adapter without clients; no other number does any harm when it is zero. -/
theorem accepted_runs_unless_interval_zero (env : Environment) :
    ((∃ c, Scheduler.read env = .ok c) ↔ env.Sets "SCHEDULER_API_URL" ∧
      env.list "SCHEDULER_ADAPTER_ADDRS" ≠ [] ∧
      ∃ bl, Blacklist.parse (env.text "SCHEDULER_BLACKLIST_RANGES" "").toList = .ok bl) ∧
    (∀ c, Scheduler.read env = .ok c → Scheduler.Fate env c) ∧
    ((∃ c, Adapter.read env = .ok c) ↔ env.Sets "ADAPTER_RLP_ADDR") ∧
    (∀ c, Adapter.read env = .ok c → Adapter.Fate env c) ∧
    ∀ (α : Type) (size : Nat), 0 < (Diode.ofSize size : Diode α).capacity := by
  refine ⟨⟨?_, ?_⟩, fun c => Scheduler.fate_of_read, ⟨?_, ?_⟩, fun c => Adapter.fate_of_read, ?_⟩
  · rintro ⟨c, h⟩
    obtain ⟨hurl, hlist, hranges, -⟩ := Scheduler.of_read h
    exact ⟨hurl, hlist, hranges⟩
  · rintro ⟨hurl, hlist, bl, hranges⟩
    exact Scheduler.exists_read hurl hlist hranges
  · rintro ⟨c, h⟩
    exact (Adapter.of_read h).1
  · exact Adapter.exists_read
  · intro α size
    have hcapacity : (Diode.ofSize size : Diode α).capacity = max 1 size := List.length_replicate
    omega

/-- With the intervals that are in force where none is set, both programs run. -/
theorem default_intervals_run :
    let env : Environment := fun name =>
      [("SCHEDULER_API_URL", "http://cc"), ("SCHEDULER_ADAPTER_ADDRS", "10.0.0.1:4443"),
        ("ADAPTER_RLP_ADDR", "rlp:8082")].lookup name
    (∃ c, Scheduler.read env = .ok c ∧ Scheduler.Fate env c ∧
      Ticker.start? c.pollingInterval 0 = some ⟨15000, 0⟩) ∧
    ∃ c, Adapter.read env = .ok c ∧ Adapter.Fate env c ∧
      Ticker.start? c.checkInterval 0 = some ⟨1000, 0⟩ := by
  intro env
  have hscheduler : (Scheduler.read env).map (·.pollingInterval) = .ok 15000 := by decide +kernel
  have hadapter : (Adapter.read env).map (·.checkInterval) = .ok 1000 := by decide +kernel
  obtain ⟨c, hc, hpolling⟩ := exists_of_map_eq_ok hscheduler
  obtain ⟨d, hd, hcheck⟩ := exists_of_map_eq_ok hadapter
  obtain ⟨-, hfates, -, hfated, -⟩ := accepted_runs_unless_interval_zero env
  exact ⟨⟨c, hc, hfates c hc, by rw [hpolling]; rfl⟩, d, hd, hfated d hd, by rw [hcheck]; rfl⟩

/-- Settings that both programs accept, with intervals of zero. -/
def zeroSettings : Environment := fun name =>
  [("SCHEDULER_API_URL", "http://cc"), ("SCHEDULER_ADAPTER_ADDRS", "10.0.0.1:4443"),
    (pollingVariable, "0"), ("ADAPTER_RLP_ADDR", "rlp:8082"), (checkVariable, " +00 ")].lookup name

/-- **An interval of zero is accepted** by both programs, and neither has a ticker then. -/
theorem zero_interval_accepted :
    (∃ c, Scheduler.read zeroSettings = .ok c ∧ Ticker.start? c.pollingInterval 0 = none) ∧
      ∃ c, Adapter.read zeroSettings = .ok c ∧ Ticker.start? c.checkInterval 0 = none := by
  have hscheduler : (Scheduler.read zeroSettings).map (·.pollingInterval) = .ok 0 := by
    decide +kernel
  have hadapter : (Adapter.read zeroSettings).map (·.checkInterval) = .ok 0 := by decide +kernel
  obtain ⟨c, hc, hpolling⟩ := exists_of_map_eq_ok hscheduler
  obtain ⟨d, hd, hcheck⟩ := exists_of_map_eq_ok hadapter
  exact ⟨⟨c, hc, Ticker.start?_eq_none_iff.mpr hpolling⟩, d, hd,
    Ticker.start?_eq_none_iff.mpr hcheck⟩

end Config

end LogEgress
