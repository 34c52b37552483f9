import LogEgress.Adapter.Pump
import LogEgress.Egress.Program
import LogEgress.Proofs.Drain
import LogEgress.Proofs.Egress.Attempts

set_option autoImplicit false

/-! # Errors that are there to stay

What is wrong with a drain shows when it is connected to, and only then
(`only_connecting_fails_for_good`). Connecting fails if and only if the drain is not usable, which
its URL alone decides; the error is a permanent one then, and a program is left without a new
consumer. Whatever the network does, no writer of a chain that was set up comes to a permanent
error, so the layer above it ends each write by success, by a cancellation, or after the last
attempt.
-/

namespace LogEgress

/-! ## Permanent errors -/

namespace Egress

variable {α β : Type}

/-- A computation that fails only for good. -/
def FailsForGood (x : Except Error α) : Prop := ∀ e, x = .error e → e.isPermanent = true

theorem failsForGood_ok (a : α) : FailsForGood (.ok a) := nofun

theorem failsForGood_error {e : Error} (h : e.isPermanent = true) :
    FailsForGood (.error e : Except Error α) := by
  rintro _ ⟨⟩
  exact h

theorem FailsForGood.bind {x : Except Error α} {f : α → Except Error β} (hx : FailsForGood x)
    (hf : ∀ a, FailsForGood (f a)) : FailsForGood (x >>= f) := by
  cases x with
  | error e => exact failsForGood_error (hx e rfl)
  | ok a => exact hf a

end Egress

namespace Drain

open Egress (FailsForGood failsForGood_ok failsForGood_error)

theorem failsForGood_readUrl (drain : String) : FailsForGood (readUrl drain) := by
  unfold readUrl
  split
  · exact failsForGood_ok _
  · exact failsForGood_error rfl

theorem failsForGood_scheme (u : Url) : FailsForGood (scheme u) := by
  unfold scheme
  dsimp only
  split
  · exact failsForGood_ok _
  · exact failsForGood_error rfl

theorem failsForGood_address (drain : String) (defaultPort : Nat) :
    FailsForGood (address drain defaultPort) := by
  refine (failsForGood_readUrl drain).bind fun u => (failsForGood_scheme u).bind fun s => ?_
  dsimp only
  split
  · exact failsForGood_error rfl
  · split
    · exact failsForGood_error rfl
    · exact failsForGood_error rfl
    · exact failsForGood_ok _

theorem failsForGood_tlsAddress (drain : String) : FailsForGood (tlsAddress drain) := by
  refine (failsForGood_address drain syslogTlsPort).bind fun a => ?_
  dsimp only
  split
  · exact failsForGood_ok _
  · exact failsForGood_error rfl

theorem failsForGood_httpsUrl (drain : String) : FailsForGood (httpsUrl drain) := by
  refine (failsForGood_readUrl drain).bind fun u => ?_
  split
  · exact failsForGood_ok _
  · exact failsForGood_error rfl

/-! ## Usable drains -/

/-- A drain that can be connected to: its URL is one for requests, or one for streams with a host,
which for a TLS stream has to be the name of a server. -/
def Usable (drain : String) : Prop :=
  ∃ u, Url.parse drain.toList = .ok u ∧
    (u.scheme = "https".toList ∨
      (u.scheme = "syslog".toList ∨ u.scheme = "syslog-tls".toList) ∧
        ∃ host, u.hostText? = some host ∧ host ≠ [] ∧
          (u.scheme = "syslog-tls".toList → Tls.isServerName (stripBrackets host) = true))

theorem Scheme.ofName?_eq_some_iff {name : String} {s : Scheme} :
    Scheme.ofName? name = some s ↔ name = s.name := by
  constructor
  · intro h
    unfold Scheme.ofName? at h
    split at h <;> cases h <;> rfl
  · rintro rfl
    cases s <;> rfl

theorem scheme_eq_ok_iff {u : Url} {s : Scheme} : scheme u = .ok s ↔ u.scheme = s.name.toList := by
  have hname : scheme u = .ok s ↔ Scheme.ofName? (String.ofList u.scheme) = some s := by
    unfold scheme
    dsimp only
    cases Scheme.ofName? (String.ofList u.scheme) with
    | none => exact iff_of_false nofun nofun
    | some t => exact ⟨fun h => congrArg some (Except.ok.inj h), fun h => h ▸ rfl⟩
  rw [hname, Scheme.ofName?_eq_some_iff]
  constructor
  · intro h
    rw [← h, String.toList_ofList]
  · intro h
    rw [h, String.ofList_toList]

end Drain

namespace Egress

open Drain (Usable TakesStream)

/-! ## Connecting -/

theorem schemeOf_eq_ok_iff {drain : String} {s : Drain.Scheme} :
    schemeOf drain = .ok s ↔
      ∃ u, Url.parse drain.toList = .ok u ∧ u.scheme = s.name.toList := by
  constructor
  · intro h
    obtain ⟨u, hread, hscheme⟩ := exists_of_bind_eq_ok h
    exact ⟨u, Drain.readUrl_eq_ok_iff.mp hread, Drain.scheme_eq_ok_iff.mp hscheme⟩
  · rintro ⟨u, hparse, hscheme⟩
    rw [schemeOf, Drain.readUrl_eq_ok_iff.mpr hparse]
    exact Drain.scheme_eq_ok_iff.mpr hscheme

theorem failsForGood_destination (drain : String) : FailsForGood (destination drain) := by
  refine FailsForGood.bind ?_ fun s => ?_
  · exact (Drain.failsForGood_readUrl drain).bind Drain.failsForGood_scheme
  · cases s with
    | syslog =>
      exact (Drain.failsForGood_address drain Drain.syslogPort).bind fun _ => failsForGood_ok _
    | syslogTls => exact (Drain.failsForGood_tlsAddress drain).bind fun _ => failsForGood_ok _
    | https => exact (Drain.failsForGood_httpsUrl drain).bind fun _ => failsForGood_ok _

/-- A drain that takes a stream has an address if its URL has a host. -/
theorem address_eq_ok_iff {drain : String} {u : Url} (hparse : Url.parse drain.toList = .ok u)
    (hstream : TakesStream u) (defaultPort : Nat) {a : String × Nat} :
    Drain.address drain defaultPort = .ok a ↔
      ∃ host, u.hostText? = some host ∧ host ≠ [] ∧
        a = (String.ofList (Drain.stripBrackets host), u.port.getD defaultPort) := by
  rw [Drain.address_eq hparse hstream]
  cases u.hostText? with
  | none => exact iff_of_false nofun nofun
  | some host =>
    cases host with
    | nil =>
      refine iff_of_false nofun ?_
      rintro ⟨_, hhost, hne, -⟩
      exact hne (Option.some.inj hhost).symm
    | cons c host =>
      constructor
      · intro h
        exact ⟨c :: host, rfl, List.cons_ne_nil c host, (Except.ok.inj h).symm⟩
      · rintro ⟨_, hhost, -, rfl⟩
        rw [← Option.some.inj hhost]

theorem tlsAddress_eq_ok_iff {drain : String} {a : String × Nat} :
    Drain.tlsAddress drain = .ok a ↔
      Drain.address drain Drain.syslogTlsPort = .ok a ∧ Tls.isServerName a.1.toList = true := by
  constructor
  · intro h
    obtain ⟨b, hb, h⟩ := exists_of_bind_eq_ok h
    dsimp only at h
    split at h
    · next hname =>
      cases h
      exact ⟨hb, hname⟩
    · cases h
  · rintro ⟨ha, hname⟩
    rw [Drain.tlsAddress, ha]
    exact if_pos hname

theorem httpsUrl_eq {drain : String} {u : Url} (hparse : Url.parse drain.toList = .ok u)
    (hscheme : u.scheme = "https".toList) : Drain.httpsUrl drain = .ok u := by
  rw [Drain.httpsUrl, Drain.readUrl_eq_ok_iff.mpr hparse]
  exact if_pos hscheme

theorem destination_eq {drain : String} {s : Drain.Scheme} (h : schemeOf drain = .ok s) :
    destination drain = destinationOf s drain := by
  rw [destination, h]
  rfl

theorem exists_streamDestination_iff {drain : String} {u : Url}
    (hparse : Url.parse drain.toList = .ok u) (hscheme : u.scheme = "syslog".toList) :
    (∃ d, streamDestination drain = .ok d) ↔ ∃ host, u.hostText? = some host ∧ host ≠ [] := by
  have haddress {a : String × Nat} :=
    address_eq_ok_iff hparse (.inl hscheme) Drain.syslogPort (a := a)
  constructor
  · rintro ⟨d, h⟩
    obtain ⟨a, ha, -⟩ := exists_of_bind_eq_ok h
    obtain ⟨host, hhost, hne, -⟩ := haddress.mp ha
    exact ⟨host, hhost, hne⟩
  · rintro ⟨host, hhost, hne⟩
    rw [streamDestination, haddress.mpr ⟨host, hhost, hne, rfl⟩]
    exact ⟨_, rfl⟩

theorem exists_tlsDestination_iff {drain : String} {u : Url}
    (hparse : Url.parse drain.toList = .ok u) (hscheme : u.scheme = "syslog-tls".toList) :
    (∃ d, tlsDestination drain = .ok d) ↔
      ∃ host, (u.hostText? = some host ∧ host ≠ []) ∧
        Tls.isServerName (Drain.stripBrackets host) = true := by
  have haddress {a : String × Nat} :=
    address_eq_ok_iff hparse (.inr hscheme) Drain.syslogTlsPort (a := a)
  constructor
  · rintro ⟨d, h⟩
    obtain ⟨a, ha, -⟩ := exists_of_bind_eq_ok h
    obtain ⟨ha, hserver⟩ := tlsAddress_eq_ok_iff.mp ha
    obtain ⟨host, hhost, hne, rfl⟩ := haddress.mp ha
    rw [String.toList_ofList] at hserver
    exact ⟨host, ⟨hhost, hne⟩, hserver⟩
  · rintro ⟨host, ⟨hhost, hne⟩, hserver⟩
    rw [← String.toList_ofList (l := Drain.stripBrackets host)] at hserver
    rw [tlsDestination, tlsAddress_eq_ok_iff.mpr ⟨haddress.mpr ⟨host, hhost, hne, rfl⟩, hserver⟩]
    exact ⟨_, rfl⟩

/-- **A drain has a destination if and only if it is usable.** -/
theorem exists_destination_iff {drain : String} :
    (∃ d, destination drain = .ok d) ↔ Usable drain := by
  constructor
  · rintro ⟨d, h⟩
    obtain ⟨s, hscheme, h⟩ := exists_of_bind_eq_ok h
    obtain ⟨u, hparse, hname⟩ := schemeOf_eq_ok_iff.mp hscheme
    refine ⟨u, hparse, ?_⟩
    cases s with
    | syslog =>
      obtain ⟨host, hhost, hne⟩ := (exists_streamDestination_iff hparse hname).mp ⟨d, h⟩
      refine .inr ⟨.inl hname, host, hhost, hne, fun htls => ?_⟩
      rw [hname] at htls
      exact absurd htls (by decide)
    | syslogTls =>
      obtain ⟨host, ⟨hhost, hne⟩, hserver⟩ := (exists_tlsDestination_iff hparse hname).mp ⟨d, h⟩
      exact .inr ⟨.inr hname, host, hhost, hne, fun _ => hserver⟩
    | https => exact .inl hname
  · rintro ⟨u, hparse, hname | ⟨hname | hname, host, hhost, hne, hserver⟩⟩
    · rw [destination_eq (s := .https) (schemeOf_eq_ok_iff.mpr ⟨u, hparse, hname⟩), destinationOf,
        httpsDestination, httpsUrl_eq hparse hname]
      exact ⟨_, rfl⟩
    · rw [destination_eq (s := .syslog) (schemeOf_eq_ok_iff.mpr ⟨u, hparse, hname⟩)]
      exact (exists_streamDestination_iff hparse hname).mpr ⟨host, hhost, hne⟩
    · rw [destination_eq (s := .syslogTls) (schemeOf_eq_ok_iff.mpr ⟨u, hparse, hname⟩)]
      exact (exists_tlsDestination_iff hparse hname).mpr ⟨host, ⟨hhost, hne⟩, hserver hname⟩

/-- Whether there is a connection, and to what, does not depend on the metrics. -/
theorem connect_fst (r : Metrics.Registry) (b : Binding) :
    (connect r b).1.map (fun c => (c.binding, c.destination)) =
      (destination b.drain).map fun d => (b, d) := by
  unfold connect destination
  cases schemeOf b.drain with
  | error e => rfl
  | ok s =>
    simp only
    cases hd : destinationOf s b.drain with
    | error e => simp only [Except.map, bind, Except.bind, hd]
    | ok d => simp only [Except.map, bind, Except.bind, hd]

namespace Program

variable {cfg : Settings} {subscription : Option Nat} {b : Binding} {p q : Program}

/-- What connecting comes to: an error, and nothing but metrics is touched, or a consumer for the
destination. -/
inductive Connects (cfg : Settings) (subscription : Option Nat) (b : Binding) (p : Program) :
    Except Error Nat × Program → Prop
  | failed {e : Error} (metrics : Metrics.Registry) : destination b.drain = .error e →
      Connects cfg subscription b p (.error e, { p with metrics := metrics })
  | started {q : Program} {c : Consumer} : destination b.drain = .ok c.connection.destination →
      c.connection.binding = b → c.settings = cfg → c.token = p.tokens.tokens.length →
      c.guard = (if cfg.awaitsFlush then some p.tokens.guards.length else none) →
      q.tokens.tokens = p.tokens.tokens ++ [⟨subscription, p.tokens.isCancelled subscription⟩] →
      q.tokens.guards = p.tokens.guards ++ (if cfg.awaitsFlush then [true] else []) →
      q.consumers = p.consumers ++ [c] →
      Connects cfg subscription b p (.ok p.consumers.length, q)

theorem connects (cfg : Settings) (subscription : Option Nat) (b : Binding) (p : Program) :
    Connects cfg subscription b p (p.connect cfg subscription b) := by
  have hfst := connect_fst p.metrics b
  unfold Program.connect
  cases hconnect : Egress.connect p.metrics b with
  | mk result metrics =>
    rw [hconnect] at hfst
    cases result with
    | error e =>
      refine .failed metrics ?_
      cases hd : destination b.drain with
      | error e' =>
        rw [hd] at hfst
        exact congrArg Except.error (Except.error.inj hfst).symm
      | ok d =>
        rw [hd] at hfst
        cases hfst
    | ok c =>
      have hc : destination b.drain = .ok c.destination ∧ c.binding = b := by
        cases hd : destination b.drain with
        | error e =>
          rw [hd] at hfst
          cases hfst
        | ok d =>
          rw [hd] at hfst
          have hpair := Prod.mk.inj (Except.ok.inj hfst)
          exact ⟨congrArg Except.ok hpair.2.symm, hpair.1⟩
      refine .started hc.1 hc.2 rfl rfl rfl ?_ ?_ rfl
      · cases cfg.awaitsFlush <;> rfl
      · cases cfg.awaitsFlush
        · exact (List.append_nil _).symm
        · rfl

/-- The first consumer of a program, for a subscription below the root, is that of a chain. -/
theorem connect_first (cfg : Settings) {b : Binding} {c : Connection} {r metrics : Metrics.Registry}
    (h : Egress.connect r b = (.ok c, metrics)) :
    let chain : Chain (Retry.State c.destination.State) :=
      .start cfg.diodeSize cfg.awaitsFlush ⟨{}, [], c.destination.start⟩
    Program.connect cfg (some Chain.subscriptionToken) b
        { metrics := r, tokens := ({} : Shutdown.Controller).child none } =
      (.ok 0, { metrics := metrics, tokens := chain.tokens, consumers := [⟨c, cfg,
        Chain.writerToken, if cfg.awaitsFlush then some 0 else none, chain.writer⟩] }) := by
  rw [Program.connect]
  simp only [h]
  rfl

/-- An error is that of the destination, and only metrics were touched. -/
theorem connect_of_error {e : Error} (h : (p.connect cfg subscription b).1 = .error e) :
    destination b.drain = .error e ∧
      (p.connect cfg subscription b).2.consumers = p.consumers ∧
      (p.connect cfg subscription b).2.tokens = p.tokens := by
  have hconnects := p.connects cfg subscription b
  generalize p.connect cfg subscription b = x at h hconnects
  cases hconnects with
  | failed metrics hd =>
    cases h
    exact ⟨hd, rfl, rfl⟩
  | started => cases h

/-- Success means one more consumer, which counts as one that flushes if it is waited for. -/
theorem connect_of_ok {n : Nat} (h : (p.connect cfg subscription b).1 = .ok n) :
    n = p.consumers.length ∧
      (p.connect cfg subscription b).2.tokens.flushing =
        p.tokens.flushing + (if cfg.awaitsFlush then 1 else 0) ∧
      ∃ c, (p.connect cfg subscription b).2.consumers = p.consumers ++ [c] ∧
        c.connection.binding = b ∧ destination b.drain = .ok c.connection.destination := by
  have hconnects := p.connects cfg subscription b
  generalize p.connect cfg subscription b = x at h hconnects
  cases hconnects with
  | failed => cases h
  | started hd hbinding _ _ _ _ hguards hconsumers =>
    cases h
    refine ⟨rfl, ?_, _, hconsumers, hbinding, hd⟩
    rw [Shutdown.Controller.flushing, hguards, List.count_append]
    cases cfg.awaitsFlush <;> rfl

/-- Whether connecting succeeds depends on the drain alone, and so does the error. -/
theorem connect_fst_map (cfg : Settings) (subscription : Option Nat) (b : Binding) (p : Program) :
    ((p.connect cfg subscription b).1.map fun _ => ()) = (destination b.drain).map fun _ => () := by
  cases h : (p.connect cfg subscription b).1 with
  | error e => rw [(connect_of_error h).1]; rfl
  | ok n =>
    obtain ⟨-, -, c, -, -, hd⟩ := connect_of_ok h
    rw [hd]
    rfl

theorem connect_of_destination_error {e : Error} (hd : destination b.drain = .error e) :
    (p.connect cfg subscription b).1 = .error e := by
  cases h : (p.connect cfg subscription b).1 with
  | error e' =>
    cases hd.symm.trans (connect_of_error h).1
    rfl
  | ok n =>
    obtain ⟨-, -, c, -, -, hd'⟩ := connect_of_ok h
    cases hd.symm.trans hd'

/-- **Connecting succeeds if and only if the drain is usable.** -/
theorem connect_ok_iff :
    (∃ n, (p.connect cfg subscription b).1 = .ok n) ↔ Drain.Usable b.drain := by
  rw [← exists_destination_iff]
  constructor
  · rintro ⟨n, h⟩
    obtain ⟨-, -, c, -, -, hd⟩ := connect_of_ok h
    exact ⟨_, hd⟩
  · rintro ⟨d, hd⟩
    cases h : (p.connect cfg subscription b).1 with
    | error e => cases hd.symm.trans (connect_of_error h).1
    | ok n => exact ⟨n, rfl⟩

end Program

/-! ## Writing -/

/-- A writer none of whose errors is permanent. -/
def Writer.FailsForNow {σ : Type} (w : Writer σ) : Prop :=
  ∀ e s err, (w.write e s).1 = .error err → err.isPermanent = false

theorem answer_transient (tls : Bool) (x : DialEnd) {err : Error} (h : x.answer tls = .error err) :
    err.isPermanent = false := by
  cases x with
  | refused detail =>
    cases h
    rfl
  | reached handshake =>
    cases handshake with
    | ok u => cases h
    | error detail =>
      cases tls <;> cases h
      rfl
  | timedOut =>
    cases h
    rfl

theorem passage_transient (x : SendEnd) {n : Nat} {err : Error} (h : x.passage = .cut n err) :
    err.isPermanent = false := by
  cases x <;> cases h <;> rfl

theorem stream_failsForNow (tls : Bool) (w : Wire) (b : Binding) :
    (Stream.writer (w.stream tls) b).FailsForNow := by
  intro e s err h
  simp only [Stream.writer, Stream.write] at h
  split at h
  · cases h
  · split at h
    · next t hconnect =>
      -- A frame was begun.
      simp only [Stream.send] at h
      split at h
      · cases h
      · next hpassage =>
        cases h
        exact passage_transient _ hpassage
    · next err' t hconnect =>
      -- The dial failed.
      cases h
      simp only [Stream.connect] at hconnect
      split at hconnect
      · cases hconnect
      · split at hconnect
        · cases hconnect
        · next hdial =>
          cases hconnect
          exact answer_transient tls _ hdial

theorem requests_failsForNow (net : Requests.Network) (b : Binding) (u : Url) :
    (Requests.writer net b u).FailsForNow := by
  intro e s err h
  simp only [Requests.writer, Requests.write] at h
  split at h
  · cases h
  · unfold Requests.resultOf at h
    split at h
    · split at h
      · cases h
      · cases h
        rfl
    · cases h
      split <;> rfl

/-- **Whatever the network does, no write fails for good.** -/
theorem Destination.writer_failsForNow (w : Wire) (b : Binding) (d : Destination) :
    (d.writer w b).FailsForNow := by
  cases d with
  | stream host port => exact stream_failsForNow false w b
  | tlsStream host port => exact stream_failsForNow true w b
  | requests u => exact requests_failsForNow w.exchange b u

/-! ## Writing again -/

namespace Retry.Trial

variable {σ : Type}

/-- Over a writer that does not fail for good a write ends by success, by a cancellation, or after
the last attempt. -/
theorem ends_of_failsForNow (t : Trial σ) (h : t.inner.FailsForNow) :
    ∃ m o p, t.run = (o, p, t.stateAt (m + 1)) ∧ m < t.allowed ∧ (∀ i < m, t.GoesOn i) ∧
      (o.result = .ok () ∧ t.answer m = .ok () ∨
        (∃ err, t.answer m = .error err) ∧
          (t.CancelledBy m ∨ m + 1 = t.allowed ∨ ∃ u, t.CutAt m u)) ∧
      ∀ err, o.result = .error err → err.isPermanent = false := by
  obtain ⟨m, o, p, hrun, hlt, hgo, hends⟩ := t.exists_run_eq
  have hanswer : ∀ err, t.answer m = .error err → err.isPermanent = false := fun err herr =>
    h _ _ err herr
  refine ⟨m, o, p, hrun, hlt, hgo, ?_⟩
  -- Without permanent errors a write that is settled has succeeded.
  cases hends with
  | settled hsettled =>
    cases hm : t.answer m with
    | ok u => exact ⟨.inl ⟨rfl, rfl⟩, nofun⟩
    | error err => exact absurd ⟨hm, hanswer err hm⟩ (hsettled err)
  | cancelled hfails hcancelled =>
    exact ⟨.inr ⟨⟨_, hfails.1⟩, .inl hcancelled⟩, fun err herr => hanswer err herr⟩
  | exhausted hfails _ hlast =>
    exact ⟨.inr ⟨⟨_, hfails.1⟩, .inr (.inl hlast)⟩, fun err herr => hanswer err herr⟩
  | cut hfails _ _ hcut =>
    refine ⟨.inr ⟨⟨_, hfails.1⟩, .inr (.inr ⟨_, hcut⟩)⟩, ?_⟩
    rintro _ ⟨⟩
    rfl

end Retry.Trial

theorem Retry.writer_failsForNow (policy : Retry.Policy) {σ : Type} {inner : Writer σ}
    (h : inner.FailsForNow) : (Retry.writer policy inner).FailsForNow := by
  intro e s err herr
  obtain ⟨m, o, p, hrun, -, -, -, hnow⟩ := Retry.Trial.ends_of_failsForNow
    ⟨policy, fun _ => 0, inner, e, s.progress, s.inner⟩ h
  rw [Retry.Trial.run_eq_write] at hrun
  simp only [Retry.writer, hrun] at herr
  exact hnow err herr

end Egress

/-! ## Giving up a subscription -/

namespace Adapter.Pump

variable {b : Binding} {es : List Event}

/-- What a pump learns when it asks for writers is what connecting comes to in some program. -/
def Answered (b : Binding) (es : List Event) : Prop :=
  ∀ r, Event.connected r ∈ es → ∃ cfg subscription p,
    r = (Egress.Program.connect cfg subscription b p).1.map fun _ => ()

theorem Answered.tail {e : Event} (h : Answered b (e :: es)) : Answered b es :=
  fun r hr => h r (List.mem_cons_of_mem e hr)

theorem Answered.eq (h : Answered b es) {r : Except Egress.Error Unit}
    (hr : Event.connected r ∈ es) : r = (Egress.destination b.drain).map fun _ => () := by
  obtain ⟨cfg, subscription, p, rfl⟩ := h r hr
  exact p.connect_fst_map cfg subscription b

/-- A subscription is given up when its pump learns that there is no writer. -/
theorem connected_of_abort {phase : Phase} {event : Event} {e : Egress.Error}
    (h : Action.abort e ∈ (step b phase event).2) : event = .connected (.error e) := by
  cases event with
  | connected r =>
    cases phase with
    | connecting =>
      cases r with
      | ok u => simp [step] at h
      | error e' =>
        obtain rfl : e = e' := Action.abort.inj (List.mem_singleton.mp h)
        rfl
    | _ => simp [step] at h
  | opened r => cases r <;> cases phase <;> simp [step] at h
  | received r => cases r <;> cases phase <;> simp [step] at h
  | _ => cases phase <;> simp [step] at h

theorem run_ended (es : List Event) : run b .ended es = (.ended, []) := by
  induction es with
  | nil => rfl
  | cons e es ih =>
    have hstep : step b .ended e = (.ended, []) := by cases e <;> rfl
    rw [run, hstep]
    simp only
    rw [ih]
    rfl

/-- A subscription that is given up has a drain without a destination. -/
theorem destination_of_abort (h : Answered b es) {phase : Phase} {e : Egress.Error}
    (habort : Action.abort e ∈ (run b phase es).2) : Egress.destination b.drain = .error e := by
  induction es generalizing phase with
  | nil => cases habort
  | cons event es ih =>
    rcases List.mem_append.mp habort with hstep | hrest
    · have hanswer := h.eq (List.mem_of_mem_head? (congrArg some (connected_of_abort hstep)))
      cases hd : Egress.destination b.drain with
      | error e' =>
        rw [hd] at hanswer
        exact congrArg Except.error (Except.error.inj hanswer).symm
      | ok d =>
        rw [hd] at hanswer
        cases hanswer
    · exact ih h.tail hrest

/-- A pump that asks for a writer where there is no destination gives up as soon as it is
answered. -/
theorem run_of_error {e : Egress.Error} (hd : Egress.destination b.drain = .error e)
    (h : Answered b es) :
    (run b .connecting es = (.connecting, []) ∧ ∀ r, Event.connected r ∉ es) ∨
      run b .connecting es = (.ended, [.abort e]) := by
  induction es with
  | nil => exact .inl ⟨rfl, fun _ => List.not_mem_nil⟩
  | cons event es ih =>
    cases event with
    | connected r =>
      obtain rfl : r = .error e := by
        rw [h.eq List.mem_cons_self, hd]
        rfl
      refine .inr ?_
      rw [run]
      show ((run b .ended es).1, [Action.abort e] ++ (run b .ended es).2) = _
      rw [run_ended]
      rfl
    | _ =>
      -- Nothing else concerns a pump that waits for its writer.
      refine (ih h.tail).imp_left fun hrest => ⟨hrest.1, fun r hr => ?_⟩
      exact hrest.2 r ((List.mem_cons.mp hr).resolve_left nofun)

/-- A pump whose drain has no destination asks for one writer at most, and does nothing else but
give up. -/
theorem run_idle_of_error {e : Egress.Error} (hd : Egress.destination b.drain = .error e)
    (h : Answered b es) :
    run b .idle es = (.idle, []) ∨ run b .idle es = (.ended, []) ∨
      run b .idle es = (.connecting, [.connect]) ∨
      run b .idle es = (.ended, [.connect, .abort e]) := by
  induction es with
  | nil => exact .inl rfl
  | cons event es ih =>
    cases event with
    | cancelled =>
      refine .inr (.inl ?_)
      show ((run b .ended es).1, [] ++ (run b .ended es).2) = _
      rw [run_ended]
      rfl
    | proceed =>
      have hrun : run b .idle (.proceed :: es) =
          ((run b .connecting es).1, [Action.connect] ++ (run b .connecting es).2) := rfl
      rcases run_of_error hd h.tail with ⟨hrest, -⟩ | hrest
      · exact .inr (.inr (.inl (by rw [hrun, hrest]; rfl)))
      · exact .inr (.inr (.inr (by rw [hrun, hrest]; rfl)))
    | _ => exact ih h.tail

end Adapter.Pump

namespace Egress

open Adapter.Pump (Answered Action)

/-- **Errors are permanent exactly when a drain is connected to.** Connecting succeeds if and only
if the drain is usable. If it fails, the error is permanent, and neither consumers nor tokens nor
guards are touched; if it succeeds, one consumer is started, which counts as one that flushes where
the end of the program waits for it.

Whatever the network does, no write to the destination of a consumer comes to a permanent error. So
the layer above it ends each write by success, by a cancellation, or after the last attempt, and its
errors are not permanent either.

A subscription is given up only if its drain is not usable. If it is not, there is no connection
under any circumstances: the pump asks for one writer, and gives up as soon as it is answered. -/
theorem only_connecting_fails_for_good (b : Binding) :
    (∀ (cfg : Settings) (subscription : Option Nat) (p : Program),
      ((∃ n, (p.connect cfg subscription b).1 = .ok n) ↔ Drain.Usable b.drain) ∧
      (∀ e, (p.connect cfg subscription b).1 = .error e → e.isPermanent = true ∧
        (p.connect cfg subscription b).2.consumers = p.consumers ∧
        (p.connect cfg subscription b).2.tokens = p.tokens) ∧
      ∀ n, (p.connect cfg subscription b).1 = .ok n → n = p.consumers.length ∧
        (p.connect cfg subscription b).2.tokens.flushing =
          p.tokens.flushing + (if cfg.awaitsFlush then 1 else 0) ∧
        ∃ c, (p.connect cfg subscription b).2.consumers = p.consumers ++ [c] ∧
          c.connection.binding = b ∧ destination b.drain = .ok c.connection.destination) ∧
    (∀ (c : Consumer) (w : Wire),
      (∀ e s err, ((c.last w).write e s).1 = .error err → err.isPermanent = false) ∧
      (∀ cancellation e s err, ((c.below cancellation w).write e s).1 = .error err →
        err.isPermanent = false) ∧
      ∀ cancellation took envelope start below,
        let t : Retry.Trial c.connection.destination.State :=
          ⟨c.policy cancellation, took, c.last w, envelope, start, below⟩
        ∃ m o p, t.run = (o, p, t.stateAt (m + 1)) ∧ m < t.allowed ∧ (∀ i < m, t.GoesOn i) ∧
          (o.result = .ok () ∧ t.answer m = .ok () ∨
            (∃ err, t.answer m = .error err) ∧
              (t.CancelledBy m ∨ m + 1 = t.allowed ∨ ∃ u, t.CutAt m u)) ∧
          ∀ err, o.result = .error err → err.isPermanent = false) ∧
    (Drain.Usable b.drain → ∀ es, Answered b es → ∀ (phase : Adapter.Pump.Phase) (e : Error),
      Action.abort e ∉ (Adapter.Pump.run b phase es).2) ∧
    (¬ Drain.Usable b.drain → ∃ e : Error, e.isPermanent = true ∧
      (∀ cfg subscription p, (Program.connect cfg subscription b p).1 = .error e) ∧
      ∀ es, Answered b es →
        (Adapter.Pump.run b .idle es = (.idle, []) ∨ Adapter.Pump.run b .idle es = (.ended, []) ∨
          Adapter.Pump.run b .idle es = (.connecting, [.connect]) ∨
          Adapter.Pump.run b .idle es = (.ended, [.connect, .abort e])) ∧
        ((Adapter.Pump.run b .connecting es = (.connecting, []) ∧
            ∀ r, Adapter.Pump.Event.connected r ∉ es) ∨
          Adapter.Pump.run b .connecting es = (.ended, [.abort e]))) := by
  have hfails := failsForGood_destination b.drain
  refine ⟨fun cfg subscription p => ⟨p.connect_ok_iff, fun e he => ?_, fun n => p.connect_of_ok⟩,
    fun c w => ?_, fun husable es hes phase e habort => ?_, fun hunusable => ?_⟩
  · obtain ⟨hd, hconsumers, htokens⟩ := Program.connect_of_error he
    exact ⟨hfails e hd, hconsumers, htokens⟩
  · have hnow := c.connection.destination.writer_failsForNow w c.connection.binding
    exact ⟨hnow, fun cancellation => Retry.writer_failsForNow (c.policy cancellation) hnow,
      fun cancellation took envelope start below => Retry.Trial.ends_of_failsForNow
        ⟨c.policy cancellation, took, c.last w, envelope, start, below⟩ hnow⟩
  · obtain ⟨d, hd⟩ := exists_destination_iff.mpr husable
    cases hd.symm.trans (Adapter.Pump.destination_of_abort hes habort)
  · cases hd : destination b.drain with
    | ok d => exact absurd (exists_destination_iff.mp ⟨d, hd⟩) hunusable
    | error e =>
      exact ⟨e, hfails e hd, fun cfg subscription p => Program.connect_of_destination_error hd,
        fun es hes => ⟨Adapter.Pump.run_idle_of_error hd hes, Adapter.Pump.run_of_error hd hes⟩⟩

/-- A TLS stream to an address, and a drain without a host. -/
theorem only_connecting_fails_for_good_at_two_drains :
    let cfg : Settings := { awaitsFlush := true }
    let usable : Binding := ⟨"app", "host", "syslog-tls://[::1]:6514"⟩
    let unusable : Binding := ⟨"app", "host", "syslog:nowhere"⟩
    (∃ n, (Program.connect cfg none usable {}).1 = .ok n) ∧
      (Program.connect cfg none usable {}).2.tokens.flushing = 1 ∧
      (∀ e, Action.abort e ∉
        (Adapter.Pump.run usable .connecting [.connected (.ok ())]).2) ∧
    ∃ e : Error, (Program.connect cfg none unusable {}).1 = .error e ∧ e.isPermanent = true ∧
      (Program.connect cfg none unusable {}).2.tokens.flushing = 0 ∧
      Adapter.Pump.run unusable .connecting [.connected (.error e)] = (.ended, [.abort e]) := by
  intro cfg usable unusable
  have hdestination : destination usable.drain = .ok (.tlsStream "::1" 6514) := by decide +kernel
  have hnone : destination unusable.drain =
      .error (.invalidUrl "syslog:nowhere: missing host") := by decide +kernel
  obtain ⟨hconnect, -, hgoes, -⟩ := only_connecting_fails_for_good usable
  obtain ⟨hok, -, hstarted⟩ := hconnect cfg none {}
  have husable := exists_destination_iff.mp ⟨_, hdestination⟩
  obtain ⟨n, hn⟩ := hok.mpr husable
  obtain ⟨-, hflushing, -⟩ := hstarted n hn
  have hanswered : Answered usable [.connected (.ok ())] := by
    rintro r hr
    obtain rfl := Adapter.Pump.Event.connected.inj (List.mem_singleton.mp hr)
    exact ⟨cfg, none, {}, by rw [hn]; rfl⟩
  obtain ⟨hconnect', -, -, hgivesUp⟩ := only_connecting_fails_for_good unusable
  have hunusable : ¬ Drain.Usable unusable.drain := by
    intro h
    obtain ⟨d, hd⟩ := exists_destination_iff.mpr h
    cases hnone.symm.trans hd
  obtain ⟨e, hpermanent, herror, hends⟩ := hgivesUp hunusable
  have hanswered' : Answered unusable [.connected (.error e)] := by
    rintro r hr
    obtain rfl := Adapter.Pump.Event.connected.inj (List.mem_singleton.mp hr)
    exact ⟨cfg, none, {}, by rw [herror]; rfl⟩
  obtain ⟨-, hfailed, -⟩ := hconnect' cfg none {}
  obtain ⟨-, -, htokens⟩ := hfailed e (herror cfg none {})
  have hended := (hends _ hanswered').2.resolve_left fun h => h.2 _ List.mem_cons_self
  exact ⟨⟨n, hn⟩, hflushing, hgoes husable _ hanswered .connecting, e, herror cfg none {},
    hpermanent, by rw [htokens]; rfl, hended⟩

end Egress

end LogEgress
