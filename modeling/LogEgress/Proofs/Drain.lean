import LogEgress.Egress.Connector
import LogEgress.Proofs.Ip
import LogEgress.Proofs.Scheduler.Filter
import LogEgress.Proofs.Url.Host

set_option autoImplicit false

/-! # The address that is checked and the address that is dialed

The filter finds out the addresses of a drain from the host of its URL; a writer dials the host as
it stands in the URL, without brackets. Both come to the same (`dialed_host_is_checked`): what is
dialed is the address that was checked, or the name that was looked up. A drain without an address
to be dialed is left out.
-/

namespace LogEgress.Drain

/-! ## Brackets -/

theorem dropWhile_eq_of_notMem {c : Char} {s : List Char} (h : c ∉ s) :
    s.dropWhile (· = c) = s := by
  cases s with
  | nil => rfl
  | cons d s =>
    rw [List.mem_cons, not_or] at h
    rw [List.dropWhile_cons, if_neg]
    exact fun hd => h.1 (of_decide_eq_true hd).symm

theorem dropWhile_cons_self (c : Char) (s : List Char) :
    (c :: s).dropWhile (· = c) = s.dropWhile (· = c) :=
  List.dropWhile_cons_of_pos (decide_eq_true rfl)

theorem dropEndWhile_eq_of_notMem {c : Char} {s : List Char} (h : c ∉ s) :
    Text.dropEndWhile (· = c) s = s := by
  rw [Text.dropEndWhile, dropWhile_eq_of_notMem fun hc => h (List.mem_reverse.1 hc),
    List.reverse_reverse]

theorem stripBrackets_of_notMem {s : List Char} (hopening : '[' ∉ s) (hclosing : ']' ∉ s) :
    stripBrackets s = s := by
  rw [stripBrackets, dropWhile_eq_of_notMem hopening, dropEndWhile_eq_of_notMem hclosing]

theorem stripBrackets_bracketed {s : List Char} (hopening : '[' ∉ s) (hclosing : ']' ∉ s) :
    stripBrackets ('[' :: s ++ [']']) = s := by
  have hfront : ('[' :: s ++ [']']).dropWhile (· = '[') = s ++ [']'] := by
    have hrest : '[' ∉ s ++ [']'] := by
      rw [List.mem_append, not_or]
      exact ⟨hopening, by decide⟩
    rw [List.cons_append, dropWhile_cons_self, dropWhile_eq_of_notMem hrest]
  rw [stripBrackets, hfront, Text.dropEndWhile, List.reverse_append, List.reverse_singleton,
    List.singleton_append, dropWhile_cons_self, dropWhile_eq_of_notMem fun hc => hclosing (List.mem_reverse.1 hc), List.reverse_reverse]

/-! ## Drains that take a stream -/

/-- The scheme of a URL is one of those for streams. -/
def TakesStream (u : Url) : Prop :=
  u.scheme = "syslog".toList ∨ u.scheme = "syslog-tls".toList

instance (u : Url) : Decidable (TakesStream u) := inferInstanceAs (Decidable (_ ∨ _))

theorem TakesStream.kind_eq {u : Url} (h : TakesStream u) :
    Url.SchemeKind.of u.scheme = .other := by
  rcases h with h | h <;> rw [h] <;> decide

theorem scheme_of_takesStream {u : Url} (h : TakesStream u) :
    scheme u = .ok .syslog ∨ scheme u = .ok .syslogTls := by
  unfold scheme
  rcases h with h | h <;> rw [h]
  · exact .inl rfl
  · exact .inr rfl

theorem takesStream_of_scheme {u : Url} {s : Scheme} (h : scheme u = .ok s) (hs : s ≠ .https) :
    TakesStream u := by
  unfold scheme Scheme.ofName? at h
  dsimp only at h
  split at h
  · rename_i hname
    split at hname
    · rename_i heq
      exact .inl (String.ofList_injective heq)
    · rename_i heq
      exact .inr (String.ofList_injective heq)
    · cases hname
      cases h
      exact absurd rfl hs
    · cases hname
  · cases h

theorem readUrl_eq_ok_iff {drain : String} {u : Url} :
    readUrl drain = .ok u ↔ Url.parse drain.toList = .ok u := by
  unfold readUrl
  constructor
  · intro h
    split at h
    · cases h
      assumption
    · cases h
  · intro h
    rw [h]

/-- Only a drain that takes a stream has an address to be dialed. -/
theorem exists_of_address_eq_ok {drain : String} {defaultPort : Nat} {a : String × Nat}
    (h : address drain defaultPort = .ok a) :
    ∃ u, Url.parse drain.toList = .ok u ∧ TakesStream u := by
  obtain ⟨u, hread, h⟩ := exists_of_bind_eq_ok h
  obtain ⟨s, hscheme, h⟩ := exists_of_bind_eq_ok h
  refine ⟨u, readUrl_eq_ok_iff.1 hread, takesStream_of_scheme hscheme ?_⟩
  rintro rfl
  cases h

/-- The address of a drain that takes a stream is its host without brackets. -/
theorem address_eq {drain : String} {u : Url} (hparse : Url.parse drain.toList = .ok u)
    (h : TakesStream u) (defaultPort : Nat) :
    address drain defaultPort = match u.hostText? with
      | none | some [] => .error (.invalidUrl (drain ++ ": missing host"))
      | some host => .ok (String.ofList (stripBrackets host), u.port.getD defaultPort) := by
  unfold address
  rw [readUrl_eq_ok_iff.2 hparse]
  rcases scheme_of_takesStream h with hs | hs
  all_goals
    show (scheme u >>= _) = _
    rw [hs]
    rfl

theorem address_of_tlsAddress {drain : String} {a : String × Nat}
    (h : tlsAddress drain = .ok a) : address drain syslogTlsPort = .ok a := by
  obtain ⟨b, haddress, h⟩ := exists_of_bind_eq_ok h
  dsimp only at h
  split at h
  · cases h
    exact haddress
  · cases h

end LogEgress.Drain

namespace LogEgress.Scheduler

/-! ## The two readings of a host -/

/-- Both readings of the host of a drain that takes a stream: there is none, or it is an IPv6
address, or a name. -/
theorem address_target_cases {drain : String} {u : Url}
    (hparse : Url.parse drain.toList = .ok u) (h : Drain.TakesStream u) (defaultPort : Nat) :
    ((∃ e, Drain.address drain defaultPort = .error e) ∧ target drain = .error .missingHost) ∨
      (∃ x : Ipv6, Drain.address drain defaultPort =
          .ok (String.ofList x.printHex, u.port.getD defaultPort) ∧
        target drain = .ok (.address (.v6 x))) ∨
      ∃ name, Drain.address drain defaultPort =
          .ok (String.ofList name, u.port.getD defaultPort) ∧
        target drain = .ok (.name (String.ofList name)) := by
  have haddress := Drain.address_eq hparse h defaultPort
  unfold Url.hostText? at haddress
  -- Under these schemes no IPv4 address is told apart, and no name has brackets to be lost.
  cases hhost : u.host with
  | none =>
    rw [hhost] at haddress
    exact .inl ⟨⟨_, haddress⟩, by simp only [target, hparse, hhost]⟩
  | some host =>
    rw [hhost] at haddress
    cases Url.opaque_of_parse hparse h.kind_eq host hhost with
    | ipv6 x =>
      have hstrip : Drain.stripBrackets ('[' :: x.printHex ++ [']']) = x.printHex :=
        Drain.stripBrackets_bracketed (Ipv6.notMem_printHex (by decide) x)
          (Ipv6.notMem_printHex (by decide) x)
      refine .inr (.inl ⟨x, haddress.trans ?_, by simp only [target, hparse, hhost]⟩)
      show Except.ok (String.ofList (Drain.stripBrackets ('[' :: x.printHex ++ [']'])), _) = _
      rw [hstrip]
    | @domain name nonempty opening closing =>
      obtain ⟨c, cs, rfl⟩ := List.exists_cons_of_ne_nil nonempty
      have hstrip := Drain.stripBrackets_of_notMem opening closing
      refine .inr (.inr ⟨c :: cs, haddress.trans ?_, by simp only [target, hparse, hhost]⟩)
      show Except.ok (String.ofList (Drain.stripBrackets (c :: cs)), _) = _
      rw [hstrip]

/-- A host to be dialed is checked: it is an address in writing, which is the only one that the
drain has, and nothing is looked up; or else it is what is looked up. -/
inductive Checked (resolve : Resolver) (known : Known) (drain host : String) : Prop where
  | literal {x : IpAddr} (reads : IpAddr.parse? host.toList = some x)
      (found : addresses resolve known drain = (.ok [x], known.lookups))
  | named (found : addresses resolve known drain =
      ((resolve known.lookups host).mapError .unresolvable, known.lookups ++ [host]))

theorem checked_of_address {drain host : String} {defaultPort port : Nat}
    (h : Drain.address drain defaultPort = .ok (host, port)) (resolve : Resolver)
    (known : Known) : Checked resolve known drain host := by
  obtain ⟨u, hparse, hstream⟩ := Drain.exists_of_address_eq_ok h
  rcases address_target_cases hparse hstream defaultPort with
    ⟨⟨e, haddress⟩, -⟩ | ⟨x, haddress, htarget⟩ | ⟨name, haddress, htarget⟩
  · rw [haddress] at h
    cases h
  · rw [haddress] at h
    cases h
    refine .literal (x := .v6 x) ?_ (by simp only [addresses, htarget])
    rw [String.toList_ofList]
    exact IpAddr.parse?_printHex x
  · rw [haddress] at h
    cases h
    refine .named ?_
    simp only [addresses, htarget]
    cases resolve known.lookups (String.ofList name) <;> rfl

/-- A drain whose host was checked is a URL with a host. -/
theorem Checked.verdict {resolve : Resolver} {known : Known} {drain host : String}
    (h : Checked resolve known drain host) {r : Rejection}
    (hr : (addresses resolve known drain).1 = .error r) : ∃ detail, r = .unresolvable detail := by
  cases h with
  | literal reads found =>
    rw [found] at hr
    cases hr
  | named found =>
    rw [found] at hr
    cases ha : resolve known.lookups host with
    | ok xs =>
      rw [ha] at hr
      cases hr
    | error detail =>
      rw [ha] at hr
      cases hr
      exact ⟨detail, rfl⟩

/-- A stream is opened to the address of the drain. -/
theorem address_of_destination {drain host : String} {port : Nat}
    (h : Egress.destination drain = .ok (.stream host port) ∨
      Egress.destination drain = .ok (.tlsStream host port)) :
    ∃ defaultPort, Drain.address drain defaultPort = .ok (host, port) := by
  rcases h with h | h
  all_goals
    obtain ⟨s, -, h⟩ := exists_of_bind_eq_ok h
    cases s
    all_goals
      obtain ⟨a, ha, h⟩ := exists_of_bind_eq_ok h
      cases h
  · exact ⟨Drain.syslogPort, ha⟩
  · exact ⟨Drain.syslogTlsPort, Drain.address_of_tlsAddress ha⟩

/-! ## Drains without an address -/

/-- A drain from which no stream can be opened, though its scheme is for streams, has no addresses
either. -/
theorem addresses_of_address_error {drain : String} {defaultPort : Nat} {e : Egress.Error}
    (hstream : ∀ u, Url.parse drain.toList = .ok u → Drain.TakesStream u)
    (h : Drain.address drain defaultPort = .error e) :
    ∃ r, (r = .missingHost ∨ ∃ fault, r = .invalidUrl fault) ∧
      ∀ resolve known, addresses resolve known drain = (.error r, known.lookups) := by
  cases hparse : Url.parse drain.toList with
  | error fault =>
    exact ⟨.invalidUrl fault, .inr ⟨fault, rfl⟩, fun resolve known => by
      simp only [addresses, target, hparse]⟩
  | ok u =>
    rcases address_target_cases hparse (hstream u hparse) defaultPort with
      ⟨-, htarget⟩ | ⟨x, haddress, -⟩ | ⟨name, haddress, -⟩
    · exact ⟨.missingHost, .inl rfl, fun resolve known => by simp only [addresses, htarget]⟩
    · rw [haddress] at h
      cases h
    · rw [haddress] at h
      cases h

/-- A drain that has no addresses, whatever is known, is left out. -/
theorem notMem_filterBlacklist {drain : String} {r : Rejection}
    (h : ∀ resolve known, addresses resolve known drain = (.error r, known.lookups))
    (bl : Blacklist) (resolve : Resolver) (f : Fetched) :
    ∀ b ∈ (filterBlacklist bl resolve f).1.bindings, b.drain ≠ drain := by
  have hkept := (sift_spec bl (knows_nil resolve) f.bindings).1
  intro b hb hd
  rw [filterBlacklist] at hb
  dsimp only at hb
  rw [hkept, List.mem_filter] at hb
  have hfault := of_decide_eq_true hb.2
  rw [fault?, verdict, hd, h] at hfault
  cases hfault

/-- **What is dialed was checked.** The host of a stream, whatever the drain, is the address that
the filter checked or the name that it looked up, and the only thing that can be wrong with such a
drain is that the name has no addresses. A drain for streams from which none can be opened has an
invalid URL or no host; nothing is looked up for it, and the filter leaves it out. -/
theorem dialed_host_is_checked (drain : String) (resolve : Resolver) (known : Known) :
    (∀ defaultPort host port, Drain.address drain defaultPort = .ok (host, port) →
      Checked resolve known drain host ∧ ∀ r, (addresses resolve known drain).1 = .error r →
        ∃ detail, r = .unresolvable detail) ∧
    (∀ host port, Egress.destination drain = .ok (.stream host port) ∨
        Egress.destination drain = .ok (.tlsStream host port) →
      Checked resolve known drain host) ∧
    ((∀ u, Url.parse drain.toList = .ok u → Drain.TakesStream u) →
      ∀ defaultPort e, Drain.address drain defaultPort = .error e →
        (addresses resolve known drain = (.error .missingHost, known.lookups) ∨
          ∃ fault, addresses resolve known drain = (.error (.invalidUrl fault), known.lookups)) ∧
        ∀ bl f, ∀ b ∈ (filterBlacklist bl resolve f).1.bindings, b.drain ≠ drain) := by
  refine ⟨fun defaultPort host port h => ?_, fun host port h => ?_, fun hstream p e h => ?_⟩
  · have hchecked := checked_of_address h resolve known
    exact ⟨hchecked, fun r hr => hchecked.verdict hr⟩
  · obtain ⟨defaultPort, haddress⟩ := address_of_destination h
    exact checked_of_address haddress resolve known
  · obtain ⟨r, hr, hfound⟩ := addresses_of_address_error hstream h
    refine ⟨?_, fun bl f => notMem_filterBlacklist hfound bl resolve f⟩
    rcases hr with rfl | ⟨fault, rfl⟩
    · exact .inl (hfound resolve known)
    · exact .inr ⟨fault, hfound resolve known⟩

/-- An address in brackets that is not in its shortest form, a name with a capital letter and an
encoded dot, and no host. -/
theorem dialed_and_checked_at_three_drains :
    let resolve : Resolver := fun _ _ => .error "no answer"
    Drain.address "syslog://[0:0::1]:601" 514 = .ok ("::1", 601) ∧
      Checked resolve {} "syslog://[0:0::1]:601" "::1" ∧
    Egress.destination "syslog://Log%2Eexample" = .ok (.stream "Log%2Eexample" 514) ∧
      Checked resolve {} "syslog://Log%2Eexample" "Log%2Eexample" ∧
    Drain.address "syslog:nowhere" 514 =
        .error (.invalidUrl "syslog:nowhere: missing host") ∧
      ∀ f, ∀ b ∈ (filterBlacklist [] resolve f).1.bindings, b.drain ≠ "syslog:nowhere" := by
  intro resolve
  have haddress : Drain.address "syslog://[0:0::1]:601" 514 = .ok ("::1", 601) := by
    decide +kernel
  have hdestination : Egress.destination "syslog://Log%2Eexample" =
      .ok (.stream "Log%2Eexample" 514) := by decide +kernel
  have hnone : Drain.address "syslog:nowhere" 514 =
      .error (.invalidUrl "syslog:nowhere: missing host") := by decide +kernel
  have hstream : ∀ u, Url.parse "syslog:nowhere".toList = .ok u → Drain.TakesStream u := by
    have hscheme : (Url.parse "syslog:nowhere".toList).map (·.scheme) =
        .ok "syslog".toList := by decide +kernel
    intro u hu
    rw [hu] at hscheme
    exact .inl (Except.ok.inj hscheme)
  exact ⟨haddress, ((dialed_host_is_checked _ resolve {}).1 _ _ _ haddress).1, hdestination,
    (dialed_host_is_checked _ resolve {}).2.1 _ _ (.inl hdestination), hnone,
    ((dialed_host_is_checked _ resolve {}).2.2 hstream _ _ hnone).2 []⟩

end LogEgress.Scheduler
