import LogEgress.Adapter.Pump
import LogEgress.Ingress.Provider
import LogEgress.Proofs.Url.Base
import LogEgress.Proofs.Url.Form

set_option autoImplicit false

/-! # What the URL of a stream asks for

A stream is asked for by the key under which it is shared, and by the source of its logs. Both are
texts that users have a hand in: the key of a binding has the whole URL of its drain in it, with a
query of its own. They are encoded so that none of their characters divides or ends a query.

The main theorem, `every_stream_url_unforged`, says that the URL leads to the host and port of the
base, and that its query is read as the key, the source and the mark of logs, and as nothing else;
so URLs for two keys or sources differ.
-/

namespace LogEgress.Ingress

open Url (Host Base)

/-- The fields of the query of a stream. -/
def streamEntries (shardId sourceId : String) : List Url.Form.Entry :=
  [.pair "shard_id".toList shardId.toList, .pair "source_id".toList sourceId.toList,
    .name "log".toList]

/-- The query of a stream, as it is read. -/
def streamPairs (shardId sourceId : String) : List (List Char × List Char) :=
  [("shard_id".toList, shardId.toList), ("source_id".toList, sourceId.toList), ("log".toList, [])]

/-- The URL of a stream at a base with a host. -/
def streamUrl (base : Base) (host : Host) (shardId sourceId : String) : Url :=
  (base.withPath host readPath.toList).addEntries (streamEntries shardId sourceId)

variable {base : Base} {host : Host}

/-! ## The query -/

/-- What is written for a key and a source is read as these, whatever characters they have. -/
theorem pairs_streamEntries (shardId sourceId : String) :
    Url.Form.pairs (Url.Form.print (streamEntries shardId sourceId)) =
      streamPairs shardId sourceId := by
  refine Url.Form.pairs_print (List.cons_ne_nil _ _) fun e he => ?_
  simp only [streamEntries, List.mem_cons, List.not_mem_nil, or_false] at he
  rcases he with rfl | rfl | rfl
  · exact List.append_ne_nil_of_right_ne_nil _ (List.cons_ne_nil _ _)
  · exact List.append_ne_nil_of_right_ne_nil _ (List.cons_ne_nil _ _)
  · decide

theorem streamPairs_inj {shardId sourceId shardId' sourceId' : String}
    (h : streamPairs shardId sourceId = streamPairs shardId' sourceId') :
    shardId = shardId' ∧ sourceId = sourceId' := by
  simp only [streamPairs, List.cons.injEq, Prod.mk.injEq, true_and, and_true] at h
  exact ⟨String.toList_injective h.1, String.toList_injective h.2⟩

/-- Two forms are written in the same way only if they are for the same key and source. -/
theorem eq_of_print_streamEntries {shardId sourceId shardId' sourceId' : String}
    (h : Url.Form.print (streamEntries shardId sourceId) =
      Url.Form.print (streamEntries shardId' sourceId')) :
    shardId = shardId' ∧ sourceId = sourceId' := by
  apply streamPairs_inj
  rw [← pairs_streamEntries, h, pairs_streamEntries]

/-- The mark of logs is the last of the query. -/
theorem mark_suffix_streamEntries (shardId sourceId : String) :
    "&log".toList <:+ Url.Form.print (streamEntries shardId sourceId) := by
  refine ⟨Url.Form.print ((streamEntries shardId sourceId).dropLast), ?_⟩
  simp [streamEntries, Url.Form.print, Url.Form.Entry.print, Text.join,
    show Url.Form.encode ['l', 'o', 'g'] = ['l', 'o', 'g'] from by decide]

/-! ## The URL -/

theorem query_streamUrl (shardId sourceId : String) :
    (streamUrl base host shardId sourceId).query =
      some (Url.Form.print (streamEntries shardId sourceId)) := rfl

theorem target_streamUrl (shardId sourceId : String) :
    (streamUrl base host shardId sourceId).target =
      readPath.toList ++ '?' :: Url.Form.print (streamEntries shardId sourceId) := rfl

/-- URLs of streams at one base are written in the same way up to the query. -/
theorem print_streamUrl (shardId sourceId : String) :
    (streamUrl base host shardId sourceId).print =
      (base.withPath host readPath.toList).print ++
        '?' :: Url.Form.print (streamEntries shardId sourceId) := by
  simp [streamUrl, Url.addEntries, Url.print, Base.withPath]

/-- The base is read with the path of streams behind it. -/
theorem readUrl_eq (hbase : base.Valid host) (shardId sourceId : String) :
    readUrl (String.ofList base.print) shardId sourceId =
      .ok (streamUrl base host shardId sourceId) := by
  have hpath : Base.IsPath readPath.toList :=
    ⟨by rintro c ⟨⟩; rfl, List.forall_iff_forall_mem.mp (by decide)⟩
  have hsteps : Url.readPath .special readPath.toList = readPath.toList := by decide
  have hparse := hbase.parse_eq hpath
  rw [hsteps] at hparse
  have htext : (String.ofList base.print ++ readPath).toList = base.print ++ readPath.toList := by
    rw [String.toList_append, String.toList_ofList]
  rw [readUrl, htext, hparse]
  rfl

/-- A URL asks a host for the stream of a source, shared under a key. -/
structure Asks (base : Base) (host : Host) (shardId sourceId : String) (u : Url) : Prop where
  scheme_eq : u.scheme = base.scheme
  host_eq : u.host = some host
  port_eq : u.effectivePort? = some base.number
  /-- It names no user. -/
  nobody : u.username = [] ∧ u.password = []
  path_eq : u.path = "/v2/read".toList
  /-- It has no fragment, and nothing that is sent would begin one. -/
  whole : u.fragment = none ∧ '#' ∉ u.target
  /-- The query has the three parameters in their order, and no other. -/
  pairs_eq : u.pairs = streamPairs shardId sourceId
  /-- It ends with the mark of logs. -/
  mark : ∃ query, u.query = some query ∧ "&log".toList <:+ query

theorem asks_streamUrl (base : Base) (host : Host) (shardId sourceId : String) :
    Asks base host shardId sourceId (streamUrl base host shardId sourceId) where
  scheme_eq := rfl
  host_eq := rfl
  port_eq := base.effectivePort?_withPath host readPath.toList
  nobody := ⟨rfl, rfl⟩
  path_eq := rfl
  whole := by
    refine ⟨rfl, ?_⟩
    have hpath : '#' ∉ readPath.toList := by decide
    have hform := Url.Form.hash_notMem_print (streamEntries shardId sourceId)
    rw [target_streamUrl, List.mem_append, List.mem_cons, not_or, not_or]
    exact ⟨hpath, by decide, hform⟩
  pairs_eq := pairs_streamEntries shardId sourceId
  mark := ⟨_, query_streamUrl shardId sourceId, mark_suffix_streamEntries shardId sourceId⟩

/-! ## The log provider -/

namespace Provider

/-- The host of a provider as it is written in a URL. -/
def hostText (p : Provider) : List Char :=
  if p.host.toList.contains ':' then '[' :: (p.host.toList ++ [']']) else p.host.toList

/-- The base of the provider's URLs. -/
def urlBase (p : Provider) : Base := ⟨p.secure, p.hostText, Nat.toDigits 10 p.port⟩

/-- This is what the URLs of the provider begin with. -/
theorem print_urlBase (p : Provider) : String.ofList p.urlBase.print = p.base := by
  have hhost : (if p.host.toList.contains ':' then "[" ++ p.host ++ "]" else p.host).toList =
      p.hostText := by
    rw [hostText]
    split
    · rw [String.toList_append, String.toList_append]
      rfl
    · rfl
  have hport : (toString p.port).toList = Nat.toDigits 10 p.port := by
    rw [Nat.toString_eq_repr, Nat.toList_repr]
  apply String.toList_injective
  rw [String.toList_ofList, base, authority, String.toList_append, String.toList_append,
    String.toList_append, String.toList_append, hhost, hport, Base.print, Base.scheme, urlBase]
  cases p.secure <;> simp

/-- A provider whose host URLs may have has a base that can be read. -/
theorem valid_urlBase {p : Provider} (hhost : Url.IsHost p.hostText host)
    (hport : p.port ≤ Text.greatest16) : p.urlBase.Valid host where
  isHost := hhost
  port_ne_nil := Nat.toDigits_ne_nil
  port_digits := fun _ hc => Nat.isDigit_of_mem_toDigits (by decide) (by decide) hc
  number_le := by
    rw [Base.number, urlBase, Nat.ofDigitChars_ten_toDigits]
    exact hport

end Provider

/-! ## Streams -/

/-- What is true of the URLs of streams at a base with a host. -/
structure UrlLaw (base : Base) (host : Host) : Prop where
  /-- The base is a URL on its own, with this host. -/
  base_read : ∃ u, Url.parse base.print = .ok u ∧ u.scheme = base.scheme ∧ u.host = some host ∧
    u.effectivePort? = some base.number
  /-- Any key and any source have a URL, and it asks for just these. -/
  asks : ∀ shardId sourceId, ∃ u,
    readUrl (String.ofList base.print) shardId sourceId = .ok u ∧ Asks base host shardId sourceId u
  /-- No two of them have the same URL, not even by what is written or sent of it. -/
  distinct : ∀ shardId sourceId shardId' sourceId' u u',
    readUrl (String.ofList base.print) shardId sourceId = .ok u →
    readUrl (String.ofList base.print) shardId' sourceId' = .ok u' →
    u = u' ∨ u.print = u'.print ∨ (readRequest u).target = (readRequest u').target →
      shardId = shardId' ∧ sourceId = sourceId'
  /-- A binding asks for the logs of its application. Nothing in its fields changes that. -/
  binding : ∀ b : Binding, ∃ u, readUrl (String.ofList base.print)
      (Adapter.Pump.requestOf b).shardId (Adapter.Pump.requestOf b).sourceId = .ok u ∧
    Asks base host (b.appId ++ b.hostname ++ b.drain) b.appId u

/-- **The URL of a stream asks for what it is made for.** At every base with a host and a port it
leads to these, and its query is read as the key, the source and the mark of logs. -/
theorem every_stream_url_unforged (base : Base) (host : Host) (hbase : base.Valid host) :
    UrlLaw base host where
  base_read := by
    have hempty : Base.IsPath [] := ⟨nofun, nofun⟩
    have hparse := hbase.parse_eq hempty
    rw [List.append_nil] at hparse
    exact ⟨_, hparse, rfl, rfl, base.effectivePort?_withPath host _⟩
  asks := fun shardId sourceId =>
    ⟨_, readUrl_eq hbase shardId sourceId, asks_streamUrl base host shardId sourceId⟩
  distinct := by
    intro shardId sourceId shardId' sourceId' u u' hu hu' hsame
    rw [readUrl_eq hbase] at hu hu'
    cases hu
    cases hu'
    apply eq_of_print_streamEntries
    rcases hsame with h | h | h
    · exact Option.some.inj (congrArg Url.query h)
    · rw [print_streamUrl, print_streamUrl] at h
      exact (List.cons.inj (List.append_cancel_left h)).2
    · have htarget := String.ofList_injective h
      rw [target_streamUrl, target_streamUrl] at htarget
      exact (List.cons.inj (List.append_cancel_left htarget)).2
  binding := fun b => ⟨_, readUrl_eq hbase _ _, asks_streamUrl base host _ _⟩

/-- A provider by its name, and a binding whose fields look like parameters, a fragment and an
encoding. -/
theorem stream_url_of_hostile_binding :
    let p : Provider := ⟨"rlp.internal", 8443, true⟩
    let b : Binding := ⟨"a&source_id=b#", "h +%41", "syslog://d?x=\u00e9&log"⟩
    UrlLaw p.urlBase (.domain "rlp.internal".toList) ∧ String.ofList p.urlBase.print = p.base ∧
      (readUrl p.base b.shardId b.appId).toOption.map (String.ofList ·.print) =
        some ("https://rlp.internal:8443/v2/read?" ++
          "shard_id=a%26source_id%3Db%23h+%2B%2541syslog%3A%2F%2Fd%3Fx%3D%C3%A9%26log&" ++
          "source_id=a%26source_id%3Db%23&log") := by
  have hread : Url.readSpecialHost "rlp.internal".toList = .ok (.domain "rlp.internal".toList) := by
    decide +kernel
  have hclear : ∀ c ∈ "rlp.internal".toList, c ∉ Url.delimiters :=
    List.forall_iff_forall_mem.mp (by decide)
  have hbase := Provider.valid_urlBase (p := ⟨"rlp.internal", 8443, true⟩) (.name hread hclear)
    (by decide)
  exact ⟨every_stream_url_unforged _ _ hbase, Provider.print_urlBase _, by decide +kernel⟩

end LogEgress.Ingress
