import LogEgress.Proofs.Scheduler.Page
import LogEgress.Scheduler.Term

set_option autoImplicit false

/-! # A fetch page by page is all or nothing

`Leads` is what a fetch can go on with: answers with pages each of which names another one. What
comes after them decides: a page that names none completes the fetch, an answer without a page
fails it, and without an answer it is not over (`fetchFrom_of_leads`).

The main theorem, `every_fetch_all_or_nothing`, says of which providers pages can be asked for,
which answers make a fetch succeed and with what, which make it fail, and what it asks for; and that
a term knows nothing of the pages of a fetch that failed.
-/

namespace LogEgress.Scheduler.Paging

/-! ## Pages -/

/-- A page names the page with a number. -/
theorem following_eq_some_iff {page : Page} {id : Nat} :
    page.following = some id ↔ page.nextId = some id ∧ id ≠ 0 := by
  simp [Page.following, Option.filter_eq_some_iff]

/-- A page that names no other is the last one. -/
def Page.IsLast (page : Page) : Prop := page.nextId = none ∨ page.nextId = some 0

theorem Page.isLast_iff {page : Page} : page.IsLast ↔ page.following = none := by
  unfold Page.IsLast Page.following
  cases page.nextId with
  | none => simp
  | some id => simp [Option.filter]

/-! ## Answers -/

/-- An answer gives a page: its status is 200, and its content can be read. -/
def Gives (o : Http.Outcome) (page : Page) : Prop :=
  ∃ r, o = .answered r ∧ r.status = 200 ∧ Json.decodeOctets readPage r.body = .ok page

/-- An exchange gives no page, and the fetch fails for this reason. -/
inductive Fails : Http.Outcome → FetchError → Prop where
  | status (o : Http.Outcome) (n : Nat) (hstatus : o.status? = some n) (h : n ≠ 200) :
    Fails o (.status n)
  | content (r : Http.Response) (h : r.status = 200) (fault : Json.Fault)
      (hread : Json.decodeOctets readPage r.body = .error fault) :
      Fails (.answered r) (.decode "invalid page")
  | cutOff (detail : String) : Fails (.cutOff 200 detail) (.http detail)
  | exchange (o : Http.Outcome) (h : o.status? = none) : Fails o (.http o.detail)

theorem pageOf_answered (r : Http.Response) : pageOf (.answered r) =
    if r.status ≠ 200 then .error (.status r.status)
    else match Json.decodeOctets readPage r.body with
      | .ok p => .ok p
      | .error _ => .error (.decode "invalid page") := rfl

theorem pageOf_of_status {o : Http.Outcome} {n : Nat} (hstatus : o.status? = some n)
    (h : n ≠ 200) : pageOf o = .error (.status n) := by
  cases o with
  | answered r =>
    cases hstatus
    rw [pageOf_answered, if_pos h]
  | cutOff status detail =>
    cases hstatus
    exact if_pos h
  | _ => cases hstatus

theorem pageOf_of_no_status {o : Http.Outcome} (h : o.status? = none) :
    pageOf o = .error (.http o.detail) := by
  cases o with
  | answered r => cases h
  | cutOff status detail => cases h
  | _ => rfl

theorem Gives.pageOf_eq {o : Http.Outcome} {page : Page} (h : Gives o page) :
    pageOf o = .ok page := by
  obtain ⟨r, rfl, hstatus, hread⟩ := h
  rw [pageOf_answered, if_neg (not_not_intro hstatus), hread]

theorem Fails.pageOf_eq {o : Http.Outcome} {e : FetchError} (h : Fails o e) :
    pageOf o = .error e := by
  cases h with
  | status _ n hstatus h => exact pageOf_of_status hstatus h
  | content r h fault hread => rw [pageOf_answered, if_neg (not_not_intro h), hread]
  | cutOff detail => rfl
  | exchange _ h => exact pageOf_of_no_status h

/-- There is nothing between a page and a failure. -/
theorem gives_or_fails (o : Http.Outcome) : (∃ page, Gives o page) ∨ ∃ e, Fails o e := by
  cases hstatus : o.status? with
  | none => exact .inr ⟨_, .exchange o hstatus⟩
  | some n =>
    by_cases h : n = 200
    · subst h
      cases o with
      | answered r =>
        have hok : r.status = 200 := Option.some.inj hstatus
        cases hread : Json.decodeOctets readPage r.body with
        | ok page => exact .inl ⟨page, r, rfl, hok, hread⟩
        | error fault => exact .inr ⟨_, .content r hok fault hread⟩
      | cutOff status detail =>
        cases hstatus
        exact .inr ⟨_, .cutOff detail⟩
      | _ => cases hstatus
    · exact .inr ⟨_, .status o n hstatus h⟩

/-- **No page names a number of more than 64 bits.** -/
theorem Gives.nextId_le {o : Http.Outcome} {page : Page} (h : Gives o page) :
    ∀ id ∈ page.nextId, id ≤ Text.greatest64 := by
  obtain ⟨r, -, -, hdecode⟩ := h
  exact nextId_le_of_readPage (Json.of_readLast hdecode)

theorem gives_of_pageOf {o : Http.Outcome} {page : Page} (h : pageOf o = .ok page) :
    Gives o page := by
  rcases gives_or_fails o with ⟨page', hgives⟩ | ⟨e, hfails⟩
  · rw [hgives.pageOf_eq] at h
    cases h
    exact hgives
  · rw [hfails.pageOf_eq] at h
    cases h

/-- The first answers give pages each of which names another one; the rest is still to be taken. -/
inductive Leads : List Http.Outcome → List Page → List Http.Outcome → Prop where
  | nil (rest : List Http.Outcome) : Leads rest [] rest
  | cons {o : Http.Outcome} {page : Page} {id : Nat} {answers rest : List Http.Outcome}
      {pages : List Page} (hgives : Gives o page) (hnext : page.nextId = some id) (hne : id ≠ 0)
      (h : Leads answers pages rest) : Leads (o :: answers) (page :: pages) rest

/-- What is found where a fetch cannot go on. -/
inductive Stop : List Http.Outcome → Prop where
  | waiting : Stop []
  | complete {o : Http.Outcome} {page : Page} (rest : List Http.Outcome) (hgives : Gives o page)
      (hlast : page.IsLast) : Stop (o :: rest)
  | failed {o : Http.Outcome} {e : FetchError} (rest : List Http.Outcome) (hfails : Fails o e) :
      Stop (o :: rest)

/-- Any answers lead somewhere. -/
theorem exists_leads (answers : List Http.Outcome) :
    ∃ pages rest, Leads answers pages rest ∧ Stop rest := by
  induction answers with
  | nil => exact ⟨[], [], .nil [], .waiting⟩
  | cons o answers ih =>
    rcases gives_or_fails o with ⟨page, hgives⟩ | ⟨e, hfails⟩
    · cases hnext : page.following with
      | none => exact ⟨[], _, .nil _, .complete answers hgives (Page.isLast_iff.2 hnext)⟩
      | some id =>
        obtain ⟨pages, rest, hleads, hstop⟩ := ih
        obtain ⟨hid, hne⟩ := following_eq_some_iff.1 hnext
        exact ⟨page :: pages, rest, .cons hgives hid hne hleads, hstop⟩
    · exact ⟨[], _, .nil _, .failed answers hfails⟩

/-! ## Fetching -/

/-- The numbers of the pages that are asked for. -/
def requested (pages : List Page) : List Nat := 0 :: pages.filterMap (·.nextId)

/-- The drains of a page, each with the id of its application before it and the hostname: the
applications in their order, the drains of each in the order given. -/
def Page.triples (page : Page) : List (String × String × String) :=
  page.results.entries.flatMap fun (id, app) => app.drains.map fun d => (id, app.hostname, d)

/-- What is fetched are the drains of some pages, one after the other. -/
structure Gathers (pages : List Page) (f : Fetched) : Prop where
  bindings : f.bindings.map (fun b => (b.appId, b.hostname, b.drain)) = pages.flatMap Page.triples
  drainCount : f.drainCount = (pages.flatMap Page.triples).length
  invalid : f.invalid = 0

/-- What some pages make up together. -/
def gathered (pages : List Page) : Fetched :=
  let bs := pages.flatMap Page.bindings
  ⟨bs, 0, bs.length⟩

theorem triples_eq (page : Page) :
    page.triples = page.bindings.map fun b => (b.appId, b.hostname, b.drain) := by
  rw [Page.triples, Page.bindings, List.map_flatMap]
  simp only [List.map_map]
  rfl

theorem gathers_iff {pages : List Page} {f : Fetched} : Gathers pages f ↔ f = gathered pages := by
  have htriples : pages.flatMap Page.triples =
      (pages.flatMap Page.bindings).map fun b => (b.appId, b.hostname, b.drain) := by
    rw [List.map_flatMap]
    exact congrArg pages.flatMap (funext triples_eq)
  -- A binding is known by its three parts.
  have hinjective : Function.Injective fun b : Binding => (b.appId, b.hostname, b.drain) := by
    rintro ⟨_, _, _⟩ ⟨_, _, _⟩ h
    cases h
    rfl
  constructor
  · rintro ⟨hbindings, hcount, hinvalid⟩
    obtain ⟨bindings, invalid, drainCount⟩ := f
    rw [htriples] at hbindings hcount
    obtain rfl := List.map_injective_iff.mpr hinjective hbindings
    obtain rfl : invalid = 0 := hinvalid
    rw [gathered, ← hcount.trans (List.length_map _)]
  · rintro rfl
    exact ⟨htriples.symm, by rw [htriples, List.length_map]; rfl, rfl⟩

theorem take_of_page {s : Progress} {o : Http.Outcome} {page : Page} (h : Gives o page) :
    s.take o = page.following.elim
      (.ended (.ok ⟨s.bindings ++ page.bindings, 0, (s.bindings ++ page.bindings).length⟩))
      fun id => .more ⟨s.bindings ++ page.bindings, id⟩ := by
  rw [Progress.take, h.pageOf_eq]
  cases hnext : page.following <;> simp only [hnext] <;> rfl

/-- A fetch goes on from page to page, and keeps what it has got so far. -/
theorem fetchFrom_of_leads {answers rest : List Http.Outcome} {pages : List Page}
    (h : Leads answers pages rest) (s : Progress) :
    ∃ s' : Progress, s'.bindings = s.bindings ++ pages.flatMap Page.bindings ∧
      (fetchFrom s answers).1 = (fetchFrom s' rest).1 ∧
      ((fetchFrom s' rest).2 = [s'.next] →
        (fetchFrom s answers).2 = s.next :: pages.filterMap (·.nextId)) := by
  induction h generalizing s with
  | nil rest => exact ⟨s, (List.append_nil _).symm, rfl, id⟩
  | @cons o page id answers rest pages hgives hnext hne h ih =>
    obtain ⟨s', hbindings, hresult, hids⟩ := ih ⟨s.bindings ++ page.bindings, id⟩
    have hturn : s.take o = .more ⟨s.bindings ++ page.bindings, id⟩ := by
      rw [take_of_page hgives, following_eq_some_iff.2 ⟨hnext, hne⟩, Option.elim_some]
    have hfetch : fetchFrom s (o :: answers) =
        ((fetchFrom ⟨s.bindings ++ page.bindings, id⟩ answers).1,
          s.next :: (fetchFrom ⟨s.bindings ++ page.bindings, id⟩ answers).2) := by
      rw [fetchFrom, hturn]
    refine ⟨s', ?_, ?_, fun hlast => ?_⟩
    · rw [hbindings, List.flatMap_cons, List.append_assoc]
    · rw [hfetch, hresult]
    · rw [hfetch, hids hlast, List.filterMap_cons_some hnext]

theorem fetchFrom_waiting {answers : List Http.Outcome} {pages : List Page}
    (h : Leads answers pages []) : fetchFrom {} answers = (none, requested pages) := by
  obtain ⟨s', -, hresult, hids⟩ := fetchFrom_of_leads h {}
  exact Prod.ext hresult (hids rfl)

theorem fetchFrom_complete {answers rest : List Http.Outcome} {pages : List Page}
    {o : Http.Outcome} {page : Page} (h : Leads answers pages (o :: rest)) (hgives : Gives o page)
    (hlast : page.IsLast) :
    fetchFrom {} answers = (some (.ok (gathered (pages ++ [page]))), requested pages) := by
  obtain ⟨s', hbindings, hresult, hids⟩ := fetchFrom_of_leads h {}
  have hend : fetchFrom s' (o :: rest) =
      (some (.ok (gathered (pages ++ [page]))), [s'.next]) := by
    have hturn : s'.take o = .ended (.ok (gathered (pages ++ [page]))) := by
      rw [take_of_page hgives, Page.isLast_iff.1 hlast, hbindings]
      simp [gathered]
    rw [fetchFrom, hturn]
  rw [hend] at hresult hids
  exact Prod.ext hresult (hids rfl)

theorem fetchFrom_failed {answers rest : List Http.Outcome} {pages : List Page}
    {o : Http.Outcome} {e : FetchError} (h : Leads answers pages (o :: rest)) (hfails : Fails o e) :
    fetchFrom {} answers = (some (.error e), requested pages) := by
  obtain ⟨s', -, hresult, hids⟩ := fetchFrom_of_leads h {}
  have hend : fetchFrom s' (o :: rest) = (some (.error e), [s'.next]) := by
    have hturn : s'.take o = .ended (.error e) := by
      rw [Progress.take, hfails.pageOf_eq]
    rw [fetchFrom, hturn]
  rw [hend] at hresult hids
  exact Prod.ext hresult (hids rfl)

/-- What a fetch gives, and the pages that led to it. -/
inductive Comes (answers : List Http.Outcome) :
    Option (Except FetchError Fetched) → List Page → Prop where
  | waiting {pages : List Page} (hleads : Leads answers pages []) : Comes answers none pages
  | complete {pages : List Page} {o : Http.Outcome} {page : Page} {rest : List Http.Outcome}
      (hleads : Leads answers pages (o :: rest)) (hgives : Gives o page) (hlast : page.IsLast) :
      Comes answers (some (.ok (gathered (pages ++ [page])))) pages
  | failed {pages : List Page} {o : Http.Outcome} {e : FetchError} {rest : List Http.Outcome}
      (hleads : Leads answers pages (o :: rest)) (hfails : Fails o e) :
      Comes answers (some (.error e)) pages

theorem exists_comes (answers : List Http.Outcome) : ∃ r pages, Comes answers r pages := by
  obtain ⟨pages, rest, hleads, hstop⟩ := exists_leads answers
  cases hstop with
  | waiting => exact ⟨_, pages, .waiting hleads⟩
  | complete rest hgives hlast => exact ⟨_, pages, .complete hleads hgives hlast⟩
  | failed rest hfails => exact ⟨_, pages, .failed hleads hfails⟩

theorem Comes.fetchFrom_eq {answers : List Http.Outcome} {pages : List Page}
    {r : Option (Except FetchError Fetched)} (h : Comes answers r pages) :
    fetchFrom {} answers = (r, requested pages) := by
  cases h with
  | waiting hleads => exact fetchFrom_waiting hleads
  | complete hleads hgives hlast => exact fetchFrom_complete hleads hgives hlast
  | failed hleads hfails => exact fetchFrom_failed hleads hfails

/-! ## Requests -/

/-- A text of plain characters is its own encoded form. -/
theorem encode_of_plain {s : List Char} (h : s.all Url.Form.isPlain = true) :
    Url.Form.encode s = s := by
  induction s with
  | nil => rfl
  | cons c s ih =>
    obtain ⟨hc, hs⟩ : Url.Form.isPlain c = true ∧ s.all Url.Form.isPlain = true := by
      rwa [List.all_cons, Bool.and_eq_true] at h
    have hspace : c ≠ ' ' := by
      rintro rfl
      exact absurd hc (by decide)
    have hrest := ih hs
    unfold Url.Form.encode at hrest ⊢
    rw [List.flatMap_cons, hrest, if_neg hspace, if_pos hc]
    rfl

theorem encode_toDigits (n : Nat) : Url.Form.encode (Nat.toDigits 10 n) = Nat.toDigits 10 n := by
  refine encode_of_plain (List.all_eq_true.2 fun c hc => ?_)
  have hdigit := Nat.isDigit_of_mem_toDigits (by decide) (by decide) hc
  simp [Url.Form.isPlain, Char.isAlphanum, hdigit]

/-- What stands before the entries that are added to the query of a URL. -/
def beforeEntries (u : Url) : List Char :=
  (if u.path = [] then ['/'] else u.path) ++
    '?' :: (if u.query.getD [] = [] then [] else u.query.getD [] ++ ['&'])

/-- Entries that need no encoding stand at the end of the query as they are. -/
theorem target_addEntries (u : Url) {n v m w : List Char} (hn : Url.Form.encode n = n)
    (hv : Url.Form.encode v = v) (hm : Url.Form.encode m = m) (hw : Url.Form.encode w = w) :
    (u.addEntries [.pair n v, .pair m w]).target =
      beforeEntries u ++ (n ++ '=' :: v ++ '&' :: (m ++ '=' :: w)) := by
  have hform : Url.Form.print [.pair n v, .pair m w] = n ++ '=' :: v ++ '&' :: (m ++ '=' :: w) := by
    simp [Url.Form.print, Url.Form.Entry.print, Text.join, hn, hv, hm, hw]
  unfold Url.addEntries Url.target beforeEntries
  rw [hform]
  by_cases hquery : u.query.getD [] = []
  · simp [hquery]
  · simp [hquery]

/-- Pages can be asked for at a URL: it can be read, has a host, and a scheme of HTTP. -/
structure Provider.Reaches (p : Provider) (u : Url) : Prop where
  parse_eq : Url.parse (Text.dropEndWhile (· = '/') p.base.toList ++
    "/internal/v4/syslog_drain_urls".toList) = .ok u
  host_ne : u.host ≠ none
  scheme_eq : u.scheme = "http".toList ∨ u.scheme = "https".toList

theorem Provider.exists_reaches {p : Provider}
    (h : (Url.parse (Text.dropEndWhile (· = '/') p.base.toList ++
      "/internal/v4/syslog_drain_urls".toList)).map (fun u => (u.host.isSome, u.scheme)) =
        .ok (true, "http".toList)) : ∃ u, p.Reaches u := by
  obtain ⟨u, hparse, hparts⟩ := exists_of_map_eq_ok h
  obtain ⟨hhost, hscheme⟩ := Prod.mk.inj hparts
  exact ⟨u, hparse, Option.isSome_iff_ne_none.mp hhost, .inl hscheme⟩

/-- The request for a page. -/
def Provider.ask (p : Provider) (u : Url) (id : Nat) : Http.Request where
  method := "GET"
  target := String.ofList (beforeEntries u) ++ "batch_size=" ++ toString (max 1 p.batchSize) ++
    "&next_id=" ++ toString id

theorem isScheme_iff {scheme : List Char} :
    Http.isScheme scheme = true ↔ scheme = "http".toList ∨ scheme = "https".toList := by
  rw [Http.isScheme, Bool.or_eq_true, decide_eq_true_iff, decide_eq_true_iff]

/-- All pages are asked for in the same way. -/
theorem Provider.Reaches.request_eq {p : Provider} {u : Url} (h : p.Reaches u) (id : Nat) :
    p.request id = .ok (p.ask u id) := by
  have hurl : Http.readUrl (Text.dropEndWhile (· = '/') p.base.toList ++ pagesPath.toList) =
      .ok u := by
    have hparse : Url.parse (Text.dropEndWhile (· = '/') p.base.toList ++ pagesPath.toList) =
        .ok u := h.parse_eq
    rw [Http.readUrl, hparse]
    exact if_neg h.host_ne
  have hscheme (es : List Url.Form.Entry) : Http.isScheme (u.addEntries es).scheme = true :=
    isScheme_iff.mpr h.scheme_eq
  have hsize : Url.Form.encode "batch_size".toList = "batch_size".toList :=
    encode_of_plain (by decide)
  have hnext : Url.Form.encode "next_id".toList = "next_id".toList := encode_of_plain (by decide)
  rw [request, pageUrl]
  simp only [hurl]
  show Http.get _ = _
  rw [Http.get, if_pos (hscheme _), ask,
    target_addEntries u hsize (encode_toDigits _) hnext (encode_toDigits _)]
  congr 2
  apply String.toList_injective
  simp [Nat.toString_eq_repr, Nat.toList_repr]

/-- Where no page can be asked for, the request for the first one fails. -/
theorem exists_request_eq_error {p : Provider} (h : ¬ ∃ u, p.Reaches u) :
    ∃ f, p.request 0 = .error f := by
  cases hrequest : p.request 0 with
  | error f => exact ⟨f, rfl⟩
  | ok q =>
    obtain ⟨u, hpage, hget⟩ := exists_of_bind_eq_ok hrequest
    obtain ⟨u', hurl, hu⟩ := exists_of_bind_eq_ok hpage
    cases hu
    unfold Http.readUrl at hurl
    split at hurl
    · cases hurl
    · next hparse =>
      split at hurl
      · cases hurl
      · next hhost =>
        cases hurl
        unfold Http.get at hget
        split at hget
        · next hscheme => exact absurd ⟨u', hparse, hhost, isScheme_iff.mp hscheme⟩ h
        · cases hget

/-- A fetch that can ask for pages asks for those that it comes to. -/
theorem fetch_eq {p : Provider} {u : Url} (h : p.Reaches u) (answers : List Http.Outcome) :
    fetch p answers = ((fetchFrom {} answers).1, (fetchFrom {} answers).2.map (p.ask u)) := by
  have hask : (fun id => (p.request id).toOption) = fun id => some (p.ask u id) := by
    funext id
    rw [h.request_eq]
    rfl
  rw [fetch, h.request_eq 0]
  simp only [hask]
  rw [List.filterMap_eq_map']

theorem fetch_of_error {p : Provider} {f : Http.Unsendable} (h : p.request 0 = .error f)
    (answers : List Http.Outcome) :
    fetch p answers = (some (.error (.http f.message)), []) := by
  rw [fetch, h]

/-! ## All or nothing -/

/-- What is true of a fetch with some answers, and of a term after it. -/
structure Law (p : Provider) (u : Url) (answers : List Http.Outcome) : Prop where
  /-- It succeeds just if every answer gives a page and the last page names no other. It gives the
  bindings of all of them in the order of the requests. -/
  ok_iff : ∀ f requests, fetch p answers = (some (.ok f), requests) ↔
    ∃ pages o last rest, Leads answers pages (o :: rest) ∧ Gives o last ∧ last.IsLast ∧
      Gathers (pages ++ [last]) f ∧ requests = (requested pages).map (p.ask u)
  /-- It fails with the first answer that gives no page, and asks for nothing after that. -/
  error_iff : ∀ e requests, fetch p answers = (some (.error e), requests) ↔
    ∃ pages o rest, Leads answers pages (o :: rest) ∧ Fails o e ∧
      requests = (requested pages).map (p.ask u)
  /-- Otherwise the answer to the last request is not there yet. -/
  waiting_iff : ∀ requests, fetch p answers = (none, requests) ↔
    ∃ pages, Leads answers pages [] ∧ requests = (requested pages).map (p.ask u)
  /-- A page that is an object is what its members say. -/
  content : ∀ (r : Http.Response) (members : Json.Members) (page : Page), Gives (.answered r) page →
    (Json.Value.ofOctets r.body).1 = .object members → PageSays members page
  /-- The applications of a page come in the order of the octets of their ids. -/
  ids_ascending : ∀ page : Page,
    (page.results.keys.map fun id => utf8 id.toList).Pairwise (· < ·)
  /-- A term whose fetch failed knows nothing but why: it reports that, and changes nothing. -/
  skips : ∀ e requests, fetch p answers = (some (.error e), requests) →
    ∀ {σ : Type} (srv : Server σ) (deadlines : Deadlines) (s : State σ),
      (fetch p answers).1.map (term srv deadlines · s) =
        some ⟨none, { notices := [skipNotice e] }, s⟩

section Law

variable {p : Provider} {u : Url} {answers : List Http.Outcome}

theorem fetch_eq_iff (h : p.Reaches u)
    {r : Option (Except FetchError Fetched)} {requests : List Http.Request} :
    fetch p answers = (r, requests) ↔
      ∃ pages, Comes answers r pages ∧ requests = (requested pages).map (p.ask u) := by
  rw [fetch_eq h]
  constructor
  · intro heq
    obtain ⟨r', pages, hcomes⟩ := exists_comes answers
    rw [hcomes.fetchFrom_eq] at heq
    cases heq
    exact ⟨pages, hcomes, rfl⟩
  · rintro ⟨pages, hcomes, rfl⟩
    rw [hcomes.fetchFrom_eq]

theorem Provider.Reaches.law (h : p.Reaches u) : Law p u answers where
  ok_iff := by
    intro f requests
    rw [fetch_eq_iff h]
    constructor
    · rintro ⟨pages, hcomes, hrequests⟩
      cases hcomes with
      | complete hleads hgives hlast =>
        exact ⟨pages, _, _, _, hleads, hgives, hlast, gathers_iff.mpr rfl, hrequests⟩
    · rintro ⟨pages, o, last, rest, hleads, hgives, hlast, hgathers, hrequests⟩
      obtain rfl := gathers_iff.mp hgathers
      exact ⟨pages, .complete hleads hgives hlast, hrequests⟩
  error_iff := by
    intro e requests
    rw [fetch_eq_iff h]
    constructor
    · rintro ⟨pages, hcomes, hrequests⟩
      cases hcomes with
      | failed hleads hfails => exact ⟨pages, _, _, hleads, hfails, hrequests⟩
    · rintro ⟨pages, o, rest, hleads, hfails, hrequests⟩
      exact ⟨pages, .failed hleads hfails, hrequests⟩
  waiting_iff := by
    intro requests
    rw [fetch_eq_iff h]
    constructor
    · rintro ⟨pages, hcomes, hrequests⟩
      cases hcomes with
      | waiting hleads => exact ⟨pages, hleads, hrequests⟩
    · rintro ⟨pages, hleads, hrequests⟩
      exact ⟨pages, .waiting hleads, hrequests⟩
  content := by
    rintro r members page ⟨r', hr, -, hdecode⟩ hobject
    cases hr
    exact pageSays_of_read (hobject ▸ Json.of_readLast hdecode)
  ids_ascending := Page.ids_ascending
  skips := by
    intro e requests hfetch σ srv deadlines s
    rw [hfetch]
    rfl

end Law

/-- **A fetch of pages is all or nothing.** Where pages can be asked for, it asks for page 0 and
then for the pages named by the answers; it gives the bindings of all pages or, with the first
answer that gives none, only the reason. Where they cannot, nothing is asked for, and the fetch
fails. -/
theorem every_fetch_all_or_nothing (p : Provider) :
    (∀ u, p.Reaches u → ∀ answers, Law p u answers) ∧
      ((¬ ∃ u, p.Reaches u) → ∃ f, p.request 0 = .error f ∧
        ∀ answers, fetch p answers = (some (.error (.http f.message)), [])) := by
  refine ⟨fun u h answers => h.law, fun h => ?_⟩
  obtain ⟨f, hf⟩ := exists_request_eq_error h
  exact ⟨f, hf, fetch_of_error hf⟩

/-- Two pages, of which the first has its applications out of order: together they make up the
result. With an answer between them that has no page, there is none, and no more is asked for. A
base without a host is asked for nothing. -/
theorem fetch_of_two_pages :
    let p : Provider := ⟨"http://provider/", 0⟩
    let first : Http.Outcome := .answered ⟨200, none, utf8 ("\x7b\"results\":\x7b" ++
      "\"b\":\x7b\"hostname\":\"h\",\"drains\":[\"y\",\"x\"]\x7d," ++
      "\"a\":\x7b\"drains\":[\"z\"]\x7d\x7d,\"next_id\":7\x7d").toList⟩
    let last : Http.Outcome := .answered ⟨200, none, utf8 ("\x7b\"results\":\x7b" ++
      "\"b\":\x7b\"drains\":[\"y\"]\x7d\x7d,\"next_id\":null\x7d").toList⟩
    let ask (id : String) : Http.Request :=
      { method := "GET"
        target := "/internal/v4/syslog_drain_urls?batch_size=1&next_id=" ++ id }
    (∃ u, p.Reaches u ∧ ∀ answers, Law p u answers) ∧
      fetch p [first, last] = (some (.ok ⟨[⟨"a", "", "z"⟩, ⟨"b", "h", "y"⟩, ⟨"b", "h", "x"⟩,
        ⟨"b", "", "y"⟩], 0, 4⟩), [ask "0", ask "7"]) ∧
      fetch p [first, .cutOff 503 "", last] = (some (.error (.status 503)), [ask "0", ask "7"]) ∧
      ∃ f : Http.Unsendable, ∀ answers,
        fetch ⟨"provider:8080", 0⟩ answers = (some (.error (.http f.message)), []) := by
  intro p first last ask
  obtain ⟨u, hreaches⟩ : ∃ u, p.Reaches u := Provider.exists_reaches (by decide +kernel)
  have hhostless : ¬ ∃ u, (⟨"provider:8080", 0⟩ : Provider).Reaches u := by
    rintro ⟨u, h⟩
    have hnone : (Url.parse (Text.dropEndWhile (· = '/') "provider:8080".toList ++
        "/internal/v4/syslog_drain_urls".toList)).map (·.host) = .ok none := by decide +kernel
    rw [h.parse_eq] at hnone
    exact h.host_ne (Except.ok.inj hnone)
  obtain ⟨f, -, hf⟩ := (every_fetch_all_or_nothing ⟨"provider:8080", 0⟩).2 hhostless
  exact ⟨⟨u, hreaches, (every_fetch_all_or_nothing p).1 u hreaches⟩, by decide +kernel,
    by decide +kernel, f, hf⟩

end LogEgress.Scheduler.Paging
