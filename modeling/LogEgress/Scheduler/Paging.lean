import LogEgress.Http.Destination
import LogEgress.Json.Decode
import LogEgress.Scheduler.Fetch
import LogEgress.Text.Integer

set_option autoImplicit false

/-! # Fetching the desired bindings page by page

The provider gives the desired bindings in pages. A page names the next one, or none if it is the
last. Only if every page is there the fetch succeeds, with the bindings of all pages in the order
of the pages; a page that is missing or cannot be read ends it with that error.
-/

namespace LogEgress.Scheduler.Paging

open Json (Reader FieldReader)

/-! ## Pages -/

/-- The drains of an application. -/
structure AppDrains where
  drains : List String
  hostname : String

/-- The parts of an application's drains read so far. -/
structure AppParts where
  drains : Option (List String) := none
  hostname : Option String := none

/-- The fields of an application's drains. -/
def appFields : List (FieldReader AppParts) := [
  ⟨"drains", (·.drains.isSome),
    fun v s => do return { s with drains := ← Reader.list Reader.string v }⟩,
  ⟨"hostname", (·.hostname.isSome), fun v s => do return { s with hostname := ← Reader.string v }⟩]

/-- Reads the drains of an application; each field has a default. -/
def readApp : Reader AppDrains := fun v => do
  let s ← FieldReader.record appFields {} v
  return ⟨s.drains.getD [], s.hostname.getD ""⟩

/-- A page: the drains of some applications, and the number of the next page. -/
structure Page where
  results : SortedMap String AppDrains
  nextId : Option Nat

/-- The parts of a page read so far. -/
structure PageParts where
  results : Option (SortedMap String AppDrains) := none
  nextId : Option (Option Nat) := none

/-- The fields of a page. -/
def pageFields : List (FieldReader PageParts) := [
  ⟨"results", (·.results.isSome),
    fun v s => do return { s with results := ← Reader.map readApp v }⟩,
  ⟨"next_id", (·.nextId.isSome),
    fun v s => do
      return { s with nextId := some (← Reader.optional (Reader.natural Text.greatest64) v) }⟩]

/-- Reads a page. An object need not have either field, an array has to have both if it has a next
page to name. -/
def readPage : Reader Page := fun v => do
  let s ← FieldReader.record pageFields {} v
  match v, s.nextId with
  | .array _, none => .error .mismatch
  | _, nextId => return ⟨s.results.getD {}, nextId.getD none⟩

/-- The bindings of a page: its applications in ascending order, the drains of each in the order
given. -/
def Page.bindings (p : Page) : List Binding :=
  p.results.entries.flatMap fun (appId, app) => app.drains.map fun d => ⟨appId, app.hostname, d⟩

/-- The page that follows, if there is one. The number zero is that of the first page and stands
for none. -/
def Page.following (p : Page) : Option Nat := p.nextId.filter (· ≠ 0)

/-! ## Requests -/

/-- The provider of bindings: the beginning of its URLs, and the number of applications on a
page. -/
structure Provider where
  base : String
  batchSize : Nat

/-- The path of the pages. -/
def pagesPath : String := "/internal/v4/syslog_drain_urls"

/-- The URL of a page. -/
def Provider.pageUrl (p : Provider) (id : Nat) : Except Http.Unsendable Url := do
  let base := Text.dropEndWhile (· = '/') p.base.toList
  let u ← Http.readUrl (base ++ pagesPath.toList)
  let decimal (n : Nat) := Nat.toDigits 10 n
  return u.addEntries [.pair "batch_size".toList (decimal (max 1 p.batchSize)),
    .pair "next_id".toList (decimal id)]

/-- The request for a page. -/
def Provider.request (p : Provider) (id : Nat) : Except Http.Unsendable Http.Request := do
  Http.get (← p.pageUrl id)

/-- The page that the end of an exchange gives. Only status 200 counts as success. -/
def pageOf : Http.Outcome → Except FetchError Page
  | .cutOff status s => if status ≠ 200 then .error (.status status) else .error (.http s)
  | .answered r =>
    if r.status ≠ 200 then .error (.status r.status)
    else match Json.decodeOctets readPage r.body with
      | .ok p => .ok p
      | .error _ => .error (.decode "invalid page")
  | o => .error (.http o.detail)

/-! ## Fetching -/

/-- How far a fetch has come: the bindings so far, and the page that is asked for next. -/
structure Progress where
  bindings : List Binding := []
  next : Nat := 0

/-- What a fetch does after an answer: it goes on, or it ends. -/
inductive Turn where
  | more (progress : Progress)
  | ended (result : Except FetchError Fetched)

/-- Takes the answer to the request that is open. -/
def Progress.take (s : Progress) (o : Http.Outcome) : Turn :=
  match pageOf o with
  | .error e => .ended (.error e)
  | .ok p =>
    let bs := s.bindings ++ p.bindings
    -- Without a next page the bindings so far are all.
    match p.following with
    | some id => .more ⟨bs, id⟩
    | none => .ended (.ok ⟨bs, 0, bs.length⟩)

/-- A fetch with given answers: the result, if they are enough for one, and the pages asked for,
in order. -/
def fetchFrom (s : Progress) : List Http.Outcome → Option (Except FetchError Fetched) × List Nat
  | [] => (none, [s.next])
  | o :: os => match s.take o with
    | .ended r => (some r, [s.next])
    | .more s' =>
      let (r, ids) := fetchFrom s' os
      (r, s.next :: ids)

/-- A fetch of all pages from a provider: the result, and the requests made. -/
def fetch (p : Provider) (answers : List Http.Outcome) :
    Option (Except FetchError Fetched) × List Http.Request :=
  match p.request 0 with
  | .error f => (some (.error (.http f.message)), [])
  | .ok _ =>
    let (r, ids) := fetchFrom {} answers
    (r, ids.filterMap fun id => (p.request id).toOption)

end LogEgress.Scheduler.Paging
