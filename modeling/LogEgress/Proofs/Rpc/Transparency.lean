import LogEgress.Proofs.Adapter.Subscriptions
import LogEgress.Proofs.Http.MediaType
import LogEgress.Proofs.Rpc.Message
import LogEgress.Proofs.Text.Encoding
import LogEgress.Rpc.Client
import LogEgress.Rpc.Server

set_option autoImplicit false

/-! # Calls over the network are calls

A scheduler's call goes as a request to the adapter and comes back as a response. If the request is
not too long the adapter does what it would do if it were told directly, and the scheduler gets what
it would get then: `remote_eq_direct` for one call, and the main theorem `calls_are_transparent` for
any number of calls. Whatever else is sent to an adapter changes nothing there unless it is
answered with success, and each end of an exchange means one thing only.
-/

namespace LogEgress.Rpc

open Json (Reader Value)
open Adapter (Addition Subscriptions)
open Http (MediaType)
open Http.MediaType (IsToken)

/-! ## Calls -/

/-- A call of a scheduler. -/
inductive Call where
  | list
  | create (b : Binding)
  | delete (b : Binding)

/-- What the caller gets. -/
inductive Outcome where
  | listed (result : Except Error (List Binding))
  | changed (result : Except Error Unit)
  deriving DecidableEq

/-- What comes of a call: what the caller gets, what an addition came to, the notices of the
adapter, and the adapter afterwards. -/
structure Effect where
  outcome : Outcome
  addition : Option Addition := none
  notices : List Notice := []
  adapter : Subscriptions

namespace Call

/-- The request that a call makes. -/
def request : Call → Http.Request
  | .list => listRequest
  | .create b => createRequest b
  | .delete b => deleteRequest b

/-- What the caller makes of the end of the exchange. -/
def outcome (pages : CodePages) (c : Call) (o : Http.Outcome) : Outcome :=
  match c with
  | .list => .listed (resultOf pages readBindings o)
  | .create _ => .changed (resultOf pages readEmpty o)
  | .delete _ => .changed (resultOf pages readEmpty o)

/-- A call over the network. -/
def remote (pages : CodePages) (now : Int64) (c : Call) (s : Subscriptions) : Effect :=
  let a := answer now c.request s
  ⟨c.outcome pages (.answered a.response), a.addition, a.notices, a.adapter⟩

/-- A call made at the adapter itself. -/
def direct (now : Int64) (c : Call) (s : Subscriptions) : Effect :=
  match c with
  | .list => { outcome := .listed (.ok s.list), adapter := s }
  | .create b =>
    let (a, s) := s.add b now
    ⟨.changed (a.result.mapError fun _ => .resourceExhausted), some a, a.notices, s⟩
  | .delete b =>
    let (ns, s) := s.delete b
    ⟨.changed (.ok ()), none, ns, s⟩

/-- The request is not too long for the adapter. -/
def Fits (c : Call) : Prop := c.request.body.length ≤ bodyLimit

end Call

/-- What comes of calls, one after the other, each at its time. -/
def run (step : Int64 → Call → Subscriptions → Effect) : Subscriptions → List (Int64 × Call) →
    List Effect
  | _, [] => []
  | s, (now, c) :: cs =>
    let e := step now c s
    e :: run step e.adapter cs

variable {pages : CodePages}

/-! ## One message there and back -/

theorem readBody_utf8_print {α : Type} (read : Reader α) {v : Value} (h : v.Plain) :
    readBody read (utf8 v.print) = read v := by
  rw [readBody, h.ofOctets_print]

theorem hasJson_post (path : String) (v : Value) : hasJson (post path v) = true := by
  have hclosed : hasJson { method := "POST", target := "", contentType := some Http.jsonType } =
      true := by decide +kernel
  exact hclosed

/-- A request in JSON is accepted as the message that it carries. -/
theorem accept_post {α : Type} {read : Reader α} {v : Value} {x : α} (hplain : v.Plain)
    (hread : read v = .ok x) {path : String} (hfits : (post path v).body.length ≤ bodyLimit) :
    accept read (post path v) = .ok x := by
  have hmethod : ¬ (post path v).method ≠ "POST" := fun h => h rfl
  have hjson : ¬ (!hasJson (post path v)) = true := by
    rw [hasJson_post]
    exact Bool.false_ne_true
  have hbody : readBody read (post path v).body = .ok x :=
    (readBody_utf8_print read hplain).trans hread
  rw [accept, if_neg hmethod, if_neg hjson, if_neg (Nat.not_lt.2 hfits), hbody]

/-- A response in JSON is read as the message that it carries. -/
theorem resultOf_reply {α : Type} {read : Reader α} {v : Value} {x : α} (hplain : v.Plain)
    (hread : read v = .ok x) : resultOf pages read (.answered (reply 200 v)) = .ok x := by
  have hbody : Json.decodeOctets read (reply 200 v).body = .ok x :=
    (Json.decodeOctets_print read hplain).trans hread
  have hsuccess : Http.isSuccess (reply 200 v).status = true := rfl
  unfold resultOf
  dsimp only
  rw [if_pos hsuccess, hbody]

/-- The content type of JSON names no encoding, so JSON is UTF-8. -/
theorem encoding_reply (status : Nat) (v : Value) : (reply status v).encoding pages = .utf8 := by
  have hlabel : (reply status v).charset? = none := by
    have hclosed : (Http.MediaType.parse? Http.jsonType).bind (·.parameter? "charset") = none := by
      decide +kernel
    exact hclosed
  rw [Http.Response.encoding, hlabel]
  rfl

/-- A message begins with a brace, and so not with the mark of an encoding. -/
theorem text_reply (status : Nat) (ms : List (String × Value)) :
    (reply status (.ofMembers ms)).text pages = (Value.ofMembers ms).print := by
  have hbrace : utf8 (Value.ofMembers ms).print = 0x7b :: utf8 (Value.ofMembers ms).print.tail := by
    have hprint : (Value.ofMembers ms).print = '\x7b' :: (Value.ofMembers ms).print.tail := by
      simp [Value.ofMembers, Value.print]
    rw [hprint, utf8, List.flatMap_cons]
    rfl
  have hmark : Encoding.Unmarked (utf8 (Value.ofMembers ms).print) := by
    rw [hbrace]
    rintro e mark h ⟨rest, hrest⟩
    cases h <;> cases (List.cons.inj hrest).1
  rw [Http.Response.text, encoding_reply]
  exact (Encoding.Writes.utf8 _).read_eq hmark

theorem resultOf_refusal {α : Type} (read : Reader α) (message : String) :
    resultOf pages read
        (.answered (reply tooManyRequests (Status.write ⟨resourceExhausted, message⟩))) =
      .error .resourceExhausted := by
  have hstatus : Json.decode Status.read
      ((reply tooManyRequests (Status.write ⟨resourceExhausted, message⟩)).text pages) =
        .ok ⟨resourceExhausted, message⟩ := by
    rw [Status.write, text_reply]
    exact (Json.decode_print Status.read (Status.plain_write _)).trans (Status.read_write _)
  show Except.error (Error.ofText _ _) = _
  rw [Error.ofText, hstatus]
  rfl

/-! ## One call -/

theorem path_post (path : String) (v : Value) :
    (post path v).path = Http.Request.path { method := "POST", target := path } := rfl

theorem accept_createRequest {b : Binding} (h : (Call.create b).Fits) :
    accept readRequest (createRequest b) = .ok b :=
  accept_post (plain_writeRequest b) (readRequest_writeRequest b) h

theorem accept_deleteRequest {b : Binding} (h : (Call.delete b).Fits) :
    accept readRequest (deleteRequest b) = .ok b :=
  accept_post (plain_writeRequest b) (readRequest_writeRequest b) h

/-- A request reaches what its path names. -/
theorem answer_listRequest (now : Int64) (s : Subscriptions) :
    answer now listRequest s = { response := reply 200 (writeBindings s.list), adapter := s } := by
  have hpath : listRequest.path = listPath.toList := by
    rw [listRequest, path_post]
    decide +kernel
  have haccept : accept readEmpty listRequest = .ok () :=
    accept_post plain_writeEmpty readEmpty_writeEmpty (by decide +kernel)
  rw [answer, if_pos hpath, haccept]

theorem answer_createRequest {b : Binding} (h : (Call.create b).Fits) (now : Int64)
    (s : Subscriptions) : answer now (createRequest b) s =
      ⟨replyAdded (s.add b now).1.result, some (s.add b now).1, (s.add b now).1.notices,
        (s.add b now).2⟩ := by
  have hpath : (createRequest b).path = createPath.toList := by
    rw [createRequest, path_post]
    decide +kernel
  have hlist : createPath.toList ≠ listPath.toList := by decide +kernel
  rw [answer, hpath, if_neg hlist, if_pos rfl, accept_createRequest h]

theorem answer_deleteRequest {b : Binding} (h : (Call.delete b).Fits) (now : Int64)
    (s : Subscriptions) : answer now (deleteRequest b) s =
      ⟨reply 200 writeEmpty, none, (s.delete b).1, (s.delete b).2⟩ := by
  have hpath : (deleteRequest b).path = deletePath.toList := by
    rw [deleteRequest, path_post]
    decide +kernel
  have hlist : deletePath.toList ≠ listPath.toList := by decide +kernel
  have hcreate : deletePath.toList ≠ createPath.toList := by decide +kernel
  rw [answer, hpath, if_neg hlist, if_neg hcreate, if_pos rfl, accept_deleteRequest h]

theorem resultOf_replyAdded (r : Except Adapter.Refusal Unit) :
    resultOf pages readEmpty (.answered (replyAdded r)) =
      r.mapError fun _ => .resourceExhausted := by
  cases r with
  | ok _ => exact resultOf_reply plain_writeEmpty readEmpty_writeEmpty
  | error e => exact resultOf_refusal readEmpty e.message

/-- A call over the network is as good as one at the adapter itself. -/
theorem Call.remote_eq_direct {c : Call} (h : c.Fits) (now : Int64) (s : Subscriptions) :
    c.remote pages now s = c.direct now s := by
  cases c with
  | list =>
    have hresult : resultOf pages readBindings (.answered (reply 200 (writeBindings s.list))) =
        .ok s.list :=
      resultOf_reply (plain_writeBindings s.list) (readBindings_writeBindings s.list)
    rw [remote, request, answer_listRequest]
    show (⟨.listed _, _, _, _⟩ : Effect) = _
    rw [hresult]
    rfl
  | create b =>
    rw [remote, request, answer_createRequest h]
    show (⟨.changed _, _, _, _⟩ : Effect) = _
    rw [resultOf_replyAdded]
    rfl
  | delete b =>
    have hresult : resultOf pages readEmpty (.answered (reply 200 writeEmpty)) = .ok () :=
      resultOf_reply plain_writeEmpty readEmpty_writeEmpty
    rw [remote, request, answer_deleteRequest h]
    show (⟨.changed _, _, _, _⟩ : Effect) = _
    rw [hresult]
    rfl

/-- Nor does it make a difference how many calls there are. -/
theorem run_remote_eq_run_direct {s : Subscriptions} {calls : List (Int64 × Call)}
    (h : ∀ x ∈ calls, x.2.Fits) :
    run (Call.remote pages) s calls = run Call.direct s calls := by
  induction calls generalizing s with
  | nil => rfl
  | cons x calls ih =>
    obtain ⟨now, c⟩ := x
    have hone : c.remote pages now s = c.direct now s :=
      Call.remote_eq_direct (h (now, c) List.mem_cons_self) now s
    have hrest := @ih (c.direct now s).adapter fun x hx => h x (List.mem_cons_of_mem _ hx)
    rw [run, run, hone, hrest]

/-! ## What the caller is told -/

/-- What a scheduler gets from an adapter, in terms of what the adapter does. -/
structure Told (pages : CodePages) (now : Int64) (s : Subscriptions) : Prop where
  /-- A list has just the bindings that are held, in ascending order. -/
  listed : ∃ bs, (Call.list.remote pages now s).outcome = .listed (.ok bs) ∧
    bs.Pairwise (· < ·) ∧ ∀ b, b ∈ bs ↔ s.held.contains b = true
  /-- A creation comes out as the addition does, and only want of room is reported as such. -/
  created : ∀ b, (Call.create b).Fits → ∃ result,
    ((Call.create b).remote pages now s).outcome = .changed result ∧
      (result = .ok () ↔ (s.add b now).1.result = .ok ()) ∧
      (result = .error .resourceExhausted ↔ (s.add b now).1.result = .error .full)
  /-- A deletion always succeeds. -/
  deleted : ∀ b, (Call.delete b).Fits →
    ((Call.delete b).remote pages now s).outcome = .changed (.ok ())

theorem told (pages : CodePages) (now : Int64) (s : Subscriptions) : Told pages now s where
  listed := by
    have hfits : Call.list.Fits := by
      unfold Call.Fits
      decide +kernel
    refine ⟨s.list, ?_, s.held.ascending, fun b => SortedMap.contains_iff.symm⟩
    rw [Call.remote_eq_direct hfits]
    rfl
  created := by
    intro b h
    refine ⟨(s.add b now).1.result.mapError fun _ => .resourceExhausted, ?_, ?_⟩
    · rw [Call.remote_eq_direct h]
      rfl
    · cases (s.add b now).1.result with
      | ok _ => exact ⟨⟨fun _ => rfl, fun _ => rfl⟩, ⟨nofun, nofun⟩⟩
      | error e =>
        cases e
        exact ⟨⟨nofun, nofun⟩, ⟨fun _ => rfl, fun _ => rfl⟩⟩
  deleted := by
    intro b h
    rw [Call.remote_eq_direct h]
    rfl

/-! ## Requests of any kind -/

/-- An adapter is as it was, but for the number of bindings it refused. -/
structure Untouched (s t : Subscriptions) : Prop where
  held : t.held = s.held
  /-- No subscription was started and none was told to end. -/
  started : t.started = s.started
  reportedCount : t.reportedCount = s.reportedCount

theorem untouched_refl (s : Subscriptions) : Untouched s s := ⟨rfl, rfl, rfl⟩

/-- An addition that is not answered with success changes nothing. -/
theorem untouched_add {b : Binding} {now : Int64} {s : Subscriptions}
    (h : (replyAdded (s.add b now).1.result).status ≠ 200) : Untouched s (s.add b now).2 := by
  rcases s.add_cases b now with ⟨-, hadd⟩ | ⟨-, -, -, -, hadd⟩ | ⟨-, -, hresult, -, -⟩
  · rw [hadd]
    exact untouched_refl s
  · rw [hadd]
    exact ⟨rfl, rfl, rfl⟩
  · rw [hresult] at h
    exact absurd rfl h

/-- Nothing but success changes an adapter, whatever was sent to it. -/
theorem untouched_of_status {now : Int64} {r : Http.Request} {s : Subscriptions}
    (h : (answer now r s).response.status ≠ 200) : Untouched s (answer now r s).adapter := by
  unfold answer at h ⊢
  -- A request that is turned away leaves the adapter alone; of those that are accepted only an
  -- addition can be answered without success.
  by_cases hlist : r.path = listPath.toList
  · rw [if_pos hlist] at h ⊢
    cases accept readEmpty r <;> exact untouched_refl s
  rw [if_neg hlist] at h ⊢
  by_cases hcreate : r.path = createPath.toList
  · rw [if_pos hcreate] at h ⊢
    cases haccept : accept readRequest r with
    | ok b =>
      rw [haccept] at h
      exact untouched_add h
    | error status => exact untouched_refl s
  rw [if_neg hcreate] at h ⊢
  by_cases hdelete : r.path = deletePath.toList
  · rw [if_pos hdelete] at h ⊢
    cases haccept : accept readRequest r with
    | ok b =>
      rw [haccept] at h
      exact absurd rfl h
    | error status => exact untouched_refl s
  · rw [if_neg hdelete]
    exact untouched_refl s

/-! ## Ends of exchanges of any kind -/

/-- A status of success. -/
def Succeeded (status : Nat) : Prop := 200 ≤ status ∧ status ≤ 299

instance (status : Nat) : Decidable (Succeeded status) :=
  inferInstanceAs (Decidable (_ ∧ _))

/-- A response without success says that there is no room. -/
def SaysFull (pages : CodePages) (r : Http.Response) : Prop :=
  ¬ Succeeded r.status ∧
    ∃ s, Json.decode Status.read (r.text pages) = .ok s ∧ s.code = "RESOURCE_EXHAUSTED"

/-- What the end of an exchange means for a caller that expects a message. -/
structure Meaning (pages : CodePages) {α : Type} (read : Reader α) : Prop where
  exhausted : ∀ o, resultOf pages read o = .error .resourceExhausted ↔
    ∃ r, o = .answered r ∧ SaysFull pages r
  /-- Any other response without success is reported with its status. -/
  refused : ∀ r, ¬ Succeeded r.status → ¬ SaysFull pages r →
    ∃ message, resultOf pages read (.answered r) = .error (.status r.status message)
  decoded : ∀ r x, Succeeded r.status → Json.decodeOctets read r.body = .ok x →
    resultOf pages read (.answered r) = .ok x
  /-- Success without the message counts as a failure of the transport. -/
  undecodable : ∀ r f, Succeeded r.status → Json.decodeOctets read r.body = .error f →
    ∃ detail, resultOf pages read (.answered r) = .error (.transport detail)
  /-- So does success whose message breaks off. -/
  success_cutOff : ∀ status detail, Succeeded status →
    resultOf pages read (.cutOff status detail) = .error (.transport detail)
  /-- Without success the status is reported, and nothing of a text that breaks off. -/
  refusal_cutOff : ∀ status detail, ¬ Succeeded status →
    resultOf pages read (.cutOff status detail) = .error (.status status "")

/-- The label by which a content type names an encoding, if it does: the value of the first of its
parameters that is called charset, in letters of either case. -/
inductive Names : Option String → Option (List Char) → Prop where
  | nothing : Names none none
  | bare {type subtype : List Char} (htype : IsToken type) (hsubtype : IsToken subtype) :
    Names (some (String.ofList (type ++ '/' :: subtype))) none
  | parameters {type subtype form : List Char} {parameters : List (List Char × List Char)}
    (htype : IsToken type) (hsubtype : IsToken subtype)
    (hwrites : MediaType.Writes parameters form) :
    Names (some (String.ofList (type ++ '/' :: (subtype ++ ';' :: form))))
      ((parameters.map fun p => (p.1.map Char.toLower, p.2)).lookup "charset".toList)

/-- The text of a response, whatever encoding of Unicode it is in. -/
structure Legible (pages : CodePages) (r : Http.Response) : Prop where
  /-- If the content type names no encoding it is UTF-8. -/
  unnamed : ∀ s, Names r.contentType none → r.body = utf8 s → Encoding.Unmarked r.body →
    r.text pages = s
  /-- It may be in the encoding that the content type names. -/
  named : ∀ (e : Encoding) (s label : List Char), Names r.contentType (some label) →
    e.IsLabel label → e.Writes s r.body → Encoding.Unmarked r.body → r.text pages = s
  /-- It may be in the encoding whose mark it has. -/
  marked : ∀ (e : Encoding) (s : List Char) (mark form : Octets), e.IsMark mark →
    e.Writes s form → r.body = mark ++ form → r.text pages = s

theorem isSuccess_iff {status : Nat} : Http.isSuccess status = true ↔ Succeeded status := by
  rw [Http.isSuccess, Bool.and_eq_true, decide_eq_true_iff, decide_eq_true_iff, Succeeded]
  omega

theorem resultOf_of_succeeded {α : Type} {read : Reader α} {r : Http.Response}
    (h : Succeeded r.status) :
    resultOf pages read (.answered r) = match Json.decodeOctets read r.body with
      | .ok x => .ok x
      | .error _ => .error (.transport "error decoding response body") :=
  if_pos (isSuccess_iff.2 h)

theorem resultOf_of_not_succeeded {α : Type} {read : Reader α} {r : Http.Response}
    (h : ¬ Succeeded r.status) :
    resultOf pages read (.answered r) = .error (.ofText r.status (r.text pages)) :=
  if_neg fun hs => h (isSuccess_iff.1 hs)

theorem resultOf_cutOff {α : Type} (read : Reader α) (status : Nat) (detail : String) :
    resultOf pages read (.cutOff status detail) =
      .error (if Succeeded status then .transport detail else .status status "") := by
  have hempty : Error.ofText status [] = .status status "" := rfl
  rw [resultOf, hempty]
  by_cases h : Succeeded status
  · rw [if_pos (isSuccess_iff.2 h), if_pos h]
  · rw [if_neg fun hs => h (isSuccess_iff.1 hs), if_neg h]

/-- A response without success says that there is no room, or stands for its status. -/
theorem ofText_cases {r : Http.Response} (h : ¬ Succeeded r.status) :
    (SaysFull pages r ∧ Error.ofText r.status (r.text pages) = .resourceExhausted) ∨
      (¬ SaysFull pages r ∧
        ∃ message, Error.ofText r.status (r.text pages) = .status r.status message) := by
  unfold Error.ofText SaysFull
  cases hdecode : Json.decode Status.read (r.text pages) with
  | error f =>
    refine .inr ⟨?_, _, rfl⟩
    rintro ⟨-, s, hs, -⟩
    cases hs
  | ok s =>
    by_cases hcode : s.code = resourceExhausted
    · exact .inl ⟨⟨h, s, rfl, hcode⟩, if_pos hcode⟩
    · refine .inr ⟨?_, s.message, if_neg hcode⟩
      rintro ⟨-, s', hs', hcode'⟩
      cases hs'
      exact hcode hcode'

theorem exhausted_iff {α : Type} (read : Reader α) (r : Http.Response) :
    resultOf pages read (.answered r) = .error .resourceExhausted ↔ SaysFull pages r := by
  by_cases h : Succeeded r.status
  · rw [resultOf_of_succeeded h]
    refine ⟨fun hresult => ?_, fun hfull => absurd h hfull.1⟩
    cases hdecode : Json.decodeOctets read r.body with
    | ok x =>
      rw [hdecode] at hresult
      cases hresult
    | error f =>
      rw [hdecode] at hresult
      cases hresult
  · rw [resultOf_of_not_succeeded h]
    rcases ofText_cases h with ⟨hfull, he⟩ | ⟨hfull, message, he⟩
    · rw [he]
      exact ⟨fun _ => hfull, fun _ => rfl⟩
    · rw [he]
      exact ⟨nofun, fun hf => absurd hf hfull⟩

theorem meaning (pages : CodePages) {α : Type} (read : Reader α) : Meaning pages read where
  exhausted := by
    intro o
    cases o with
    | answered r =>
      rw [exhausted_iff]
      exact ⟨fun h => ⟨r, rfl, h⟩, fun ⟨_, hr, h⟩ => Http.Outcome.answered.inj hr ▸ h⟩
    | cutOff status detail =>
      rw [resultOf_cutOff]
      refine ⟨fun h => ?_, nofun⟩
      split at h <;> cases h
    | _ => exact ⟨nofun, nofun⟩
  refused := by
    intro r h hfull
    rcases ofText_cases h with ⟨hf, -⟩ | ⟨-, message, he⟩
    · exact absurd hf hfull
    · exact ⟨message, by rw [resultOf_of_not_succeeded h, he]⟩
  decoded := by
    intro r x h hdecode
    rw [resultOf_of_succeeded h, hdecode]
  undecodable := by
    intro r f h hdecode
    exact ⟨_, by rw [resultOf_of_succeeded h, hdecode]⟩
  success_cutOff := by
    intro status detail h
    rw [resultOf_cutOff, if_pos h]
  refusal_cutOff := by
    intro status detail h
    rw [resultOf_cutOff, if_neg h]

/-- The label is found among the parameters of the content type. -/
theorem Names.charset?_eq {r : Http.Response} {label? : Option (List Char)}
    (h : Names r.contentType label?) : r.charset? = label? := by
  obtain ⟨status, contentType, body⟩ := r
  unfold Http.Response.charset?
  cases h with
  | nothing => rfl
  | bare htype hsubtype =>
    obtain ⟨m, hparse, hparameters⟩ := MediaType.parse?_of_isToken htype hsubtype
    rw [Option.bind_some, hparse, Option.bind_some, MediaType.parameter?, hparameters]
    rfl
  | parameters htype hsubtype hwrites =>
    obtain ⟨m, hparse, hparameters⟩ := hwrites.parse?_eq htype hsubtype
    rw [Option.bind_some, hparse, Option.bind_some, MediaType.parameter?, hparameters]

theorem legible (pages : CodePages) (r : Http.Response) : Legible pages r where
  unnamed := by
    intro s hnames hbody hmark
    have hencoding : r.encoding pages = .utf8 := by
      rw [Http.Response.encoding, hnames.charset?_eq]
      rfl
    rw [Http.Response.text, hencoding]
    exact (hbody ▸ Encoding.Writes.utf8 s : Encoding.utf8.Writes s r.body).read_eq hmark
  named := by
    intro e s label hnames hlabel hwrites hmark
    have hencoding : r.encoding pages = e := by
      rw [Http.Response.encoding, hnames.charset?_eq, Option.bind_some, hlabel.ofLabel?_eq]
      rfl
    rw [Http.Response.text, hencoding]
    exact hwrites.read_eq hmark
  marked := by
    intro e s mark form hmark hwrites hbody
    rw [Http.Response.text, hbody]
    exact hwrites.read_mark hmark _

/-! ## The main result -/

/-- **Calls are transparent.** Calls over the network whose requests are not too long come to what
they come to at the adapter itself, in any number and from any state of the adapter on, and the
caller is told so. A request of any kind that is not answered with status 200 changes nothing. Of
the ends of exchanges of any kind just the responses without success whose text is a refusal for
want of room say that there is none; each other answer without success stands for its status, and
one with success for its message or for a failure of the transport. The text of a response may be in
any encoding of Unicode, and the code pages are whatever they are. -/
theorem calls_are_transparent (pages : CodePages) :
    (∀ (s : Subscriptions) (calls : List (Int64 × Call)), (∀ x ∈ calls, x.2.Fits) →
      run (Call.remote pages) s calls = run Call.direct s calls) ∧
    (∀ now s, Told pages now s) ∧
    (∀ now r s, (answer now r s).response.status ≠ 200 →
      Untouched s (answer now r s).adapter) ∧
    (∀ {α : Type} (read : Reader α), Meaning pages read) ∧
    ∀ r, Legible pages r :=
  ⟨fun _ _ h => run_remote_eq_run_direct h, told pages, fun _ _ _ h => untouched_of_status h,
    fun read => meaning pages read, legible pages⟩

/-- Room for one binding, and texts that have to be escaped: the second creation is refused, and
after the deletion nothing is held. A request with another method is turned away. A refusal may come
with any status but one of success, and in another encoding than UTF-8; of one that breaks off there
is only the status. -/
theorem calls_with_refusal :
    let pages : CodePages := fun _ => none
    let quote : Binding := ⟨"app \"1\"\n", "\u0001é", "syslog://\\"⟩
    let other : Binding := ⟨"", "host", "💡"⟩
    let s : Subscriptions := { limit := some 1, index := "0" }
    let calls : List (Int64 × Call) := [(0, .create quote), (1, .create other), (2, .list),
      (3, .delete quote), (4, .list)]
    let refusal : List Char := (Status.write ⟨"RESOURCE_EXHAUSTED", "💡"⟩).print
    let wide : Http.Response :=
      ⟨503, some "application/json; charset=\"UTF-16LE\"", Utf16.encode .little refusal⟩
    let marked : Http.Response := ⟨400, none, [0xfe, 0xff] ++ Utf16.encode .big refusal⟩
    (∀ x ∈ calls, x.2.Fits) ∧
      (run (Call.remote pages) s calls).map (·.outcome) = [.changed (.ok ()),
        .changed (.error .resourceExhausted), .listed (.ok [quote]), .changed (.ok ()),
        .listed (.ok [])] ∧
      (answer 0 { listRequest with method := "GET" } s).response.status = 405 ∧
      Untouched s (answer 0 { listRequest with method := "GET" } s).adapter ∧
      resultOf pages readEmpty (.answered (reply 503 (Status.write ⟨"RESOURCE_EXHAUSTED", ""⟩))) =
        .error .resourceExhausted ∧
      resultOf pages readEmpty (.answered wide) = .error .resourceExhausted ∧
      resultOf pages readEmpty (.answered marked) = .error .resourceExhausted ∧
      resultOf pages readEmpty (.cutOff 429 "connection closed") = .error (.status 429 "") := by
  intro pages quote other s calls refusal wide marked
  have hfits : ∀ x ∈ calls, x.2.Fits := by
    unfold Call.Fits
    decide +kernel
  have hstatus : (answer 0 { listRequest with method := "GET" } s).response.status = 405 := by
    decide +kernel
  have hrefusal : Json.decode Status.read refusal = .ok ⟨"RESOURCE_EXHAUSTED", "💡"⟩ := by
    decide +kernel
  obtain ⟨hrun, -, huntouched, hmeaning, hlegible⟩ := calls_are_transparent pages
  have hwide : wide.text pages = refusal := by
    have hcontent : wide.contentType = some (String.ofList ("application".toList ++ '/' ::
        ("json".toList ++ ';' :: (List.replicate 1 ' ' ++
          ("charset".toList ++ '=' :: '"' :: 'U' :: ("TF-16LE".toList ++ ['"'])))))) := by
      decide +kernel
    have hnames : Names wide.contentType (some "UTF-16LE".toList) := by
      rw [hcontent]
      exact .parameters (by decide) (by decide) (.one 1 (by decide) (.quoted (by decide) (by decide)))
    have hmark : Encoding.Unmarked wide.body := by
      intro e mark h
      cases h <;> decide +kernel
    exact (hlegible wide).named (.utf16 .little) refusal _ hnames
      (.little (.inl (by decide))) (.utf16 .little refusal) hmark
  have hmarked : marked.text pages = refusal :=
    (hlegible marked).marked (.utf16 .big) refusal _ _ .big (.utf16 .big refusal) rfl
  refine ⟨hfits, ?_, hstatus, huntouched _ _ _ (by rw [hstatus]; decide), ?_, ?_, ?_, ?_⟩
  · rw [hrun s calls hfits]
    decide +kernel
  · exact ((hmeaning readEmpty).exhausted _).2
      ⟨_, rfl, by decide, ⟨resourceExhausted, ""⟩, by decide +kernel, rfl⟩
  · exact ((hmeaning readEmpty).exhausted _).2
      ⟨_, rfl, by decide, ⟨resourceExhausted, "💡"⟩, by rw [hwide, hrefusal]; rfl, rfl⟩
  · exact ((hmeaning readEmpty).exhausted _).2
      ⟨_, rfl, by decide, ⟨resourceExhausted, "💡"⟩, by rw [hmarked, hrefusal]; rfl, rfl⟩
  · exact (hmeaning readEmpty).refusal_cutOff 429 _ (by decide)

end LogEgress.Rpc
