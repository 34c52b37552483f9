import LogEgress.Egress.Stream
import LogEgress.Proofs.Syslog.Frame
import Mathlib.Data.List.Induction

set_option autoImplicit false

/-! # What a drain receives from a stream writer

A writer is asked to write envelopes and to close, in any order, over a network that may refuse
dials and pass frames in part. `history` keeps what each request came to, and `sentOn` the messages
whose frames were begun on a connection. `course_serve` says once what a request can do. What a
connection carries then follows by induction on the requests (`kept_history`), and the main theorem
`every_stream_orderly` adds what a receiver makes of it.
-/

namespace LogEgress.Egress.Stream

/-! ## Requests -/

/-- What is asked of a writer. -/
inductive Request where
  | write (e : Envelope)
  | close

/-- A request that was served: its answer, and the writer before and after it. -/
structure Served where
  request : Request
  answer : Result
  before : State
  after : State

/-- Serves a request. -/
def serve (net : Network) (b : Binding) (s : State) : Request → Served
  | .write e => ⟨.write e, ((writer net b).write e s).1, s, ((writer net b).write e s).2⟩
  | .close => ⟨.close, ((writer net b).close s).1, s, ((writer net b).close s).2⟩

/-- What some requests come to, one after the other. -/
def history (net : Network) (b : Binding) : State → List Request → List Served
  | _, [] => []
  | s, r :: rs => serve net b s r :: history net b (serve net b s r).after rs

/-- The writer after some requests. -/
def reached (net : Network) (b : Binding) (s : State) (rs : List Request) : State :=
  rs.foldl (fun s r => (serve net b s r).after) s

theorem before_serve (net : Network) (b : Binding) (s : State) (r : Request) :
    (serve net b s r).before = s := by
  cases r <;> rfl

theorem history_concat (net : Network) (b : Binding) (s : State) (rs : List Request)
    (r : Request) : history net b s (rs ++ [r]) =
      history net b s rs ++ [serve net b (reached net b s rs) r] := by
  induction rs generalizing s with
  | nil => rfl
  | cons q rs ih =>
    rw [List.cons_append, history, ih]
    rfl

theorem reached_concat (net : Network) (b : Binding) (s : State) (rs : List Request)
    (r : Request) :
    reached net b s (rs ++ [r]) = (serve net b (reached net b s rs) r).after :=
  List.foldl_append

namespace Served

/-- The message of the envelope that was to be written, if the envelope holds a log line. -/
def message? (b : Binding) (x : Served) : Option Octets :=
  match x.request with
  | .write e => Syslog.message? b e
  | .close => none

/-- Whether the writer dialed. -/
def Dialed (x : Served) : Prop := x.before.dials < x.after.dials

/-- Whether a log line was written. -/
def wrote (b : Binding) (x : Served) : Bool := (x.message? b).isSome && decide (x.answer = .ok ())

/-- Whether the request was a close, or to write a log line. -/
def concernsConnection (b : Binding) (x : Served) : Bool :=
  match x.request with
  | .write _ => (x.message? b).isSome
  | .close => true

end Served

/-- A message whose frame was begun on a connection, and the answer to the write. -/
structure Sending where
  connection : Nat
  message : Octets
  answer : Result
  deriving DecidableEq

/-- What a request sent. A frame goes to the connection that was made last. -/
def Served.sending? (b : Binding) (x : Served) : Option Sending :=
  if x.before.frames < x.after.frames then
    (x.message? b).map fun message => ⟨x.after.connections.length - 1, message, x.answer⟩
  else none

/-- What was sent. -/
def sendings (b : Binding) (h : List Served) : List Sending := h.filterMap (·.sending? b)

/-- What of it was sent on a connection. -/
def sentOn (k : Nat) (sent : List Sending) : List Sending := sent.filter (·.connection = k)

/-- Whether the last request that concerned the connection was a log line that was written. -/
def InUse (b : Binding) (h : List Served) : Prop :=
  ∃ x, (h.filter (·.concernsConnection b)).getLast? = some x ∧ x.wrote b = true

/-! ## What a request can do -/

/-- Getting a connection: there is one, or a dial makes one. -/
inductive Opened (net : Network) : State → State → Prop
  | already {s : State} : s.connected = true → Opened net s s
  | dialed {s : State} : s.connected = false → net.dial s.dials = .ok () → Opened net s
      { s with dials := s.dials + 1, connections := s.connections ++ [[]], connected := true }

/-- The ways a request can go. -/
inductive Course (net : Network) (b : Binding) : Served → Prop
  | passedOver {e : Envelope} {s : State} :
      Syslog.message? b e = none → Course net b ⟨.write e, .ok (), s, s⟩
  | closed {s : State} : Course net b ⟨.close, .ok (), s, { s with connected := false }⟩
  | undialed {e : Envelope} {s : State} {message : Octets} {err : Error} :
      Syslog.message? b e = some message → s.connected = false →
      net.dial s.dials = .error err →
      Course net b ⟨.write e, .error err, s, { s with dials := s.dials + 1, connected := false }⟩
  | sent {e : Envelope} {s t : State} {message : Octets} :
      Syslog.message? b e = some message → Opened net s t → net.send t.frames = .whole →
      Course net b ⟨.write e, .ok (), s, { pass (Syslog.frame message) t with
        frames := t.frames + 1, written := t.written + 1 }⟩
  | cut {e : Envelope} {s t : State} {message : Octets} {n : Nat} {err : Error} :
      Syslog.message? b e = some message → Opened net s t → net.send t.frames = .cut n err →
      Course net b ⟨.write e, .error err, s, { pass ((Syslog.frame message).take n) t with
        frames := t.frames + 1, connected := false }⟩

theorem course_send {net : Network} {b : Binding} {e : Envelope} {s t : State} {message : Octets}
    (hmessage : Syslog.message? b e = some message) (ht : Opened net s t) :
    Course net b ⟨.write e, (send net (Syslog.frame message) t).1, s,
      (send net (Syslog.frame message) t).2⟩ := by
  cases hp : net.send t.frames with
  | whole =>
    simp only [send, hp]
    exact .sent hmessage ht hp
  | cut n err =>
    simp only [send, hp]
    exact .cut hmessage ht hp

theorem course_serve (net : Network) (b : Binding) (s : State) (r : Request) :
    Course net b (serve net b s r) := by
  cases r with
  | close => exact .closed
  | write e =>
    simp only [serve, writer, write, Syslog.frame?]
    cases hmessage : Syslog.message? b e with
    | none => exact .passedOver hmessage
    | some message =>
      simp only [Option.map_some, connect]
      cases hc : s.connected with
      | true => exact course_send hmessage (.already hc)
      | false =>
        cases hd : net.dial s.dials with
        | error err => exact .undialed hmessage hc hd
        | ok u => exact course_send hmessage (.dialed hc hd)

/-! ## What a connection carries -/

/-- The frames of messages, one after the other. -/
def framesOf (sent : List Sending) : Octets := (sent.map (·.message)).flatMap Syslog.frame

/-- All writes on a connection succeeded, and it carries their frames. -/
structure Whole (sent : List Sending) (o : Octets) : Prop where
  answer_eq : ∀ x ∈ sent, x.answer = .ok ()
  octets_eq : o = framesOf sent

/-- All writes on a connection succeeded, or the last one failed and the beginning of its frame
follows the frames of the others. -/
inductive Carried : List Sending → Octets → Prop
  | whole {sent : List Sending} {o : Octets} : Whole sent o → Carried sent o
  | cut {sent : List Sending} {o part : Octets} {x : Sending} :
      Whole sent o → x.answer ≠ .ok () → part <+: Syslog.frame x.message →
      Carried (sent ++ [x]) (o ++ part)

theorem whole_nil : Whole [] [] := ⟨fun _ hx => absurd hx List.not_mem_nil, rfl⟩

theorem Whole.snoc {sent : List Sending} {o : Octets} (h : Whole sent o) {x : Sending}
    (hx : x.answer = .ok ()) : Whole (sent ++ [x]) (o ++ Syslog.frame x.message) where
  answer_eq := by
    intro y hy
    rcases List.mem_append.mp hy with hy | hy
    · exact h.answer_eq y hy
    · rwa [List.mem_singleton.mp hy]
  octets_eq := by
    rw [h.octets_eq, framesOf, framesOf, List.map_append, List.flatMap_append, List.map_singleton,
      List.flatMap_singleton]

theorem sentOn_concat_self (sent : List Sending) (x : Sending) :
    sentOn x.connection (sent ++ [x]) = sentOn x.connection sent ++ [x] := by
  have hx : decide (x.connection = x.connection) = true := decide_eq_true rfl
  rw [sentOn, List.filter_append, List.filter_cons, hx]
  rfl

theorem sentOn_concat_of_ne (sent : List Sending) {x : Sending} {k : Nat} (h : x.connection ≠ k) :
    sentOn k (sent ++ [x]) = sentOn k sent := by
  rw [sentOn, List.filter_append, List.filter_cons, decide_eq_false h]
  exact List.append_nil _

/-- What the connections of a writer carry, after what was sent. -/
structure Ledger (sent : List Sending) (s : State) : Prop where
  carried : ∀ k o, s.connections[k]? = some o → Carried (sentOn k sent) o
  /-- Nothing failed on a connection that is in use. -/
  whole : s.connected = true → ∃ o, s.connections[s.connections.length - 1]? = some o ∧
    Whole (sentOn (s.connections.length - 1) sent) o
  made : ∀ x ∈ sent, x.connection < s.connections.length

section Ledger

variable {net : Network} {sent : List Sending} {s t : State}

/-- Only the connections and whether the last is in use are of interest. -/
theorem Ledger.congr (h : Ledger sent s) (hconnections : t.connections = s.connections)
    (hconnected : t.connected = true → s.connected = true) : Ledger sent t where
  carried := hconnections ▸ h.carried
  whole hc := hconnections ▸ h.whole (hconnected hc)
  made := hconnections ▸ h.made

theorem Opened.connected_eq (h : Opened net s t) : t.connected = true := by
  cases h with
  | already hc => exact hc
  | dialed hc hd => rfl

/-- A new connection carries nothing. -/
theorem Ledger.opened (h : Ledger sent s) (ht : Opened net s t) : Ledger sent t := by
  cases ht with
  | already hc => exact h
  | dialed hc hd =>
    have hnone : sentOn s.connections.length sent = [] := by
      rw [sentOn, List.filter_eq_nil_iff]
      intro x hx
      have := h.made x hx
      rw [decide_eq_true_eq]
      omega
    exact {
      carried := by
        intro k o hk
        rcases Nat.lt_or_ge k s.connections.length with hlt | hge
        · rw [List.getElem?_append_left hlt] at hk
          exact h.carried k o hk
        · have hlast : k = s.connections.length := by
            have := (List.getElem?_eq_some_iff.mp hk).1
            rw [List.length_append, List.length_singleton] at this
            omega
          subst hlast
          rw [List.getElem?_concat_length] at hk
          cases hk
          rw [hnone]
          exact .whole whole_nil
      whole := by
        intro _
        refine ⟨[], ?_, ?_⟩
        · simp
        · simp only [List.length_append, List.length_singleton, Nat.add_sub_cancel]
          rw [hnone]
          exact whole_nil
      made := by
        intro x hx
        have := h.made x hx
        rw [List.length_append]
        omega }

/-- What is sent goes to the connection in use, and leaves the others as they were. -/
theorem Ledger.snoc (h : Ledger sent t) (hc : t.connected = true) {x : Sending} {part : Octets}
    {u : State} (hx : x.connection = t.connections.length - 1)
    (hu : u.connections = (pass part t).connections)
    (hpart : x.answer = .ok () ∧ part = Syslog.frame x.message ∨
      x.answer ≠ .ok () ∧ part <+: Syslog.frame x.message ∧ u.connected = false) :
    Ledger (sent ++ [x]) u := by
  obtain ⟨o, ho, hwhole⟩ := h.whole hc
  rw [← hx] at ho hwhole
  have hmine := sentOn_concat_self sent x
  have hlength : u.connections.length = t.connections.length := by
    rw [hu, pass, List.length_modify]
  have hcell : u.connections[x.connection]? = some (o ++ part) := by
    rw [hu, pass, ← hx, List.getElem?_modify, ho]
    exact congrArg some (if_pos rfl)
  have hothers : ∀ k, x.connection ≠ k → u.connections[k]? = t.connections[k]? := by
    intro k hne
    rw [hu, pass, ← hx, List.getElem?_modify]
    simp only [if_neg hne, Option.map_eq_map, Option.map_id']
  refine ⟨?_, ?_, ?_⟩
  · intro k p hk
    by_cases hne : x.connection = k
    · subst hne
      rw [hcell] at hk
      cases hk
      rw [hmine]
      rcases hpart with ⟨hok, rfl⟩ | ⟨hfailed, hprefix, -⟩
      · exact .whole (hwhole.snoc hok)
      · exact .cut hwhole hfailed hprefix
    · rw [hothers k hne] at hk
      rw [sentOn_concat_of_ne sent hne]
      exact h.carried k p hk
  · intro huc
    rcases hpart with ⟨hok, rfl⟩ | ⟨-, -, hclosed⟩
    · rw [hlength, ← hx]
      exact ⟨_, hcell, hmine ▸ hwhole.snoc hok⟩
    · rw [hclosed] at huc
      cases huc
  · intro y hy
    rw [hlength]
    rcases List.mem_append.mp hy with hy | hy
    · exact h.made y hy
    · rw [List.mem_singleton.mp hy]
      exact (List.getElem?_eq_some_iff.mp ho).1

end Ledger

/-! ## Over a history -/

/-- What is true of a writer after a history. -/
structure Kept (b : Binding) (h : List Served) (s : State) : Prop where
  ledger : Ledger (sendings b h) s
  connected_iff : s.connected = true ↔ InUse b h
  written_eq : s.written = h.countP (·.wrote b)

section Kept

variable {net : Network} {b : Binding} {h : List Served} {s : State}

theorem sendings_concat (b : Binding) (h : List Served) (x : Served) :
    sendings b (h ++ [x]) = sendings b h ++ (x.sending? b).toList := by
  rw [sendings, List.filterMap_append, ← sendings, List.filterMap_cons, List.filterMap_nil]
  cases x.sending? b <;> rfl

/-- A request that concerns the connection decides whether it is in use. -/
theorem inUse_concat_of_concerns (h : List Served) {x : Served}
    (hx : x.concernsConnection b = true) : InUse b (h ++ [x]) ↔ x.wrote b = true := by
  rw [InUse, List.filter_append, List.filter_cons_of_pos hx, List.filter_nil,
    List.getLast?_concat]
  constructor
  · rintro ⟨y, hy, hwrote⟩
    cases hy
    exact hwrote
  · intro hwrote
    exact ⟨x, rfl, hwrote⟩

theorem inUse_concat_of_not_concerns (h : List Served) {x : Served}
    (hx : x.concernsConnection b = false) : InUse b (h ++ [x]) ↔ InUse b h := by
  rw [InUse, List.filter_append, List.filter_cons_of_neg (Bool.eq_false_iff.mp hx),
    List.filter_nil, List.append_nil]
  rfl

theorem kept_start (b : Binding) : Kept b [] {} where
  ledger := {
    carried := fun _ _ hk => nomatch hk
    whole := nofun
    made := fun _ hx => nomatch hx }
  connected_iff := ⟨nofun, fun ⟨_, hx, _⟩ => nomatch hx⟩
  written_eq := rfl

theorem Served.sending?_of_frames_eq {x : Served} (h : x.after.frames = x.before.frames) :
    x.sending? b = none := by
  rw [sending?, h, if_neg (Nat.lt_irrefl _)]

theorem Opened.frames_eq {s t : State} (h : Opened net s t) : t.frames = s.frames := by
  cases h <;> rfl

theorem Opened.written_eq {s t : State} (h : Opened net s t) : t.written = s.written := by
  cases h <;> rfl

/-- A request that sends nothing. -/
theorem Kept.snoc_of_unsent {x : Served} (hk : Kept b h x.before)
    (hframes : x.after.frames = x.before.frames)
    (hconnections : x.after.connections = x.before.connections)
    (hconnected : x.after.connected = true → x.before.connected = true)
    (hwritten : x.after.written = x.before.written) (hwrote : x.wrote b = false)
    (hiff : x.after.connected = true ↔ InUse b (h ++ [x])) : Kept b (h ++ [x]) x.after where
  ledger := by
    rw [sendings_concat, Served.sending?_of_frames_eq hframes, Option.toList_none, List.append_nil]
    exact hk.ledger.congr hconnections hconnected
  connected_iff := hiff
  written_eq := by
    rw [hwritten, hk.written_eq, List.countP_append, List.countP_singleton, hwrote]
    rfl

theorem Served.concernsConnection_of_message {x : Served} {message : Octets}
    (h : x.message? b = some message) : x.concernsConnection b = true := by
  obtain ⟨_ | _, answer, before, after⟩ := x
  · rw [concernsConnection, h]
    rfl
  · rfl

theorem Served.wrote_iff_of_message {x : Served} {message : Octets}
    (h : x.message? b = some message) : x.wrote b = true ↔ x.answer = .ok () := by
  rw [wrote, h, Option.isSome_some, Bool.true_and, decide_eq_true_eq]

theorem Served.sending?_eq {x : Served} {t : State} {message part : Octets}
    (hmessage : x.message? b = some message) (ht : Opened net x.before t)
    (hframes : x.after.frames = t.frames + 1)
    (hconnections : x.after.connections = (pass part t).connections) :
    x.sending? b = some ⟨t.connections.length - 1, message, x.answer⟩ := by
  have hlength : x.after.connections.length = t.connections.length := by
    rw [hconnections, pass, List.length_modify]
  have hlt : x.before.frames < x.after.frames := by
    rw [hframes, ht.frames_eq]
    exact Nat.lt_succ_self _
  rw [sending?, if_pos hlt, hmessage, hlength]
  rfl

/-- A request that sends a frame or a part of it. -/
theorem Kept.snoc_of_sent {x : Served} {t : State} {message part : Octets}
    (hk : Kept b h x.before) (hmessage : x.message? b = some message)
    (ht : Opened net x.before t) (hframes : x.after.frames = t.frames + 1)
    (hconnections : x.after.connections = (pass part t).connections)
    (hcase : (x.answer = .ok () ∧ part = Syslog.frame message ∧ x.after.connected = true ∧
        x.after.written = t.written + 1) ∨
      (x.answer ≠ .ok () ∧ part <+: Syslog.frame message ∧ x.after.connected = false ∧
        x.after.written = t.written)) : Kept b (h ++ [x]) x.after := by
  have hsending := Served.sending?_eq hmessage ht hframes hconnections
  have hconcerns := Served.concernsConnection_of_message hmessage
  have hwrote := Served.wrote_iff_of_message hmessage
  refine ⟨?_, ?_, ?_⟩
  · rw [sendings_concat, hsending]
    refine (hk.ledger.opened ht).snoc ht.connected_eq rfl hconnections ?_
    rcases hcase with ⟨hok, hpart, -, -⟩ | ⟨hfailed, hpart, hclosed, -⟩
    · exact .inl ⟨hok, hpart⟩
    · exact .inr ⟨hfailed, hpart, hclosed⟩
  · rw [inUse_concat_of_concerns h hconcerns, hwrote]
    rcases hcase with ⟨hok, -, hopen, -⟩ | ⟨hfailed, -, hclosed, -⟩
    · exact ⟨fun _ => hok, fun _ => hopen⟩
    · rw [hclosed]
      exact ⟨nofun, fun hok => absurd hok hfailed⟩
  · rw [List.countP_append, List.countP_singleton, ← hk.written_eq, ← ht.written_eq]
    rcases hcase with ⟨hok, -, -, hone⟩ | ⟨hfailed, -, -, hnone⟩
    · rw [hone, if_pos (hwrote.mpr hok)]
    · rw [hnone, if_neg (mt hwrote.mp hfailed)]
      rfl

/-- **What every request keeps**: one case for each way it can go. -/
theorem Kept.snoc {x : Served} (hk : Kept b h x.before) (hx : Course net b x) :
    Kept b (h ++ [x]) x.after := by
  cases hx with
  | @passedOver e s hmessage =>
    have hconcerns : Served.concernsConnection b ⟨.write e, .ok (), s, s⟩ = false := by
      simp only [Served.concernsConnection, Served.message?, hmessage, Option.isSome_none]
    have hwrote : Served.wrote b ⟨.write e, .ok (), s, s⟩ = false := by
      simp only [Served.wrote, Served.message?, hmessage, Option.isSome_none, Bool.false_and]
    exact hk.snoc_of_unsent rfl rfl id rfl hwrote
      (hk.connected_iff.trans (inUse_concat_of_not_concerns h hconcerns).symm)
  | closed =>
    exact hk.snoc_of_unsent rfl rfl nofun rfl rfl
      ⟨nofun, fun huse => nomatch (inUse_concat_of_concerns h rfl).mp huse⟩
  | @undialed e s message err hmessage hc hd =>
    let x : Served := ⟨.write e, .error err, s, { s with dials := s.dials + 1, connected := false }⟩
    have hx : x.message? b = some message := hmessage
    have hnot : ¬ x.wrote b = true := fun hwrote =>
      nomatch (Served.wrote_iff_of_message hx).mp hwrote
    have hconcerns := Served.concernsConnection_of_message hx
    exact Kept.snoc_of_unsent (x := x) hk rfl rfl nofun rfl (Bool.eq_false_iff.mpr hnot)
      ⟨nofun, fun huse => absurd ((inUse_concat_of_concerns h hconcerns).mp huse) hnot⟩
  | sent hmessage ht hp =>
    exact hk.snoc_of_sent hmessage ht rfl rfl (.inl ⟨rfl, rfl, ht.connected_eq, rfl⟩)
  | cut hmessage ht hp =>
    exact hk.snoc_of_sent hmessage ht rfl rfl (.inr ⟨nofun, List.take_prefix _ _, rfl, rfl⟩)

theorem kept_history (net : Network) (b : Binding) (rs : List Request) :
    Kept b (history net b {} rs) (reached net b {} rs) := by
  induction rs using List.reverseRecOn with
  | nil => exact kept_start b
  | append_singleton rs r ih =>
    rw [history_concat, reached_concat]
    refine Kept.snoc ?_ (course_serve net b _ r)
    rwa [before_serve]

/-- Whatever was served stood at the end of some requests. -/
theorem exists_of_history_eq {rs : List Request} {past future : List Served} {x : Served}
    (hsplit : history net b s rs = past ++ x :: future) :
    ∃ qs r, past = history net b s qs ∧ x = serve net b (reached net b s qs) r := by
  induction past generalizing s rs with
  | nil =>
    cases rs with
    | nil => cases hsplit
    | cons r rs =>
      cases hsplit
      exact ⟨[], r, rfl, rfl⟩
  | cons y past ih =>
    cases rs with
    | nil => cases hsplit
    | cons r rs =>
      obtain ⟨hy, hrest⟩ := List.cons.inj hsplit
      obtain ⟨qs, q, hpast, hx⟩ := ih hrest
      refine ⟨r :: qs, q, ?_, hx⟩
      rw [history, ← hpast, hy]

/-! ## The account of a history -/

/-- What becomes of a single request. -/
structure Proper (net : Network) (b : Binding) (x : Served) : Prop where
  /-- An envelope without a log line is passed over. -/
  passed_over : ∀ e, x.request = .write e → e.log = none →
    x.answer = .ok () ∧ x.after = x.before
  /-- A close dials nothing and sends nothing. -/
  closed : x.request = .close → x.answer = .ok () ∧ ¬ x.Dialed ∧ x.sending? b = none ∧
    x.after.connections = x.before.connections
  dials_le : x.after.dials ≤ x.before.dials + 1
  /-- A dial that fails leaves no connection. -/
  dial_failed : x.Dialed → ∀ err, net.dial x.before.dials = .error err →
    x.answer = .error err ∧ x.after.connections = x.before.connections ∧
      x.after.connected = false ∧ x.sending? b = none
  /-- Where no dial fails the frame of a log line is begun, on the new connection or on the old one,
  and the network decides on the answer. -/
  sent : ∀ message, x.message? b = some message → (x.Dialed → net.dial x.before.dials = .ok ()) →
    x.sending? b = some ⟨x.after.connections.length - 1, message, x.answer⟩ ∧
      (x.answer = .ok () ↔ net.send x.before.frames = .whole) ∧
      (x.Dialed → x.after.connections.length = x.before.connections.length + 1) ∧
      (¬ x.Dialed → x.after.connections.length = x.before.connections.length)

/-- What a receiver makes of a connection: it finds the messages of all writes, or of all but the
last one, which failed and left a part of its frame. -/
inductive Deframes : List Sending → Octets → Prop
  | all {sent : List Sending} {o : Octets} :
      Syslog.deframe o = (sent.map (·.message), []) → Deframes sent o
  | allButLast {sent : List Sending} {x : Sending} {o part : Octets} :
      x.answer ≠ .ok () → part <+: Syslog.frame x.message → part ≠ Syslog.frame x.message →
      Syslog.deframe o = (sent.map (·.message), part) → Deframes (sent ++ [x]) o

/-- The account of a history and the writer after it. -/
structure Orderly (net : Network) (b : Binding) (h : List Served) (s : State) : Prop where
  proper : ∀ x ∈ h, Proper net b x
  /-- The writer dials for a log line unless the last request before that concerned the connection
  was a log line that was written. -/
  dialed_iff : ∀ past x future, h = past ++ x :: future →
    (x.Dialed ↔ (x.message? b).isSome = true ∧ ¬ InUse b past)
  /-- A connection carries the frames of the lines written to it, and at most a part of one more
  frame, of a write that failed and was the last on the connection. -/
  carried : ∀ k o, s.connections[k]? = some o → Carried (sentOn k (sendings b h)) o
  deframes : ∀ k o, s.connections[k]? = some o → Deframes (sentOn k (sendings b h)) o
  made : ∀ x ∈ sendings b h, x.connection < s.connections.length
  written_eq : s.written = h.countP (·.wrote b)

theorem Opened.dialed_cases {t : State} (h : Opened net s t) :
    (s.connected = true ∧ t.dials = s.dials ∧ t.connections.length = s.connections.length) ∨
    (s.connected = false ∧ net.dial s.dials = .ok () ∧ t.dials = s.dials + 1 ∧
      t.connections.length = s.connections.length + 1) := by
  cases h with
  | already hc => exact .inl ⟨hc, rfl, rfl⟩
  | dialed hc hd => exact .inr ⟨hc, hd, rfl, by rw [List.length_append]; rfl⟩

theorem Course.dialed_iff {x : Served} (hx : Course net b x) :
    x.Dialed ↔ (x.message? b).isSome = true ∧ x.before.connected = false := by
  cases hx with
  | passedOver hmessage =>
    simp only [Served.Dialed, Served.message?, hmessage, Nat.lt_irrefl, Option.isSome_none,
      Bool.false_eq_true, false_and]
  | closed => simp only [Served.Dialed, Served.message?, Nat.lt_irrefl, Option.isSome_none,
      Bool.false_eq_true, false_and]
  | undialed hmessage hc hd =>
    simp only [Served.Dialed, Served.message?, hmessage, Nat.lt_add_one, Option.isSome_some, hc,
      and_self]
  | sent hmessage ht hp =>
    simp only [Served.Dialed, Served.message?, hmessage, Option.isSome_some, true_and, pass]
    rcases ht.dialed_cases with ⟨hc, hdials, -⟩ | ⟨hc, -, hdials, -⟩
    · simp only [hdials, Nat.lt_irrefl, hc, Bool.true_eq_false]
    · simp only [hdials, Nat.lt_add_one, hc]
  | cut hmessage ht hp =>
    simp only [Served.Dialed, Served.message?, hmessage, Option.isSome_some, true_and, pass]
    rcases ht.dialed_cases with ⟨hc, hdials, -⟩ | ⟨hc, -, hdials, -⟩
    · simp only [hdials, Nat.lt_irrefl, hc, Bool.true_eq_false]
    · simp only [hdials, Nat.lt_add_one, hc]

/-- A request that sends a frame or a part of it. -/
theorem proper_of_sent {x : Served} {t : State} {message part : Octets}
    (hmessage : x.message? b = some message) (ht : Opened net x.before t)
    (hframes : x.after.frames = t.frames + 1) (hdials : x.after.dials = t.dials)
    (hconnections : x.after.connections = (pass part t).connections)
    (hanswer : x.answer = .ok () ↔ net.send t.frames = .whole) : Proper net b x := by
  have hsending := Served.sending?_eq hmessage ht hframes hconnections
  have hlength : x.after.connections.length = t.connections.length := by
    rw [hconnections, pass, List.length_modify]
  refine ⟨?_, ?_, ?_, ?_, ?_⟩
  · intro e he hlog
    rw [Served.message?, he] at hmessage
    simp only [Syslog.message?, hlog, Option.map_none, reduceCtorEq] at hmessage
  · intro hclose
    rw [Served.message?, hclose] at hmessage
    cases hmessage
  · rcases ht.dialed_cases with ⟨-, hsame, -⟩ | ⟨-, -, hmore, -⟩ <;> omega
  · intro hdialed err hfailed
    rcases ht.dialed_cases with ⟨-, hsame, -⟩ | ⟨-, hmade, -, -⟩
    · rw [Served.Dialed] at hdialed
      omega
    · rw [hmade] at hfailed
      cases hfailed
  · intro other hother _
    rw [hmessage] at hother
    cases hother
    rw [hsending, hlength, ← ht.frames_eq]
    refine ⟨rfl, hanswer, ?_, ?_⟩
    all_goals
      rw [Served.Dialed]
      rcases ht.dialed_cases with ⟨-, hsame, hlen⟩ | ⟨-, -, hmore, hlen⟩ <;> omega

theorem Course.proper {x : Served} (hx : Course net b x) : Proper net b x := by
  cases hx with
  | @passedOver e s hmessage =>
    have hnone : Served.message? b ⟨.write e, .ok (), s, s⟩ = none := hmessage
    exact {
      passed_over := fun _ _ _ => ⟨rfl, rfl⟩
      closed := nofun
      dials_le := Nat.le_succ _
      dial_failed := fun hdialed => absurd hdialed (Nat.lt_irrefl _)
      sent := fun message hsome => by rw [hnone] at hsome; cases hsome }
  | closed =>
    exact {
      passed_over := nofun
      closed := fun _ => ⟨rfl, Nat.lt_irrefl _, Served.sending?_of_frames_eq rfl, rfl⟩
      dials_le := Nat.le_succ _
      dial_failed := fun hdialed => absurd hdialed (Nat.lt_irrefl _)
      sent := nofun }
  | @undialed e s message err hmessage hc hd =>
    exact {
      passed_over := by
        intro e' he hlog
        cases he
        simp only [Syslog.message?, hlog, Option.map_none, reduceCtorEq] at hmessage
      closed := nofun
      dials_le := Nat.le_refl _
      dial_failed := by
        intro _ err' hd'
        cases hd.symm.trans hd'
        exact ⟨rfl, rfl, rfl, Served.sending?_of_frames_eq rfl⟩
      sent := by
        intro _ _ hmade
        cases hd.symm.trans (hmade (Nat.lt_succ_self _)) }
  | sent hmessage ht hp =>
    exact proper_of_sent hmessage ht rfl rfl rfl ⟨fun _ => hp, fun _ => rfl⟩
  | cut hmessage ht hp =>
    exact proper_of_sent hmessage ht rfl rfl rfl ⟨nofun, fun hwhole => nomatch hp.symm.trans hwhole⟩

theorem Carried.deframes {sent : List Sending} {o : Octets} (h : Carried sent o) :
    Deframes sent o := by
  have hwhole : ∀ {sent o}, Whole sent o → Syslog.deframe o = (sent.map (·.message), []) := by
    intro sent o h
    have := Syslog.deframe_frames (sent.map (·.message)) []
    rwa [List.append_nil, ← framesOf, ← h.octets_eq, Syslog.deframe_nil, List.append_nil] at this
  cases h with
  | whole h => exact .all (hwhole h)
  | @cut sent o part x h hx hpart =>
    have hfollowed := Syslog.deframe_frames (sent.map (·.message)) part
    rw [← framesOf, ← h.octets_eq] at hfollowed
    by_cases hall : part = Syslog.frame x.message
    · refine .all ?_
      have hlast := Syslog.deframe_frame_append x.message []
      rw [List.append_nil, ← hall, Syslog.deframe_nil] at hlast
      rw [hfollowed, hlast, List.map_append]
      rfl
    · refine .allButLast hx hpart hall ?_
      rw [hfollowed, Syslog.deframe_of_beginning hpart hall, List.append_nil]

end Kept

/-- **What a drain receives can always be taken apart.** A stream of frames gives back its messages.
And whatever is asked of a writer, over whatever network, each of its connections carries the frames
of the lines that were written to it, in order, and after them at most a part of the frame of one
write that failed, the last on the connection. -/
theorem every_stream_orderly :
    (∀ messages : List Octets,
      Syslog.deframe (messages.flatMap Syslog.frame) = (messages, [])) ∧
    ∀ (net : Network) (b : Binding) (rs : List Request),
      Orderly net b (history net b {} rs) (reached net b {} rs) := by
  refine ⟨fun messages => ?_, fun net b rs => ?_⟩
  · have := Syslog.deframe_frames messages []
    rwa [List.append_nil, Syslog.deframe_nil, List.append_nil] at this
  · have hkept := kept_history net b rs
    exact {
      proper := by
        intro x hx
        obtain ⟨past, future, hsplit⟩ := List.append_of_mem hx
        obtain ⟨qs, r, -, rfl⟩ := exists_of_history_eq hsplit
        exact (course_serve net b _ r).proper
      dialed_iff := by
        intro past x future hsplit
        obtain ⟨qs, r, rfl, rfl⟩ := exists_of_history_eq hsplit
        rw [(course_serve net b _ r).dialed_iff, before_serve,
          ← (kept_history net b qs).connected_iff, Bool.not_eq_true]
      carried := hkept.ledger.carried
      deframes := fun k o hk => (hkept.ledger.carried k o hk).deframes
      made := hkept.ledger.made
      written_eq := hkept.written_eq }

/-- An envelope with a log line. -/
def lineOf (payload : Octets) : Envelope := ⟨"app", "0", 0, {}, some ⟨payload, .out⟩⟩

/-- A frame that is cut after five octets, a dial that is refused, an envelope that is passed over
and a close: three connections are made, and three of the five lines are written. -/
theorem stream_with_cut_and_refusal :
    let net : Network := {
      dial := fun n => if n = 1 then .error (.dial "refused") else .ok ()
      send := fun n => if n = 1 then .cut 5 .ioTimeout else .whole }
    let b : Binding := ⟨"app", "host", "syslog://drain"⟩
    let rs : List Request := [.write (lineOf [49, 32]), .write { lineOf [] with log := none },
      .write (lineOf [50]), .write (lineOf [51]), .write (lineOf [52]), .close, .write (lineOf [53])]
    let h := history net b {} rs
    h.map (·.answer) = [.ok (), .ok (), .error .ioTimeout, .error (.dial "refused"), .ok (), .ok (),
      .ok ()] ∧
    (reached net b {} rs).written = 3 ∧
    ∃ one two o, Syslog.message? b (lineOf [49, 32]) = some one ∧
      Syslog.message? b (lineOf [50]) = some two ∧
      (reached net b {} rs).connections[0]? = some o ∧
      Deframes [⟨0, one, .ok ()⟩, ⟨0, two, .error .ioTimeout⟩] o := by
  intro net b rs h
  have hanswers : h.map (·.answer) = [.ok (), .ok (), .error .ioTimeout, .error (.dial "refused"),
      .ok (), .ok (), .ok ()] := by decide +kernel
  have horderly : Orderly net b h (reached net b {} rs) := every_stream_orderly.2 net b rs
  have hcount : h.countP (·.wrote b) = 3 := by decide +kernel
  refine ⟨hanswers, horderly.written_eq.trans hcount, ?_⟩
  have hsome : ((reached net b {} rs).connections[0]?).isSome = true := by decide +kernel
  obtain ⟨o, ho⟩ := Option.isSome_iff_exists.mp hsome
  refine ⟨_, _, o, rfl, rfl, ho, ?_⟩
  have hsent : sentOn 0 (sendings b h) =
      [⟨0, (Syslog.message? b (lineOf [49, 32])).getD [], .ok ()⟩,
        ⟨0, (Syslog.message? b (lineOf [50])).getD [], .error .ioTimeout⟩] := by decide +kernel
  exact hsent ▸ horderly.deframes 0 o ho

end LogEgress.Egress.Stream
