import LogEgress.Proofs.Except
import LogEgress.Proofs.Metrics.Labels
import LogEgress.Proofs.Sorted
import LogEgress.Proofs.Text.Utf8
import Mathlib.Data.List.Forall2
import Mathlib.Tactic.Choose

set_option autoImplicit false

/-! # What a registry holds and exports

The value of a series is what becomes of zero by the changes through the handles to it, in their
order; two handles are to one series if and only if they were requested by the same name and the
same labels, in whatever order. The export lists what was requested, each series once
(`run_is_faithful`).

What a session has done so far is compared with the list of its requests (`Session.Fits`). Each
operation keeps this up (`Session.Fits.step`).
-/

namespace LogEgress.Metrics

/-! ## What is asked of a registry -/

/-- The request that an operation is. -/
def Operation.request? : Operation → Option Request
  | .request q => some q
  | .change _ _ => none

/-- The requests among some operations. -/
def requests (ops : List Operation) : List Request := ops.filterMap Operation.request?

/-- A request for a series, given by its name and its labels in any order. -/
def Request.AsksFor (name : String) (labels : List Label) (q : Request) : Prop :=
  q.name = name ∧ q.labels.Perm labels

instance (name : String) (labels : List Label) : DecidablePred (Request.AsksFor name labels) :=
  fun _ => inferInstanceAs (Decidable (_ ∧ _))

/-- A request for a series, given by its name and the text of its labels. -/
def Request.IsAt (name text : String) (q : Request) : Prop :=
  q.name = name ∧ printLabels q.labels = text

instance (name text : String) : DecidablePred (Request.IsAt name text) :=
  fun _ => inferInstanceAs (Decidable (_ ∧ _))

theorem Request.IsAt.unique {name text name' text' : String} {q : Request} (h : q.IsAt name text)
    (h' : q.IsAt name' text') : name = name' ∧ text = text' :=
  ⟨h.1.symm.trans h'.1, h.2.symm.trans h'.2⟩

/-- The change that an operation makes through a handle which was requested in a certain way, after
some requests. -/
def Operation.changeOf (p : Request → Prop) [DecidablePred p] (qs : List Request) :
    Operation → Option Change
  | .request _ => none
  | .change i c =>
    match qs[i]? with
    | some q => if q.kind = c.kind ∧ p q then some c else none
    | none => none

/-- The changes through the handles that were requested in a certain way. -/
def changes (p : Request → Prop) [DecidablePred p] : List Request → List Operation → List Change
  | _, [] => []
  | qs, op :: ops => (op.changeOf p qs).toList ++ changes p (qs ++ op.request?.toList) ops

/-- What becomes of a value by a change. -/
def Change.apply : Change → UInt64 → UInt64
  | .inc n, v => v + n
  | .set n, _ => n

/-- What becomes of a value by some changes. -/
def replay (v : UInt64) (cs : List Change) : UInt64 := cs.foldl (fun v c => c.apply v) v

theorem changes_congr {p p' : Request → Prop} [DecidablePred p] [DecidablePred p']
    {qs : List Request} {ops : List Operation} (h : ∀ q ∈ qs ++ requests ops, p q ↔ p' q) :
    changes p qs ops = changes p' qs ops := by
  induction ops generalizing qs with
  | nil => rfl
  | cons op ops ih =>
    have hop : op.changeOf p qs = op.changeOf p' qs := by
      cases op with
      | request q => rfl
      | change i c =>
        simp only [Operation.changeOf]
        cases hq : qs[i]? with
        | none => rfl
        | some q =>
          simp only [h q (List.mem_append_left _ (List.mem_of_getElem? hq))]
    rw [changes, changes, hop, ih]
    intro q hq
    refine h q ?_
    rw [List.append_assoc] at hq
    cases op <;> exact hq

/-! ## Requests and changes -/

namespace Registry

variable {r : Registry}

/-- The help and the kind of a family. -/
def head? (r : Registry) (name : String) : Option (String × Kind) :=
  (r.families.get? name).map fun f => (f.help, f.kind)

/-- What a request does to a registry. -/
structure Requested (r : Registry) (q : Request) (t : Registry) (h : Handle) : Prop where
  kind : h.kind = q.kind
  cell : ∀ name text, t.cell? name text =
    if q.IsAt name text then some h.cell else r.cell? name text
  head : ∀ name, t.head? name =
    if q.name = name then some ((r.head? name).getD (q.help, q.kind)) else r.head? name
  /-- The series was there, or it has a new cell. -/
  cells : (r.cell? q.name (printLabels q.labels) = some h.cell ∧ t.cells = r.cells) ∨
    (r.cell? q.name (printLabels q.labels) = none ∧ h.cell = r.cells.length ∧
      t.cells = r.cells ++ [0])

namespace Requested

variable {t : Registry} {q : Request} {h : Handle} {name text : String} {cell : Nat}

theorem cell_self (ht : r.Requested q t h) :
    t.cell? q.name (printLabels q.labels) = some h.cell := by
  rw [ht.cell, if_pos ⟨rfl, rfl⟩]

/-- A series with a cell is the one that was requested, or it had this cell before. -/
theorem cell_cases (ht : r.Requested q t h) (hcell : t.cell? name text = some cell) :
    q.IsAt name text ∧ h.cell = cell ∨ r.cell? name text = some cell := by
  rw [ht.cell] at hcell
  split at hcell
  · next hq => exact .inl ⟨hq, Option.some.inj hcell⟩
  · exact .inr hcell

theorem cell_eq_none (ht : r.Requested q t h) (hcell : t.cell? name text = none) :
    r.cell? name text = none := by
  rw [ht.cell] at hcell
  split at hcell
  · cases hcell
  · exact hcell

/-- Series keep their cells. -/
theorem cell_of_some (ht : r.Requested q t h) (hcell : r.cell? name text = some cell) :
    t.cell? name text = some cell := by
  rw [ht.cell]
  split
  · next hq =>
    rw [← hq.1, ← hq.2] at hcell
    rcases ht.cells with ⟨hold, -⟩ | ⟨hnone, -⟩
    · exact hold.symm.trans hcell
    · cases hnone.symm.trans hcell
  · exact hcell

/-- Cells keep their values. -/
theorem getElem?_cells (ht : r.Requested q t h) {i : Nat} {v : UInt64} (hv : r.cells[i]? = some v) :
    t.cells[i]? = some v := by
  rcases ht.cells with ⟨-, hsame⟩ | ⟨-, -, hmore⟩
  · rw [hsame, hv]
  · rw [hmore, List.getElem?_append_left (List.getElem?_eq_some_iff.mp hv).1, hv]

end Requested

theorem family_series_get? (r : Registry) (kind : Kind) (name help text : String) :
    (r.family kind name help).series.get? text = r.cell? name text := by
  rw [family, cell?]
  cases r.families.get? name <;> rfl

/-- A request puts a family in its place, in which its series has its cell. -/
theorem cell?_insert {r t : Registry} {q : Request} {series : SortedMap String Nat} {cell : Nat}
    (ht : t.families = r.families.insert q.name
      { r.family q.kind q.name q.help with series := series })
    (hseries : ∀ text, series.get? text =
      if printLabels q.labels = text then some cell else r.cell? q.name text)
    (name text : String) :
    t.cell? name text = if q.IsAt name text then some cell else r.cell? name text := by
  rw [cell?, ht, SortedMap.get?_insert]
  by_cases hname : name = q.name
  · subst hname
    rw [if_pos rfl, Option.bind_some, hseries]
    exact if_congr (and_iff_right rfl).symm rfl rfl
  · rw [if_neg hname, if_neg fun h => hname h.1.symm]
    rfl

theorem head?_insert {r t : Registry} {q : Request} {series : SortedMap String Nat}
    (ht : t.families = r.families.insert q.name
      { r.family q.kind q.name q.help with series := series }) (name : String) :
    t.head? name =
      if q.name = name then some ((r.head? name).getD (q.help, q.kind)) else r.head? name := by
  rw [head?, ht, SortedMap.get?_insert]
  by_cases hname : name = q.name
  · subst hname
    rw [if_pos rfl, if_pos rfl, head?, family]
    cases r.families.get? q.name <;> rfl
  · rw [if_neg hname, if_neg (Ne.symm hname), head?]

theorem request_spec (r : Registry) (q : Request) :
    r.Requested q (r.request q.kind q.name q.help q.labels).1
      (r.request q.kind q.name q.help q.labels).2.1 := by
  have hfamily := r.family_series_get? q.kind q.name q.help
  cases hcell : (r.family q.kind q.name q.help).series.get? (printLabels q.labels) with
  | some cell =>
    have hrequest : r.request q.kind q.name q.help q.labels =
        ({ r with families := r.families.insert q.name (r.family q.kind q.name q.help) },
          ⟨q.kind, cell⟩, mismatch (r.family q.kind q.name q.help) q.kind q.name) := by
      simp only [request, hcell]
    have hseries : ∀ text, (r.family q.kind q.name q.help).series.get? text =
        if printLabels q.labels = text then some cell else r.cell? q.name text := by
      intro text
      by_cases htext : printLabels q.labels = text
      · rw [if_pos htext, ← htext, hcell]
      · rw [if_neg htext, hfamily]
    rw [hrequest]
    refine ⟨rfl, cell?_insert rfl hseries, head?_insert rfl, .inl ⟨?_, rfl⟩⟩
    rw [← hfamily, hcell]
  | none =>
    have hrequest : r.request q.kind q.name q.help q.labels =
        (⟨r.families.insert q.name { r.family q.kind q.name q.help with
            series := (r.family q.kind q.name q.help).series.insert (printLabels q.labels)
              r.cells.length }, r.cells ++ [0]⟩,
          ⟨q.kind, r.cells.length⟩, mismatch (r.family q.kind q.name q.help) q.kind q.name) := by
      simp only [request, hcell]
    have hseries : ∀ text, ((r.family q.kind q.name q.help).series.insert (printLabels q.labels)
        r.cells.length).get? text =
          if printLabels q.labels = text then some r.cells.length else r.cell? q.name text := by
      intro text
      rw [SortedMap.get?_insert, hfamily]
      exact if_congr eq_comm rfl rfl
    rw [hrequest]
    refine ⟨rfl, cell?_insert rfl hseries, head?_insert rfl, .inr ⟨?_, rfl, rfl⟩⟩
    rw [← hfamily, hcell]

theorem change_eq (r : Registry) (h : Handle) (c : Change) : r.change h c = r.update h c.apply := by
  cases c <;> rfl

end Registry

/-! ## A session and its requests -/

/-- What a session has after some requests: the families of these, a cell of its own for each
series with a certain value, and a handle for each request. -/
structure Session.Fits (s : Session) (qs : List Request) (value : String → String → UInt64) :
    Prop where
  head : ∀ name, s.registry.head? name =
    (qs.find? fun q => q.name = name).map fun q => (q.help, q.kind)
  requested : ∀ name text, s.registry.cell? name text ≠ none ↔ ∃ q ∈ qs, q.IsAt name text
  /-- Series do not share cells. -/
  apart : ∀ {name text name' text' cell}, s.registry.cell? name text = some cell →
    s.registry.cell? name' text' = some cell → name = name' ∧ text = text'
  holds : ∀ {name text cell}, s.registry.cell? name text = some cell →
    s.registry.cells[cell]? = some (value name text)
  fresh : ∀ {name text}, s.registry.cell? name text = none → value name text = 0
  handles : List.Forall₂ (fun h q => h.kind = q.kind ∧
    s.registry.cell? q.name (printLabels q.labels) = some h.cell) s.handles qs

namespace Session.Fits

variable {s : Session} {qs : List Request} {value : String → String → UInt64}

theorem start : Session.Fits {} [] fun _ _ => 0 where
  head := fun _ => rfl
  requested := fun _ _ => ⟨fun h => absurd rfl h, nofun⟩
  apart := nofun
  holds := nofun
  fresh := fun _ => rfl
  handles := .nil

/-- The cell that a request comes to belongs to no other series. -/
theorem isAt_of_cell (h : s.Fits qs value) {q : Request} {t : Registry} {handle : Handle}
    (ht : s.registry.Requested q t handle) {name text : String}
    (hcell : s.registry.cell? name text = some handle.cell) : q.IsAt name text := by
  rcases ht.cells with ⟨hold, -⟩ | ⟨-, hnew, -⟩
  · exact h.apart hold hcell
  · have hheld := h.holds hcell
    rw [hnew, List.getElem?_eq_none (Nat.le_refl _)] at hheld
    cases hheld

/-- A series that is new begins at zero. -/
theorem holds_requested (h : s.Fits qs value) {q : Request} {t : Registry} {handle : Handle}
    (ht : s.registry.Requested q t handle) :
    t.cells[handle.cell]? = some (value q.name (printLabels q.labels)) := by
  rcases ht.cells with ⟨hold, hsame⟩ | ⟨hnone, hnew, hmore⟩
  · rw [hsame, h.holds hold]
  · rw [hmore, hnew, List.getElem?_concat_length, h.fresh hnone]

/-- A request adds itself, and changes no value. -/
theorem request (h : s.Fits qs value) (q : Request) :
    (s.step (.request q)).Fits (qs ++ [q]) value := by
  have ht := s.registry.request_spec q
  show Session.Fits ⟨(s.registry.request q.kind q.name q.help q.labels).1,
    s.handles ++ [(s.registry.request q.kind q.name q.help q.labels).2.1]⟩ _ _
  -- From here on only what `Requested` says of the registry and the handle counts.
  generalize (s.registry.request q.kind q.name q.help q.labels).1 = t at ht
  generalize (s.registry.request q.kind q.name q.help q.labels).2.1 = handle at ht
  refine ⟨fun name => ?head, fun name text => ?requested, fun hcell hcell' => ?apart,
    fun {name text cell} hcell => ?holds, fun hcell => h.fresh (ht.cell_eq_none hcell), ?handles⟩
  case head =>
    rw [ht.head, h.head, List.find?_append, List.find?_singleton]
    by_cases hname : q.name = name
    · rw [if_pos hname, if_pos (decide_eq_true hname)]
      cases qs.find? fun q => decide (q.name = name) <;> rfl
    · rw [if_neg hname, if_neg (by simpa using hname), Option.or_none]
  case requested =>
    rw [ht.cell]
    simp only [List.mem_append, List.mem_singleton, or_and_right, exists_or, exists_eq_left]
    by_cases hq : q.IsAt name text
    · rw [if_pos hq]
      exact iff_of_true nofun (.inr hq)
    · rw [if_neg hq, h.requested, or_iff_left hq]
  case apart =>
    rcases ht.cell_cases hcell with ⟨hq, rfl⟩ | hold
    · rcases ht.cell_cases hcell' with ⟨hq', -⟩ | hold'
      · exact hq.unique hq'
      · exact hq.unique (h.isAt_of_cell ht hold')
    · rcases ht.cell_cases hcell' with ⟨hq', rfl⟩ | hold'
      · exact (h.isAt_of_cell ht hold).unique hq'
      · exact h.apart hold hold'
  case holds =>
    rcases ht.cell_cases hcell with ⟨hq, rfl⟩ | hold
    · rw [← hq.1, ← hq.2]
      exact h.holds_requested ht
    · exact ht.getElem?_cells (h.holds hold)
  case handles =>
    exact List.rel_append (h.handles.imp fun _ _ hq => ⟨hq.1, ht.cell_of_some hq.2⟩)
      (.cons ⟨ht.kind, ht.cell_self⟩ .nil)

/-- A change is one of the series that its handle was requested for. -/
theorem change (h : s.Fits qs value) (i : Nat) (c : Change) :
    (s.step (.change i c)).Fits qs fun name text => replay (value name text)
      ((Operation.change i c).changeOf (Request.IsAt name text) qs).toList := by
  simp only [Session.step, Operation.changeOf]
  cases hi : s.handles[i]? with
  | none =>
    have hlen : qs.length ≤ i := h.handles.length_eq ▸ List.getElem?_eq_none_iff.mp hi
    rw [List.getElem?_eq_none hlen]
    exact h
  | some handle =>
    obtain ⟨q, hq, hkind, hcell⟩ := getElem?_of_forall₂ h.handles hi
    rw [hq]
    simp only [hkind]
    by_cases hc : q.kind = c.kind
    · simp only [true_and, hc, if_true, Registry.change_eq]
      -- The one cell that is changed belongs to the series of the handle alone.
      refine ⟨h.head, h.requested, h.apart, fun {name text cell} hname => ?_,
        fun {name text} hname => ?_, h.handles⟩
      · show (s.registry.cells.modify handle.cell c.apply)[cell]? = _
        rw [List.getElem?_modify, h.holds hname, Option.map_eq_map, Option.map_some]
        by_cases hat : q.IsAt name text
        · obtain rfl : handle.cell = cell := by
            rw [hat.1, hat.2] at hcell
            exact Option.some.inj (hcell.symm.trans hname)
          rw [if_pos hat, if_pos rfl]
          rfl
        · have hne : handle.cell ≠ cell := fun heq => hat (h.apart hcell (heq ▸ hname))
          rw [if_neg hat, if_neg hne]
          rfl
      · have hat : ¬ q.IsAt name text := by
          intro hat
          rw [hat.1, hat.2] at hcell
          cases hcell.symm.trans hname
        rw [if_neg hat]
        exact h.fresh hname
    · simp only [false_and, hc, if_false]
      exact h

theorem step (h : s.Fits qs value) (op : Operation) :
    (s.step op).Fits (qs ++ op.request?.toList) fun name text =>
      replay (value name text) (op.changeOf (Request.IsAt name text) qs).toList := by
  cases op with
  | request q => exact h.request q
  | change i c =>
    rw [Operation.request?, Option.toList_none, List.append_nil]
    exact h.change i c

/-- **Whatever is done, the values are those that the changes come to.** -/
theorem run (h : s.Fits qs value) (ops : List Operation) :
    (s.run ops).Fits (qs ++ requests ops) fun name text =>
      replay (value name text) (changes (Request.IsAt name text) qs ops) := by
  induction ops generalizing s qs value with
  | nil =>
    rw [requests, List.filterMap_nil, List.append_nil]
    exact h
  | cons op ops ih =>
    have hrest := ih (h.step op)
    have hrequests : qs ++ op.request?.toList ++ requests ops = qs ++ requests (op :: ops) := by
      rw [List.append_assoc]
      cases op <;> rfl
    have hreplay : ∀ name text,
        replay (replay (value name text) (op.changeOf (Request.IsAt name text) qs).toList)
          (changes (Request.IsAt name text) (qs ++ op.request?.toList) ops) =
        replay (value name text) (changes (Request.IsAt name text) qs (op :: ops)) :=
      fun _ _ => List.foldl_append.symm
    simp only [hreplay, hrequests] at hrest
    exact hrest

/-- A series has a value if it was requested. -/
theorem value_eq (h : s.Fits qs value) (name : String) (labels : List Label) :
    s.registry.value name labels =
      if ∃ q ∈ qs, q.IsAt name (printLabels labels) then some (value name (printLabels labels))
      else none := by
  rw [Registry.value]
  cases hcell : s.registry.cell? name (printLabels labels) with
  | none =>
    have hnot : ¬ ∃ q ∈ qs, q.IsAt name (printLabels labels) := fun hq =>
      (h.requested _ _).mpr hq hcell
    rw [if_neg hnot]
    rfl
  | some cell =>
    have hsome : s.registry.cell? name (printLabels labels) ≠ none := by
      rw [hcell]
      exact nofun
    rw [if_pos ((h.requested _ _).mp hsome)]
    exact h.holds hcell

end Session.Fits

/-! ## The export -/

/-- Families as they are exported, each by its first request and a request for each of its series:
the names in ascending order of their octets, and so the label texts in each family. -/
structure Listing (qs : List Request) (families : List (Request × List Request)) : Prop where
  ascending : families.Pairwise fun f g =>
    utf8 f.1.name.toList < utf8 g.1.name.toList
  complete : ∀ q ∈ qs, ∃ f ∈ families, f.1.name = q.name
  first : ∀ f ∈ families, (qs.find? fun q => q.name = f.1.name) = some f.1
  seriesAscending : ∀ f ∈ families, f.2.Pairwise fun q q' =>
    utf8 (printLabels q.labels).toList < utf8 (printLabels q'.labels).toList
  seriesOf : ∀ f ∈ families, ∀ q ∈ f.2, q ∈ qs ∧ q.name = f.1.name
  /-- Each series that was requested is there once. -/
  once : ∀ f ∈ families, ∀ q ∈ qs, q.name = f.1.name →
    ∃! q', q' ∈ f.2 ∧ q'.labels.Perm q.labels

/-- The two lines before the series of a family, by its first request. -/
def Request.headLines (q : Request) : String :=
  "# HELP " ++ q.name ++ " " ++ q.help ++ "\n" ++
    "# TYPE " ++ q.name ++ (match q.kind with | .counter => " counter" | .gauge => " gauge") ++ "\n"

/-- The line of a series: its name, its labels between braces if it has any, and its value. -/
def Request.line (q : Request) (value : UInt64) : String :=
  q.name ++ (if q.labels = [] then "" else "\x7b" ++ printLabels q.labels ++ "\x7d") ++ " " ++
    toString value.toNat ++ "\n"

/-- The text of some families, with the values of their series. -/
def printListing (value : String → List Label → UInt64) (families : List (Request × List Request)) :
    String :=
  String.join (families.map fun (first, series) =>
    first.headLines ++ String.join (series.map fun q => q.line (value q.name q.labels)))

theorem Registry.printHead_eq (q : Request) : printHead q.name q.help q.kind = q.headLines := by
  unfold printHead Request.headLines
  cases q.kind <;> simp [Kind.name, ← String.toList_inj]

theorem Registry.printSeries_eq (q : Request) (value : UInt64) :
    printSeries q.name (printLabels q.labels) value = q.line value := by
  rw [printSeries, Request.line]
  congr 3
  by_cases hlabels : q.labels = []
  · rw [if_pos ((printLabels_isEmpty_iff _).2 hlabels), if_pos hlabels, String.append_empty]
  · rw [if_neg (mt (printLabels_isEmpty_iff _).1 hlabels), if_neg hlabels]
    simp only [String.append_assoc]

namespace Session.Fits

variable {s : Session} {qs : List Request} {value : String → String → UInt64}

/-- A series of a family was requested, and the family holds its value. -/
theorem of_series (h : s.Fits qs value) {name text : String} {f : Family} {cell : Nat}
    (hf : s.registry.families.get? name = some f) (hcell : (text, cell) ∈ f.series.entries) :
    (∃ q ∈ qs, q.IsAt name text) ∧ s.registry.cells.getD cell 0 = value name text := by
  have hcell : s.registry.cell? name text = some cell := by
    rw [Registry.cell?, hf]
    exact SortedMap.get?_eq_some_iff.mpr hcell
  refine ⟨(h.requested name text).mp ?_, ?_⟩
  · rw [hcell]
    exact nofun
  · rw [List.getD_eq_getElem?_getD, h.holds hcell]
    rfl

/-- A family is exported by its first request and by requests for its series. -/
theorem exists_family (h : s.Fits qs value) {name : String} {f : Family}
    (hf : s.registry.families.get? name = some f) :
    ∃ g : Request × List Request,
      (qs.find? fun q => q.name = name) = some g.1 ∧
      (∀ q ∈ g.2, q ∈ qs ∧ q.name = name) ∧
      g.2.map (fun q => printLabels q.labels) = f.series.keys ∧
      s.registry.printFamily name f = g.1.headLines ++
        String.join (g.2.map fun q => q.line (value q.name (printLabels q.labels))) := by
  obtain ⟨first, hfirst, hhead⟩ : ∃ q, (qs.find? fun q => q.name = name) = some q ∧
      (q.help, q.kind) = (f.help, f.kind) := by
    have hhead := h.head name
    rw [Registry.head?, hf] at hhead
    exact Option.map_eq_some_iff.mp hhead.symm
  have hname : first.name = name := by simpa using List.find?_some hfirst
  -- Each series stands for some request that came to it; which one does not matter.
  have hseries : ∀ e ∈ f.series.entries, ∃ q ∈ qs, q.IsAt name e.1 := fun e he =>
    (h.of_series hf he).1
  choose! pick hpick using hseries
  rw [Prod.mk.injEq] at hhead
  refine ⟨(first, f.series.entries.map pick), hfirst, ?_, ?_, ?_⟩
  · intro q hq
    obtain ⟨e, he, rfl⟩ := List.mem_map.mp hq
    exact ⟨(hpick e he).1, (hpick e he).2.1⟩
  · rw [List.map_map]
    exact List.map_congr_left fun e he => (hpick e he).2.2
  · rw [Registry.printFamily, ← Registry.printHead_eq, hname, hhead.1, hhead.2, List.map_map]
    congr 2
    refine List.map_congr_left fun e he => ?_
    obtain ⟨-, hat, htext⟩ := hpick e he
    show Registry.printSeries name e.1 (s.registry.cells.getD e.2 0) = (pick e).line _
    rw [← Registry.printSeries_eq, (h.of_series hf he).2, hat, htext]

/-- Among requests for the series of a family, as many as it has, each series is there once. -/
theorem existsUnique_series (h : s.Fits qs value) (hplain : ∀ q ∈ qs, ∀ l ∈ q.labels, l.IsPlain)
    {q : Request} {f : Family} {series : List Request}
    (hf : s.registry.families.get? q.name = some f) (hof : ∀ q ∈ series, q ∈ qs)
    (htexts : series.map (fun q => printLabels q.labels) = f.series.keys) (hq : q ∈ qs) :
    ∃! q', q' ∈ series ∧ q'.labels.Perm q.labels := by
  have hcell := (h.requested q.name (printLabels q.labels)).mpr ⟨q, hq, rfl, rfl⟩
  have htext : printLabels q.labels ∈ series.map fun q => printLabels q.labels := by
    rw [Registry.cell?, hf, Option.bind_some, ne_eq, SortedMap.get?_eq_none_iff, not_not] at hcell
    rw [htexts]
    exact hcell
  have hnodup : (series.map fun q => printLabels q.labels).Nodup := by
    rw [htexts]
    exact f.series.nodup_keys
  have hperm : ∀ q' ∈ series,
      q'.labels.Perm q.labels ↔ printLabels q'.labels = printLabels q.labels := fun q' hq' =>
    (printLabels_eq_iff (hplain q' (hof q' hq')) (hplain q hq)).symm
  obtain ⟨q', hq', heq⟩ := List.mem_map.mp htext
  refine ⟨q', ⟨hq', (hperm q' hq').mpr heq⟩, fun q'' hq'' => ?_⟩
  exact List.inj_on_of_nodup_map hnodup hq''.1 hq'
    (((hperm q'' hq''.1).mp hq''.2).trans heq.symm)

/-- The families of a registry are listed as they are exported. -/
theorem exists_listing (h : s.Fits qs value) (hplain : ∀ q ∈ qs, ∀ l ∈ q.labels, l.IsPlain) :
    ∃ families, Listing qs families ∧ s.registry.print =
      printListing (fun name labels => value name (printLabels labels)) families := by
  choose! pick hfirst hof htexts hprint using
    fun (e : String × Family) (he : e ∈ s.registry.families.entries) =>
      h.exists_family (SortedMap.get?_eq_some_iff.mpr he)
  have hname : ∀ e ∈ s.registry.families.entries, (pick e).1.name = e.1 := fun e he => by
    simpa using List.find?_some (hfirst e he)
  refine ⟨s.registry.families.entries.map pick,
    ⟨?ascending, ?complete, ?first, ?seriesAscending, ?seriesOf, ?once⟩, ?print⟩
  case ascending =>
    rw [List.pairwise_map]
    refine (List.pairwise_map.mp s.registry.families.ascending).imp_of_mem fun ha hb hlt => ?_
    rw [hname _ ha, hname _ hb]
    exact Utf8.utf8_lt_utf8 hlt
  case complete =>
    intro q hq
    have hcell := (h.requested q.name (printLabels q.labels)).mpr ⟨q, hq, rfl, rfl⟩
    obtain ⟨f, hf⟩ : ∃ f, s.registry.families.get? q.name = some f := by
      refine Option.ne_none_iff_exists'.mp fun hnone => hcell ?_
      rw [Registry.cell?, hnone]
      rfl
    have he := SortedMap.get?_eq_some_iff.mp hf
    exact ⟨_, List.mem_map_of_mem he, hname _ he⟩
  case print =>
    rw [Registry.print, printListing, List.map_map]
    congr 1
    exact List.map_congr_left fun e he => hprint e he
  -- The other goals are about one family each.
  all_goals
    intro g hg
    obtain ⟨e, he, rfl⟩ := List.mem_map.mp hg
  case first =>
    rw [hname e he]
    exact hfirst e he
  case seriesAscending =>
    have hascending : ((pick e).2.map fun q => printLabels q.labels).Pairwise (· < ·) := by
      rw [htexts e he]
      exact e.2.series.ascending
    exact (List.pairwise_map.mp hascending).imp Utf8.utf8_lt_utf8
  case seriesOf =>
    rw [hname e he]
    exact hof e he
  case once =>
    intro q hq hqname
    have hf : s.registry.families.get? q.name = some e.2 := by
      rw [hqname, hname e he]
      exact SortedMap.get?_eq_some_iff.mpr he
    exact h.existsUnique_series hplain hf (fun q' hq' => (hof e he q' hq').1) (htexts e he) hq

end Session.Fits

/-! ## Sessions -/

/-- The value that a series has after some operations: what the changes through the handles to it
make of zero. -/
def replayed (ops : List Operation) (name : String) (labels : List Label) : UInt64 :=
  replay 0 (changes (Request.AsksFor name labels) [] ops)

theorem asksFor_iff {name : String} {labels : List Label} {q : Request}
    (hlabels : ∀ l ∈ labels, l.IsPlain) (hq : ∀ l ∈ q.labels, l.IsPlain) :
    q.AsksFor name labels ↔ q.IsAt name (printLabels labels) :=
  and_congr_right fun _ => (printLabels_eq_iff hq hlabels).symm

/-- **A registry is faithful to what was asked of it.** Label texts have the labels in their order,
and so tell labels apart, but for the order they were given in. After any operations two handles go
to one cell if and only if they were requested by the same name and the same labels; a series has
the value that its changes come to, if it was requested, and none otherwise; and the export lists
the families and their series, each once, with these values. -/
theorem run_is_faithful :
    (∀ ls : List Label, IsText ls (printLabels ls)) ∧
    (∀ ls ms : List Label, (∀ l ∈ ls, l.IsPlain) → (∀ m ∈ ms, m.IsPlain) →
      (printLabels ls = printLabels ms ↔ ls.Perm ms)) ∧
    ∀ ops : List Operation, (∀ q ∈ requests ops, ∀ l ∈ q.labels, l.IsPlain) →
      List.Forall₂ (fun h q => h.kind = q.kind) (Session.run {} ops).handles (requests ops) ∧
      (∀ (i j : Nat) (h h' : Handle) (q q' : Request),
        (Session.run {} ops).handles[i]? = some h → (Session.run {} ops).handles[j]? = some h' →
        (requests ops)[i]? = some q → (requests ops)[j]? = some q' →
        (h.cell = h'.cell ↔ q.name = q'.name ∧ q.labels.Perm q'.labels)) ∧
      (∀ (name : String) (labels : List Label), (∀ l ∈ labels, l.IsPlain) →
        (Session.run {} ops).registry.value name labels =
          if ∃ q ∈ requests ops, q.AsksFor name labels then some (replayed ops name labels)
          else none) ∧
      ∃ families, Listing (requests ops) families ∧
        (Session.run {} ops).registry.print = printListing (replayed ops) families := by
  refine ⟨isText_printLabels, fun ls ms => printLabels_eq_iff, fun ops hplain => ?_⟩
  have hfits := Session.Fits.start.run ops
  rw [List.nil_append] at hfits
  have hreplayed : ∀ name labels, (∀ l ∈ labels, l.IsPlain) →
      replay 0 (changes (Request.IsAt name (printLabels labels)) [] ops) =
        replayed ops name labels := by
    intro name labels hlabels
    rw [replayed]
    congr 1
    exact changes_congr fun q hq => (asksFor_iff hlabels (hplain q hq)).symm
  refine ⟨hfits.handles.imp fun _ _ hq => hq.1, ?_, ?_, ?_⟩
  · intro i j h h' q q' hi hj hq hq'
    obtain ⟨p, hp, -, hcell⟩ := getElem?_of_forall₂ hfits.handles hi
    obtain ⟨p', hp', -, hcell'⟩ := getElem?_of_forall₂ hfits.handles hj
    obtain rfl : p = q := Option.some.inj (hp.symm.trans hq)
    obtain rfl : p' = q' := Option.some.inj (hp'.symm.trans hq')
    rw [← printLabels_eq_iff (hplain p (List.mem_of_getElem? hp))
      (hplain p' (List.mem_of_getElem? hp'))]
    constructor
    · intro heq
      rw [← heq] at hcell'
      exact hfits.apart hcell hcell'
    · rintro ⟨hname, htext⟩
      rw [hname, htext, hcell'] at hcell
      exact (Option.some.inj hcell).symm
  · intro name labels hlabels
    rw [hfits.value_eq, hreplayed name labels hlabels]
    refine if_congr (exists_congr fun q => and_congr_right fun hq => ?_) rfl rfl
    exact (asksFor_iff hlabels (hplain q hq)).symm
  · obtain ⟨families, hlisting, hprint⟩ := hfits.exists_listing hplain
    refine ⟨families, hlisting, hprint.trans ?_⟩
    -- Every series that is listed was requested, so its labels are plain.
    rw [printListing, printListing]
    congr 1
    refine List.map_congr_left fun f hf => ?_
    show _ ++ String.join _ = _ ++ String.join _
    congr 2
    refine List.map_congr_left fun q hq => ?_
    show q.line _ = q.line _
    rw [hreplayed q.name q.labels (hplain q (hlisting.seriesOf f hf q hq).1)]

/-- A counter and a gauge of one series, whose sum wraps around, and a series without labels. -/
theorem run_is_faithful_at_shared_series :
    let ops : List Operation :=
      [.request ⟨.counter, "e", "help", [("a", "1"), ("b", "2")]⟩, .change 0 (.inc 5),
        .request ⟨.gauge, "e", "other", [("b", "2"), ("a", "1")]⟩, .change 1 (.set 3),
        .change 0 (.inc (-1)), .request ⟨.gauge, "d", "none", []⟩]
    (∀ q ∈ requests ops, ∀ l ∈ q.labels, l.IsPlain) ∧
      (Session.run {} ops).registry.value "e" [("b", "2"), ("a", "1")] = some 2 ∧
      (Session.run {} ops).registry.print =
        "# HELP d none\n# TYPE d gauge\nd 0\n" ++
          "# HELP e help\n# TYPE e counter\ne\x7ba=\"1\",b=\"2\"\x7d 2\n" := by
  intro ops
  have hplain : ∀ q ∈ requests ops, ∀ l ∈ q.labels, l.IsPlain := by decide
  obtain ⟨-, -, hvalue, -⟩ := run_is_faithful.2.2 ops hplain
  refine ⟨hplain, (hvalue "e" [("b", "2"), ("a", "1")] (by decide)).trans ?_, ?_⟩
  · decide
  -- Sorting does not compute, so the texts of the labels are given first.
  have hnone : printLabels [] = "" := String.isEmpty_iff.mp ((printLabels_isEmpty_iff []).mpr rfl)
  have htext : printLabels [("a", "1"), ("b", "2")] = "a=\"1\",b=\"2\"" := by
    rw [printLabels, List.mergeSort_of_pairwise (by decide)]
    decide +kernel
  have htext' : printLabels [("b", "2"), ("a", "1")] = "a=\"1\",b=\"2\"" := by
    rw [← htext, printLabels_eq_iff (by decide) (by decide)]
    decide
  simp only [ops, Session.run, List.foldl_cons, List.foldl_nil, Session.step, Registry.request,
    hnone, htext, htext']
  decide +kernel

end LogEgress.Metrics
