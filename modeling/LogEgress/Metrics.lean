import LogEgress.Notice
import LogEgress.Sorted.Map

set_option autoImplicit false

/-! # Metrics

A registry holds series of 64-bit numbers, each in a cell of its own. The series of one name form a
family, which takes its help text and kind from the first request; in a family a series is known by
the text of its labels, in which the order of the labels does not count. Whoever requests a series
gets a handle to its cell.
-/

namespace LogEgress.Metrics

/-- What a metric measures. -/
inductive Kind where
  | counter
  | gauge
  deriving DecidableEq, Repr, Inhabited

/-- The name of a kind. -/
def Kind.name : Kind → String
  | .counter => "counter"
  | .gauge => "gauge"

/-- A label: its key and its value. -/
abbrev Label := String × String

/-! ## The text of labels -/

/-- Puts some characters in the place of one. -/
def replace (c : Char) (cs s : List Char) : List Char :=
  s.flatMap fun d => if d = c then cs else [d]

/-- A value as it stands between quotes. Backslashes are doubled first, so those that are put
before other characters stay single. -/
def escape (s : List Char) : List Char :=
  replace '\n' ['\\', 'n'] (replace '"' ['\\', '"'] (replace '\\' ['\\', '\\'] s))

/-- A label as it is written. -/
def printLabel (l : Label) : String :=
  l.1 ++ "=\"" ++ String.ofList (escape l.2.toList) ++ "\""

/-- The order of labels: by key, then by value. -/
def labelLe (a b : Label) : Bool := a.1 < b.1 || (a.1 = b.1 && !decide (b.2 < a.2))

/-- The text of labels, in their order. -/
def printLabels (ls : List Label) : String :=
  ",".intercalate ((ls.mergeSort labelLe).map printLabel)

/-! ## The registry -/

/-- The series of one name. -/
structure Family where
  help : String
  kind : Kind
  /-- The cell of each series, by the text of its labels. -/
  series : SortedMap String Nat

/-- All families, by name, and the cells with the values of their series. -/
structure Registry where
  families : SortedMap String Family := ∅
  cells : List UInt64 := []

instance : EmptyCollection Registry := ⟨{}⟩

/-- A series that was requested. It is changed through its cell. -/
structure Handle where
  kind : Kind
  cell : Nat
  deriving DecidableEq, Repr

namespace Registry

/-- The family of a name, or a new one. -/
def family (r : Registry) (kind : Kind) (name help : String) : Family :=
  (r.families.get? name).getD ⟨help, kind, ∅⟩

/-- The notice about a request for another kind than the family has. -/
def mismatch (f : Family) (kind : Kind) (name : String) : List Notice :=
  if f.kind = kind then []
  else [⟨.warn, "metric " ++ name ++ " registered as " ++ f.kind.name ++ " and requested as " ++
    kind.name⟩]

/-- Requests a series. A new one has a new cell, with zero. -/
def request (r : Registry) (kind : Kind) (name help : String) (labels : List Label) :
    Registry × Handle × List Notice :=
  let f := r.family kind name help
  let key := printLabels labels
  let notices := mismatch f kind name
  match f.series.get? key with
  | some cell => ({ r with families := r.families.insert name f }, ⟨kind, cell⟩, notices)
  | none =>
    let cell := r.cells.length
    let f := { f with series := f.series.insert key cell }
    (⟨r.families.insert name f, r.cells ++ [0]⟩, ⟨kind, cell⟩, notices)

/-- Changes the value of a series. -/
def update (r : Registry) (h : Handle) (g : UInt64 → UInt64) : Registry :=
  { r with cells := r.cells.modify h.cell g }

/-- Adds to a series; the sum wraps around. -/
def add (r : Registry) (h : Handle) (n : UInt64) : Registry := r.update h (· + n)

/-- Sets a series. -/
def set (r : Registry) (h : Handle) (n : UInt64) : Registry := r.update h fun _ => n

/-- The cell of a series that was requested. -/
def cell? (r : Registry) (name labels : String) : Option Nat :=
  (r.families.get? name).bind fun f => f.series.get? labels

/-- The value of a series that was requested. -/
def value (r : Registry) (name : String) (labels : List Label) : Option UInt64 :=
  (r.cell? name (printLabels labels)).bind (r.cells[·]?)

/-- A series as it is exported. -/
def printSeries (name labels : String) (value : UInt64) : String :=
  (if labels.isEmpty then name else name ++ "\x7b" ++ labels ++ "\x7d") ++ " " ++
    toString value.toNat ++ "\n"

/-- What stands before the series of a family: its help and its kind. -/
def printHead (name help : String) (kind : Kind) : String :=
  "# HELP " ++ name ++ " " ++ help ++ "\n# TYPE " ++ name ++ " " ++ kind.name ++ "\n"

/-- A family as it is exported, its series in the order of their texts. -/
def printFamily (r : Registry) (name : String) (f : Family) : String :=
  printHead name f.help f.kind ++ String.join (f.series.entries.map fun (labels, cell) =>
    printSeries name labels (r.cells.getD cell 0))

/-- All families in the Prometheus text format, in the order of their names. -/
def print (r : Registry) : String :=
  String.join (r.families.entries.map fun (name, f) => r.printFamily name f)

end Registry

/-! ## Sessions -/

/-- A request for a series. -/
structure Request where
  kind : Kind
  name : String
  help : String
  labels : List Label
  deriving DecidableEq, Repr, Inhabited

/-- What is done to a series: a counter goes up, a gauge is set. -/
inductive Change where
  | inc (n : UInt64)
  | set (n : UInt64)
  deriving DecidableEq, Repr

/-- The kind of handle that a change goes through. -/
def Change.kind : Change → Kind
  | .inc _ => .counter
  | .set _ => .gauge

/-- Changes a series. -/
def Registry.change (r : Registry) (h : Handle) : Change → Registry
  | .inc n => r.add h n
  | .set n => r.set h n

/-- An operation on a registry. Handles are counted from 0, in the order of the requests. -/
inductive Operation where
  | request (q : Request)
  | change (handle : Nat) (c : Change)
  deriving DecidableEq, Repr

/-- A registry and the handles that it gave out. -/
structure Session where
  registry : Registry := ∅
  handles : List Handle := []

namespace Session

/-- Carries out an operation. There is no change through a handle of another kind. -/
def step (s : Session) : Operation → Session
  | .request q =>
    let (r, h, _) := s.registry.request q.kind q.name q.help q.labels
    ⟨r, s.handles ++ [h]⟩
  | .change i c =>
    match s.handles[i]? with
    | some h => if h.kind = c.kind then { s with registry := s.registry.change h c } else s
    | none => s

/-- Carries out one operation after the other. -/
def run (s : Session) (ops : List Operation) : Session := ops.foldl step s

end Session

end LogEgress.Metrics
