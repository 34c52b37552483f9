import LogEgress.Binding
import LogEgress.Sorted.Map

set_option autoImplicit false

/-! # Placement of bindings on adapters

Every desired binding is to be held by two adapters. A plan is made from what the adapters
report: copies of bindings that are no longer desired are deleted, and missing copies are created
on the adapters that follow a place that the hash of the binding chooses.
-/

namespace LogEgress

/-- What each adapter holds, by its address. -/
abbrev Holdings := SortedMap String (SortedSet Binding)

namespace Holdings

/-- Whether an address is known and holds a binding. -/
def holds (s : Holdings) (addr : String) (b : Binding) : Bool :=
  match s.get? addr with
  | some held => decide (b ∈ held)
  | none => false

/-- The number of adapters that hold a binding. -/
def copies (s : Holdings) (b : Binding) : Nat := s.values.countP fun held => decide (b ∈ held)

/-- The number of bindings that each adapter holds. -/
def counts (s : Holdings) : List (String × Nat) := s.entries.map fun (a, held) => (a, held.size)

end Holdings

namespace Placement

/-- How many adapters are to hold each desired binding. -/
def replicas : Nat := 2

/-- Copies to create and to delete, in the order in which they are carried out. -/
structure Plan where
  creates : List (String × Binding)
  deletes : List (String × Binding)
  deriving DecidableEq

/-- Whether there is nothing to do. -/
def Plan.isEmpty (p : Plan) : Bool := p.creates.isEmpty && p.deletes.isEmpty

/-- The adapters in the order in which they are asked to hold a binding: all of them, cyclically
from the one that the hash of the binding chooses. -/
def ring (adapters : List String) (b : Binding) : List String :=
  let k := b.stableHash.toNat % adapters.length
  adapters.drop k ++ adapters.take k

/-- Whether an adapter reported and does not hold a binding yet. -/
def canTake (actual : Holdings) (b : Binding) (addr : String) : Bool :=
  actual.contains addr && !actual.holds addr b

/-- Where the missing copies of a binding go. -/
def targets (adapters : List String) (actual : Holdings) (b : Binding) : List String :=
  ((ring adapters b).filter (canTake actual b)).take (replicas - actual.copies b)

/-- The copies to delete: those of bindings that are not desired. -/
def surplus (desired : SortedSet Binding) (actual : Holdings) : List (String × Binding) :=
  actual.entries.flatMap fun (addr, held) =>
    (held.toList.filter fun b => b ∉ desired).map (addr, ·)

/-- The plan for some desired bindings, what the adapters hold and the configured addresses.
Repetitions and order of the two lists do not matter. -/
def plan (desired : List Binding) (actual : Holdings) (adapters : List String) : Plan :=
  -- As sets, the two lists have no repetitions and one order.
  let wanted := SortedSet.ofList desired
  let ring := (SortedSet.ofList adapters).toList
  { creates := wanted.toList.flatMap fun b => (targets ring actual b).map (·, b)
    deletes := surplus wanted actual }

/-- Carries out one deletion; at an unknown address there is nothing to delete. -/
def applyDelete (s : Holdings) (d : String × Binding) : Holdings := s.modify d.1 (·.erase d.2)

/-- Carries out one creation. -/
def applyCreate (s : Holdings) (c : String × Binding) : Holdings :=
  s.insert c.1 (((s.get? c.1).getD {}).insert c.2)

/-- What the adapters hold after a plan was carried out, its deletions first. -/
def apply (s : Holdings) (p : Plan) : Holdings :=
  p.creates.foldl applyCreate (p.deletes.foldl applyDelete s)

/-! ## Terms -/

/-- What happens in one term: the desired bindings, the adapters that do not answer, and those
that forgot what they held. -/
structure Step where
  desired : List Binding
  hidden : List String
  lost : List String

/-- What the adapters hold when the term begins. -/
def forget (s : Holdings) (lost : List String) : Holdings :=
  s.mapValues fun addr held => if addr ∈ lost then {} else held

/-- What the planner sees. -/
def visible (s : Holdings) (hidden : List String) : Holdings := s.filter fun addr _ => addr ∉ hidden

/-- One term: the plan that is made, and what the adapters hold after it. -/
def term (adapters : List String) (s : Holdings) (step : Step) : Plan × Holdings :=
  let s := forget s step.lost
  let p := plan step.desired (visible s step.hidden) adapters
  (p, apply s p)

/-- The terms of a run. -/
def run (adapters : List String) : Holdings → List Step → List (Plan × Holdings)
  | _, [] => []
  | s, step :: steps =>
    let r := term adapters s step
    r :: run adapters r.2 steps

/-- Every adapter present and empty. -/
def start (adapters : List String) : Holdings :=
  SortedMap.ofList (adapters.map fun a => (a, {}))

end Placement

end LogEgress
