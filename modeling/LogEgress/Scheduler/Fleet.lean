import LogEgress.Binding
import LogEgress.Notice
import LogEgress.Placement
import LogEgress.Rpc.Error

set_option autoImplicit false

/-! # The adapters of a scheduler

A scheduler knows its adapters by their addresses and calls them, each call with a deadline. A
failed call is reported and is never the end of the scheduler; what an adapter holds is known only
if it answered in time. The state of an adapter may be of any type: `Server` says how an adapter
answers. Times are in milliseconds.
-/

namespace LogEgress.Scheduler

/-- What a caller sees of a call. -/
inductive Reply (α : Type) where
  /-- An answer came after a time. -/
  | answered (elapsed : Nat) (result : Except Rpc.Error α)
  /-- No answer came before the deadline. -/
  | late
  /-- The task that made the call broke down after a time. -/
  | crashed (elapsed : Nat)

/-- What is done to a binding at an adapter. -/
inductive Change where
  | create
  | delete
  deriving DecidableEq, Repr

/-- The name of a change. -/
def Change.name : Change → String
  | .create => "create"
  | .delete => "delete"

/-- How an adapter answers calls with a deadline, and what they do to its state. -/
structure Server (σ : Type) where
  list : Nat → σ → Reply (List Binding) × σ
  change : Change → Binding → Nat → σ → Reply Unit × σ

/-- The adapters in the order in which they are configured, each with its address. -/
abbrev Fleet (σ : Type) := List (String × σ)

/-- The deadlines of calls. -/
structure Deadlines where
  list : Nat := 3000
  change : Nat := 1000
  deriving DecidableEq, Repr

/-- What calls cost and left behind: the time, the notices, and the number of failed
connections. -/
structure Toll where
  elapsed : Nat := 0
  notices : List Notice := []
  failedConnections : Nat := 0

namespace Toll

/-- The toll of calls that are made one after the other. -/
def andThen (a b : Toll) : Toll :=
  ⟨a.elapsed + b.elapsed, a.notices ++ b.notices, a.failedConnections + b.failedConnections⟩

/-- The toll of calls that are made at once. -/
def beside (a b : Toll) : Toll :=
  ⟨max a.elapsed b.elapsed, a.notices ++ b.notices, a.failedConnections + b.failedConnections⟩

end Toll

variable {σ α : Type}

/-! ## Single calls -/

/-- The notice about a failed call. -/
def failureNotice (addr op : String) (e : Rpc.Error) : Notice :=
  ⟨.warn, "adapter " ++ addr ++ " " ++ op ++ " failed: " ++ e.message⟩

/-- Whether an error is that of a connection that was not made. -/
def isConnectFailure : Rpc.Error → Bool
  | .connect _ => true
  | _ => false

/-- The toll of an error. -/
def tollOfError (addr op : String) (elapsed : Nat) (e : Rpc.Error) : Toll :=
  ⟨elapsed, [failureNotice addr op e], if isConnectFailure e then 1 else 0⟩

/-- The result of a call, if the task that made it did not break down, and its toll. -/
def settle (addr op : String) (deadline : Nat) : Reply α → Option (Except Rpc.Error α) × Toll
  | .answered t (.ok x) => (some (.ok x), { elapsed := t })
  | .answered t (.error e) => (some (.error e), tollOfError addr op t e)
  | .late => (some (.error .timeout), tollOfError addr op deadline .timeout)
  | .crashed t => (none, { elapsed := t })

/-- The error of a call to an address that is not configured. -/
def unknownAdapter (addr : String) : Rpc.Error := .transport ("unknown adapter " ++ addr)

/-- Changes a binding at the first adapter with an address. -/
def change (srv : Server σ) (deadlines : Deadlines) (c : Change) (addr : String) (b : Binding) :
    Fleet σ → Option (Except Rpc.Error Unit) × Toll × Fleet σ
  | [] => (some (.error (unknownAdapter addr)), {}, [])
  | (a, s) :: rest =>
    if a = addr then
      let (r, s) := srv.change c b deadlines.change s
      let (r, toll) := settle addr c.name deadlines.change r
      (r, toll, (a, s) :: rest)
    else
      let (r, toll, rest) := change srv deadlines c addr b rest
      (r, toll, (a, s) :: rest)

/-! ## Listing -/

/-- What listing gives: for each adapter that answered in time, when it did and what it holds. -/
structure Listing where
  answers : List (Nat × String × List Binding) := []
  toll : Toll := {}

/-- The notice about a task that broke down. -/
def crashNotice : Notice := ⟨.error, "adapter list task failed"⟩

/-- Asks all adapters at once what they hold. -/
def listEach (srv : Server σ) (deadlines : Deadlines) : Fleet σ → Listing × Fleet σ
  | [] => ({}, [])
  | (addr, s) :: rest =>
    let (r, s) := srv.list deadlines.list s
    let (l, rest) := listEach srv deadlines rest
    let (r, own) := settle addr "list" deadlines.list r
    let toll := own.beside l.toll
    (match r with
      | some (.ok bs) => ⟨(own.elapsed, addr, bs) :: l.answers, toll⟩
      | some (.error _) => { l with toll := toll }
      | none => { l with toll := { toll with notices := crashNotice :: toll.notices } },
    (addr, s) :: rest)

/-- What is known of the adapters after listing. Of two answers under one address the later one
counts. -/
def Listing.holdings (l : Listing) : Holdings :=
  -- The sort is stable: of answers at one time the earlier adapter's comes first.
  SortedMap.ofList ((l.answers.mergeSort fun a b => a.1 ≤ b.1).map fun a =>
    (a.2.1, SortedSet.ofList a.2.2))

/-! ## Many changes -/

/-- What comes of changes: how many succeeded, and their toll. -/
structure Work where
  succeeded : Nat := 0
  toll : Toll := {}

/-- Makes changes at one adapter, one after the other. If the task breaks down the rest is
dropped, and the successes do not count. -/
def changeInTurn (srv : Server σ) (deadlines : Deadlines) (c : Change) (addr : String) :
    List Binding → Nat → Fleet σ → Work × Fleet σ
  | [], done, fleet => ({ succeeded := done }, fleet)
  | b :: bs, done, fleet =>
    let (r, toll, fleet) := change srv deadlines c addr b fleet
    match r with
    -- What the task had done stays done, but no one is left to report it.
    | none => (⟨0, toll⟩, fleet)
    | some r =>
      let done := match r with
        | .ok () => done + 1
        | .error _ => done
      let (w, fleet) := changeInTurn srv deadlines c addr bs done fleet
      (⟨w.succeeded, toll.andThen w.toll⟩, fleet)

/-- Makes changes at some adapters at once, and at each of them in their order. -/
def changeAt (srv : Server σ) (deadlines : Deadlines) (c : Change)
    (changes : List (String × Binding)) : List String → Fleet σ → Work × Fleet σ
  | [], fleet => ({}, fleet)
  | addr :: addrs, fleet =>
    let own := (changes.filter (·.1 = addr)).map (·.2)
    let (w, fleet) := changeInTurn srv deadlines c addr own 0 fleet
    let (v, fleet) := changeAt srv deadlines c changes addrs fleet
    (⟨w.succeeded + v.succeeded, w.toll.beside v.toll⟩, fleet)

/-- Makes changes at all the adapters that they concern. -/
def changeAll (srv : Server σ) (deadlines : Deadlines) (c : Change)
    (changes : List (String × Binding)) (fleet : Fleet σ) : Work × Fleet σ :=
  changeAt srv deadlines c changes (SortedSet.ofList (changes.map (·.1))).toList fleet

end LogEgress.Scheduler
