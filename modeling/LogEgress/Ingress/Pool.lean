import LogEgress.Ingress.Error
import LogEgress.Notice
import LogEgress.Ticker

set_option autoImplicit false

/-! # The pool of provider clients

A fixed number of slots hold clients that are connected to the log provider. Whoever needs a
client takes the one in the next slot, in turn. A monitor checks the slots from time to time: it
dials for the empty ones, and replaces clients that are invalid or too old, so that long streams
do not all stay with one instance of the provider. Times are in milliseconds.
-/

namespace LogEgress.Ingress

/-- A client that was dialed. -/
structure Client where
  /-- Whether it is still of use. Once it is not, it never is again. -/
  valid : Bool := true
  /-- How often it was closed. -/
  closes : Nat := 0
  deriving DecidableEq, Repr

/-- A client in a slot: its number, and when it was dialed. -/
structure Slot where
  client : Nat
  since : Nat
  deriving DecidableEq, Repr

/-- Answers what becomes of a dial, counted from 0. -/
abbrev Dialer := Nat → Except Error Unit

/-- The slots, the number of looks at them, the clients dialed so far, and the number of dials. -/
structure Pool where
  slots : List (Option Slot)
  looks : Nat := 0
  clients : List Client := []
  dials : Nat := 0
  deriving DecidableEq, Repr

namespace Pool

/-- An empty pool with a number of slots, or with one. -/
def ofSize (size : Nat) : Pool := { slots := List.replicate (max 1 size) none }

/-- The number of slots. -/
def size (p : Pool) : Nat := p.slots.length

/-- The number of slots with a client. -/
def connected (p : Pool) : Nat := p.slots.countP Option.isSome

/-- Whether a client is of use. -/
def isValid (p : Pool) (client : Nat) : Bool :=
  match p.clients[client]? with
  | some c => c.valid
  | none => false

/-- Marks a client as of no use. -/
def invalidate (client : Nat) (p : Pool) : Pool :=
  { p with clients := p.clients.modify client fun c => { c with valid := false } }

/-- Closes a client. -/
def close (client : Nat) (p : Pool) : Pool :=
  { p with clients := p.clients.modify client fun c => { c with closes := c.closes + 1 } }

/-! ## Taking a client -/

/-- Looks at the next slot, for a valid client. -/
def look (p : Pool) : Option Nat × Pool :=
  let found := match p.slots[p.looks % p.size]? with
    | some (some slot) => if p.isValid slot.client then some slot.client else none
    | _ => none
  (found, { p with looks := p.looks + 1 })

/-- Looks at the slots one after the other, a number of times at most, until there is a valid
client. -/
def take : Nat → Pool → Option Nat × Pool
  | 0, p => (none, p)
  | n + 1, p =>
    match p.look with
    | (some client, p) => (some client, p)
    | (none, p) => take n p

/-! ## Checking the slots -/

/-- Whether a slot has to be dialed for: it is empty, or its client is invalid or too old. -/
def needsDial (lifetime now : Nat) (p : Pool) : Option Slot → Bool
  | none => true
  | some s => !p.isValid s.client || lifetime ≤ now - s.since

/-- The slots that have to be dialed for. -/
def due (lifetime now : Nat) (p : Pool) : List Nat :=
  (p.slots.zipIdx.filter fun s => p.needsDial lifetime now s.1).map (·.2)

/-- The notice about a dial that failed. -/
def dialNotice (slot : Nat) (e : Error) : Notice :=
  ⟨.warn, "ingress pool: failed to dial slot " ++ toString slot ++ ": " ++ e.message⟩

/-- Dials once. The client that this brings is not in its slot yet. -/
def dialOnce (dial : Dialer) (now : Nat) (p : Pool) : Except Error Slot × Pool :=
  let answer := dial p.dials
  let p := { p with dials := p.dials + 1 }
  match answer with
  | .ok () => (.ok ⟨p.clients.length, now⟩, { p with clients := p.clients ++ [({} : Client)] })
  | .error e => (.error e, p)

/-- Puts something into a slot, and takes out what was there. -/
def put (idx : Nat) (slot : Option Slot) (p : Pool) : Option Slot × Pool :=
  (p.slots[idx]?.join, { p with slots := p.slots.set idx slot })

/-- Puts something into a slot, and closes the client that was there. -/
def replace (idx : Nat) (slot : Option Slot) (p : Pool) : Pool :=
  -- The new client is in its slot before the old one is closed.
  match p.put idx slot with
  | (some old, p) => p.close old.client
  | (none, p) => p

/-- Dials for a slot. If that fails, the slot is empty afterwards. -/
def redial (dial : Dialer) (now idx : Nat) (p : Pool) : List Notice × Pool :=
  match p.dialOnce dial now with
  | (.ok slot, p) => ([], p.replace idx (some slot))
  | (.error e, p) => ([dialNotice idx e], p.replace idx none)

/-- Dials for some slots. -/
def redialAll (dial : Dialer) (now : Nat) : List Nat → Pool → List Notice × Pool
  | [], p => ([], p)
  | idx :: rest, p =>
    let (ns, p) := p.redial dial now idx
    let (ms, p) := redialAll dial now rest p
    (ns ++ ms, p)

/-- Dials for the slots that need it when the check begins. -/
def check (dial : Dialer) (lifetime now : Nat) (p : Pool) : List Notice × Pool :=
  redialAll dial now (p.due lifetime now) p

/-- Empties the slots, and takes out the clients that were there. -/
def clear (p : Pool) : List Nat × Pool :=
  ((p.slots.filterMap id).map (·.client), { p with slots := p.slots.map fun _ => none })

/-- Empties the slots and closes their clients. -/
def closeAll (p : Pool) : Pool :=
  let (clients, p) := p.clear
  clients.foldl (fun p c => p.close c) p

/-! ## The monitor -/

/-- A number of checks, at the ticks of a ticker. -/
def checks (dial : Dialer) (lifetime : Nat) : Nat → Ticker → Pool → List Notice × Pool
  | 0, _, p => ([], p)
  | n + 1, t, p =>
    let (ns, p) := p.check dial lifetime t.due
    let (ms, p) := checks dial lifetime n t.next p
    (ns ++ ms, p)

/-- How often the slots are checked, and how old a client may get. -/
structure Rules where
  checkInterval : Nat := 1000
  lifetime : Nat := 300000
  /-- The wait between two looks at the slots. -/
  retryWait : Nat := 100

/-- Checks the slots at once and after every interval, up to a time. Without an interval there is
no monitor. -/
def monitor (dial : Dialer) (rules : Rules) (start stop : Nat) (p : Pool) : List Notice × Pool :=
  match Ticker.start? rules.checkInterval start with
  | some t => p.checks dial rules.lifetime (t.ticksBefore stop) t
  | none => ([], p)

/-! ## Waiting for a client -/

/-- The number at which the count of looks begins again at zero. -/
def lookLimit : Nat := UInt64.size

/-- A look by a count of 64 bits. -/
def lookCounted (p : Pool) : Option Nat × Pool :=
  let (found, p) := p.look
  (found, { p with looks := p.looks % lookLimit })

/-- A client that was taken. -/
structure Obtained where
  client : Nat
  /-- How often it was waited for. -/
  waits : Nat
  /-- When it was taken. -/
  now : Nat
  /-- The pool afterwards. -/
  pool : Pool
  deriving DecidableEq, Repr

/-- Looks at one slot after the other, at a number of them at most, with a wait after each look in
vain, until there is a valid client. -/
def seek (rules : Rules) : Nat → Nat → Nat → Pool → Option Obtained
  | 0, _, _, _ => none
  | n + 1, waits, now, p =>
    match p.lookCounted with
    | (some client, p) => some ⟨client, waits, now, p⟩
    | (none, p) => seek rules n (waits + 1) (now + rules.retryWait) p

/-- Takes the next client that is of use. There may never be one: after `lookLimit` looks the count
is where it was at first, so if these are all in vain the waiting has no end. -/
def next (rules : Rules) (now : Nat) (p : Pool) : Option Obtained := p.seek rules lookLimit 0 now

/-- Takes one client after the other. -/
def nextMany (rules : Rules) : Nat → Nat → Pool → Option (List Nat × Nat × Pool)
  | 0, now, p => some ([], now, p)
  | n + 1, now, p => do
    let taken ← p.next rules now
    let (clients, now, p) ← nextMany rules n taken.now taken.pool
    return (taken.client :: clients, now, p)

end Pool

end LogEgress.Ingress
