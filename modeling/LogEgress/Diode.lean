set_option autoImplicit false

/-! # The diode

A diode is a ring of buckets between one producer and one consumer. The producer never waits: when
the ring is full it overwrites the oldest entry. The consumer learns from the numbers of the
entries how many it missed. Writing an entry takes two steps, claiming a number and storing the
entry, between which the consumer may run.
-/

namespace LogEgress

/-- A ring of buckets, each empty or with a numbered entry. -/
structure Diode (α : Type) where
  /-- The buckets; there is at least one. -/
  buckets : List (Option (Nat × α))
  /-- The number of the next entry to be written. -/
  writeIndex : Nat
  /-- The number of the next entry to be read. -/
  readIndex : Nat
  deriving Repr

namespace Diode

variable {α : Type}

/-- An empty ring of a size, or of one bucket. -/
def ofSize (size : Nat) : Diode α := ⟨List.replicate (max 1 size) none, 0, 0⟩

/-- The size of a ring where none is asked for. -/
def defaultSize : Nat := 10000

/-- The number of buckets. -/
def capacity (d : Diode α) : Nat := d.buckets.length

/-- The first step of writing: takes a number. -/
def claim (d : Diode α) : Nat × Diode α := (d.writeIndex, { d with writeIndex := d.writeIndex + 1 })

/-- The second step of writing: puts the entry with a number into its bucket. -/
def store (seq : Nat) (x : α) (d : Diode α) : Diode α :=
  { d with buckets := d.buckets.set (seq % d.capacity) (some (seq, x)) }

/-- Writes an entry. -/
def set (x : α) (d : Diode α) : Diode α :=
  let (seq, d) := d.claim
  d.store seq x

/-- What one look at the ring gives: the entry, if one is ready, and the number of entries missed,
if any were. -/
structure Look (α : Type) where
  got : Option α
  missed : Option Nat
  deriving Repr

/-- Looks at the next bucket and empties it. An entry of an earlier lap is left over: it was
counted as missed when the reader passed its place. -/
def tryNext (d : Diode α) : Look α × Diode α :=
  let place := d.readIndex % d.capacity
  match d.buckets[place]? with
  | some (some (seq, x)) =>
    -- The bucket is emptied whatever was in it.
    let d := { d with buckets := d.buckets.set place none }
    if seq < d.readIndex then (⟨none, none⟩, d)
    else
      let missed := if d.readIndex < seq then some (seq - d.readIndex) else none
      (⟨some x, missed⟩, { d with readIndex := seq + 1 })
  | _ => (⟨none, none⟩, d)

/-- The entries read one after the other until a look gives none, and the numbers of entries
missed. The first number bounds the looks. -/
def drainFor : Nat → Diode α → List α × List Nat × Diode α
  | 0, d => ([], [], d)
  | n + 1, d =>
    let (look, d) := d.tryNext
    match look.got with
    | none => ([], [], d)
    | some x =>
      let (xs, ms, d) := drainFor n d
      (x :: xs, look.missed.toList ++ ms, d)

/-- Reads until a look gives none. Each look before empties a bucket, so there are no more of them
than buckets. -/
def drain (d : Diode α) : List α × List Nat × Diode α := drainFor (d.capacity + 1) d

end Diode

end LogEgress
