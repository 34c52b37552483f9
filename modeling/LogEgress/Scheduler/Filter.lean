import LogEgress.Blacklist
import LogEgress.Drain
import LogEgress.Notice
import LogEgress.Scheduler.Fetch

set_option autoImplicit false

/-! # Which bindings are scheduled

Two filters stand between the provider and the planner. One keeps the drains that ask for this
version of the service. The other leaves out drains without an address and drains one of whose
addresses is forbidden; within one fetch it looks up each drain once.
-/

namespace LogEgress.Scheduler

/-! ## Versions -/

/-- The parameter by which a drain asks for a version. -/
def versionParameter : List Char := "drain-version".toList

/-- The version of this service. -/
def version : List Char := "2.0".toList

/-- Whether a drain asks for this version. -/
def acceptsVersion (drain : String) : Bool :=
  match Url.parse drain.toList with
  | .ok u => u.pairs.contains (versionParameter, version)
  | .error _ => false

/-- Keeps the bindings whose drains ask for this version. -/
def filterVersion (f : Fetched) : Fetched :=
  { f with bindings := f.bindings.filter fun b => acceptsVersion b.drain }

/-! ## Addresses -/

/-- Why a binding is left out. -/
inductive Rejection where
  | invalidUrl (fault : Url.Fault)
  | missingHost
  | unresolvable (detail : String)
  | forbidden (address : IpAddr)
  deriving DecidableEq

/-- The wording of a rejection. -/
def Rejection.message : Rejection → String
  | .invalidUrl f => "invalid url: " ++ f.message
  | .missingHost => "missing host"
  | .unresolvable s => "cannot resolve host: " ++ s
  | .forbidden x => "resolved to blacklisted address " ++ x.text

/-- Where a drain is: at an address, or at a name that has to be looked up. -/
inductive Target where
  | address (address : IpAddr)
  | name (host : String)
  deriving DecidableEq

/-- Where a drain is. -/
def target (drain : String) : Except Rejection Target :=
  match Url.parse drain.toList with
  | .error f => .error (.invalidUrl f)
  | .ok u => match u.host with
    | some (.ipv4 x) => .ok (.address (.v4 x))
    | some (.ipv6 x) => .ok (.address (.v6 x))
    | some (.domain (c :: cs)) => .ok (.name (String.ofList (c :: cs)))
    | _ => .error .missingHost

/-- Answers what addresses a host has. The answer may depend on the hosts asked for before. -/
abbrev Resolver := List String → String → Except String (List IpAddr)

/-- The resolver that knows the names of a table. Any other host has to be an address itself. -/
def Resolver.ofTable (table : List (String × List IpAddr)) : Resolver := fun _ host =>
  match table.lookup host with
  | some xs => .ok xs
  | none => match Drain.literal? host.toList with
    | some x => .ok [x]
    | none => .error ("no such host " ++ host)

/-- What is known about the addresses of a drain. -/
abbrev Verdict := Except Rejection (List IpAddr)

/-- What a fetch has found out so far: the verdict on each drain seen, and the hosts looked up. -/
structure Known where
  drains : List (String × Verdict) := []
  lookups : List String := []

/-- The addresses of a drain, looked up if it is named. -/
def addresses (resolve : Resolver) (known : Known) (drain : String) : Verdict × List String :=
  match target drain with
  | .error r => (.error r, known.lookups)
  -- An address needs no one to be asked.
  | .ok (.address x) => (.ok [x], known.lookups)
  | .ok (.name host) =>
    (match resolve known.lookups host with
      | .ok xs => .ok xs
      | .error s => .error (.unresolvable s),
    known.lookups ++ [host])

/-- The addresses of a drain, looked up only if the drain was not seen before. -/
def consult (resolve : Resolver) (known : Known) (drain : String) : Verdict × Known :=
  match known.drains.lookup drain with
  | some v => (v, known)
  | none =>
    let (v, lookups) := addresses resolve known drain
    (v, ⟨(drain, v) :: known.drains, lookups⟩)

/-- Why a drain with given addresses is left out, if it is: the first address that is
forbidden. -/
def judge (bl : Blacklist) : Verdict → Option Rejection
  | .error r => some r
  | .ok xs => (xs.find? bl.forbids).map .forbidden

/-- What the filter makes of some bindings: those it keeps, a notice on each of the others, and
what it has found out. -/
structure Sifted where
  kept : List Binding
  notices : List Notice
  known : Known

/-- The notice about a binding that is left out. -/
def rejectionNotice (b : Binding) (r : Rejection) : Notice :=
  ⟨.warn, "rejected drain " ++ b.drain ++ " for app " ++ b.appId ++ ": " ++ r.message⟩

/-- Sifts bindings in their order. -/
def sift (bl : Blacklist) (resolve : Resolver) : Known → List Binding → Sifted
  | known, [] => ⟨[], [], known⟩
  | known, b :: bs =>
    let (v, known) := consult resolve known b.drain
    let rest := sift bl resolve known bs
    match judge bl v with
    | none => { rest with kept := b :: rest.kept }
    | some r => { rest with notices := rejectionNotice b r :: rest.notices }

/-- Leaves out the bindings whose drains have no address or a forbidden one, and counts them. -/
def filterBlacklist (bl : Blacklist) (resolve : Resolver) (f : Fetched) : Fetched × Sifted :=
  let s := sift bl resolve {} f.bindings
  ({ f with bindings := s.kept, invalid := f.invalid + s.notices.length }, s)

/-- The filters of the scheduler, one after the other. -/
def filterChain (requireVersion : Bool) (bl : Blacklist) (resolve : Resolver) (f : Fetched) :
    Fetched × Sifted :=
  filterBlacklist bl resolve (if requireVersion then filterVersion f else f)

/-- What the filters make of an answer of the provider; a failure stays as it is. -/
def filterAnswer (requireVersion : Bool) (bl : Blacklist) (resolve : Resolver)
    (answer : Except FetchError Fetched) : Except FetchError (Fetched × Sifted) :=
  answer.map (filterChain requireVersion bl resolve)

end LogEgress.Scheduler
