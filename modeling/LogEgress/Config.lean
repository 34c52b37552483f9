import LogEgress.Blacklist
import LogEgress.Text.Integer
import LogEgress.Tls.Files

set_option autoImplicit false

/-! # Configuration

Both programs are configured by environment variables. A number that is not set or cannot be read
falls back to its default; a variable that has to be there, or ranges that cannot be read, are
errors.
-/

namespace LogEgress.Config

/-- The values of the variables that are set. -/
abbrev Environment := String → Option String

/-- Why a configuration is refused. -/
inductive Fault where
  /-- A variable is not set, or has no value. -/
  | missing (name : String)
  /-- The value of a variable is no blacklist. -/
  | blacklist (name : String) (fault : RangeFault)
  deriving DecidableEq, Repr

/-- The wording of a fault. -/
def Fault.message : Fault → String
  | .missing name => "missing required environment variable " ++ name
  | .blacklist name f => "invalid " ++ name ++ ": " ++ f.message

namespace Environment

/-- A text, with a default. -/
def text (env : Environment) (name default : String) : String := (env name).getD default

/-- A text that is not blank. -/
def required (env : Environment) (name : String) : Except Fault String :=
  match env name with
  | some v => if Text.trim v.toList = [] then .error (.missing name) else .ok v
  | none => .error (.missing name)

/-- A number up to a greatest one; blanks around it do not count. -/
def number? (env : Environment) (name : String) (greatest : Nat) : Option Nat :=
  (env name).bind fun v => (Text.readNat greatest (Text.trim v.toList)).toOption

/-- A 64-bit number, with a default. -/
def number (env : Environment) (name : String) (default : Nat) : Nat :=
  (env.number? name Text.greatest64).getD default

/-- A switch: `1` and `true` in any case are on, every other value is off. -/
def switch (env : Environment) (name : String) (default : Bool) : Bool :=
  match env name with
  | some v => v == "1" || v.toList.map Char.toLower == "true".toList
  | none => default

/-- The parts of a text between commas that are not blank. -/
def list (env : Environment) (name : String) : List String :=
  match env name with
  | some v =>
    (((Text.splitOn ',' v.toList).map Text.trim).filter (· ≠ [])).map String.ofList
  | none => []

/-- The files of a TLS identity. -/
def tls (env : Environment) (owner : String) : Tls.Files where
  ca := env (owner ++ "_CA_FILE")
  cert := env (owner ++ "_CERT_FILE")
  key := env (owner ++ "_KEY_FILE")

end Environment

/-- The configuration of the scheduler. Times are in milliseconds. -/
structure Scheduler where
  apiUrl : String
  batchSize : Nat
  pollingInterval : Nat
  adapters : List String
  blacklist : Blacklist
  requireVersion : Bool
  healthAddress : String
  tls : Tls.Files
  debug : Bool

/-- Reads the configuration of the scheduler. -/
def Scheduler.read (env : Environment) : Except Fault Scheduler := do
  let apiUrl ← env.required "SCHEDULER_API_URL"
  let adapters := env.list "SCHEDULER_ADAPTER_ADDRS"
  -- Nothing but blanks and commas is as good as nothing.
  if adapters.isEmpty then throw (.missing "SCHEDULER_ADAPTER_ADDRS")
  let blacklist ←
    match Blacklist.parse (env.text "SCHEDULER_BLACKLIST_RANGES" "").toList with
    | .ok bl => .ok bl
    | .error f => .error (.blacklist "SCHEDULER_BLACKLIST_RANGES" f)
  return {
    apiUrl := String.ofList (Text.dropEndWhile (· = '/') apiUrl.toList)
    batchSize := env.number "SCHEDULER_API_BATCH_SIZE" 1000
    pollingInterval := env.number "SCHEDULER_API_POLLING_INTERVAL_SECS" 15 * 1000
    adapters := adapters
    blacklist := blacklist
    requireVersion := env.switch "SCHEDULER_REQUIRE_DRAIN_VERSION" true
    healthAddress := env.text "SCHEDULER_HEALTH_ADDR" "0.0.0.0:8080"
    tls := env.tls "SCHEDULER"
    debug := (env "DEBUG").isSome }

/-- The configuration of an adapter. Times are in milliseconds. -/
structure Adapter where
  listenAddress : String
  healthAddress : String
  /-- The number under which the adapter reports refusals. -/
  index : String
  /-- How many bindings the adapter holds at most. -/
  maxBindings : Option Nat
  providerAddress : String
  connectionCount : Nat
  connectionLifetime : Nat
  checkInterval : Nat
  retryWait : Nat
  providerDialTimeout : Nat
  drainDialTimeout : Nat
  drainTimeout : Nat
  skipCertVerify : Bool
  maxRetries : Nat
  logIngressUrl : Option String
  tls : Tls.Files
  debug : Bool

/-- Reads the configuration of an adapter. -/
def Adapter.read (env : Environment) : Except Fault Adapter := do
  let providerAddress ← env.required "ADAPTER_RLP_ADDR"
  return {
    listenAddress := env.text "ADAPTER_LISTEN_ADDR" "0.0.0.0:4443"
    healthAddress := env.text "ADAPTER_HEALTH_ADDR" "0.0.0.0:8081"
    index := env.text "ADAPTER_INDEX" "0"
    maxBindings := env.number? "ADAPTER_MAX_BINDINGS" Text.greatest64
    providerAddress := providerAddress
    connectionCount := env.number "ADAPTER_RLP_CONN_COUNT" 5
    connectionLifetime := env.number "ADAPTER_RLP_CONN_TTL_SECS" 300 * 1000
    checkInterval := env.number "ADAPTER_RLP_CHECK_INTERVAL_MS" 1000
    retryWait := env.number "ADAPTER_RLP_RETRY_WAIT_MS" 100
    providerDialTimeout := env.number "ADAPTER_RLP_DIAL_TIMEOUT_SECS" 10 * 1000
    drainDialTimeout := env.number "ADAPTER_SYSLOG_DIAL_TIMEOUT_SECS" 5 * 1000
    drainTimeout := env.number "ADAPTER_SYSLOG_IO_TIMEOUT_SECS" 60 * 1000
    skipCertVerify := env.switch "ADAPTER_SYSLOG_SKIP_CERT_VERIFY" false
    maxRetries := (env.number? "ADAPTER_MAX_RETRIES" Text.greatest32).getD 22
    logIngressUrl := (env "ADAPTER_LOG_INGRESS_URL").filter (!·.isEmpty)
    tls := env.tls "ADAPTER"
    debug := (env "DEBUG").isSome }

end LogEgress.Config
