import LogEgress.Http.Message
import LogEgress.Json.Value
import LogEgress.Metrics

set_option autoImplicit false

/-! # Health

Each program answers how it is: some of its metrics as a JSON object, and all of them in the
Prometheus text format.
-/

namespace LogEgress.Health

/-- The members of the JSON object, each with the metric that it shows. -/
abbrev Fields := List (String × String)

/-- What a scheduler shows. -/
def scheduler : Fields := [("drainCount", "drain_count"), ("adapterCount", "adapters"),
  ("blacklistedOrInvalidUrlCount", "blacklisted_or_invalid_url_count")]

/-- What an adapter shows. -/
def adapter : Fields := [("drainCount", "drain_bindings")]

/-- The metrics as a JSON object. One that was never requested is shown as zero. -/
def summary (fields : Fields) (r : Metrics.Registry) : Json.Value :=
  .ofMembers (fields.map fun (key, metric) =>
    (key, .ofNat ((r.value metric []).map UInt64.toNat |>.getD 0)))

/-- The content type of the Prometheus text format. -/
def textType : String := "text/plain; version=0.0.4"

/-- Answers a request for a page. -/
def page (method : String) (contentType : String) (body : List Char) : Http.Response :=
  if method = "GET" then ⟨200, some contentType, utf8 body⟩
  else if method = "HEAD" then ⟨200, some contentType, []⟩
  else { status := 405 }

/-- Answers a request. -/
def answer (fields : Fields) (metrics : Metrics.Registry) (r : Http.Request) : Http.Response :=
  if r.path = "/health".toList then page r.method Http.jsonType (summary fields metrics).print
  else if r.path = "/metrics".toList then page r.method textType metrics.print.toList
  else { status := 404 }

end LogEgress.Health
