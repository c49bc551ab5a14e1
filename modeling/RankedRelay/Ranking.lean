import RankedRelay.Failure

namespace RankedRelay

/-- What the latest round says about an endpoint. -/
structure Record where
  endpoint : Endpoint
  latency : Option Span
  probedAt : Option Moment
  healthy : Bool
  failure : Option FailureKind
deriving DecidableEq, Repr

abbrev Outcome := Endpoint × Except CallError Span

structure Ranking where
  network : NetworkId
  records : List Record
  round : Nat
  refreshedAt : Option Moment
deriving DecidableEq, Repr

namespace Record

/-- An endpoint that no probe has measured counts as healthy. -/
def unprobed (e : Endpoint) : Record := ⟨e, none, none, true, none⟩

def ofOutcome (moment : Moment) : Outcome → Record
  | (e, .ok latency) => ⟨e, some latency, some moment, true, none⟩
  | (e, .error err) => ⟨e, none, some moment, false, some err.kind⟩

def nanos (r : Record) : Nat := (r.latency.map (·.nanos)).getD 0

def sort (rs : List Record) : List Record := rs.mergeSort fun r s => r.nanos ≤ s.nanos

end Record

namespace Ranking

def unprobed (network : NetworkId) (endpoints : List Endpoint) : Ranking :=
  ⟨network, endpoints.map Record.unprobed, 0, none⟩

/-- The healthy endpoints by latency, then the others in configuration order. -/
def ofOutcomes (network : NetworkId) (outcomes : List Outcome) (moment : Moment) (round : Nat) :
    Ranking :=
  let records := outcomes.map (Record.ofOutcome moment)
  ⟨network, Record.sort (records.filter (·.healthy)) ++ records.filter (!·.healthy), round,
    some moment⟩

def endpoints (r : Ranking) : List Endpoint := r.records.map (·.endpoint)

def healthyCount (r : Ranking) : Nat := (r.records.filter (·.healthy)).length

end Ranking

end RankedRelay
