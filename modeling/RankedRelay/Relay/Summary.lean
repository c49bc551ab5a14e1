import RankedRelay.Json.Value
import RankedRelay.Relay.Basic

namespace RankedRelay

namespace Frontend

open Json (Value)

def momentValue (m : Option Moment) : Value := .ofOption (fun t => .string t.text) m

def recordValue (r : Record) : Value :=
  .object [("url", .string r.endpoint.url), ("healthy", .bool r.healthy),
    ("latency_ms", .ofOption (fun d => .natural d.millisWord) r.latency),
    ("last_probed_at", momentValue r.probedAt),
    ("last_failure", .ofOption (fun k => .string k.text) r.failure)]

def rankingValue (r : Ranking) : Value :=
  .object [("network_id", .natural r.network.number.toNat), ("round", .natural r.round),
    ("refreshed_at", momentValue r.refreshedAt), ("healthy", .natural r.healthyCount),
    ("endpoints", .array (r.records.map recordValue))]

def poolValue (p : Pool) : Value :=
  .object [("created", .natural p.created), ("reused", .natural p.reused),
    ("idle", .natural p.idle.length)]

def statusValue (r : Relay) : Value :=
  .object [("scheduler", .string r.watch.scheduler.phase.text),
    ("rounds_completed", .natural r.watch.scheduler.rounds), ("pool", poolValue r.traffic.pool),
    ("networks", .array (r.watch.rankings.map rankingValue))]

end Frontend

def Watch.summary (w : Watch) (probeTimeout : Span) : String :=
  let ids := ", ".intercalate (w.networks.map fun id => "NetworkId(" ++ id.text ++ ")")
  "ChainManager \x7b networks: [" ++ ids ++ "], probe_timeout: " ++ probeTimeout.text ++ " \x7d"

def Pool.summary (p : Pool) : String :=
  s!"ForwarderPool \x7b max_idle: {p.maxIdle}, stats: PoolStats \x7b created: {p.created}, " ++
    s!"reused: {p.reused}, idle: {p.idle.length} \x7d \x7d"

namespace Relay

def watchSummary (r : Relay) : String := r.watch.summary (.ofMillis r.settings.probeTimeout)

def poolSummary (r : Relay) : String := r.traffic.pool.summary

end Relay

end RankedRelay
