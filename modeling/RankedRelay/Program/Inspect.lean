import RankedRelay.Program.Basic

namespace RankedRelay.Program

def millisText (d : Span) : String := toString d.millis ++ "ms"

def probed (heading : String) : Except CallError Span → Outcome
  | .ok latency => .success (heading ++ "  Status:  OK\n  Latency: " ++ millisText latency ++ "\n")
  | .error e =>
    .failure (heading ++ "  Status:  " ++ e.kind.text ++ "\n  Reason:  " ++ e.text ++ "\n")
      ⟨"probe failed", []⟩

def probe (here : Environment) (url : String) (network : Option UInt64) (timeoutMs : UInt64) :
    Outcome :=
  let limit := Span.ofMillis timeoutMs.toNat
  let prober := Prober.over here.servers.transport network.isSome limit
  let heading := "Probing " ++ url ++ "...\n"
  let flight : Flight (Except CallError Span) :=
    ⟨0, limit.millis, prober ⟨url, ⟨network.getD 0⟩⟩ 0⟩
  match flight.ending with
  | .answered result => probed heading result
  | .cutOff => probed heading (.error (.cutOff limit))
  | .crashed => .crash heading

def recordLine (r : Record × Nat) : String :=
  let latency := (r.1.latency.map millisText).getD "-"
  let failure := (r.1.failure.map fun k => " (" ++ k.text ++ ")").getD ""
  "  " ++ Text.alignRight 2 (toString (r.2 + 1)) ++ ". " ++ Text.alignLeft 8 latency ++ " " ++
    r.1.endpoint.url ++ failure ++ "\n"

def rankingText (r : Ranking) : String :=
  s!"network {r.network.text}: {r.healthyCount}/{r.records.length} healthy\n" ++
    String.join (r.records.zipIdx.map recordLine)

/-- Refreshes the networks one after the other, and prints each ranking; nothing more after one
that crashed. -/
def rankAll (env : Surroundings) : List NetworkId → Relay → String → Outcome
  | [], _, out => .success out
  | network :: rest, relay, out =>
    match relay.refresh network with
    | .error e => .failure out ⟨e.text, []⟩
    | .ok (call, relay) =>
      let relay := relay.runUntil env fun r => (r.watch.result? call).isSome
      match relay.watch.result? call with
      | some (some ranking) => rankAll env rest relay (out ++ rankingText ranking)
      | _ => .crash out

def rank (here : Environment) (path : String) : Outcome :=
  match here.load path with
  | .error e => .failure "" e
  | .ok c =>
    match Registry.ofConfig c with
    | .error e => .failure "" ⟨e.text, []⟩
    | .ok registry =>
      let relay := Relay.new c registry here.epoch
      rankAll (.over c here.servers.transport) relay.watch.networks relay ""

end RankedRelay.Program
