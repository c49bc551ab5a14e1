import RankedRelay.Frontend.Answer
import RankedRelay.Log.Record
import RankedRelay.Program.Basic

namespace RankedRelay.Program

structure Service where
  config : Config
  env : Surroundings
  relay : Relay
  filter : LogFilter
  log : List LogRecord

namespace Service

def note (s : Service) (records : List LogRecord) : Service :=
  { s with log := (records.filter fun r => s.filter.admits r.level r.target).reverse ++ s.log }

def advance (s : Service) (f : Relay → Relay) : Service :=
  let relay := f s.relay
  let news := (relay.events.take (relay.events.length - s.relay.events.length)).reverse
  { s with relay := relay }.note (news.flatMap fun (e : Nat × Event) => LogRecord.ofEvent e.2)

def listen (here : Environment) (c : Config) (relay : Relay) : Service :=
  let s : Service :=
    ⟨c, .over c here.servers.transport, relay, .choose here.logDirectives c.log, []⟩
  (s.note [.listening, .schedulerStarted]).advance Relay.start

def start (here : Environment) (c : Config) (relay : Relay) : Except ErrorChain Service :=
  match here.bind c.port with
  | .error reason => .error ⟨s!"binding 0.0.0.0:{c.port.toNat}", [reason]⟩
  | .ok () => .ok (listen here c relay)

def awaitFirstRound (s : Service) : Service :=
  s.advance fun r => r.runUntil s.env fun r => 1 ≤ r.watch.scheduler.rounds

def request (s : Service) (o : Order) : Service × Option RequestResult :=
  let id := s.relay.traffic.nextRequest
  let s := s.advance fun r =>
    (r.submit s.env o).2.runUntil s.env fun r => (r.traffic.result? id).isSome
  (s, s.relay.traffic.result? id)

def refuse (s : Service) (e : RequestError) : Service × Option Frontend.Response :=
  (s.note [.ofError e], some (Frontend.ofError e))

/-- Serves one call. There is no response if the request crashes. -/
def answer (s : Service) (c : Frontend.Call) : Service × Option Frontend.Response :=
  match Frontend.receive s.config.maxRequestBytes.toNat s.relay c with
  | .answered r => (s, some r)
  | .rejected e => s.refuse e
  | .admitted network =>
    match s.request ⟨network, c.body, none⟩ with
    | (s, some (.replied r)) => (s, some (Frontend.ofReply r))
    | (s, some (.failed e)) => s.refuse e
    | (s, _) => (s, none)

def drain (s : Service) : Service :=
  let s := s.advance fun r =>
    r.cancel.runUntil s.env fun r => r.watch.scheduler.phase == .terminated
  s.note [.stopped]

def shutDown (s : Service) : Service := (s.note [.signalled]).drain

def logText (s : Service) : String :=
  String.join (s.log.reverse.map fun r => r.line s.config.log.json ++ "\n")

end Service

end RankedRelay.Program
