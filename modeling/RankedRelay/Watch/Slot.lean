import RankedRelay.Ranking
import RankedRelay.Upstream

namespace RankedRelay

abbrev CallId := Nat

inductive ProbeState where
  | inFlight (flight : Flight (Except CallError Span))
  | over (outcome : Except CallError Span)

/-- A running refresh, with its probes in configuration order. -/
structure Refresh where
  call : CallId
  probes : List (Endpoint × ProbeState)

namespace Refresh

/-- The outcome of a probe that has ended, or nothing if it crashed. -/
def outcome? (f : Flight (Except CallError Span)) : Option (Except CallError Span) :=
  match f.ending with
  | .answered r => some r
  | .crashed => none
  | .cutOff => some (.error (.cutOff (.ofMillis f.limit)))

def outcomes? : List (Endpoint × ProbeState) → Option (List Outcome)
  | [] => some []
  | (e, .over r) :: rest => (outcomes? rest).map ((e, r) :: ·)
  | (_, .inFlight _) :: _ => none

def flights (r : Refresh) : List (Nat × Nat) :=
  r.probes.zipIdx.filterMap fun
    | ((_, .inFlight f), i) => some (f.due, i)
    | ((_, .over _), _) => none

end Refresh

structure Slot where
  network : NetworkId
  endpoints : List Endpoint
  ranking : Ranking
  round : Nat
  running : Option Refresh
  waiting : List CallId

inductive SlotMove where
  | takeUp
  | settle (index : Nat)
  | publish
deriving DecidableEq, Repr

inductive SlotEvent where
  | probed (endpoint : Endpoint)
  | measured (endpoint : Endpoint) (outcome : Except CallError Span)
  | published (call : CallId) (ranking : Ranking)
  | crashed (call : CallId)

namespace Slot

def new (network : NetworkId) (endpoints : List Endpoint) : Slot :=
  ⟨network, endpoints, .unprobed network endpoints, 0, none, []⟩

def enqueue (s : Slot) (call : CallId) : Slot := { s with waiting := s.waiting ++ [call] }

def abandon (s : Slot) (call : CallId) : Slot :=
  { s with
    running := s.running.filter (·.call != call)
    waiting := s.waiting.filter (· != call) }

/-- What can happen, and when; what need not wait is due at once. -/
def moves (s : Slot) : List (Nat × SlotMove) :=
  match s.running with
  | none => if s.waiting.isEmpty then [] else [(0, .takeUp)]
  | some r =>
    if (Refresh.outcomes? r.probes).isSome then [(0, .publish)]
    else r.flights.map fun f => (f.1, .settle f.2)

def effort (s : Slot) : Nat := (s.waiting.length + 1) * (s.endpoints.length + 2)

def total (f : Slot → Nat) : List Slot → Nat
  | [] => 0
  | s :: rest => f s + total f rest

variable (probe : Prober) (limit : Nat) (now : Nat) (moment : Moment)

/-- The first call of the queue starts all its probes. One that polls them in turn would not come to
those behind a probe that crashes at its first poll; here they are started too, and gone with the
refresh once it has crashed. -/
def takeUp (s : Slot) : Slot × List SlotEvent :=
  match s.running, s.waiting with
  | none, call :: waiting =>
    let launch e := (e, ProbeState.inFlight ⟨now, limit, probe e now⟩)
    ({ s with running := some ⟨call, s.endpoints.map launch⟩, waiting := waiting },
      s.endpoints.map .probed)
  | _, _ => (s, [])

/-- One probe is over. A crash ends the whole refresh. -/
def settle (index : Nat) (s : Slot) : Slot × List SlotEvent :=
  match s.running with
  | none => (s, [])
  | some r =>
    match r.probes[index]? with
    | some (e, .inFlight f) =>
      match Refresh.outcome? f with
      | some outcome =>
        ({ s with running := some { r with probes := r.probes.set index (e, .over outcome) } },
          [.measured e outcome])
      | none => ({ s with running := none }, [.crashed r.call])
    | _ => (s, [])

def publish (s : Slot) : Slot × List SlotEvent :=
  match s.running with
  | none => (s, [])
  | some r =>
    match Refresh.outcomes? r.probes with
    | none => (s, [])
    | some outcomes =>
      let ranking := Ranking.ofOutcomes s.network outcomes moment (s.round + 1)
      ({ s with ranking := ranking, round := s.round + 1, running := none },
        [.published r.call ranking])

def apply (s : Slot) : SlotMove → Slot × List SlotEvent
  | .takeUp => s.takeUp probe limit now
  | .settle index => s.settle index
  | .publish => s.publish moment

end Slot

end RankedRelay
