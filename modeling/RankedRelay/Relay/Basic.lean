import RankedRelay.Traffic.Basic
import RankedRelay.Watch.Basic

namespace RankedRelay

/-- Limits of single calls in milliseconds, and the moment at which the clock reads zero. -/
structure Settings where
  probeTimeout : Nat
  attemptTimeout : Nat
  epoch : Moment

/-- What surrounds a relay: how calls to upstreams and probes of them go. -/
structure Surroundings where
  post : Transport
  probe : Prober

inductive Move where
  | watch (m : WatchMove)
  | traffic (m : TrafficMove)
deriving DecidableEq, Repr

inductive Event where
  | watch (e : WatchEvent)
  | walk (e : WalkEvent)

structure Relay where
  settings : Settings
  clock : Nat
  watch : Watch
  traffic : Traffic
  events : List (Nat × Event)

namespace Relay

def moment (r : Relay) : Moment := r.settings.epoch.after r.clock

/-- All that can happen next, and when. The watch comes before the traffic. -/
def moves (r : Relay) : List (Nat × Move) :=
  r.watch.moves.map (fun m => (m.1, .watch m.2)) ++
    r.traffic.moves.map fun m => (m.1, .traffic m.2)

def earliest {α : Type} : List (Nat × α) → Option (Nat × α)
  | [] => none
  | m :: rest =>
    match earliest rest with
    | none => some m
    | some n => if m.1 ≤ n.1 then some m else some n

def next? (r : Relay) : Option (Nat × Move) := earliest r.moves

def log (r : Relay) (events : List Event) : Relay :=
  { r with events := events.reverse.map (r.clock, ·) ++ r.events }

def withWatch (r : Relay) (w : Watch × List WatchEvent) : Relay :=
  { r with watch := w.1 }.log (w.2.map .watch)

def withTraffic (r : Relay) (t : Traffic × List WalkEvent) : Relay :=
  { r with traffic := t.1 }.log (t.2.map .walk)

variable (env : Surroundings)

def apply (r : Relay) : Move → Relay
  | .watch m =>
    r.withWatch (r.watch.apply env.probe r.settings.probeTimeout r.clock r.moment m)
  | .traffic m => r.withTraffic (r.traffic.apply env.post r.settings.attemptTimeout r.clock m)

/-- Makes a move at the time at which it is due, which is now if it was due before. -/
def moveAt (r : Relay) (due : Nat) (m : Move) : Relay :=
  { r with clock := max r.clock due }.apply env m

/-- Moves as long as something is due by `limit` and `goal` is not reached. -/
def run (goal : Relay → Bool) (limit : Option Nat) : Nat → Relay → Relay
  | 0, r => r
  | fuel + 1, r =>
    if goal r then r
    else
      match r.next? with
      | none => r
      | some (due, m) =>
        if limit.all fun l => max r.clock due ≤ l then run goal limit fuel (r.moveAt env due m)
        else r

/-- More moves than a run makes, with all calls for refreshes served. -/
def manyMoves (r : Relay) : Nat := UInt64.size + r.watch.effort

def runUntil (r : Relay) (goal : Relay → Bool) : Relay := r.run env goal none r.manyMoves

def elapse (r : Relay) (ms : Nat) : Relay :=
  let limit := r.clock + ms
  { r.run env (fun _ => false) (some limit) r.manyMoves with clock := limit }

def catchUp (r : Relay) : Relay := r.elapse env 0

def refresh (r : Relay) (network : NetworkId) : Except RequestError (CallId × Relay) :=
  (r.watch.request network).map fun c => (c.1, { r with watch := c.2 })

def start (r : Relay) : Relay :=
  { r with watch := { r.watch with scheduler := r.watch.scheduler.start r.clock } }

def cancel (r : Relay) : Relay :=
  { r with watch := { r.watch with scheduler := r.watch.scheduler.cancel } }

def submit (r : Relay) (o : Order) : RequestId × Relay :=
  (r.traffic.nextRequest, r.withTraffic
    (r.traffic.submit env.post r.settings.attemptTimeout r.clock (r.watch.ranking o.network) o))

def submitOn? (r : Relay) (id : LoanId) (o : Order) : Option (RequestId × Relay) :=
  let ranking := r.watch.ranking o.network
  (r.traffic.submitOn? env.post r.settings.attemptTimeout r.clock ranking id o).map fun t =>
    (r.traffic.nextRequest, r.withTraffic t)

end Relay

end RankedRelay
