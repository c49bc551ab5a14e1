import RankedRelay.Watch.Slot

namespace RankedRelay

inductive Phase where
  | idle
  | scanning
  | terminated
deriving DecidableEq, Repr

def Phase.text : Phase → String
  | idle => "idle"
  | scanning => "scanning"
  | terminated => "terminated"

structure Scheduler where
  interval : Nat
  phase : Phase
  rounds : Nat
  /-- When the next round starts, once the scheduler runs and is between rounds. -/
  wakeAt : Option Nat
  /-- The calls of the current round that are not over. -/
  pending : List CallId
  cancelled : Bool

inductive SchedulerMove where
  | wake
  | conclude
  | terminate
deriving DecidableEq, Repr

namespace Scheduler

def new (interval : Nat) : Scheduler := ⟨interval, .idle, 0, none, [], false⟩

def start (now : Nat) (s : Scheduler) : Scheduler :=
  if s.phase = .idle ∧ s.wakeAt.isNone then { s with wakeAt := some now } else s

def cancel (s : Scheduler) : Scheduler := { s with cancelled := true }

def moves (s : Scheduler) : List (Nat × SchedulerMove) :=
  match s.phase, s.wakeAt with
  | .idle, some t => if s.cancelled then [(0, .terminate)] else [(t, .wake)]
  | .scanning, _ => if s.pending.isEmpty then [(0, .conclude)] else []
  | _, _ => []

def wake (calls : List CallId) (s : Scheduler) : Scheduler :=
  { s with phase := .scanning, wakeAt := none, pending := calls }

/-- A call of the round is over, whether it published or crashed. -/
def joined (call : CallId) (s : Scheduler) : Scheduler :=
  { s with pending := s.pending.filter (· != call) }

def conclude (now : Nat) (s : Scheduler) : Scheduler :=
  { s with phase := .idle, rounds := s.rounds + 1, wakeAt := some (now + s.interval) }

def terminate (s : Scheduler) : Scheduler := { s with phase := .terminated, wakeAt := none }

end Scheduler

end RankedRelay
