import RankedRelay.Watch.Scheduler

namespace RankedRelay

/-- How a refresh call ended: with the ranking it published, or in a crash. -/
abbrev CallResult := Option Ranking

structure Watch where
  slots : List Slot
  scheduler : Scheduler
  nextCall : CallId
  results : List (CallId × CallResult)

inductive WatchMove where
  | slot (network : NetworkId) (move : SlotMove)
  | scheduler (move : SchedulerMove)
deriving DecidableEq, Repr

inductive WatchEvent where
  | slot (event : SlotEvent)
  | roundStarted
  | roundOver
  | stopped

namespace Watch

def new (networks : List (NetworkId × List Endpoint)) (interval : Nat) : Watch :=
  ⟨networks.map fun n => .new n.1 n.2, .new interval, 0, []⟩

def slot? (w : Watch) (network : NetworkId) : Option Slot :=
  w.slots.find? (·.network == network)

def networks (w : Watch) : List NetworkId := w.slots.map (·.network)

def rankings (w : Watch) : List Ranking := w.slots.map (·.ranking)

def ranking (w : Watch) (network : NetworkId) : Except RequestError Ranking :=
  match w.slot? network with
  | some s => .ok s.ranking
  | none => .error (.unknownNetwork network)

def modify (w : Watch) (network : NetworkId) (f : Slot → Slot) : Watch :=
  { w with slots := w.slots.map fun s => if s.network == network then f s else s }

def request (w : Watch) (network : NetworkId) : Except RequestError (CallId × Watch) :=
  match w.slot? network with
  | none => .error (.unknownNetwork network)
  | some _ =>
    .ok (w.nextCall, { w.modify network (·.enqueue w.nextCall) with nextCall := w.nextCall + 1 })

def abandon (w : Watch) (network : NetworkId) (call : CallId) : Watch :=
  w.modify network (·.abandon call)

def result? (w : Watch) (call : CallId) : Option CallResult :=
  (w.results.find? (·.1 == call)).map (·.2)

def moves (w : Watch) : List (Nat × WatchMove) :=
  w.slots.flatMap (fun s => s.moves.map fun m => (m.1, .slot s.network m.2)) ++
    w.scheduler.moves.map fun m => (m.1, .scheduler m.2)

/-- As many moves as it takes at most to serve all calls. -/
def effort (w : Watch) : Nat := Slot.total Slot.effort w.slots

def close (call : CallId) (result : CallResult) (w : Watch) : Watch :=
  { w with results := (call, result) :: w.results, scheduler := w.scheduler.joined call }

def book (w : Watch) : SlotEvent → Watch
  | .published call ranking => w.close call (some ranking)
  | .crashed call => w.close call none
  | _ => w

def enqueueAll (call : CallId) : List Slot → List Slot
  | [] => []
  | s :: rest => s.enqueue call :: enqueueAll (call + 1) rest

/-- A round starts: each network gets a call. -/
def wake (w : Watch) : Watch :=
  { w with
    slots := enqueueAll w.nextCall w.slots
    scheduler := w.scheduler.wake (List.range' w.nextCall w.slots.length)
    nextCall := w.nextCall + w.slots.length }

variable (probe : Prober) (limit : Nat) (now : Nat) (moment : Moment)

def applySlot (w : Watch) (network : NetworkId) (move : SlotMove) : Watch × List WatchEvent :=
  match w.slot? network with
  | none => (w, [])
  | some s =>
    let (s', events) := s.apply probe limit now moment move
    (events.foldl book (w.modify network fun _ => s'), events.map .slot)

def apply (w : Watch) : WatchMove → Watch × List WatchEvent
  | .slot network move => w.applySlot probe limit now moment network move
  | .scheduler .wake => (w.wake, [.roundStarted])
  | .scheduler .conclude => ({ w with scheduler := w.scheduler.conclude now }, [.roundOver])
  | .scheduler .terminate => ({ w with scheduler := w.scheduler.terminate }, [.stopped])

end Watch

end RankedRelay
