import RankedRelay.Traffic.Walk

namespace RankedRelay

abbrev RequestId := Nat
abbrev LoanId := Nat

/-- Where a walk's forwarder goes when the walk is over. -/
inductive Owner where
  | pool
  | loan (id : LoanId)
deriving DecidableEq, Repr

structure Walk where
  id : RequestId
  network : NetworkId
  payload : Bytes
  forwarder : Forwarder
  owner : Owner
  trying : Trying
  /-- When the caller drops the request. -/
  patience : Option Nat

structure Traffic where
  pool : Pool
  loans : List (LoanId × Forwarder)
  nextLoan : LoanId
  walks : List Walk
  nextRequest : RequestId
  results : List (RequestId × RequestResult)

inductive TrafficMove where
  | resume (id : RequestId)
  | drop (id : RequestId)
deriving DecidableEq, Repr

structure Order where
  network : NetworkId
  payload : Bytes
  patience : Option Nat

namespace Traffic

def new (maxIdle : Nat) : Traffic := ⟨.new maxIdle, [], 0, [], 0, []⟩

def result? (t : Traffic) (id : RequestId) : Option RequestResult :=
  (t.results.find? (·.1 == id)).map (·.2)

def giveBack (t : Traffic) (f : Forwarder) : Owner → Traffic
  | .pool => { t with pool := t.pool.release f }
  | .loan id => { t with loans := (id, f) :: t.loans }

def close (t : Traffic) (id : RequestId) (f : Forwarder) (owner : Owner) (r : RequestResult) :
    Traffic :=
  let t := t.giveBack f owner
  { t with results := (id, r) :: t.results }

/-- Keeps a walk that is under way, or closes one that is at its end. -/
def settle (t : Traffic) (w : Walk) (s : Strides) : Traffic :=
  let f := { w.forwarder with failures := s.failures }
  match s.stand with
  | .trying trying => { t with walks := t.walks ++ [{ w with forwarder := f, trying := trying }] }
  | .done r => t.close w.id f w.owner r

/-- Moves: attempts that are over, then callers that leave. -/
def moves (t : Traffic) : List (Nat × TrafficMove) :=
  t.walks.map (fun w => (w.trying.flight.due, .resume w.id)) ++
    t.walks.filterMap fun w => w.patience.map fun p => (p, .drop w.id)

def acquire (t : Traffic) : LoanId × Traffic :=
  let (f, pool) := t.pool.acquire
  (t.nextLoan,
    { t with pool := pool, loans := (t.nextLoan, f) :: t.loans, nextLoan := t.nextLoan + 1 })

def loan? (t : Traffic) (id : LoanId) : Option Forwarder := (t.loans.find? (·.1 == id)).map (·.2)

def withoutLoan (t : Traffic) (id : LoanId) : Traffic :=
  { t with loans := t.loans.filter (·.1 != id) }

def release? (t : Traffic) (id : LoanId) : Option Traffic :=
  (t.loan? id).map fun f => { t.withoutLoan id with pool := t.pool.release f }

variable (post : Transport) (limit : Nat) (now : Nat)

def launch (t : Traffic) (ranking : Except RequestError Ranking) (o : Order) (f : Forwarder)
    (owner : Owner) : Traffic × List WalkEvent :=
  let s := Walk.begin post limit ranking o.network o.payload now
  let t := { t with nextRequest := t.nextRequest + 1 }
  let id := t.nextRequest - 1
  let f := { f with failures := s.failures }
  match s.stand with
  | .done r => (t.close id f owner r, s.events)
  | .trying trying =>
    let w : Walk := ⟨id, o.network, o.payload, f, owner, trying, o.patience.map (now + ·)⟩
    ({ t with walks := t.walks ++ [w] }, s.events)

def submit (t : Traffic) (ranking : Except RequestError Ranking) (o : Order) :
    Traffic × List WalkEvent :=
  let (f, pool) := t.pool.acquire
  { t with pool := pool }.launch post limit now ranking o f .pool

def submitOn? (t : Traffic) (ranking : Except RequestError Ranking) (id : LoanId) (o : Order) :
    Option (Traffic × List WalkEvent) :=
  (t.loan? id).map fun f => (t.withoutLoan id).launch post limit now ranking o f (.loan id)

def withoutWalk (t : Traffic) (id : RequestId) : Traffic :=
  { t with walks := t.walks.filter (·.id != id) }

def apply (t : Traffic) : TrafficMove → Traffic × List WalkEvent
  | .resume id =>
    match t.walks.find? (·.id == id) with
    | none => (t, [])
    | some w =>
      let s := Walk.resume post limit w.network w.payload now w.trying w.forwarder.failures
      ((t.withoutWalk id).settle w s, s.events)
  | .drop id =>
    match t.walks.find? (·.id == id) with
    | none => (t, [])
    | some w => ((t.withoutWalk id).close id w.forwarder w.owner .dropped, [])

end Traffic

end RankedRelay
