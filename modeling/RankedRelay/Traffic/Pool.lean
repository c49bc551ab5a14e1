import RankedRelay.Failure

namespace RankedRelay

structure Forwarder where
  serial : Nat
  failures : List Attempt
deriving DecidableEq, Repr

namespace Forwarder

def new (serial : Nat) : Forwarder := ⟨serial, []⟩

def reset (f : Forwarder) : Forwarder := { f with failures := [] }

end Forwarder

structure Pool where
  maxIdle : Nat
  idle : List Forwarder
  created : Nat
  reused : Nat
deriving DecidableEq, Repr

namespace Pool

def new (maxIdle : Nat) : Pool := ⟨maxIdle, [], 0, 0⟩

/-- Lends an idle forwarder, or builds one if none is idle. -/
def acquire (p : Pool) : Forwarder × Pool :=
  match p.idle with
  | f :: rest => (f, { p with idle := rest, reused := p.reused + 1 })
  | [] => (.new p.created, { p with created := p.created + 1 })

/-- Takes a forwarder back, unless enough are idle. -/
def release (p : Pool) (f : Forwarder) : Pool :=
  if p.idle.length < p.maxIdle then { p with idle := f.reset :: p.idle } else p

end Pool

end RankedRelay
