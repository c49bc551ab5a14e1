import RankedRelay.Registry
import RankedRelay.Relay.Basic

namespace RankedRelay

inductive SetupError where
  | configuration (e : ConfigError)
  | endpoints (e : ConfigError)
deriving DecidableEq, Repr

namespace SetupError

def cause : SetupError → ConfigError
  | configuration e => e
  | endpoints e => e

def context : SetupError → String
  | configuration _ => "invalid configuration"
  | endpoints _ => "invalid endpoint list"

def text (e : SetupError) : String := e.context ++ ": " ++ e.cause.text

end SetupError

namespace Relay

/-- A relay for registered endpoints, whose clock reads zero at `epoch`. Nothing is probed, and the
scheduler is not started. -/
def new (c : Config) (registry : Registry) (epoch : Moment) : Relay where
  settings := ⟨c.probeTimeoutMs.toNat, c.attemptTimeoutMs.toNat, epoch⟩
  clock := 0
  watch := .new registry.networks c.refreshInterval.millis
  traffic := .new c.maxIdleForwarders.toNat
  events := []

def build (c : Config) (epoch : Moment) (parse : SchemeParser := Url.schemeOf) :
    Except SetupError Relay :=
  match c.validate with
  | .error e => .error (.configuration e)
  | .ok () =>
    match Registry.ofConfig c parse with
    | .error e => .error (.endpoints e)
    | .ok registry => .ok (.new c registry epoch)

end Relay

/-- Probes and requests go through one transport. -/
def Surroundings.over (c : Config) (post : Transport) : Surroundings :=
  ⟨post, Prober.over post c.verifyChainId c.probeTimeout⟩

end RankedRelay
