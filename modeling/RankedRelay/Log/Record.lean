import RankedRelay.Json.Value
import RankedRelay.Log.Filter
import RankedRelay.Relay.Basic

namespace RankedRelay

structure LogRecord where
  level : LogLevel
  target : String
  message : String
deriving DecidableEq, Repr

namespace LogRecord

def walkRecord (level : LogLevel) (message : String) : LogRecord :=
  ⟨level, "chainproxy_core::forwarder", message⟩

def refreshRecord (level : LogLevel) (message : String) : LogRecord :=
  ⟨level, "chainproxy_core::chain_manager", message⟩

def schedulerRecord (level : LogLevel) (message : String) : LogRecord :=
  ⟨level, "chainproxy_core::scheduler", message⟩

def ofSlotEvent : SlotEvent → List LogRecord
  | .probed _ => []
  | .measured _ (.ok _) => [refreshRecord .debug "probe ok"]
  | .measured _ (.error _) => [refreshRecord .warn "probe failed"]
  | .published _ _ =>
    [refreshRecord .info "ranking refreshed", schedulerRecord .debug "network refreshed"]
  | .crashed _ => [schedulerRecord .error "refresh task panicked"]

/-- The records of an event, where all refreshes are the scheduler's. -/
def ofEvent : Event → List LogRecord
  | .watch (.slot e) => ofSlotEvent e
  | .watch .roundStarted => []
  | .watch .roundOver => []
  | .watch .stopped => [schedulerRecord .info "refresh scheduler stopped"]
  | .walk (.posted _) => []
  | .walk (.passedOn _) => [walkRecord .debug "forwarded"]
  | .walk (.fellBack _ _) => [walkRecord .warn "attempt failed, falling back"]

def schedulerStarted : LogRecord := schedulerRecord .info "refresh scheduler started"

def listening : LogRecord := ⟨.info, "chainproxy_server::server", "proxy listening"⟩

def stopped : LogRecord := ⟨.info, "chainproxy_server::server", "proxy stopped"⟩

def signalled : LogRecord := ⟨.info, "chainproxy", "shutdown signal received"⟩

def ofError (e : RequestError) : LogRecord :=
  if e.isCallers then ⟨.debug, "chainproxy_server::app", "request rejected"⟩
  else ⟨.warn, "chainproxy_server::app", "request failed"⟩

def line (json : Bool) (r : LogRecord) : String :=
  if json then
    (Json.Value.object [("level", .string r.level.name),
      ("fields", .object [("message", .string r.message)]), ("target", .string r.target)]).text
  else r.level.name ++ " " ++ r.target ++ ": " ++ r.message

end LogRecord

end RankedRelay
