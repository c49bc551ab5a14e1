import RankedRelay.Ascending
import RankedRelay.Mismatch
import RankedRelay.Network
import RankedRelay.Time

namespace RankedRelay

structure LogConfig where
  level : String
  components : List (String × String)
  json : Bool
deriving DecidableEq, Repr

namespace LogConfig

def default : LogConfig := ⟨"info", [], false⟩

def moduleName (component : String) : String :=
  String.ofList (component.toList.map fun c => if c = '-' then '_' else c)

def directive (c : String × String) : String := "," ++ moduleName c.1 ++ "=" ++ c.2

def inOrder (components : List (String × String)) : List (String × String) :=
  components.mergeSort fun a b => a.1 < b.1 || (a.1 == b.1 && a.2 ≤ b.2)

def directives (c : LogConfig) : String :=
  c.level ++ String.join ((inOrder c.components).map directive)

end LogConfig

structure Config where
  port : UInt16
  refreshIntervalSecs : UInt64
  probeTimeoutMs : UInt64
  attemptTimeoutMs : UInt64
  maxIdleForwarders : UInt64
  maxRequestBytes : UInt64
  verifyChainId : Bool
  log : LogConfig
  /-- The URLs of each network, ascending by network. -/
  networks : List (NetworkId × List String)
deriving DecidableEq, Repr

inductive ConfigError where
  | unreadable (path : String) (reason : String)
  | malformed
  | mismatch (path : String) (m : Mismatch)
  | invalid (reason : String)
deriving DecidableEq, Repr

namespace ConfigError

/-- A mismatch behind the place at which it is; the root has no name. -/
def placed (path : String) (m : Mismatch) : String :=
  (if path = "" then "" else path ++ ": ") ++ m.text

def text : ConfigError → String
  | unreadable path reason => "failed to read config file " ++ path ++ ": " ++ reason
  | malformed => "failed to parse config"
  | mismatch path m => "failed to parse config: " ++ placed path m
  | invalid reason => "invalid config: " ++ reason

end ConfigError

namespace Config

def withNetworks (networks : List (NetworkId × List String)) : Config where
  port := 5121
  refreshIntervalSecs := 60
  probeTimeoutMs := 5000
  attemptTimeoutMs := 15000
  maxIdleForwarders := 64
  maxRequestBytes := 10 * 1024 * 1024
  verifyChainId := true
  log := .default
  networks := networks

def refreshInterval (c : Config) : Span := .ofSeconds c.refreshIntervalSecs.toNat

def probeTimeout (c : Config) : Span := .ofMillis c.probeTimeoutMs.toNat

def attemptTimeout (c : Config) : Span := .ofMillis c.attemptTimeoutMs.toNat

def validate (c : Config) : Except ConfigError Unit :=
  if c.networks.isEmpty then .error (.invalid "no networks configured")
  else if c.refreshIntervalSecs = 0 then .error (.invalid "refresh_interval_secs must be > 0")
  else if c.probeTimeoutMs = 0 ∨ c.attemptTimeoutMs = 0 then
    .error (.invalid "timeouts must be > 0")
  else if c.maxRequestBytes = 0 then .error (.invalid "max_request_bytes must be > 0")
  else .ok ()

end Config

end RankedRelay
