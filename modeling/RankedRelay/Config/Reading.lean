import RankedRelay.Config.Basic
import RankedRelay.Yaml.Parse
import RankedRelay.Yaml.Resolve

namespace RankedRelay

open Yaml (Node Document Scalar)

namespace Config

/-- A place in a document as keys and indices, written from the root. -/
abbrev Path := String

def Path.child (path : Path) (key : String) : Path := if path = "" then key else path ++ "." ++ key

/-- Below an entry whose key is not a scalar there is a question mark. -/
def Path.entry (path : Path) : Node → Path
  | .scalar s => path.child s.text
  | _ => path.child "?"

def Path.item (path : Path) (i : Nat) : Path := path ++ s!"[{i}]"

abbrev Reads (α : Type) := Except ConfigError α

def misfit {α : Type} (path : Path) (n : Node) (expected : String) : Reads α :=
  match n with
  | .cut => .error .malformed
  | n => .error (.mismatch path (n.mismatch expected))

variable (d : Document)

def readNatural (type : String) (limit : Nat) (path : Path) (n : Node) : Reads Nat :=
  match d.follow n with
  | .scalar s =>
    match if s.isBare Yaml.intTag then Yaml.natural? UInt64.size s.text else none with
    | none => misfit path (.scalar s) type
    | some k =>
      if k < limit then .ok k else .error (.mismatch path (.invalidValue (.integer k) type))
  | n => misfit path n type

def readWord (path : Path) (n : Node) : Reads UInt64 :=
  (readNatural d "u64" UInt64.size path n).map .ofNat

def readSize (path : Path) (n : Node) : Reads UInt64 :=
  (readNatural d "usize" UInt64.size path n).map .ofNat

def readPort (path : Path) (n : Node) : Reads UInt16 :=
  (readNatural d "u16" UInt16.size path n).map .ofNat

def readFlag (path : Path) (n : Node) : Reads Bool :=
  match d.follow n with
  | .scalar s =>
    match if s.isBare Yaml.boolTag then Yaml.boolean? s.text else none with
    | none => misfit path (.scalar s) "a boolean"
    | some b => .ok b
  | n => misfit path n "a boolean"

def readTextAs (expected : String) (path : Path) (n : Node) : Reads String :=
  match d.follow n with
  | .scalar s => .ok s.text
  | n => misfit path n expected

def readText (path : Path) (n : Node) : Reads String := readTextAs d "a string" path n

def items (path : Path) (n : Node) : Reads (List Node) :=
  match d.follow n with
  | .sequence ns => .ok ns
  | .scalar s => if s.isEmpty then .ok [] else misfit path (.scalar s) "a sequence"
  | n => misfit path n "a sequence"

def entries (expected : String) (path : Path) (n : Node) : Reads (List (Node × Node)) :=
  match d.follow n with
  | .mapping es => .ok es
  | .scalar s => if s.isEmpty then .ok [] else misfit path (.scalar s) expected
  | n => misfit path n expected

def readTexts (path : Path) : Nat → List Node → Reads (List String)
  | _, [] => .ok []
  | i, n :: rest => do
    let s ← readText d (path.item i) n
    return s :: (← readTexts path (i + 1) rest)

/-- Entries of any keys, in order, on top of the ones that were read before. -/
def readEntries {κ α : Type} [LT κ] [DecidableLT κ] [DecidableEq κ]
    (readKey : Path → Node → Reads κ) (readValue : Path → Node → Reads α) (path : Path) :
    List (Node × Node) → List (κ × α) → Reads (List (κ × α))
  | [], done => .ok done
  | (k, v) :: rest, done => do
    let key ← readKey path k
    let value ← readValue (path.entry k) v
    readEntries readKey readValue path rest (insertSorted key value done)

structure Field (γ : Type) where
  name : String
  isSet : γ → Bool
  read : Path → Node → γ → Reads γ

/-- Reads known fields, each once, and passes over all others. -/
def readFields {γ : Type} (fields : List (Field γ)) (path : Path) :
    List (Node × Node) → γ → Reads γ
  | [], g => .ok g
  | (k, v) :: rest, g => do
    let name ← readTextAs d "field identifier" path k
    match fields.find? (·.name == name) with
    | some field =>
      if field.isSet g then throw (.mismatch path (.duplicateField name))
      else readFields fields path rest (← field.read (path.entry k) v g)
    | none => if v.isWhole then readFields fields path rest g else throw .malformed

def readRecord {γ : Type} (title : String) (fields : List (Field γ)) (start : γ) (path : Path)
    (n : Node) : Reads γ := do
  readFields d fields path (← entries d title path n) start

def required {α : Type} (name : String) (path : Path) : Option α → Reads α
  | some a => .ok a
  | none => .error (.mismatch path (.missingField name))

def readNetwork (path : Path) (n : Node) : Reads (List String) := do
  let endpoints : Field (Option (List String)) :=
    ⟨"endpoints", Option.isSome, fun p v _ => do return some (← readTexts d p 0 (← items d p v))⟩
  required "endpoints" path (← readRecord d "struct NetworkConfig" [endpoints] none path n)

def readNetworks (path : Path) (n : Node) : Reads (List (NetworkId × List String)) := do
  let key (p : Path) (k : Node) : Reads NetworkId := (readWord d p k).map NetworkId.mk
  readEntries key (readNetwork d) path (← entries d "a map" path n) []

structure GatheredLog where
  level : Option String
  components : Option (List (String × String))
  json : Option Bool

def logFields : List (Field GatheredLog) :=
  [⟨"level", (·.level.isSome), fun p v g => do return { g with level := some (← readText d p v) }⟩,
   ⟨"components", (·.components.isSome), fun p v g => do
      let components ← readEntries (readText d) (readText d) p (← entries d "a map" p v) []
      return { g with components := some components }⟩,
   ⟨"json", (·.json.isSome), fun p v g => do return { g with json := some (← readFlag d p v) }⟩]

def readLog (path : Path) (n : Node) : Reads LogConfig := do
  let g ← readRecord d "struct LogConfig" (logFields d) ⟨none, none, none⟩ path n
  let other := LogConfig.default
  return ⟨g.level.getD other.level, g.components.getD other.components, g.json.getD other.json⟩

structure Gathered where
  port : Option UInt16
  refreshIntervalSecs : Option UInt64
  probeTimeoutMs : Option UInt64
  attemptTimeoutMs : Option UInt64
  maxIdleForwarders : Option UInt64
  maxRequestBytes : Option UInt64
  verifyChainId : Option Bool
  log : Option LogConfig
  networks : Option (List (NetworkId × List String))

def Gathered.none : Gathered :=
  ⟨.none, .none, .none, .none, .none, .none, .none, .none, .none⟩

def fields : List (Field Gathered) :=
  [⟨"port", (·.port.isSome), fun p v g => do return { g with port := some (← readPort d p v) }⟩,
   ⟨"refresh_interval_secs", (·.refreshIntervalSecs.isSome), fun p v g => do
      return { g with refreshIntervalSecs := some (← readWord d p v) }⟩,
   ⟨"probe_timeout_ms", (·.probeTimeoutMs.isSome), fun p v g => do
      return { g with probeTimeoutMs := some (← readWord d p v) }⟩,
   ⟨"attempt_timeout_ms", (·.attemptTimeoutMs.isSome), fun p v g => do
      return { g with attemptTimeoutMs := some (← readWord d p v) }⟩,
   ⟨"max_idle_forwarders", (·.maxIdleForwarders.isSome), fun p v g => do
      return { g with maxIdleForwarders := some (← readSize d p v) }⟩,
   ⟨"max_request_bytes", (·.maxRequestBytes.isSome), fun p v g => do
      return { g with maxRequestBytes := some (← readSize d p v) }⟩,
   ⟨"verify_chain_id", (·.verifyChainId.isSome), fun p v g => do
      return { g with verifyChainId := some (← readFlag d p v) }⟩,
   ⟨"log", (·.log.isSome), fun p v g => do return { g with log := some (← readLog d p v) }⟩,
   ⟨"networks", (·.networks.isSome), fun p v g => do
      return { g with networks := some (← readNetworks d p v) }⟩]

def Gathered.complete (g : Gathered) (networks : List (NetworkId × List String)) : Config :=
  let usual := withNetworks networks
  { port := g.port.getD usual.port
    refreshIntervalSecs := g.refreshIntervalSecs.getD usual.refreshIntervalSecs
    probeTimeoutMs := g.probeTimeoutMs.getD usual.probeTimeoutMs
    attemptTimeoutMs := g.attemptTimeoutMs.getD usual.attemptTimeoutMs
    maxIdleForwarders := g.maxIdleForwarders.getD usual.maxIdleForwarders
    maxRequestBytes := g.maxRequestBytes.getD usual.maxRequestBytes
    verifyChainId := g.verifyChainId.getD usual.verifyChainId
    log := g.log.getD usual.log
    networks := networks }

def ofDocument : Reads Config := do
  let g ← readRecord d "struct ProxyConfig" (fields d) .none "" d.root
  let networks ← required "networks" "" g.networks
  if d.alone then return g.complete networks else throw .malformed

def ofText (text : String) : Reads Config := do
  let c ← ofDocument (Document.ofText text)
  c.validate
  return c

end Config

end RankedRelay
