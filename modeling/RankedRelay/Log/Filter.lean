import RankedRelay.Config.Basic
import RankedRelay.Text.Decimal

namespace RankedRelay

inductive LogLevel where
  | error
  | warn
  | info
  | debug
  | trace
deriving DecidableEq, Repr

namespace LogLevel

def rank : LogLevel → Nat
  | error => 1
  | warn => 2
  | info => 3
  | debug => 4
  | trace => 5

def name : LogLevel → String
  | error => "ERROR"
  | warn => "WARN"
  | info => "INFO"
  | debug => "DEBUG"
  | trace => "TRACE"

def all : List LogLevel := [error, warn, info, debug, trace]

end LogLevel

abbrev Verbosity := Option LogLevel

namespace Verbosity

def admits (v : Verbosity) (level : LogLevel) : Bool := v.any fun l => level.rank ≤ l.rank

def ofNumber? (n : Nat) : Option Verbosity :=
  if n = 0 then some none else (LogLevel.all.find? (·.rank == n)).map some

def ofName? (s : List Char) : Option Verbosity :=
  let small := String.ofList (s.map (·.toLower))
  if small = "off" then some none
  else (LogLevel.all.find? (·.name.toLower == small)).map some

def parse? (s : List Char) : Option Verbosity :=
  let digits := match s with
    | '+' :: rest => rest
    | s => s
  ((Text.decimal? digits).bind ofNumber?).or (ofName? s)

end Verbosity

/-- What one part of a program may log. -/
structure LogDirective where
  target : Option String
  isScoped : Bool
  verbosity : Verbosity
deriving DecidableEq, Repr

namespace LogDirective

def startsTarget (c : Char) : Bool := c.isAlphanum || "-:_".toList.contains c || 0x80 ≤ c.toNat

def behindSpan? (s : List Char) : Option (List Char) :=
  match s.dropWhile fun c => c != ']' && c != '\x7b' with
  | [] => none
  | ']' :: rest => some rest
  | _ :: fields =>
    match fields.span (· != '\x7d') with
    | (_ :: _, _ :: ']' :: rest) => some rest
    | _ => none

def verbosityOf? (s : List Char) : Option Verbosity :=
  if s.isEmpty then some (some .trace) else Verbosity.parse? s

def isBlank (c : Char) : Bool := c.isWhitespace

/-- A level, a target, or a target with a level, a span behind it or both. Blanks in front of an
equals sign or a span are a fault; elsewhere they belong to the target. -/
def parse? (s : List Char) : Option LogDirective :=
  let isBlankFirst := s.head?.any isBlank
  match s.span fun c => c != '=' && c != '[' with
  | (front, []) =>
    if !(front.dropWhile isBlank).head?.any startsTarget then none
    else
      match Verbosity.parse? front with
      | some v => some ⟨none, false, v⟩
      | none => some ⟨some (String.ofList front), false, some .trace⟩
  | (front, '=' :: level) =>
    if isBlankFirst ∨ !front.head?.any startsTarget then none
    else (verbosityOf? level).map (⟨some (String.ofList front), false, ·⟩)
  | (front, _ :: span) =>
    if isBlankFirst ∨ !front.head?.all startsTarget then none
    else
      let target := if front.isEmpty then none else some (String.ofList front)
      match behindSpan? span with
      | some [] => some ⟨target, true, some .trace⟩
      | some ('=' :: level) => (verbosityOf? level).map (⟨target, true, ·⟩)
      | _ => none

def applies (d : LogDirective) (target : String) : Bool :=
  !d.isScoped && d.target.all fun t => t.toList.isPrefixOf target.toList

/-- A longer target is more specific, and none is least. -/
def weight (d : LogDirective) : Nat :=
  match d.target with
  | none => 0
  | some t => t.utf8ByteSize + 1

end LogDirective

structure LogFilter where
  directives : List LogDirective
deriving DecidableEq, Repr

namespace LogFilter

/-- Directives between commas. Without any, only errors are logged. -/
def parse? (s : String) : Option LogFilter := do
  let parts := (s.splitOn ",").filter (· != "")
  let directives ← parts.mapM fun part => LogDirective.parse? part.toList
  return ⟨if directives.isEmpty then [⟨none, false, some .error⟩] else directives⟩

def usual : LogFilter := ⟨[⟨none, false, some .info⟩]⟩

def prefer (best : Option LogDirective) (d : LogDirective) : Option LogDirective :=
  match best with
  | none => some d
  | some b => if b.weight ≤ d.weight then some d else some b

def admits (f : LogFilter) (level : LogLevel) (target : String) : Bool :=
  match (f.directives.filter (·.applies target)).foldl prefer none with
  | none => false
  | some d => d.verbosity.admits level

/-- Directives from the environment come first, if there are any and they are in order, then those
of the configuration, then the usual ones. -/
def choose (environment : Option String) (c : LogConfig) : LogFilter :=
  ((environment.bind parse?).or (parse? c.directives)).getD usual

end LogFilter

end RankedRelay
