import RankedRelay.Config.Reading
import RankedRelay.Http.Client
import RankedRelay.Relay.Setup

namespace RankedRelay

namespace Text

def blanks (n : Nat) : String := String.ofList (List.replicate n ' ')

def alignRight (width : Nat) (s : String) : String := blanks (width - s.length) ++ s

def alignLeft (width : Nat) (s : String) : String := s ++ blanks (width - s.length)

end Text

structure ErrorChain where
  text : String
  causes : List String
deriving DecidableEq, Repr

def ConfigError.causes (e : ConfigError) : List String :=
  match e with
  | unreadable _ reason => [e.text, reason]
  | malformed => [e.text]
  | mismatch path m => [e.text, placed path m]
  | invalid _ => [e.text]

def SetupError.chain (e : SetupError) : ErrorChain := ⟨e.context, e.cause.causes⟩

namespace ErrorChain

def line (e : ErrorChain) : String := ": ".intercalate (e.text :: e.causes)

def indented (first other text : String) : String :=
  first ++ ("\n" ++ other).intercalate (text.splitOn "\n") ++ "\n"

def numbered (cause : String × Nat) : String :=
  indented (Text.alignRight 5 (toString cause.2) ++ ": ") "       " cause.1

/-- The causes below the error, numbered if there are several. -/
def report (e : ErrorChain) : String :=
  let causes := match e.causes with
    | [] => ""
    | [cause] => "\nCaused by:\n" ++ indented "    " "    " cause
    | causes => "\nCaused by:\n" ++ String.join (causes.zipIdx.map numbered)
  "Error: " ++ e.text ++ "\n" ++ causes

end ErrorChain

namespace Program

structure Outcome where
  exit : Nat
  out : String
  err : String
deriving DecidableEq, Repr

namespace Outcome

def success (out : String) : Outcome := ⟨0, out, ""⟩

def failure (out : String) (e : ErrorChain) : Outcome := ⟨1, out, e.report⟩

def crash (out : String) : Outcome := ⟨101, out, ""⟩

end Outcome

structure Environment where
  read : String → Except String String
  bind : UInt16 → Except String Unit
  servers : Http.Servers
  logDirectives : Option String
  epoch : Moment

namespace Environment

def readConfig (here : Environment) (path : String) : Except ConfigError Config :=
  match here.read path with
  | .error reason => .error (.unreadable path reason)
  | .ok text => Config.ofText text

def load (here : Environment) (path : String) : Except ErrorChain Config :=
  match here.readConfig path with
  | .error e => .error ⟨"loading " ++ path, e.causes⟩
  | .ok c => .ok c

end Environment

end Program

end RankedRelay
