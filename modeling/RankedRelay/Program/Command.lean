import RankedRelay.Program.Arguments

namespace RankedRelay.Program

inductive Command where
  | serve (config : String) (port : Option UInt16)
  | probe (url : String) (network : Option UInt64) (timeoutMs : UInt64)
  | rank (config : String)
deriving DecidableEq, Repr

namespace Command

def configPath? : Command → Option String
  | serve config _ => some config
  | probe _ _ _ => none
  | rank config => some config

def configOption : OptionSpec := ⟨"config", some 'c', true, (· != "")⟩

def portOption : OptionSpec := ⟨"port", some 'p', false, fun s => (port? s).isSome⟩

def urlOption : OptionSpec := ⟨"url", none, true, fun _ => true⟩

def networkOption : OptionSpec := ⟨"network", none, false, fun s => (word? s).isSome⟩

def timeoutOption : OptionSpec := ⟨"timeout-ms", none, false, fun s => (word? s).isSome⟩

def valueOf (spec : OptionSpec) (values : Values) : Option String :=
  (values.find? (·.1 == spec.name)).map (·.2)

def ofServe (values : Values) : Command :=
  .serve ((valueOf configOption values).getD "") ((valueOf portOption values).bind port?)

def ofProbe (values : Values) : Command :=
  .probe ((valueOf urlOption values).getD "") ((valueOf networkOption values).bind word?)
    (((valueOf timeoutOption values).bind word?).getD 5000)

def ofRank (values : Values) : Command := .rank ((valueOf configOption values).getD "")

def parsedWith (specs : List OptionSpec) (make : Values → Command) (args : List String) :
    Parsed Command :=
  match readOptions specs args [] with
  | .run values => .run (make values)
  | .help => .help
  | .version => .version
  | .wrong => .wrong

def names : List String := ["serve", "probe", "rank", "help"]

def parseHelp : List String → Parsed Command
  | [] => .help
  | [name] => if names.contains name then .help else .wrong
  | _ => .wrong

def parse : List String → Parsed Command
  | [] => .wrong
  | "serve" :: args => parsedWith [configOption, portOption] ofServe args
  | "probe" :: args => parsedWith [urlOption, networkOption, timeoutOption] ofProbe args
  | "rank" :: args => parsedWith [configOption] ofRank args
  | "help" :: args => parseHelp args
  | "--help" :: _ => .help
  | "--version" :: _ => .version
  | arg :: _ =>
    match arg.toList with
    | '-' :: 'h' :: _ => .help
    | '-' :: 'V' :: _ => .version
    | _ => .wrong

end Command

end RankedRelay.Program
