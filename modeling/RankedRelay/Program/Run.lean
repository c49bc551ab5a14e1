import RankedRelay.Program.Command
import RankedRelay.Program.Inspect
import RankedRelay.Program.Service

namespace RankedRelay.Program

inductive Start where
  | ended (o : Outcome)
  | serving (s : Service)

def versionText : String := Http.programName ++ " " ++ Http.programVersion ++ "\n"

def helpText : String :=
  "Usage: " ++ Http.programName ++ " <COMMAND>\n\n" ++
    "Commands:\n" ++
    "  serve --config <FILE> [--port <PORT>]\n" ++
    "  probe --url <URL> [--network <ID>] [--timeout-ms <MS>]\n" ++
    "  rank --config <FILE>\n" ++
    "  help [COMMAND]\n"

def wrongUsage : Outcome := ⟨2, "", "error: wrong usage\n\n" ++ helpText⟩

def serve (here : Environment) (path : String) (port : Option UInt16) :
    Except ErrorChain Service := do
  let c ← here.load path
  let c := { c with port := port.getD c.port }
  match Relay.build c here.epoch with
  | .error e => throw e.chain
  | .ok relay => Service.start here c relay

def runCommand (here : Environment) : Command → Start
  | .serve path port =>
    match serve here path port with
    | .error e => .ended (.failure "" e)
    | .ok s => .serving s
  | .probe url network timeoutMs => .ended (probe here url network timeoutMs)
  | .rank path => .ended (rank here path)

def run (here : Environment) (args : List String) : Start :=
  match Command.parse args with
  | .run command => runCommand here command
  | .help => .ended (.success helpText)
  | .version => .ended (.success versionText)
  | .wrong => .ended wrongUsage

end RankedRelay.Program
