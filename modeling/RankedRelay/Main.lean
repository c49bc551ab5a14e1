import RankedRelay.Program.Run

open RankedRelay RankedRelay.Program

def fileErrorText : IO.Error → String
  | .noFileOrDirectory .. => "No such file or directory (os error 2)"
  | .permissionDenied .. => "Permission denied (os error 13)"
  | .inappropriateType _ code _ =>
    if code = 21 then "Is a directory (os error 21)" else "Not a directory (os error 20)"
  | e => toString e

def fileText (path : String) : IO (Except String String) := do
  try
    let text ← IO.FS.readFile path
    return .ok text
  catch e => return .error (fileErrorText e)

def namedFile (args : List String) : IO (Except String String) :=
  match Command.parse args with
  | .run command =>
    match command.configPath? with
    | some path => fileText path
    | none => return .ok ""
  | _ => return .ok ""

def main (args : List String) : IO UInt32 := do
  let file ← namedFile args
  let here : Environment :=
    { read := fun _ => file
      bind := fun _ => .error "Operation not supported (os error 95)"
      servers := fun _ _ => none
      logDirectives := none
      epoch := ⟨0, 0⟩ }
  match run here args with
  | .ended o =>
    IO.print o.out
    IO.eprint o.err
    return UInt32.ofNat o.exit
  | .serving s =>
    IO.print s.shutDown.logText
    return 0
