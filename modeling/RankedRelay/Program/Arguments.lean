import RankedRelay.Text.Decimal

namespace RankedRelay.Program

structure OptionSpec where
  name : String
  letter : Option Char
  required : Bool
  accepts : String → Bool

inductive Parsed (α : Type) where
  | run (value : α)
  | help
  | version
  | wrong
deriving DecidableEq, Repr

abbrev Values := List (String × String)

def takeValue (spec : OptionSpec) (value : String) (taken : Values) : Option Values :=
  if taken.any (·.1 == spec.name) ∨ !spec.accepts value then none
  else some (taken ++ [(spec.name, value)])

/-- An argument that can be the value of the option in front of it. -/
def isValue (s : String) : Bool := !s.startsWith "-" || s = "-"

inductive Dashed where
  | help
  | option (spec : OptionSpec) (value : Option String)
  | unknown

def readLong (specs : List OptionSpec) (s : List Char) : Dashed :=
  let (name, rest) := s.span (· != '=')
  match rest with
  | [] =>
    if name = "help".toList then .help
    else
      match specs.find? fun spec => spec.name.toList == name with
      | some spec => .option spec none
      | none => .unknown
  | _ :: value =>
    match specs.find? fun spec => spec.name.toList == name with
    | some spec => .option spec (some (String.ofList value))
    | none => .unknown

/-- A letter, and its value in one argument if there is more. An equals sign between them does not
count. -/
def readShort (specs : List OptionSpec) (letter : Char) (rest : List Char) : Dashed :=
  if letter = 'h' then .help
  else
    match specs.find? fun spec => spec.letter == some letter with
    | none => .unknown
    | some spec =>
      match rest with
      | [] => .option spec none
      | '=' :: value => .option spec (some (String.ofList value))
      | value => .option spec (some (String.ofList value))

def readDashed (specs : List OptionSpec) (s : String) : Dashed :=
  match s.toList with
  | '-' :: '-' :: name => readLong specs name
  | '-' :: letter :: rest => readShort specs letter rest
  | _ => .unknown

def complete (specs : List OptionSpec) (taken : Values) : Parsed Values :=
  if specs.all fun spec => !spec.required || taken.any (·.1 == spec.name) then .run taken
  else .wrong

/-- Reads options. The first that is wrong, or the call for help, decides. -/
def readOptions (specs : List OptionSpec) : List String → Values → Parsed Values
  | [], taken => complete specs taken
  | arg :: rest, taken =>
    if arg = "--" then if rest.isEmpty then complete specs taken else .wrong
    else
      match readDashed specs arg with
      | .unknown => .wrong
      | .help => .help
      | .option spec (some value) =>
        match takeValue spec value taken with
        | some taken => readOptions specs rest taken
        | none => .wrong
      | .option spec none =>
        match rest with
        | [] => .wrong
        | value :: rest =>
          if !isValue value then .wrong
          else
            match takeValue spec value taken with
            | some taken => readOptions specs rest taken
            | none => .wrong

def withoutPlus : List Char → List Char
  | '+' :: rest => rest
  | s => s

def word? (s : String) : Option UInt64 :=
  (Text.decimal? (withoutPlus s.toList)).bind fun n =>
    if n < UInt64.size then some (.ofNat n) else none

/-- A number below `2 ^ 16`, with a sign or without; zero may be negative. -/
def port? (s : String) : Option UInt16 :=
  match s.toList with
  | '-' :: digits => (Text.decimal? digits).bind fun n => if n = 0 then some 0 else none
  | cs =>
    (Text.decimal? (withoutPlus cs)).bind fun n => if n < UInt16.size then some (.ofNat n) else none

end RankedRelay.Program
