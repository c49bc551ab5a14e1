import RankedRelay.Ascending
import RankedRelay.Number.Shortest
import RankedRelay.Text.Decimal

namespace RankedRelay.Json

open Number (Binary64)

inductive Numeral where
  | integer (n : Int)
  | float (negative : Bool) (magnitude : Binary64)
deriving DecidableEq, Repr

def Numeral.text : Numeral → String
  | integer n => toString n
  | float negative x => (if negative then "-" else "") ++ x.shortest.text

inductive Value where
  | null
  | bool (b : Bool)
  | number (n : Numeral)
  | string (s : String)
  | array (items : List Value)
  | object (members : List (String × Value))
deriving Repr

instance : Inhabited Value := ⟨.null⟩

/-- An object whose members are ordered by key; of two with one key the later stays. -/
def Value.ofMembers (members : List (String × Value)) : Value := .object (collect members)

def escape (c : Char) : String :=
  match c with
  | '"' => "\\\""
  | '\\' => "\\\\"
  | '\x08' => "\\b"
  | '\x0c' => "\\f"
  | '\n' => "\\n"
  | '\r' => "\\r"
  | '\t' => "\\t"
  | _ =>
    if c.toNat < 0x20 then
      (if c.toNat < 0x10 then "\\u000" else "\\u00") ++ Text.hexadecimal c.toNat
    else String.singleton c

def quote (s : String) : String := "\"" ++ String.join (s.toList.map escape) ++ "\""

mutual

/-- The text without blanks. -/
def Value.text : Value → String
  | .null => "null"
  | .bool b => if b then "true" else "false"
  | .number n => n.text
  | .string s => quote s
  | .array items => "[" ++ itemsText items ++ "]"
  | .object members => "\x7b" ++ membersText members ++ "\x7d"

def itemsText : List Value → String
  | [] => ""
  | [v] => v.text
  | v :: w :: rest => v.text ++ "," ++ itemsText (w :: rest)

def memberText : String × Value → String
  | (k, v) => quote k ++ ":" ++ v.text

def membersText : List (String × Value) → String
  | [] => ""
  | [m] => memberText m
  | m :: n :: rest => memberText m ++ "," ++ membersText (n :: rest)

end

namespace Value

def natural (n : Nat) : Value := .number (.integer n)

def ofOption {α : Type} (f : α → Value) : Option α → Value
  | none => .null
  | some a => f a

def member? (key : String) : Value → Option Value
  | object members => (members.find? (·.1 == key)).map (·.2)
  | _ => none

end Value

end RankedRelay.Json
