import RankedRelay.Mismatch
import RankedRelay.Number.Shortest
import RankedRelay.Yaml.Node

namespace RankedRelay.Yaml

open Number (Binary64 ShortDecimal)

def isNull (s : String) : Bool := s = "null" || s = "Null" || s = "NULL" || s = "~"

def boolean? (s : String) : Option Bool :=
  if s = "true" ∨ s = "True" ∨ s = "TRUE" then some true
  else if s = "false" ∨ s = "False" ∨ s = "FALSE" then some false
  else none

def withoutPlus : List Char → List Char
  | '+' :: s => s
  | s => s

def withoutSign : List Char → List Char
  | '+' :: s => s
  | '-' :: s => s
  | s => s

def octalDigit? (c : Char) : Option Nat := (Text.digit? c).filter (· < 8)

def binaryDigit? (c : Char) : Option Nat := (Text.digit? c).filter (· < 2)

def based? : List Char → Option Nat
  | '0' :: 'x' :: d :: s => Text.readDigits 16 Text.hexDigit? (d :: s) 0
  | '0' :: 'o' :: d :: s => Text.readDigits 8 octalDigit? (d :: s) 0
  | '0' :: 'b' :: d :: s => Text.readDigits 2 binaryDigit? (d :: s) 0
  | _ => none

def hasLeadingZero (s : List Char) : Bool :=
  match withoutSign s with
  | '0' :: d :: rest => (d :: rest).all fun c => (Text.digit? c).isSome
  | _ => false

def magnitude? (s : List Char) : Option Nat :=
  match based? s with
  | some n => some n
  | none => Text.decimal? s

def natural? (limit : Nat) (s : String) : Option Nat :=
  if hasLeadingZero s.toList then none else (magnitude? (withoutPlus s.toList)).filter (· < limit)

def negative? (limit : Nat) (s : String) : Option Int :=
  match s.toList with
  | '-' :: digits =>
    if hasLeadingZero digits then none
    else ((magnitude? digits).filter (· ≤ limit)).map fun n => -(n : Int)
  | _ => none

def integer? (s : String) : Option Found :=
  match natural? UInt64.size s, negative? (Nat.pow 2 63) s with
  | some n, _ => some (.integer n)
  | none, some n => some (.integer n)
  | none, none =>
    match natural? (Nat.pow 2 128) s, negative? (Nat.pow 2 127) s with
    | some n, _ => some (.other s!"integer \x60{n}\x60 as u128")
    | none, some n => some (.other s!"integer \x60{n}\x60 as i128")
    | none, none => none

def exponent? : List Char → Option Int
  | [] => some 0
  | e :: s =>
    if e = 'e' ∨ e = 'E' then
      match s with
      | '-' :: digits => (Text.decimal? digits).map fun n => -(n : Int)
      | digits => (Text.decimal? (withoutPlus digits)).map fun n => (n : Int)
    else none

/-- Digits around a point, with an exponent: the digits without the point, and the power of ten that
they are multiplied by. -/
def decimalParts? (s : List Char) : Option (List Char × Int) :=
  let whole := s.takeWhile Char.isDigit
  let rest := s.drop whole.length
  let fraction := match rest with
    | '.' :: t => t.takeWhile Char.isDigit
    | _ => []
  let rest := match rest with
    | '.' :: t => t.drop fraction.length
    | t => t
  let digits := whole ++ fraction
  if digits.isEmpty then none else (exponent? rest).map fun e => (digits, e - fraction.length)

def nearest (digits : List Char) (exponent : Int) : Option Binary64 :=
  let digits := digits.dropWhile (· = '0')
  let n := (Text.readDigits 10 Text.digit? digits 0).getD 0
  let places := digits.length + exponent
  if digits.isEmpty ∨ places < -400 then some .zero
  else if 400 < places then none
  else if 0 ≤ exponent then Binary64.ofRatio (n * Nat.pow 10 exponent.toNat) 1
  else Binary64.ofRatio n (Nat.pow 10 (-exponent).toNat)

def positional (d : ShortDecimal) : String :=
  let digits := toString d.digits
  let point : Int := digits.length + d.exponent
  if 0 ≤ d.exponent then digits ++ Number.zeros d.exponent.toNat ++ ".0"
  else if 0 < point then
    (digits.take point.toNat).toString ++ "." ++ (digits.drop point.toNat).toString
  else "0." ++ Number.zeros (-point).toNat ++ digits

def float? (s : String) : Option String :=
  let unsigned := withoutPlus s.toList
  if s.startsWith "+" ∧ (unsigned.head? = some '+' ∨ unsigned.head? = some '-') then none
  else if [".inf", ".Inf", ".INF"].contains (String.ofList unsigned) then some "inf"
  else if ["-.inf", "-.Inf", "-.INF"].contains s then some "-inf"
  else if [".nan", ".NaN", ".NAN"].contains s then some "NaN"
  else do
    let isNegative := unsigned.head? = some '-'
    let (digits, exponent) ← decimalParts? (if isNegative then unsigned.drop 1 else unsigned)
    let x ← nearest digits exponent
    some ((if isNegative then "-" else "") ++ positional x.shortest)

/-- What a plain scalar without a tag stands for. -/
def untagged (s : String) : Found :=
  if s = "" ∨ isNull s then .other "unit value"
  else
    match boolean? s, integer? s with
    | some b, _ => .boolean b
    | none, some n => n
    | none, none =>
      if hasLeadingZero s.toList then .string s
      else
        match float? s with
        | some x => .float x
        | none => .string s

def boolTag : String := "tag:yaml.org,2002:bool"
def intTag : String := "tag:yaml.org,2002:int"
def floatTag : String := "tag:yaml.org,2002:float"
def nullTag : String := "tag:yaml.org,2002:null"

/-- How a scalar fails to be what is expected. With a tag of the core schema it fails to be that in
the first place. -/
def Scalar.mismatch (s : Scalar) (expected : String) : Mismatch :=
  let wrong (found : Found) : Mismatch := .invalidType found expected
  let asTagged (found : Option Found) (kind : String) : Mismatch :=
    match found with
    | some f => wrong f
    | none => .invalidValue (.string s.text) kind
  match s.tag with
  | none => wrong (if s.style = .plain then untagged s.text else .string s.text)
  | some tag =>
    if tag = boolTag then asTagged ((boolean? s.text).map .boolean) "a boolean"
    else if tag = intTag then asTagged (integer? s.text) "an integer"
    else if tag = floatTag then asTagged ((float? s.text).map .float) "a float"
    else if tag = nullTag then
      asTagged (if isNull s.text then some (.other "unit value") else none) "null"
    else if tag.startsWith "!" ∧ s.style = .plain then wrong (untagged s.text)
    else wrong (.string s.text)

/-- Whether a scalar can be read as something else than text: it is plain, or a literal block with
the tag of what is wanted. -/
def Scalar.isBare (s : Scalar) (tag : String) : Bool :=
  s.style = .plain || (s.style = .literal && s.tag = some tag)

def Node.mismatch (n : Node) (expected : String) : Mismatch :=
  match n with
  | .scalar s => s.mismatch expected
  | .mapping _ => .invalidType .mapping expected
  | _ => .invalidType .sequence expected

end RankedRelay.Yaml
