import RankedRelay.Http.Progress
import RankedRelay.Text.Decimal

namespace RankedRelay.Http

structure Field where
  name : String
  value : Bytes
deriving DecidableEq, Repr

inductive Version where
  | http10
  | http11
deriving DecidableEq, Repr

structure Head where
  version : Version
  status : Nat
  fields : List Field
deriving DecidableEq, Repr

def visible? (value : Bytes) : Option String :=
  if value.all fun b => isText b && b < 0x80 then Bytes.text? value else none

namespace Head

def values (h : Head) (name : String) : List Bytes :=
  (h.fields.filter (·.name == name)).map (·.value)

/-- The first content type counts, if it is visible. -/
def contentType? (h : Head) : Option String := (h.values "content-type").head?.bind visible?

end Head

def readVersion (bs : Bytes) : Progress Version :=
  (literal (.ofText "HTTP/1.") bs).bind fun _ rest =>
    match rest with
    | [] => .short
    | 0x30 :: rest => .done .http10 rest
    | 0x31 :: rest => .done .http11 rest
    | _ :: _ => .refused

def readStatusDigits : Nat → Nat → Bytes → Progress Nat
  | 0, acc, bs => .done acc bs
  | _ + 1, _, [] => .short
  | n + 1, acc, b :: rest =>
    if isDigit b then readStatusDigits n (acc * 10 + (b.toNat - 0x30)) rest else .refused

/-- What follows the status: a reason, which may be missing together with the blank in front. -/
def readReason (bs : Bytes) : Progress Unit :=
  match bs with
  | [] => .short
  | 0x20 :: rest => (line rest).map fun _ => ()
  | 0x0d :: rest => lineFeed rest
  | 0x0a :: rest => .done () rest
  | _ :: _ => .refused

def smallLetters (name : Bytes) : String :=
  String.ofList (name.map fun b => (Char.ofNat b.toNat).toLower)

def readName (bs : Bytes) : Progress String :=
  match bs.span isToken with
  | (_, []) => .short
  | (name, 0x3a :: rest) => if name.isEmpty then .refused else .done (smallLetters name) rest
  | _ => .refused

def trimBlanks (value : Bytes) : Bytes :=
  ((value.dropWhile isBlank).reverse.dropWhile isBlank).reverse

def readField (bs : Bytes) : Progress Field :=
  (readName bs).bind fun name rest =>
    (line rest).map fun value => ⟨name, trimBlanks value⟩

def readFields : Nat → Bytes → Progress (List Field)
  | _, [] => .short
  | _, 0x0a :: rest => .done [] rest
  | _, 0x0d :: rest => (lineFeed rest).map fun _ => []
  | 0, _ => .refused
  | limit + 1, bs =>
    (readField bs).bind fun field rest => (readFields limit rest).map (field :: ·)

def maxFields : Nat := 100

def maxHeadBytes : Nat := 417792

def readHeadLines (bs : Bytes) : Progress Head :=
  (skipEmptyLines bs).bind fun _ rest =>
    (readVersion rest).bind fun version rest =>
      (literal [0x20] rest).bind fun _ rest =>
        (readStatusDigits 3 0 rest).bind fun status rest =>
          (readReason rest).bind fun _ rest =>
            (readFields maxFields rest).map fun fields => ⟨version, status, fields⟩

def readHead (bs : Bytes) : Progress Head :=
  match readHeadLines bs with
  | .done head rest => if head.status < 100 then .refused else .done head rest
  | .short => if bs.length < maxHeadBytes then .short else .refused
  | .refused => .refused

end RankedRelay.Http
