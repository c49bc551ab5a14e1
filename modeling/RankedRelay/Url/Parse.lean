import RankedRelay.Url.Host
import RankedRelay.Url.Path

namespace RankedRelay.Url

/-- Blanks and control characters at both ends do not count, and line ends and tabs nowhere. -/
def clean (s : String) : List Char :=
  let blank (c : Char) : Bool := c.toNat ≤ 0x20
  let trimmed := ((s.toList.dropWhile blank).reverse.dropWhile blank).reverse
  trimmed.filter fun c => !"\t\n\r".toList.contains c

/-- A letter, then letters, digits and three marks, up to a colon. The scheme is in small
letters. -/
def scheme? (s : List Char) : Option (String × List Char) :=
  let inScheme (c : Char) : Bool := c.isAlphanum || c = '+' || c = '-' || c = '.'
  match s.head?, s.span inScheme with
  | some c, (scheme, ':' :: rest) =>
    if c.isAlpha then some (String.ofList (scheme.map (·.toLower)), rest) else none
  | _, _ => none

def endsAuthority (k : SchemeKind) (c : Char) : Bool := k.isSlash c || c = '?' || c = '#'

def splitUserinfo (authority : List Char) : Option (List Char × List Char) :=
  match authority.reverse.span (· != '@') with
  | (_, []) => none
  | (behind, _ :: before) => some (before.reverse, behind.reverse)

structure Credentials where
  username : String
  password : String

def readCredentials (userinfo : List Char) : Credentials :=
  let (user, rest) := userinfo.span (· != ':')
  ⟨Percent.encodeChars inUserinfoSet user, Percent.encodeChars inUserinfoSet (rest.drop 1)⟩

def spanHost : Bool → List Char → List Char × List Char
  | _, [] => ([], [])
  | inside, c :: rest =>
    if c = ':' ∧ ¬inside then ([], c :: rest)
    else
      let inside := if c = '[' then true else if c = ']' then false else inside
      let (host, more) := spanHost inside rest
      (c :: host, more)

def readHost (k : SchemeKind) (s : List Char) : Except UrlError Host :=
  match k with
  | .other => if s.isEmpty then .ok (.name "") else Host.parseLoose s
  | _ => if s.isEmpty then .error .emptyHost else Host.parse s

/-- The digits of a port; what follows must be able to end them. -/
def readPort (k : SchemeKind) (s : List Char) : Except UrlError (Option UInt16 × List Char) :=
  let (digits, rest) := s.span fun c => (Text.digit? c).isSome
  let n := (Text.readDigits 10 Text.digit? digits 0).getD 0
  if UInt16.size ≤ n then .error .invalidPort
  else if rest.head?.any fun c => !"/\\?#".toList.contains c then .error .invalidPort
  else
    let port := UInt16.ofNat n
    .ok (if digits.isEmpty ∨ k = .special port then none else some port, rest)

def readTail (k : SchemeKind) (s : List Char) : Option String × Option String :=
  let set := if k = .other then inQuerySet else inSpecialQuerySet
  let (front, fragment) := s.span (· != '#')
  let query := match front with
    | '?' :: q => some (Percent.encodeChars set q)
    | _ => none
  let fragment := match fragment with
    | _ :: f => some (Percent.encodeChars inFragmentSet f)
    | [] => none
  (query, fragment)

def endsPath (c : Char) : Bool := c = '?' || c = '#'

def readRest (k : SchemeKind) (s : List Char) : UrlPath × Option String × Option String :=
  let (path, tail) := s.span (!endsPath ·)
  let segments := match path with
    | [] => if k = .other then [] else [""]
    | c :: rest => readSegments k (if k.isSlash c then rest else path)
  (.segments segments, readTail k tail)

def readAuthority (scheme : String) (k : SchemeKind) (s : List Char) : Except UrlError Url := do
  let (authority, rest) := s.span (!endsAuthority k ·)
  let (credentials, host) ← match splitUserinfo authority with
    | none => pure (⟨"", ""⟩, authority)
    | some (userinfo, host) =>
      if userinfo.isEmpty ∧ host.isEmpty ∧ ¬rest.isEmpty then throw .emptyHost
      else pure (readCredentials userinfo, host)
  let (hostText, behind) := spanHost false host
  let host ← readHost k hostText
  if host = .name "" ∧ behind.head? = some ':' then throw .emptyHost
  let (port, rest) ← match behind with
    | _ :: digits => readPort k (digits ++ rest)
    | [] => pure (none, rest)
  if host = .name "" ∧ (credentials.username ≠ "" ∨ credentials.password ≠ "") then
    throw .emptyHost
  let (path, query, fragment) := readRest k rest
  return ⟨scheme, credentials.username, credentials.password, some host, port, path, query,
    fragment⟩

/-- A file has a host only behind two slashes, and none that is a drive or this machine. -/
def readFile (s : List Char) : Except UrlError Url := do
  let isSlash := SchemeKind.file.isSlash
  let made (host : Host) (rest : List Char) : Url :=
    let (path, query, fragment) := readRest .file rest
    ⟨"file", "", "", some host, none, path, query, fragment⟩
  match s with
  | a :: b :: rest =>
    if isSlash a ∧ isSlash b then
      let (hostText, behind) := rest.span (!endsAuthority .file ·)
      if hostText.isEmpty ∨ isDrive hostText then return made (.name "") rest
      let host ← Host.parse hostText
      return made (if host = .name "localhost" then .name "" else host) behind
    else return made (.name "") s
  | _ => return made (.name "") s

/-- A scheme without rules of its own: slashes in front, or plain text. -/
def readOther (scheme : String) (s : List Char) : Except UrlError Url :=
  match s with
  | '/' :: '/' :: rest => readAuthority scheme .other rest
  | '/' :: _ =>
    let (path, query, fragment) := readRest .other s
    .ok ⟨scheme, "", "", none, none, path, query, fragment⟩
  | _ =>
    let (path, tail) := s.span (!endsPath ·)
    let (query, fragment) := readTail .other tail
    .ok ⟨scheme, "", "", none, none, .plain (Percent.encodeChars isControl path), query, fragment⟩

def parse (s : String) : Except UrlError Url :=
  match scheme? (clean s) with
  | none => .error .relative
  | some (scheme, rest) =>
    let k := SchemeKind.of scheme
    match k with
    | .special _ => readAuthority scheme k (rest.dropWhile k.isSlash)
    | .file => readFile rest
    | .other => readOther scheme rest

def schemeOf (s : String) : Except String String :=
  match parse s with
  | .ok u => .ok u.scheme
  | .error e => .error e.text

def pathText (u : Url) : String :=
  match u.path with
  | .plain text => text
  | .segments list =>
    let text := String.join (list.map ("/" ++ ·))
    -- without a host, two slashes in front would announce one
    if u.host.isNone ∧ text.startsWith "//" then "/." ++ text else text

def credentialsText (u : Url) : String :=
  if u.username = "" ∧ u.password = "" then ""
  else u.username ++ (if u.password = "" then "" else ":" ++ u.password) ++ "@"

def portText (u : Url) : String :=
  match u.port with
  | none => ""
  | some port => ":" ++ toString port.toNat

def tailText (mark : String) : Option String → String
  | none => ""
  | some text => mark ++ text

def text (u : Url) : String :=
  let authority := match u.host with
    | none => ""
    | some host => "//" ++ u.credentialsText ++ host.text ++ u.portText
  u.scheme ++ ":" ++ authority ++ u.pathText ++ tailText "?" u.query ++ tailText "#" u.fragment

def withoutCredentials (u : Url) : Url := { u with username := "", password := "" }

end RankedRelay.Url
