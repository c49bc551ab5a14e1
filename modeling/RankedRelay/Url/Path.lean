import RankedRelay.Url.Basic

namespace RankedRelay.Url

/-- The rules that a scheme brings: separators, hosts and ports. -/
inductive SchemeKind where
  | special (port : UInt16)
  | file
  | other
deriving DecidableEq, Repr

def SchemeKind.of (scheme : String) : SchemeKind :=
  if scheme = "http" ∨ scheme = "ws" then .special 80
  else if scheme = "https" ∨ scheme = "wss" then .special 443
  else if scheme = "ftp" then .special 21
  else if scheme = "file" then .file
  else .other

def SchemeKind.takesBackslash (k : SchemeKind) : Bool := k != .other

def SchemeKind.isSlash (k : SchemeKind) (c : Char) : Bool :=
  c = '/' || (k.takesBackslash && c = '\\')

def isOneOf (s : String) (b : UInt8) : Bool := (Bytes.ofText s).any (· == b)

def isControl (b : UInt8) : Bool := b < 0x20 || 0x7f ≤ b

def inFragmentSet (b : UInt8) : Bool := isControl b || isOneOf " \"<>\x60" b

def inQuerySet (b : UInt8) : Bool := isControl b || isOneOf " \"#<>" b

def inSpecialQuerySet (b : UInt8) : Bool := inQuerySet b || b = 0x27

def inPathSet (b : UInt8) : Bool := inFragmentSet b || isOneOf "#?\x7b\x7d" b

def inUserinfoSet (b : UInt8) : Bool := inPathSet b || isOneOf "/:;=@[\\]^|" b

/-- A segment with its escaped dots undone, for telling dots. -/
def plainDots : List Char → List Char
  | '%' :: '2' :: 'e' :: rest => '.' :: plainDots rest
  | '%' :: '2' :: 'E' :: rest => '.' :: plainDots rest
  | c :: rest => c :: plainDots rest
  | [] => []

def isDrive : List Char → Bool
  | [letter, c] => letter.isAlpha && (c = ':' || c = '|')
  | _ => false

def splitSegments (k : SchemeKind) : List Char → List (List Char)
  | [] => [[]]
  | c :: rest =>
    match splitSegments k rest with
    | part :: parts => if k.isSlash c then [] :: part :: parts else (c :: part) :: parts
    | [] => [[c]]

/-- One step up, but not above a drive. -/
def shorten (k : SchemeKind) (path : List String) : List String :=
  match k, path with
  | .file, [drive] => if isDrive drive.toList then path else []
  | _, _ => path.dropLast

/-- Adds segments in order. Dots at the end leave an empty segment. -/
def addSegments (k : SchemeKind) (path : List String) : List (List Char) → List String
  | [] => path
  | s :: rest =>
    let last := if rest.isEmpty then [""] else []
    if plainDots s = ['.', '.'] then addSegments k (shorten k path ++ last) rest
    else if plainDots s = ['.'] then addSegments k (path ++ last) rest
    else if k = .file ∧ path.isEmpty ∧ isDrive s then
      addSegments k [String.ofList (s.take 1 ++ [':'])] rest
    else addSegments k (path ++ [Percent.encodeChars inPathSet s]) rest

def withoutEmptyFront : List String → List String
  | "" :: s :: rest => withoutEmptyFront (s :: rest)
  | path => path

def readSegments (k : SchemeKind) (s : List Char) : List String :=
  let path := addSegments k [] (splitSegments k s)
  if k = .file then withoutEmptyFront path else path

end RankedRelay.Url
