import RankedRelay.Failure
import RankedRelay.Text.Bytes

namespace RankedRelay.Frontend

structure Call where
  method : String
  target : String
  headers : List (String × String)
  body : Bytes

inductive RequestTag where
  | callers (value : String)
  | fresh
deriving DecidableEq, Repr

structure Response where
  status : Nat
  contentType : Option String
  allow : Option String
  body : Bytes
deriving DecidableEq, Repr

def Response.empty (status : Nat) (allow : Option String) : Response := ⟨status, none, allow, []⟩

def Response.plain (status : Nat) (text : String) : Response :=
  ⟨status, some "text/plain; charset=utf-8", none, .ofText text⟩

def Response.json (status : Nat) (text : String) : Response :=
  ⟨status, some "application/json", none, .ofText text⟩

def Response.withoutBody (r : Response) : Response := { r with body := [] }

inductive Route where
  | health
  | status
  | network (segment : Bytes)
  | notAllowed (allow : String)
  | notFound
deriving DecidableEq, Repr

/-- The path of a target, which may name scheme and host in front of it. Query and fragment do
not count. -/
def path (target : String) : List Char :=
  let upToTail (s : List Char) : List Char := s.takeWhile fun c => c != '?' && c != '#'
  let rec afterScheme : List Char → Option (List Char)
    | ':' :: '/' :: '/' :: rest => some rest
    | c :: rest => if c = '/' then none else afterScheme rest
    | [] => none
  match upToTail target.toList with
  | '/' :: rest => '/' :: rest
  | s =>
    match afterScheme s with
    | some rest => rest.dropWhile (· != '/')
    | none => s

def networkSegment? (path : List Char) : Option (List Char) :=
  match path with
  | '/' :: 'r' :: 'p' :: 'c' :: '/' :: segment =>
    if segment.isEmpty ∨ segment.contains '/' then none else some segment
  | _ => none

def isRead (method : String) : Bool := method = "GET" || method = "HEAD"

def route (method target : String) : Route :=
  let p := path target
  if p = "/health-check".toList then if isRead method then .health else .notAllowed "GET,HEAD"
  else if p = "/status".toList then if isRead method then .status else .notAllowed "GET,HEAD"
  else
    match networkSegment? p with
    | none => .notFound
    | some segment =>
      if method = "POST" then .network (Percent.decode (.ofText (String.ofList segment)))
      else .notAllowed "POST"

def requestIdHeader : String := "x-request-id"

def Call.tag (c : Call) : RequestTag :=
  match c.headers.find? (·.1.toLower == requestIdHeader) with
  | some h => .callers h.2
  | none => .fresh

end RankedRelay.Frontend
