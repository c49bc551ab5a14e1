import RankedRelay.Failure
import RankedRelay.Text.Bytes
import RankedRelay.Url.Parse

namespace RankedRelay.Http

def programName : String := "chainproxy"

def programVersion : String := "0.2.0"

structure Request where
  url : Url
  credentials : Option (String × String)
  body : Bytes
deriving DecidableEq, Repr

/-- Name and password of a URL, if it has one of them and they are text. -/
def credentials? (url : Url) : Option (String × String) :=
  let decoded (s : String) : Option String := Bytes.text? (Percent.decode (.ofText s))
  match decoded url.username with
  | none => none
  | some username =>
    let password := if url.password = "" then none else decoded url.password
    if username = "" ∧ password.isNone then none else some (username, password.getD "")

/-- Hosts may hold marks that the target of a request may not. -/
def isPlainHost (host : Host) : Bool :=
  host.text.toList.all fun c => !"\"\x60\x7b\x7d".toList.contains c

def maxUrlBytes : Nat := 65534

def unmade (url : Option Url) : CallError :=
  .other ("builder error" ++ (url.map fun u => " for url (" ++ u.text ++ ")").getD "")

namespace Request

def make (url : String) (body : Bytes) : Except CallError Request :=
  match Url.parse url with
  | .error _ => .error (unmade none)
  | .ok u =>
    match u.host with
    | none => .error (unmade (some u))
    | some host =>
      let credentials := credentials? u
      let u := if credentials.isSome then u.withoutCredentials else u
      if (u.scheme = "http" ∨ u.scheme = "https") ∧ isPlainHost host ∧
          u.text.utf8ByteSize ≤ maxUrlBytes then
        .ok ⟨u, credentials, body⟩
      else .error (unmade (some u))

def isSecure (r : Request) : Bool := r.url.scheme = "https"

def hostText (r : Request) : String := (r.url.host.map (·.text)).getD ""

def port (r : Request) : UInt16 := r.url.port.getD (if r.isSecure then 443 else 80)

def target (r : Request) : String := r.url.pathText ++ Url.tailText "?" r.url.query

def line (r : Request) : String := "POST " ++ r.target ++ " HTTP/1.1"

def authorization (credentials : String × String) : String :=
  "Basic " ++ Base64.encode (.ofText (credentials.1 ++ ":" ++ credentials.2))

def fields (r : Request) : List (String × String) :=
  [("accept", "*/*")] ++
    (match r.credentials with
      | some c => [("authorization", authorization c)]
      | none => []) ++
    (if r.body.isEmpty then [] else [("content-length", toString r.body.length)]) ++
    [("content-type", "application/json"), ("host", r.hostText ++ r.url.portText),
      ("user-agent", programName ++ "/" ++ programVersion)]

def failureText (r : Request) : String := "error sending request for url (" ++ r.url.text ++ ")"

end Request

end RankedRelay.Http
