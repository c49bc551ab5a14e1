import RankedRelay.Config.Basic
import RankedRelay.Url.Parse

namespace RankedRelay

/-- A URL parser, of which a registry asks only the scheme of a text, or what is wrong with it. -/
abbrev SchemeParser := String → Except String String

/-- The endpoints of each network, ascending by network. -/
structure Registry where
  networks : List (NetworkId × List Endpoint)
deriving DecidableEq, Repr

namespace Registry

def empty : Registry := ⟨[]⟩

/-- What is wrong with a URL of a network, given the ones in front of it. -/
def defect? (parse : SchemeParser) (network : NetworkId) (seen : List String) (url : String) :
    Option String :=
  match parse url with
  | .error e =>
    some ("network " ++ network.text ++ ": bad endpoint url " ++ Text.quoted url ++ ": " ++ e)
  | .ok scheme =>
    if scheme ≠ "http" ∧ scheme ≠ "https" then
      some ("network " ++ network.text ++ ": endpoint " ++ Text.quoted url ++
        " must use http or https")
    else if seen.contains url then
      some ("network " ++ network.text ++ ": endpoint " ++ Text.quoted url ++ " listed twice")
    else none

def firstDefect? (parse : SchemeParser) (network : NetworkId) :
    List String → List String → Option String
  | _, [] => none
  | seen, url :: rest =>
    match defect? parse network seen url with
    | some reason => some reason
    | none => firstDefect? parse network (url :: seen) rest

/-- Registers the endpoints of a network in place of earlier ones. -/
def insert (r : Registry) (network : NetworkId) (urls : List String)
    (parse : SchemeParser := Url.schemeOf) : Except ConfigError Registry :=
  match firstDefect? parse network [] urls with
  | some reason => .error (.invalid reason)
  | none =>
    if urls.isEmpty then .error (.invalid ("network " ++ network.text ++ " has no endpoints"))
    else .ok ⟨insertSorted network (urls.map fun url => ⟨url, network⟩) r.networks⟩

def ofConfig (c : Config) (parse : SchemeParser := Url.schemeOf) : Except ConfigError Registry :=
  c.networks.foldlM (fun r n => r.insert n.1 n.2 parse) empty

def endpoints? (r : Registry) (network : NetworkId) : Option (List Endpoint) :=
  (r.networks.find? (·.1 == network)).map (·.2)

end Registry

end RankedRelay
