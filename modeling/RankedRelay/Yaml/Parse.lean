import RankedRelay.Yaml.Lexer
import RankedRelay.Yaml.Node

namespace RankedRelay.Yaml

structure Anchors where
  names : List (String × Nat)
  /-- The place of the latest anchor of each number, the latest first. -/
  places : List (Nat × Nat)
  nodes : List (Nat × Node)
  nextPlace : Nat

namespace Anchors

def empty : Anchors := ⟨[], [], [], 0⟩

def number? (a : Anchors) (name : String) : Option Nat := (a.names.find? (·.1 == name)).map (·.2)

def start (a : Anchors) (name : String) : Anchors :=
  let number := a.names.length
  { a with
    names := (name, number) :: a.names.filter (·.1 != name)
    places := (number, a.nextPlace) :: a.places
    nextPlace := a.nextPlace + 1 }

def finish (a : Anchors) (place : Nat) (n : Node) : Anchors :=
  { a with nodes := (place, n) :: a.nodes }

def table (a : Anchors) : List (Nat × Node) :=
  a.places.filterMap fun p => (a.nodes.find? (·.1 == p.2)).map fun n => (p.1, n.2)

end Anchors

structure Reader where
  lexer : Lexer
  handles : List (String × String)
  anchors : Anchors
  sound : Bool

namespace Reader

def broken (r : Reader) : Reader := { r with sound := false }

def peek (r : Reader) : Option (Token × Reader) :=
  if r.sound then r.lexer.peek.map fun t => (t.1, { r with lexer := t.2 }) else none

def drop (r : Reader) : Reader := { r with lexer := r.lexer.drop }

/-- What may stand in front of a node. -/
structure Properties where
  anchor : Option String
  tag : Option (String × String)

def readProperties (r : Reader) : Option (Properties × Token × Reader) := do
  let (t, r) ← r.peek
  match t with
  | .anchor name =>
    let (t, r) ← r.drop.peek
    match t with
    | .tag handle suffix =>
      let (t, r) ← r.drop.peek
      some (⟨some name, some (handle, suffix)⟩, t, r)
    | _ => some (⟨some name, none⟩, t, r)
  | .tag handle suffix =>
    let (t, r) ← r.drop.peek
    match t with
    | .anchor name =>
      let (t, r) ← r.drop.peek
      some (⟨some name, some (handle, suffix)⟩, t, r)
    | _ => some (⟨none, some (handle, suffix)⟩, t, r)
  | _ => some (⟨none, none⟩, t, r)

/-- The full tag; nothing inside if there is no tag, and nothing at all if its handle is unknown. -/
def resolveTag? (r : Reader) : Option (String × String) → Option (Option String)
  | none => some none
  | some (handle, suffix) =>
    if handle = "" then some (some suffix)
    else (r.handles.find? (·.1 == handle)).map fun h => some (h.2 ++ suffix)

def endsBlockItem (isKeyed : Bool) : Token → Bool
  | .blockEntry => !isKeyed
  | .key => isKeyed
  | .value => isKeyed
  | .blockEnd => true
  | _ => false

def endsIndentlessItem : Token → Bool
  | .blockEntry => true
  | .key => true
  | .value => true
  | .blockEnd => true
  | _ => false

def emptyNode : Node := .scalar .empty

/-- Which forms of collections a node may have. -/
inductive Context where
  | block
  /-- Behind a key, where the marks of a sequence may stand at its column. -/
  | blockValue
  | flow
deriving DecidableEq

mutual

def node (fuel : Nat) (context : Context) (r : Reader) : Node × Reader :=
  match fuel with
  | 0 => (.cut, r.broken)
  | fuel + 1 =>
    match r.peek with
    | some (.alias name, r) =>
      match r.anchors.number? name with
      | some n => (.alias n, r.drop)
      | none => (.cut, r.broken)
    | none => (.cut, r.broken)
    | some (_, r) =>
      match r.readProperties with
      | none => (.cut, r.broken)
      | some (p, t, r) =>
        match r.resolveTag? p.tag with
        | none => (.cut, r.broken)
        | some tag => anchored fuel context p.anchor (p.anchor.isSome || tag.isSome) tag t r

def anchored (fuel : Nat) (context : Context) (anchor : Option String) (marked : Bool)
    (tag : Option String) (t : Token) (r : Reader) : Node × Reader :=
  match fuel with
  | 0 => (.cut, r.broken)
  | fuel + 1 =>
    match anchor with
    | none => content fuel context marked tag t r
    | some name =>
      let place := r.anchors.nextPlace
      let started := { r with anchors := r.anchors.start name }
      match content fuel context marked tag t started with
      | (.cut, r) => (.cut, r)
      | (n, r) => (n, { r with anchors := r.anchors.finish place n })

def content (fuel : Nat) (context : Context) (marked : Bool) (tag : Option String) (t : Token)
    (r : Reader) : Node × Reader :=
  match fuel with
  | 0 => (.cut, r.broken)
  | fuel + 1 =>
    let inSequence (s : List Node × Reader) : Node × Reader := (.sequence s.1, s.2)
    let inMapping (s : List (Node × Node) × Reader) : Node × Reader := (.mapping s.1, s.2)
    match t, context with
    | .scalar text style, _ => (.scalar ⟨text, style, tag⟩, r.drop)
    | .flowSequenceStart, _ => inSequence (flowItems fuel true r.drop)
    | .flowMappingStart, _ => inMapping (flowEntries fuel true r.drop)
    | .blockEntry, .blockValue => inSequence (indentlessItems fuel r)
    | .blockSequenceStart, .block => inSequence (blockItems fuel r.drop)
    | .blockSequenceStart, .blockValue => inSequence (blockItems fuel r.drop)
    | .blockMappingStart, .block => inMapping (blockEntries fuel r.drop)
    | .blockMappingStart, .blockValue => inMapping (blockEntries fuel r.drop)
    | _, _ => if marked then (.scalar ⟨"", .plain, tag⟩, r) else (.cut, r.broken)

def blockItems (fuel : Nat) (r : Reader) : List Node × Reader :=
  match fuel with
  | 0 => ([.cut], r.broken)
  | fuel + 1 =>
    match r.peek with
    | some (.blockEntry, r) =>
      match r.drop.peek with
      | none => ([.cut], r.broken)
      | some (t, r) =>
        let (n, r) := if t = .blockEntry ∨ t = .blockEnd then (emptyNode, r) else node fuel .block r
        if r.sound then
          let (rest, r) := blockItems fuel r
          (n :: rest, r)
        else ([n], r)
    | some (.blockEnd, r) => ([], r.drop)
    | _ => ([.cut], r.broken)

/-- The items of a sequence at the column of the key in front of it. -/
def indentlessItems (fuel : Nat) (r : Reader) : List Node × Reader :=
  match fuel with
  | 0 => ([.cut], r.broken)
  | fuel + 1 =>
    match r.peek with
    | some (.blockEntry, r) =>
      match r.drop.peek with
      | none => ([.cut], r.broken)
      | some (t, r) =>
        let (n, r) := if endsIndentlessItem t then (emptyNode, r) else node fuel .block r
        if r.sound then
          let (rest, r) := indentlessItems fuel r
          (n :: rest, r)
        else ([n], r)
    | some (_, r) => ([], r)
    | none => ([.cut], r.broken)

def blockEntries (fuel : Nat) (r : Reader) : List (Node × Node) × Reader :=
  match fuel with
  | 0 => ([(.cut, .cut)], r.broken)
  | fuel + 1 =>
    match r.peek with
    | some (.key, r) =>
      match r.drop.peek with
      | none => ([(.cut, .cut)], r.broken)
      | some (t, r) =>
        let (k, r) := if endsBlockItem true t then (emptyNode, r) else node fuel .blockValue r
        let (v, r) := blockValue fuel r
        if r.sound then
          let (rest, r) := blockEntries fuel r
          ((k, v) :: rest, r)
        else ([(k, v)], r)
    | some (.blockEnd, r) => ([], r.drop)
    | _ => ([(.cut, .cut)], r.broken)

def blockValue (fuel : Nat) (r : Reader) : Node × Reader :=
  match fuel with
  | 0 => (.cut, r.broken)
  | fuel + 1 =>
    match r.peek with
    | none => (.cut, r.broken)
    | some (.value, r) =>
      match r.drop.peek with
      | none => (.cut, r.broken)
      | some (t, r) => if endsBlockItem true t then (emptyNode, r) else node fuel .blockValue r
    | some (_, r) => (emptyNode, r)

/-- The items of a flow sequence. An item with a key is a mapping of its own. -/
def flowItems (fuel : Nat) (isFirst : Bool) (r : Reader) : List Node × Reader :=
  match fuel with
  | 0 => ([.cut], r.broken)
  | fuel + 1 =>
    match r.peek with
    | none => ([.cut], r.broken)
    | some (.flowSequenceEnd, r) => ([], r.drop)
    | some (t, r) =>
      if !isFirst ∧ t ≠ .flowEntry then ([.cut], r.broken)
      else
        match (if isFirst then r else r.drop).peek with
        | none => ([.cut], r.broken)
        | some (.flowSequenceEnd, r) => ([], r.drop)
        | some (t, r) =>
          let (n, r) := if t = .key then flowPair fuel r.drop else node fuel .flow r
          if r.sound then
            let (rest, r) := flowItems fuel false r
            (n :: rest, r)
          else ([n], r)

/-- The one entry of a mapping that is an item. Where the key is missing, the mark behind it is
passed too. -/
def flowPair (fuel : Nat) (r : Reader) : Node × Reader :=
  match fuel with
  | 0 => (.mapping [(.cut, .cut)], r.broken)
  | fuel + 1 =>
    match r.peek with
    | none => (.mapping [(.cut, .cut)], r.broken)
    | some (t, r) =>
      let (k, r) :=
        if t = .value ∨ t = .flowEntry ∨ t = .flowSequenceEnd then (emptyNode, r.drop)
        else node fuel .flow r
      let (v, r) := flowValue fuel .flowSequenceEnd r
      match r.peek with
      | none => (.mapping ((k, v) :: (if r.sound then [(.cut, .cut)] else [])), r.broken)
      | some (_, r) => (.mapping [(k, v)], r)

def flowValue (fuel : Nat) (closing : Token) (r : Reader) : Node × Reader :=
  match fuel with
  | 0 => (.cut, r.broken)
  | fuel + 1 =>
    match r.peek with
    | none => (.cut, r.broken)
    | some (.value, r) =>
      match r.drop.peek with
      | none => (.cut, r.broken)
      | some (t, r) => if t = .flowEntry ∨ t = closing then (emptyNode, r) else node fuel .flow r
    | some (_, r) => (emptyNode, r)

/-- The entries of a flow mapping. An item without a colon is a key without a value. -/
def flowEntries (fuel : Nat) (isFirst : Bool) (r : Reader) : List (Node × Node) × Reader :=
  match fuel with
  | 0 => ([(.cut, .cut)], r.broken)
  | fuel + 1 =>
    match r.peek with
    | none => ([(.cut, .cut)], r.broken)
    | some (.flowMappingEnd, r) => ([], r.drop)
    | some (t, r) =>
      if !isFirst ∧ t ≠ .flowEntry then ([(.cut, .cut)], r.broken)
      else
        match (if isFirst then r else r.drop).peek with
        | none => ([(.cut, .cut)], r.broken)
        | some (.flowMappingEnd, r) => ([], r.drop)
        | some (t, r) =>
          let (k, v, r) := if t = .key then flowEntry fuel r.drop else flowKey fuel r
          if r.sound then
            let (rest, r) := flowEntries fuel false r
            ((k, v) :: rest, r)
          else ([(k, v)], r)

def flowEntry (fuel : Nat) (r : Reader) : Node × Node × Reader :=
  match fuel with
  | 0 => (.cut, .cut, r.broken)
  | fuel + 1 =>
    match r.peek with
    | none => (.cut, .cut, r.broken)
    | some (t, r) =>
      let (k, r) :=
        if t = .value ∨ t = .flowEntry ∨ t = .flowMappingEnd then (emptyNode, r)
        else node fuel .flow r
      let (v, r) := flowValue fuel .flowMappingEnd r
      (k, v, r)

def flowKey (fuel : Nat) (r : Reader) : Node × Node × Reader :=
  match fuel with
  | 0 => (.cut, .cut, r.broken)
  | fuel + 1 =>
    let (k, r) := node fuel .flow r
    match r.peek with
    | none => (k, .cut, r.broken)
    | some (_, r) => (k, emptyNode, r)

end

def usualHandles : List (String × String) := [("!", "!"), ("!!", "tag:yaml.org,2002:")]

/-- Reads the directives of a document: one version at most, which must be 1.1 or 1.2, and no
handle twice. -/
def readDirectives : Nat → Bool → List (String × String) → Reader → Option (Token × Reader)
  | 0, _, _, _ => none
  | fuel + 1, versioned, handles, r => do
    let (t, r) ← r.peek
    match t with
    | .version major minor =>
      if versioned ∨ major ≠ 1 ∨ (minor ≠ 1 ∧ minor ≠ 2) then none
      else readDirectives fuel true handles r.drop
    | .tagDirective handle expansion =>
      if handles.any (·.1 == handle) then none
      else readDirectives fuel versioned ((handle, expansion) :: handles) r.drop
    | _ => some (t, { r with handles := handles ++ usualHandles })

def rootBehindStart (fuel : Nat) (r : Reader) : Node × Reader :=
  match r.peek with
  | none => (.cut, r.broken)
  | some (t, r) =>
    match t with
    | .version _ _ => (emptyNode, r)
    | .tagDirective _ _ => (emptyNode, r)
    | .documentStart => (emptyNode, r)
    | .documentEnd => (emptyNode, r)
    | .streamEnd => (emptyNode, r)
    | _ => node fuel .block r

def root (fuel : Nat) (r : Reader) : Node × Reader :=
  match r.peek with
  | none => (.cut, r.broken)
  | some (t, r) =>
    let explicit (_ : Unit) : Node × Reader :=
      match readDirectives fuel false [] r with
      | some (.documentStart, r) => rootBehindStart fuel r.drop
      | _ => (.cut, r.broken)
    match t with
    | .streamEnd => (emptyNode, r)
    | .version _ _ => explicit ()
    | .tagDirective _ _ => explicit ()
    | .documentStart => explicit ()
    | _ => node fuel .block r

def endsHere : Nat → Reader → Bool
  | 0, _ => false
  | fuel + 1, r =>
    match r.peek with
    | some (.documentEnd, r) => endsHere fuel r.drop
    | some (.streamEnd, _) => true
    | _ => false

end Reader

/-- The first document of a text. Characters that no text may have spoil it altogether. -/
def Document.ofText (s : String) : Document :=
  if s.toList.all isAllowed then
    let lexer := Lexer.ofText s
    let fuel := 8 * lexer.fuel + 8
    let (root, r) := Reader.root fuel ⟨lexer, Reader.usualHandles, .empty, true⟩
    ⟨root, r.anchors.table, Reader.endsHere lexer.fuel r⟩
  else ⟨.cut, [], false⟩

end RankedRelay.Yaml
