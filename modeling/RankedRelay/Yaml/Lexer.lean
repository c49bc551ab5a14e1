import RankedRelay.Yaml.Lexeme

namespace RankedRelay.Yaml

inductive Style where
  | plain
  | singleQuoted
  | doubleQuoted
  | literal
  | folded
deriving DecidableEq, Repr

inductive Token where
  | version (major minor : Nat)
  | tagDirective (handle expansion : String)
  | documentStart
  | documentEnd
  | streamEnd
  | blockSequenceStart
  | blockMappingStart
  | blockEnd
  | flowSequenceStart
  | flowSequenceEnd
  | flowMappingStart
  | flowMappingEnd
  | blockEntry
  | flowEntry
  | key
  | value
  | alias (name : String)
  | anchor (name : String)
  | tag (handle suffix : String)
  | scalar (text : String) (style : Style)
deriving DecidableEq, Repr

/-- A token that is a key if a colon follows. -/
structure KeyCandidate where
  token : Nat
  /-- Where the block's margin is, nothing but a key may stand. -/
  required : Bool
  index : Nat
  line : Nat
  column : Nat

structure Lexer where
  cursor : Cursor
  fuel : Nat
  depth : Nat
  /-- The column of the innermost block, and those around it. -/
  margin : Option Nat
  outer : List (Option Nat)
  keyAllowed : Bool
  /-- The candidate of each open flow bracket, the innermost first, and that of the block. -/
  candidates : List (Option KeyCandidate)
  queue : List Token
  taken : Nat

namespace Lexer

def ofText (s : String) : Lexer where
  cursor := .ofText s.toList
  fuel := s.length + 1
  depth := 0
  margin := none
  outer := []
  keyAllowed := true
  candidates := [none]
  queue := []
  taken := 0

def inFlow (l : Lexer) : Bool := 0 < l.depth

def emit (t : Token) (l : Lexer) : Lexer := { l with queue := l.queue ++ [t] }

def skip (n : Nat) (l : Lexer) : Lexer := { l with cursor := l.cursor.skip n }

def allowKey (allowed : Bool) (l : Lexer) : Lexer := { l with keyAllowed := allowed }

def isStale (c : Cursor) (k : KeyCandidate) : Bool := k.line < c.line || k.index + 1024 < c.index

def dropStale (l : Lexer) : Option Lexer :=
  if l.candidates.any fun k => k.any fun k => isStale l.cursor k && k.required then none
  else some { l with candidates := l.candidates.map (·.filter (!isStale l.cursor ·)) }

def dropCandidate (l : Lexer) : Option Lexer :=
  match l.candidates with
  | some k :: rest => if k.required then none else some { l with candidates := none :: rest }
  | _ => some l

def noteCandidate (l : Lexer) : Option Lexer :=
  if !l.keyAllowed then some l
  else do
    let l ← l.dropCandidate
    let c := l.cursor
    let required := !l.inFlow && l.margin = some c.column
    let k : KeyCandidate := ⟨l.taken + l.queue.length, required, c.index, c.line, c.column⟩
    some { l with candidates := some k :: l.candidates.drop 1 }

def closeBlocks (column : Option Nat) : List (Option Nat) → Lexer → Lexer
  | [], l => l
  | around :: outer, l =>
    let deeper : Bool := match l.margin, column with
      | some m, some c => c < m
      | some _, none => true
      | none, _ => false
    if deeper then
      closeBlocks column outer { l.emit .blockEnd with margin := around, outer := outer }
    else l

/-- In block context, ends the blocks to the right of a column; all of them if there is none. -/
def unroll (column : Option Nat) (l : Lexer) : Lexer :=
  if l.inFlow then l else closeBlocks column l.outer l

/-- In block context, starts a block at a column right of the current one. The token of its start
stands before the token `before`, or at the end of the queue. -/
def roll (column : Nat) (start : Token) (before : Option Nat) (l : Lexer) : Lexer :=
  if l.inFlow ∨ l.margin.any (column ≤ ·) then l
  else
    let place := match before with
      | some n => n - l.taken
      | none => l.queue.length
    { l with
      margin := some column
      outer := l.margin :: l.outer
      queue := l.queue.insertIdx place start }

/-- Passes blanks, comments and line breaks. A byte order mark at the start of a line is passed too.
In block context a new line allows a key; tabs do not count as blanks where one is allowed. -/
def passBlanks : Nat → Lexer → Lexer
  | 0, l => l
  | fuel + 1, l =>
    let isMark := l.cursor.column = 0 ∧ l.cursor.next? = some '\ufeff'
    let c := if isMark then l.cursor.skip 1 else l.cursor
    let tabs := l.inFlow || !l.keyAllowed
    let c := (c.skipWhile fun x => x = ' ' || (tabs && x = '\t')).skipComment
    if c.next?.any isBreak then
      passBlanks fuel { l with cursor := c.skipBreak, keyAllowed := l.keyAllowed || !l.inFlow }
    else { l with cursor := c }

def fetchStreamEnd (l : Lexer) : Option Lexer := do
  let c := l.cursor
  let l := if c.column = 0 then l else { l with cursor := ⟨c.rest, c.index, c.line + 1, 0⟩ }
  let l ← (l.unroll none).dropCandidate
  some ((l.allowKey false).emit .streamEnd)

def fetchDirective (l : Lexer) : Option Lexer := do
  let l ← (l.unroll none).dropCandidate
  let (directive, c) ← readDirective l.cursor
  let token := match directive with
    | .version major minor => Token.version major minor
    | .tag handle expansion => .tagDirective handle expansion
  some ({ l.allowKey false with cursor := c }.emit token)

def fetchMarker (t : Token) (l : Lexer) : Option Lexer := do
  let l ← (l.unroll none).dropCandidate
  some (((l.allowKey false).skip 3).emit t)

def fetchFlowStart (t : Token) (l : Lexer) : Option Lexer := do
  let l ← l.noteCandidate
  let l := { l with depth := l.depth + 1, candidates := none :: l.candidates }
  some (((l.allowKey true).skip 1).emit t)

def fetchFlowEnd (t : Token) (l : Lexer) : Option Lexer := do
  let l ← l.dropCandidate
  let l :=
    if l.inFlow then { l with depth := l.depth - 1, candidates := l.candidates.drop 1 } else l
  some (((l.allowKey false).skip 1).emit t)

def fetchFlowEntry (l : Lexer) : Option Lexer := do
  let l ← l.dropCandidate
  some (((l.allowKey true).skip 1).emit .flowEntry)

def fetchBlockEntry (l : Lexer) : Option Lexer := do
  if !l.inFlow ∧ !l.keyAllowed then none
  else
    let l ← (l.roll l.cursor.column .blockSequenceStart none).dropCandidate
    some (((l.allowKey true).skip 1).emit .blockEntry)

def fetchKey (l : Lexer) : Option Lexer := do
  if !l.inFlow ∧ !l.keyAllowed then none
  else
    let l ← (l.roll l.cursor.column .blockMappingStart none).dropCandidate
    some (((l.allowKey (!l.inFlow)).skip 1).emit .key)

/-- A colon makes the candidate a key, in front of which a block may start. -/
def fetchValue (l : Lexer) : Option Lexer :=
  match l.candidates with
  | some k :: rest =>
    let queue := l.queue.insertIdx (k.token - l.taken) .key
    let l := { l with queue := queue, candidates := none :: rest }
    let l := l.roll k.column .blockMappingStart (some k.token)
    some (((l.allowKey false).skip 1).emit .value)
  | _ =>
    if !l.inFlow ∧ !l.keyAllowed then none
    else
      let l := l.roll l.cursor.column .blockMappingStart none
      some (((l.allowKey (!l.inFlow)).skip 1).emit .value)

def fetchName (make : String → Token) (l : Lexer) : Option Lexer := do
  let l ← l.noteCandidate
  let (name, c) ← readName (l.cursor.skip 1)
  some ({ l.allowKey false with cursor := c }.emit (make name))

def fetchTag (l : Lexer) : Option Lexer := do
  let l ← l.noteCandidate
  let (tag, c) ← readTag l.inFlow l.cursor
  some ({ l.allowKey false with cursor := c }.emit (.tag tag.handle tag.suffix))

def fetchBlockScalar (style : Style) (l : Lexer) : Option Lexer := do
  let l ← l.dropCandidate
  let (text, c) ← readBlock (style = .literal) l.margin (l.cursor.skip 1)
  some ({ l.allowKey true with cursor := c }.emit (.scalar text style))

def fetchQuoted (style : Style) (l : Lexer) : Option Lexer := do
  let l ← l.noteCandidate
  let word := if style = .singleQuoted then singleWord else doubleWord
  let (text, c) ← readQuoted word l.fuel [] (l.cursor.skip 1)
  some ({ l.allowKey false with cursor := c }.emit (.scalar (String.ofList text.reverse) style))

def fetchPlain (l : Lexer) : Option Lexer := do
  let l ← l.noteCandidate
  let margin := match l.margin with
    | some n => n + 1
    | none => 0
  let (text, broken, c) ← readPlain l.inFlow margin l.fuel [] .none l.cursor
  some ({ l.allowKey broken with cursor := c }.emit (.scalar (String.ofList text.reverse) .plain))

def startsPlain (inFlow : Bool) (c : Char) (next : Option Char) : Bool :=
  if c = '-' then !next.any isBlank
  else if c = '?' ∨ c = ':' then !inFlow && !next.all isSpace
  else !(isSpace c || ",[]\x7b\x7d#&*!|>'\"%@\x60".toList.contains c)

def fetch (l : Lexer) : Option Lexer := do
  let l ← (l.passBlanks l.fuel).dropStale
  let l := l.unroll (some l.cursor.column)
  let c := l.cursor
  match c.next? with
  | none => l.fetchStreamEnd
  | some x =>
    let open1 := c.isOpen 1
    if c.column = 0 ∧ x = '%' then l.fetchDirective
    else if c.isMarker '-' then l.fetchMarker .documentStart
    else if c.isMarker '.' then l.fetchMarker .documentEnd
    else if x = '[' then l.fetchFlowStart .flowSequenceStart
    else if x = '\x7b' then l.fetchFlowStart .flowMappingStart
    else if x = ']' then l.fetchFlowEnd .flowSequenceEnd
    else if x = '\x7d' then l.fetchFlowEnd .flowMappingEnd
    else if x = ',' then l.fetchFlowEntry
    else if x = '-' ∧ open1 then l.fetchBlockEntry
    else if x = '?' ∧ (l.inFlow ∨ open1) then l.fetchKey
    else if x = ':' ∧ (l.inFlow ∨ open1) then l.fetchValue
    else if x = '*' then l.fetchName .alias
    else if x = '&' then l.fetchName .anchor
    else if x = '!' then l.fetchTag
    else if x = '|' ∧ !l.inFlow then l.fetchBlockScalar .literal
    else if x = '>' ∧ !l.inFlow then l.fetchBlockScalar .folded
    else if x = '\'' then l.fetchQuoted .singleQuoted
    else if x = '"' then l.fetchQuoted .doubleQuoted
    else if startsPlain l.inFlow x (c.at? 1) then l.fetchPlain
    else none

def settle : Nat → Lexer → Option (Token × Lexer)
  | 0, _ => none
  | fuel + 1, l =>
    match l.queue with
    | [] => l.fetch.bind (settle fuel)
    | t :: _ => do
      let l ← l.dropStale
      if l.candidates.any fun k => k.any (·.token == l.taken) then l.fetch.bind (settle fuel)
      else some (t, l)

def peek (l : Lexer) : Option (Token × Lexer) := settle (l.fuel + 1) l

def drop (l : Lexer) : Lexer := { l with queue := l.queue.drop 1, taken := l.taken + 1 }

end Lexer

end RankedRelay.Yaml
