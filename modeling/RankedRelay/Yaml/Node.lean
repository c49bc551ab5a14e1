import RankedRelay.Yaml.Lexer

namespace RankedRelay.Yaml

structure Scalar where
  text : String
  style : Style
  tag : Option String
deriving DecidableEq, Repr

def Scalar.empty : Scalar := ⟨"", .plain, none⟩

def Scalar.isEmpty (s : Scalar) : Bool := s.text = "" && s.style = .plain

inductive Node where
  | scalar (s : Scalar)
  | sequence (items : List Node)
  | mapping (entries : List (Node × Node))
  | alias (anchor : Nat)
  | cut
deriving Repr

instance : Inhabited Node := ⟨.cut⟩

mutual

/-- Whether the text of a node is well formed to its end. -/
def Node.isWhole : Node → Bool
  | .scalar _ => true
  | .sequence items => itemsWhole items
  | .mapping entries => entriesWhole entries
  | .alias _ => true
  | .cut => false

def itemsWhole : List Node → Bool
  | [] => true
  | n :: rest => n.isWhole && itemsWhole rest

def entryWhole : Node × Node → Bool
  | (k, v) => k.isWhole && v.isWhole

def entriesWhole : List (Node × Node) → Bool
  | [] => true
  | e :: rest => entryWhole e && entriesWhole rest

end

structure Document where
  root : Node
  anchors : List (Nat × Node)
  alone : Bool

/-- The node that an alias stands for. -/
def Document.follow (d : Document) : Node → Node
  | .alias id => ((d.anchors.find? (·.1 == id)).map (·.2)).getD .cut
  | n => n

end RankedRelay.Yaml
