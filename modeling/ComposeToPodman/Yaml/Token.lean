import ComposeToPodman.Yaml.Cursor

/-! The tokens of a YAML text. Indentation is made visible as block starts and ends. -/
namespace ComposeToPodman.Yaml

/-- A URI, which need not be text in UTF-8. -/
abbrev Octets := List UInt8

namespace Octets

def ofText (s : String) : Octets := s.toUTF8.toList

def text? (o : Octets) : Option String := String.fromUTF8? ⟨o.toArray⟩

end Octets

inductive Style
  | plain
  | quoted
  | block
deriving DecidableEq, Repr

inductive Token
  | streamEnd
  | version (major minor : Nat)
  /-- A tag handle and what it stands for. -/
  | tagHandle (handle : String) (meaning : Octets)
  | documentStart
  | documentEnd
  | blockSequenceStart
  | blockMappingStart
  | blockEnd
  | flowSequenceStart
  | flowSequenceEnd
  | flowMappingStart
  | flowMappingEnd
  | blockEntry
  | flowEntry
  | key
  | value
  | reference (anchor : String)
  | anchor (name : String)
  | tag (handle : String) (suffix : Octets)
  | scalar (text : String) (style : Style)
deriving DecidableEq, Repr

/-- The tokens that can be read, and what stops the reading if it is not the end of the text. -/
structure Tokens where
  list : List (Token × Mark)
  fault : Option SyntaxError

end ComposeToPodman.Yaml
