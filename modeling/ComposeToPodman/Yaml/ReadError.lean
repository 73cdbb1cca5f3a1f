import ComposeToPodman.Yaml.SyntaxError
import ComposeToPodman.Yaml.Value

/-! Why a text has no value. -/
namespace ComposeToPodman.Yaml

inductive Step
  | key (name : String)
  /-- The value of a key that is no scalar. -/
  | unnamed
  | item (index : Nat)
deriving DecidableEq, Repr

/-- The innermost step first. -/
abbrev Path := List Step

/-- `a.b[0].c`; the whole document is a point. -/
def Path.text : Path → String
  | [] => "."
  | [.key name] => name
  | [.unnamed] => "?"
  | .key name :: parent => Path.text parent ++ "." ++ name
  | .unnamed :: parent => Path.text parent ++ ".?"
  | .item index :: parent => Path.text parent ++ s!"[{index}]"

inductive Invalid
  | duplicateKey (key : Value)
  | wideInteger (value : Int)
  /-- A scalar that its tag does not fit; `expected` is what the tag calls for. -/
  | misfit (text : String) (expected : String)
deriving DecidableEq

/-- Keys other than strings are shown without quotes; collections are not shown. -/
def Invalid.message : Invalid → String
  | .duplicateKey .null => "duplicate entry with null key"
  | .duplicateKey (.bool b) => "duplicate entry with key \x60" ++ toString b ++ "\x60"
  | .duplicateKey (.number n) => "duplicate entry with key " ++ n.text
  | .duplicateKey (.string s) => "duplicate entry with key " ++ Text.quoted s
  | .duplicateKey _ => "duplicate entry in YAML map"
  | .wideInteger i =>
    "invalid type: integer \x60" ++ toString i ++ "\x60 as " ++
      (if i < 0 then "i128" else "u128") ++ ", expected any YAML value"
  | .misfit text expected =>
    "invalid value: string " ++ Text.quoted text ++ ", expected " ++ expected

inductive ReadError
  | malformed (fault : SyntaxError)
  | unknownAnchor (mark : Mark)
  | tooDeep (mark : Mark)
  /-- References multiply the document. -/
  | tooManyReferences
  | severalDocuments
  | invalid (cause : Invalid) (path : Path) (mark : Mark)
deriving DecidableEq

def ReadError.message : ReadError → String
  | malformed fault => fault.message
  | unknownAnchor mark => "unknown anchor" ++ mark.suffix
  | tooDeep mark => "recursion limit exceeded" ++ mark.suffix
  | tooManyReferences => "repetition limit exceeded"
  | severalDocuments => "deserializing from YAML containing more than one document is not supported"
  | invalid cause path mark =>
    let place := Path.text path
    (if place = "." then "" else place ++ ": ") ++ cause.message ++ mark.suffix

end ComposeToPodman.Yaml
