import ComposeToPodman.Binary64
import ComposeToPodman.Text.Quoted

/-! Why a JSON text cannot be read, and where. -/
namespace ComposeToPodman.Json

/-- Lines count from one; the column is the number of bytes before the place on its line. -/
structure Mark where
  line : Nat := 1
  column : Nat := 0
deriving DecidableEq, Repr, Inhabited

namespace Mark

def next (m : Mark) (c : Char) : Mark :=
  if c = '\n' then ⟨m.line + 1, 0⟩ else ⟨m.line, m.column + c.utf8Size⟩

/-- The place some bytes further on, which may be inside a character, or the end of the text. -/
def afterBytes : Nat → List Char → Mark → Mark
  | _, [], m => m
  | n, c :: rest, m =>
    if n < c.utf8Size then ⟨m.line, m.column + n⟩ else afterBytes (n - c.utf8Size) rest (m.next c)

end Mark

/-- What stands where something else is expected. -/
inductive Found
  | null
  | bool (value : Bool)
  | integer (value : Int)
  | float (value : Binary64)
  | text (value : String)
  | array
  | object

def Found.shown : Found → String
  | null => "null"
  | bool b => "boolean \x60" ++ toString b ++ "\x60"
  | integer i => "integer \x60" ++ toString i ++ "\x60"
  | float x => "floating point \x60" ++ x.yamlText ++ "\x60"
  | text s => "string " ++ Text.quoted s
  | array => "sequence"
  | object => "map"

inductive Fault
  | endOfValue
  | endOfText
  | endOfArray
  | endOfObject
  | expectedValue
  | expectedWord
  | expectedColon
  | expectedKey
  | expectedArrayEnd
  | expectedObjectEnd
  | trailingComma
  | trailingCharacters
  | invalidNumber
  | numberOutOfRange
  | invalidEscape
  | controlCharacter
  | loneSurrogate
  | unfinishedSurrogate
  | wrongType (found : Found) (expected : String)
  | unknownVariant (name : String) (expected : String)
  | duplicateField (name : String)

def Fault.message : Fault → String
  | endOfValue => "EOF while parsing a value"
  | endOfText => "EOF while parsing a string"
  | endOfArray => "EOF while parsing a list"
  | endOfObject => "EOF while parsing an object"
  | expectedValue => "expected value"
  | expectedWord => "expected ident"
  | expectedColon => "expected \x60:\x60"
  | expectedKey => "key must be a string"
  | expectedArrayEnd => "expected \x60,\x60 or \x60]\x60"
  | expectedObjectEnd => "expected \x60,\x60 or \x60\x7d\x60"
  | trailingComma => "trailing comma"
  | trailingCharacters => "trailing characters"
  | invalidNumber => "invalid number"
  | numberOutOfRange => "number out of range"
  | invalidEscape => "invalid escape"
  | controlCharacter => "control character (\\u0000-\\u001F) found while parsing a string"
  | loneSurrogate => "lone leading surrogate in hex escape"
  | unfinishedSurrogate => "unexpected end of hex escape"
  | wrongType found expected => "invalid type: " ++ found.shown ++ ", expected " ++ expected
  | unknownVariant name expected => "unknown variant \x60" ++ name ++ "\x60, expected " ++ expected
  | duplicateField name => "duplicate field \x60" ++ name ++ "\x60"

structure ReadError where
  fault : Fault
  mark : Mark

def ReadError.message (e : ReadError) : String :=
  e.fault.message ++ s!" at line {e.mark.line} column {e.mark.column}"

end ComposeToPodman.Json
