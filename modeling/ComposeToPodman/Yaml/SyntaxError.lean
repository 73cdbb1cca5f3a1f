/-! Positions in a text, and why the text is not YAML: a cause, where it showed, and what was being
read at the time. -/
namespace ComposeToPodman.Yaml

/-- Lines and columns count from zero; the index counts bytes. -/
structure Mark where
  index : Nat := 0
  line : Nat := 0
  column : Nat := 0
deriving DecidableEq, Repr, Inhabited

namespace Mark

def next (m : Mark) (c : Char) : Mark := ⟨m.index + c.utf8Size, m.line, m.column + 1⟩

def nextLine (m : Mark) (bytes : Nat) : Mark := ⟨m.index + bytes, m.line + 1, 0⟩

/-- The very first position carries no information and is left out of messages. -/
def isFirst (m : Mark) : Bool := m.line == 0 && m.column == 0

def samePlace (m n : Mark) : Bool := m.line == n.line && m.column == n.column

def text (m : Mark) : String := s!"line {m.line + 1} column {m.column + 1}"

/-- The position as the end of a message. -/
def suffix (m : Mark) : String := if m.isFirst then "" else s!" at {m.text}"

end Mark

inductive Cause
  | controlCharacter (offset : Nat)
  | noSuchToken
  | blockEntryNotAllowed
  | keyNotAllowed
  | valueNotAllowed
  | colonMissing
  | directiveNameMissing
  | directiveNameBroken
  | directiveUnknown
  | commentOrBreakMissing
  | versionNumberMissing
  | versionNumberLong
  | versionPointMissing
  | tagBangMissing
  | tagGapMissing
  | tagGapOrBreakMissing
  | tagUriMissing
  | tagAngleMissing
  | octetMissing
  | octetLeading
  | octetTrailing
  | anchorNameMissing
  | indentationZero
  | indentationTab
  | plainTab
  | plainColon
  | documentIndicator
  | endOfStream
  | escapeUnknown
  | escapeDigits
  | escapeCode
  | documentStartMissing
  | versionTwice
  | versionUnsupported
  | tagDirectiveTwice
  | tagHandleUnknown
  | nodeMissing
  | dashMissing
  | keyMissing
  | sequenceCommaMissing
  | mappingCommaMissing
deriving DecidableEq, Repr

def Cause.message : Cause → String
  | controlCharacter offset =>
    "control characters are not allowed" ++ if offset = 0 then "" else s!" at position {offset}"
  | noSuchToken => "found character that cannot start any token"
  | blockEntryNotAllowed => "block sequence entries are not allowed in this context"
  | keyNotAllowed => "mapping keys are not allowed in this context"
  | valueNotAllowed => "mapping values are not allowed in this context"
  | colonMissing => "could not find expected ':'"
  | directiveNameMissing => "could not find expected directive name"
  | directiveNameBroken => "found unexpected non-alphabetical character"
  | directiveUnknown => "found unknown directive name"
  | commentOrBreakMissing => "did not find expected comment or line break"
  | versionNumberMissing => "did not find expected version number"
  | versionNumberLong => "found extremely long version number"
  | versionPointMissing => "did not find expected digit or '.' character"
  | tagBangMissing => "did not find expected '!'"
  | tagGapMissing => "did not find expected whitespace"
  | tagGapOrBreakMissing => "did not find expected whitespace or line break"
  | tagUriMissing => "did not find expected tag URI"
  | tagAngleMissing => "did not find the expected '>'"
  | octetMissing => "did not find URI escaped octet"
  | octetLeading => "found an incorrect leading UTF-8 octet"
  | octetTrailing => "found an incorrect trailing UTF-8 octet"
  | anchorNameMissing => "did not find expected alphabetic or numeric character"
  | indentationZero => "found an indentation indicator equal to 0"
  | indentationTab => "found a tab character where an indentation space is expected"
  | plainTab => "found a tab character that violates indentation"
  | plainColon => "found unexpected ':'"
  | documentIndicator => "found unexpected document indicator"
  | endOfStream => "found unexpected end of stream"
  | escapeUnknown => "found unknown escape character"
  | escapeDigits => "did not find expected hexadecimal number"
  | escapeCode => "found invalid Unicode character escape code"
  | documentStartMissing => "did not find expected <document start>"
  | versionTwice => "found duplicate %YAML directive"
  | versionUnsupported => "found incompatible YAML document"
  | tagDirectiveTwice => "found duplicate %TAG directive"
  | tagHandleUnknown => "found undefined tag handle"
  | nodeMissing => "did not find expected node content"
  | dashMissing => "did not find expected '-' indicator"
  | keyMissing => "did not find expected key"
  | sequenceCommaMissing => "did not find expected ',' or ']'"
  | mappingCommaMissing => "did not find expected ',' or '\x7d'"

/-- What was being read when the cause showed. -/
inductive Activity
  | nextToken
  | simpleKey
  | directive
  | versionDirective
  | tagDirective
  | tagDirectiveHandle
  | tagDirectiveHandleEnd
  | tagDirectiveUri
  | tag
  | tagUri
  | anchor
  | reference
  | blockScalar
  | quotedScalar
  | escape
  | plainScalar
  | node
  | blockNode
  | flowNode
  | blockCollection
  | blockMapping
  | flowSequence
  | flowMapping
deriving DecidableEq, Repr

def Activity.message : Activity → String
  | nextToken => "while scanning for the next token"
  | simpleKey => "while scanning a simple key"
  | directive => "while scanning a directive"
  | versionDirective => "while scanning a %YAML directive"
  | tagDirective => "while scanning a %TAG directive"
  | tagDirectiveHandle => "while scanning a tag directive"
  | tagDirectiveHandleEnd => "while parsing a tag directive"
  | tagDirectiveUri => "while parsing a %TAG directive"
  | tag => "while scanning a tag"
  | tagUri => "while parsing a tag"
  | anchor => "while scanning an anchor"
  | reference => "while scanning an alias"
  | blockScalar => "while scanning a block scalar"
  | quotedScalar => "while scanning a quoted scalar"
  | escape => "while parsing a quoted scalar"
  | plainScalar => "while scanning a plain scalar"
  | node => "while parsing a node"
  | blockNode => "while parsing a block node"
  | flowNode => "while parsing a flow node"
  | blockCollection => "while parsing a block collection"
  | blockMapping => "while parsing a block mapping"
  | flowSequence => "while parsing a flow sequence"
  | flowMapping => "while parsing a flow mapping"

structure SyntaxError where
  cause : Cause
  mark : Mark
  /-- What was being read, and where it began. -/
  during : Option (Activity × Mark) := none
deriving DecidableEq, Repr

/-- The beginning is told only where it differs from the place of the fault. -/
def SyntaxError.message (e : SyntaxError) : String :=
  e.cause.message ++ e.mark.suffix ++
    match e.during with
    | none => ""
    | some (activity, start) =>
      ", " ++ activity.message ++ if start.samePlace e.mark then "" else start.suffix

end ComposeToPodman.Yaml
