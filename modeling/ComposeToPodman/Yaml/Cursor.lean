import ComposeToPodman.Yaml.SyntaxError

/-! What is left of a text and where it stands. The end of the text is the empty list. -/
namespace ComposeToPodman.Yaml

structure Cursor where
  rest : List Char
  mark : Mark
deriving Repr, Inhabited

/-- Carriage return, line feed, next line, and the two Unicode separators. -/
def isBreak (c : Char) : Bool :=
  c == '\r' || c == '\n' || c == '\u0085' || c == '\u2028' || c == '\u2029'

def isGap (c : Char) : Bool := c == ' ' || c == '\t'

def isWord (c : Char) : Bool := c.isAlphanum || c == '_' || c == '-'

/-- What a line break contributes to a scalar: the separators stay, the others are line feeds. -/
def breakText (c : Char) : Char := if c == '\u2028' || c == '\u2029' then c else '\n'

/-- At a space, a tab, a line break or the end. -/
def atGapOrEnd : List Char → Bool
  | [] => true
  | c :: _ => isGap c || isBreak c

def atLineEnd : List Char → Bool
  | [] => true
  | c :: _ => isBreak c

/-- At `---` or `...` followed by a gap; they end a document only in the first column. -/
def atDocumentIndicator : List Char → Bool
  | '-' :: '-' :: '-' :: rest => atGapOrEnd rest
  | '.' :: '.' :: '.' :: rest => atGapOrEnd rest
  | _ => false

/-- A line break taken from the front of a text; carriage return and line feed are one. -/
def takeBreak : List Char → Mark → Option (Char × Cursor)
  | '\r' :: '\n' :: rest, m => some ('\n', ⟨rest, m.nextLine 2⟩)
  | c :: rest, m => if isBreak c then some (breakText c, ⟨rest, m.nextLine c.utf8Size⟩) else none
  | [], _ => none

def takeRun (p : Char → Bool) : List Char → Mark → List Char × Cursor
  | [], m => ([], ⟨[], m⟩)
  | c :: rest, m =>
    if p c then
      let (run, after) := takeRun p rest (m.next c)
      (c :: run, after)
    else ([], ⟨c :: rest, m⟩)

namespace Cursor

def take (c : Cursor) (p : Char → Bool) : List Char × Cursor := takeRun p c.rest c.mark

def skip (c : Cursor) (p : Char → Bool) : Cursor := (c.take p).2

def next (c : Cursor) : Cursor :=
  match c.rest with
  | [] => c
  | a :: rest => ⟨rest, c.mark.next a⟩

def skipBreak (c : Cursor) : Cursor :=
  match takeBreak c.rest c.mark with
  | some (_, after) => after
  | none => c

def starts (c : Cursor) (a : Char) : Bool := c.rest.head? == some a

def fail (c : Cursor) (cause : Cause) (during : Option (Activity × Mark) := none) :
    Except SyntaxError α :=
  .error ⟨cause, c.mark, during⟩

def skipComment (c : Cursor) : Cursor :=
  if c.starts '#' then c.skip (!isBreak ·) else c

/-- Past blanks, a comment and the line break, where nothing else may stand. -/
def finishLine (c : Cursor) (activity : Activity) (start : Mark) : Except SyntaxError Cursor :=
  let c := (c.skip isGap).skipComment
  if atLineEnd c.rest then .ok c.skipBreak else c.fail .commentOrBreakMissing (activity, start)

end Cursor

end ComposeToPodman.Yaml
