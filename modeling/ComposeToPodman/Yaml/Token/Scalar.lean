import ComposeToPodman.Text.Basic
import ComposeToPodman.Yaml.Token

/-! Scalars: plain, quoted and block. Each reader starts behind or at the indicator and returns the
text and what follows it. -/
namespace ComposeToPodman.Yaml.Scalar

/-- White space between two pieces of a scalar: on one line, or over line breaks. The first break
is missing where it was escaped. -/
inductive Gap
  | inline (blanks : List Char)
  | lines (first : Option Char) (more : List Char)

namespace Gap

def none : Gap := .inline []

def isNone : Gap → Bool
  | .inline [] => true
  | _ => false

def hasBreak : Gap → Bool
  | .inline _ => false
  | .lines .. => true

/-- Blanks at the start or the end of a line do not count. -/
def addBlank (c : Char) : Gap → Gap
  | .inline blanks => .inline (blanks ++ [c])
  | g => g

def addBreak (c : Char) : Gap → Gap
  | .inline _ => .lines (some c) []
  | .lines first more => .lines first (more ++ [c])

/-- One line feed becomes a space; further breaks stay. -/
def folded : Gap → List Char
  | .inline blanks => blanks
  | .lines (some '\n') [] => [' ']
  | .lines (some '\n') more => more
  | .lines first more => first.toList ++ more

end Gap

/-- Inside a flow collection its own indicators end a plain scalar. -/
def endsPlain (flow : Bool) : List Char → Bool
  | ':' :: rest => atGapOrEnd rest
  | c :: _ => flow && [',', '[', ']', '\x7b', '\x7d'].contains c
  | [] => true

/-- A colon directly before a flow indicator is neither text nor a value. -/
def misplacedColon (flow : Bool) : List Char → Bool
  | ':' :: c :: _ => flow && [',', '?', '[', ']', '\x7b', '\x7d'].contains c
  | _ => false

structure Plain where
  text : String
  /-- A line break follows the text. -/
  broken : Bool
  after : Cursor

/-- A continuation line needs the indentation, and neither a comment nor a document indicator may
start it. -/
def interrupted (flow : Bool) (indent : Int) (gap : Gap) (rest : List Char) (m : Mark) : Bool :=
  !gap.isNone && ((!flow && (m.column : Int) < indent) ||
    (m.column == 0 && atDocumentIndicator rest) || rest.head? == some '#')

def plainFrom (flow : Bool) (indent : Int) (start : Mark) (text : List Char) (gap : Gap) :
    List Char → Mark → Except SyntaxError Plain
  | '\r' :: '\n' :: rest, m =>
    plainFrom flow indent start text (gap.addBreak '\n') rest (m.nextLine 2)
  | c :: rest, m =>
    if isBreak c then
      plainFrom flow indent start text (gap.addBreak (breakText c)) rest (m.nextLine c.utf8Size)
    else if isGap c then
      if gap.hasBreak && (m.column : Int) < indent && c == '\t' then
        .error ⟨.plainTab, m, some (.plainScalar, start)⟩
      else plainFrom flow indent start text (gap.addBlank c) rest (m.next c)
    else if interrupted flow indent gap (c :: rest) m then
      .ok ⟨String.ofList text.reverse, gap.hasBreak, ⟨c :: rest, m⟩⟩
    else if misplacedColon flow (c :: rest) then
      .error ⟨.plainColon, m, some (.plainScalar, start)⟩
    else if endsPlain flow (c :: rest) then
      .ok ⟨String.ofList text.reverse, gap.hasBreak, ⟨c :: rest, m⟩⟩
    else plainFrom flow indent start (c :: (gap.folded.reverse ++ text)) .none rest (m.next c)
  | [], m => .ok ⟨String.ofList text.reverse, gap.hasBreak, ⟨[], m⟩⟩

/-- A plain scalar; `indent` is the column that its further lines must reach. -/
def plain (flow : Bool) (indent : Int) (c : Cursor) : Except SyntaxError Plain :=
  plainFrom flow indent c.mark [] .none c.rest c.mark

def hexValue? (digits : List Char) : Option Nat :=
  digits.foldlM (fun value c => (Text.digitValue 16 c).map (value * 16 + ·)) 0

def escapeLetter : Char → Option Char
  | '0' => some '\x00'
  | 'a' => some '\x07'
  | 'b' => some '\x08'
  | 't' => some '\t'
  | '\t' => some '\t'
  | 'n' => some '\n'
  | 'v' => some '\x0b'
  | 'f' => some '\x0c'
  | 'r' => some '\r'
  | 'e' => some '\x1b'
  | ' ' => some ' '
  | '"' => some '"'
  | '/' => some '/'
  | '\\' => some '\\'
  | 'N' => some '\u0085'
  | '_' => some '\u00a0'
  | 'L' => some '\u2028'
  | 'P' => some '\u2029'
  | _ => none

def escapeLength : Char → Option Nat
  | 'x' => some 2
  | 'u' => some 4
  | 'U' => some 8
  | _ => none

def escape (start : Mark) (c : Cursor) : Except SyntaxError (Char × Cursor) :=
  let fail (c : Cursor) (cause : Cause) := c.fail cause (Activity.escape, start)
  match c.rest.drop 1 with
  | [] => fail c .escapeUnknown
  | letter :: _ =>
    let body := c.next.next
    match escapeLetter letter, escapeLength letter with
    | some meaning, _ => .ok (meaning, body)
    | none, none => fail c .escapeUnknown
    | none, some length =>
      let digits := body.rest.take length
      match if digits.length = length then hexValue? digits else none with
      | none => fail body .escapeDigits
      | some code =>
        if h : code.isValidChar then
          .ok (Char.ofNatAux code h, ⟨body.rest.drop length,
            { body.mark with index := body.mark.index + length
                             column := body.mark.column + length }⟩)
        else fail body .escapeCode

def quotedFrom (double : Bool) (start : Mark) :
    Nat → List Char → Gap → Cursor → Except SyntaxError (String × Cursor)
  | 0, _, _, c => c.fail .endOfStream (Activity.quotedScalar, start)
  | fuel + 1, text, gap, c =>
    let quote := if double then '"' else '\''
    match takeBreak c.rest c.mark, c.rest with
    | some (b, after), _ => quotedFrom double start fuel text (gap.addBreak b) after
    | none, [] => c.fail .endOfStream (Activity.quotedScalar, start)
    | none, a :: rest =>
      if isGap a then quotedFrom double start fuel text (gap.addBlank a) c.next
      else if c.mark.column == 0 && atDocumentIndicator c.rest then
        c.fail .documentIndicator (Activity.quotedScalar, start)
      else
        let text := gap.folded.reverse ++ text
        if !double && a == '\'' && rest.head? == some '\'' then
          quotedFrom double start fuel ('\'' :: text) .none c.next.next
        else if a == quote then .ok (String.ofList text.reverse, c.next)
        else if double && a == '\\' then
          match takeBreak rest c.next.mark with
          | some (_, after) => quotedFrom double start fuel text (.lines none []) after
          | none =>
            match escape start c with
            | .error e => .error e
            | .ok (meaning, after) => quotedFrom double start fuel (meaning :: text) .none after
        else quotedFrom double start fuel (a :: text) .none c.next

def quoted (double : Bool) (c : Cursor) : Except SyntaxError (String × Cursor) :=
  quotedFrom double c.mark (c.rest.length + 1) [] .none c.next

inductive Chomp
  | strip
  | clip
  | keep
deriving DecidableEq, Repr

structure Header where
  chomp : Chomp
  /-- The explicit indentation, or zero. -/
  increment : Nat
  after : Cursor

def chomp? (c : Cursor) : Option Chomp :=
  if c.starts '+' then some .keep else if c.starts '-' then some .strip else none

def increment (start : Mark) (c : Cursor) : Except SyntaxError (Nat × Cursor) :=
  match c.rest with
  | d :: _ =>
    if d.isDigit then
      if d == '0' then c.fail .indentationZero (Activity.blockScalar, start)
      else .ok (d.toNat - 48, c.next)
    else .ok (0, c)
  | [] => .ok (0, c)

/-- The chomping indicator and the indentation digit, in either order, and the rest of the line. -/
def header (start : Mark) (c : Cursor) : Except SyntaxError Header := do
  let (chomp, n, c) ←
    match chomp? c with
    | some chomp => do
      let (n, c) ← increment start c.next
      pure (chomp, n, c)
    | none => do
      let (n, c) ← increment start c
      match if n = 0 then none else chomp? c with
      | some chomp => pure (chomp, n, c.next)
      | none => pure (Chomp.clip, n, c)
  return ⟨chomp, n, ← c.finishLine .blockScalar start⟩

/-- Empty lines, with the indentation of the line after them and the deepest column seen. An
indentation of zero is still to be found. -/
def emptyLines (start : Mark) (indent : Nat) (deepest : Nat) (breaks : List Char) :
    List Char → Mark → Except SyntaxError (List Char × Nat × Cursor)
  | '\r' :: '\n' :: rest, m =>
    emptyLines start indent (max deepest m.column) (breaks ++ ['\n']) rest (m.nextLine 2)
  | c :: rest, m =>
    let short := indent = 0 ∨ m.column < indent
    if c = ' ' ∧ short then emptyLines start indent deepest breaks rest (m.next c)
    else if c = '\t' ∧ short then
      .error ⟨.indentationTab, m, some (.blockScalar, start)⟩
    else if isBreak c then
      emptyLines start indent (max deepest m.column) (breaks ++ [breakText c]) rest
        (m.nextLine c.utf8Size)
    else .ok (breaks, max deepest m.column, ⟨c :: rest, m⟩)
  | [], m => .ok (breaks, max deepest m.column, ⟨[], m⟩)

structure Block where
  literal : Bool
  indent : Nat
  chomp : Chomp

/-- The lines of a block scalar. `lead` is the break that ended the last line, `trail` the empty
lines after it, and `blank` tells whether that line started with a blank. -/
def blockLines (start : Mark) (b : Block) :
    Nat → List Char → Option Char → List Char → Bool → Cursor → Except SyntaxError (String × Cursor)
  | fuel + 1, text, lead, trail, blank, c =>
    if c.mark.column = b.indent ∧ c.rest ≠ [] then do
      let blankHere := (c.rest.head?.map isGap).getD false
      let joint :=
        if !b.literal && lead == some '\n' && !blank && !blankHere then
          if trail.isEmpty then [' '] else trail
        else lead.toList ++ trail
      let (line, after) := c.take (!isBreak ·)
      let (lead, after) := match takeBreak after.rest after.mark with
        | some (br, after) => (some br, after)
        | none => (none, after)
      let (trail, _, after) ← emptyLines start b.indent 0 [] after.rest after.mark
      blockLines start b fuel (line.reverse ++ joint.reverse ++ text) lead trail blankHere after
    else blockEnd text lead trail c
  | 0, text, lead, trail, _, c => blockEnd text lead trail c
where
  blockEnd (text : List Char) (lead : Option Char) (trail : List Char) (c : Cursor) :
      Except SyntaxError (String × Cursor) :=
    let last := if b.chomp = .strip then [] else lead.toList
    let more := if b.chomp = .keep then trail else []
    .ok (String.ofList (text.reverse ++ last ++ more), c)

/-- A block scalar, from its indicator; `parent` is the indentation of the block it stands in. -/
def block (literal : Bool) (parent : Int) (c : Cursor) : Except SyntaxError (String × Cursor) := do
  let start := c.mark
  let h ← header start c.next
  let explicit := if h.increment = 0 then 0 else (max parent 0).toNat + h.increment
  let (trail, deepest, after) ← emptyLines start explicit 0 [] h.after.rest h.after.mark
  let indent := if explicit = 0 then max (max deepest (parent + 1).toNat) 1 else explicit
  blockLines start ⟨literal, indent, h.chomp⟩ (after.rest.length + 1) [] none trail false after

end ComposeToPodman.Yaml.Scalar
