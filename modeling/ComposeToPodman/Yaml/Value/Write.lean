import ComposeToPodman.Yaml.Cursor
import ComposeToPodman.Yaml.Number
import ComposeToPodman.Yaml.Value

/-! From a value to its text in block style: two columns of indentation, sequences at the column of
their key, no folding. A string is quoted where it would read back as something else, and where its
characters cannot stand in a plain scalar. -/
namespace ComposeToPodman.Yaml

inductive ScalarStyle
  | plain
  | single
  | double
  | literal
deriving DecidableEq, Repr

namespace ScalarStyle

def isPrintable (c : Char) : Bool :=
  c == '\n' || (' ' ≤ c && c ≤ '~') || ('\u00a0' ≤ c && c ≤ '\ufffd' && c != '\ufeff') ||
    '\uffff' < c

def hasPair (p q : Char → Bool) : List Char → Bool
  | a :: b :: rest => (p a && q b) || hasPair p q (b :: rest)
  | _ => false

def isSpace (c : Char) : Bool := c == ' '

/-- Characters that cannot start a plain scalar. -/
def isLeadingIndicator (c : Char) : Bool :=
  ['#', ',', '[', ']', '\x7b', '\x7d', '&', '*', '!', '|', '>', '\'', '"', '%', '@',
    '\x60'].contains c

/-- A colon before a gap, or a number sign after one. -/
def hasInnerIndicator : List Char → Bool
  | a :: b :: rest =>
    (b == ':' && atGapOrEnd rest) || (b == '#' && (isGap a || isBreak a)) ||
      hasInnerIndicator (b :: rest)
  | _ => false

/-- The text would be taken for something other than a scalar. -/
def hasIndicator (s : List Char) : Bool :=
  (match s with
    | '-' :: '-' :: '-' :: _ => true
    | '.' :: '.' :: '.' :: _ => true
    | c :: rest => isLeadingIndicator c || (['?', ':', '-'].contains c && atGapOrEnd rest)
    | [] => false) || hasInnerIndicator s

/-- No escape is needed, and no line ends in a space. -/
def isLegible (s : List Char) : Bool := s.all isPrintable && !hasPair isSpace isBreak s

def edges (s : List Char) : List Char := s.head?.toList ++ s.getLast?.toList

def allowsPlain (s : List Char) : Bool :=
  isLegible s && !s.any isBreak && !(edges s).any isSpace && !hasIndicator s

def allowsSingle (s : List Char) : Bool := isLegible s && !hasPair isBreak isSpace s

def allowsLiteral (s : List Char) : Bool := isLegible s && s.getLast? != some ' ' && !s.isEmpty

def wanted (s : String) : ScalarStyle :=
  if s.toList.contains '\n' then .literal
  else match Plain.ofText s with
    | .text => if Number.isZeroPadded s.toList then .single else .plain
    | _ => .single

/-- The style a text gets: the wanted one, if its characters and its place allow it. -/
def granted (s : List Char) (key : Bool) : ScalarStyle → ScalarStyle
  | .double => .double
  | .literal => if allowsLiteral s && !key then .literal else .double
  | .single => if key && s.any isBreak then .double else if allowsSingle s then .single else .double
  | .plain =>
    if key && s.any isBreak then .double
    else if allowsPlain s && !(key && s.isEmpty) then .plain
    else if allowsSingle s then .single
    else .double

end ScalarStyle

structure Pen where
  text : String := ""
  column : Nat := 0
  /-- The last character separates. -/
  spaced : Bool := true
  /-- The line holds nothing but indentation and indicators. -/
  indenting : Bool := true

namespace Pen

def put (p : Pen) (c : Char) : Pen := { p with text := p.text.push c, column := p.column + 1 }

def puts (p : Pen) (s : String) : Pen :=
  { p with text := p.text ++ s, column := p.column + s.length }

def newline (p : Pen) (c : Char) : Pen := { p with text := p.text.push c, column := 0 }

/-- Start a line at a column, unless one has been started that can still reach it. -/
def indent (p : Pen) (column : Nat) : Pen :=
  let p :=
    if !p.indenting || column < p.column || (p.column == column && !p.spaced) then p.newline '\n'
    else p
  { p.puts (String.ofList (List.replicate (column - p.column) ' ')) with
    spaced := true, indenting := true }

/-- An indicator, with a space before it where one is needed. -/
def indicator (p : Pen) (s : String) (space spaced indenting : Bool) : Pen :=
  let p := (if space && !p.spaced then p.put ' ' else p).puts s
  { p with spaced, indenting := p.indenting && indenting }

def finish (p : Pen) : Pen := { p with spaced := false, indenting := false }

def plain (p : Pen) (s : List Char) : Pen :=
  let p := if p.spaced || s.isEmpty then p else p.put ' '
  (p.puts (String.ofList s)).finish

/-- The text between single quotes; `broken` tells that a line break was the last character. -/
def singleFrom (column : Nat) : List Char → Bool → Pen → Pen
  | [], broken, p => if broken then p.indent column else p
  | c :: rest, broken, p =>
    if c == ' ' then singleFrom column rest broken (p.put c)
    else if isBreak c then
      let p := if !broken && c == '\n' then p.newline '\n' else p
      singleFrom column rest true { p.newline c with indenting := true }
    else
      let p := if broken then p.indent column else p
      let p := if c == '\'' then p.put c else p
      singleFrom column rest false { p.put c with indenting := false }

def single (p : Pen) (column : Nat) (s : List Char) : Pen :=
  let p := singleFrom column s false (p.indicator "'" true false false)
  (p.indicator "'" false false false).finish

def upperHex (width n : Nat) : String :=
  let digits := (Nat.toDigits 16 n).map Char.toUpper
  String.ofList (List.replicate (width - digits.length) '0' ++ digits)

/-- A character between double quotes: its letter, or the shortest code that holds it. -/
def escaped (c : Char) : String :=
  match c with
  | '\x00' => "\\0"
  | '\x07' => "\\a"
  | '\x08' => "\\b"
  | '\t' => "\\t"
  | '\n' => "\\n"
  | '\x0b' => "\\v"
  | '\x0c' => "\\f"
  | '\r' => "\\r"
  | '\x1b' => "\\e"
  | '"' => "\\\""
  | '\\' => "\\\\"
  | '\u0085' => "\\N"
  | '\u00a0' => "\\_"
  | '\u2028' => "\\L"
  | '\u2029' => "\\P"
  | _ =>
    if c.toNat ≤ 0xff then "\\x" ++ upperHex 2 c.toNat
    else if c.toNat ≤ 0xffff then "\\u" ++ upperHex 4 c.toNat
    else "\\U" ++ upperHex 8 c.toNat

def needsEscape (c : Char) : Bool :=
  !ScalarStyle.isPrintable c || isBreak c || c == '"' || c == '\\'

def double (p : Pen) (s : List Char) : Pen :=
  let p := p.indicator "\"" true false false
  let p := s.foldl (fun p c => if needsEscape c then p.puts (escaped c) else p.put c) p
  (p.indicator "\"" false false false).finish

/-- Indentation is told where the text starts with white space; the end tells whether the last line
is broken, and whether empty lines follow it. -/
def literalHints (s : List Char) : String :=
  let start := if (s.head?.map fun c => c == ' ' || isBreak c).getD false then "2" else ""
  let stop := match s.reverse with
    | [] => "-"
    | [c] => if isBreak c then "+" else "-"
    | c :: d :: _ => if !isBreak c then "-" else if isBreak d then "+" else ""
  start ++ stop

def literalFrom (column : Nat) : List Char → Bool → Pen → Pen
  | [], _, p => p
  | c :: rest, broken, p =>
    if isBreak c then literalFrom column rest true { p.newline c with indenting := true }
    else
      let p := if broken then p.indent column else p
      literalFrom column rest false { p.put c with indenting := false }

def literal (p : Pen) (column : Nat) (s : List Char) : Pen :=
  let p := (p.indicator "|" true false false).indicator (literalHints s) false false false
  literalFrom column s true { p.newline '\n' with spaced := true, indenting := true }

def inner : Option Nat → Nat
  | none => 0
  | some column => column + 2

/-- A scalar inside of a node at a column; at the top it is indented as if it stood in one. -/
def scalar (p : Pen) (column : Option Nat) (key : Bool) (s : String) (style : ScalarStyle) : Pen :=
  let text := s.toList
  let column := (column.getD 0) + 2
  match ScalarStyle.granted text key style with
  | .plain => p.plain text
  | .single => p.single column text
  | .double => p.double text
  | .literal => p.literal column text

end Pen

namespace Value

/-- A key is written before its colon if it is short and on one line; otherwise it is announced. -/
def isSimpleKey : Value → Bool
  | .string s => !s.toList.any isBreak && s.utf8ByteSize ≤ 128
  | .sequence items => items.isEmpty
  | .mapping entries => entries.isEmpty
  | .tagged _ v => v.isSimpleKey
  | _ => true

mutual

/-- Write a value that stands inside of a node at a column, as an item or as part of a mapping. -/
def pen (column : Option Nat) (inMapping key : Bool) : Value → Pen → Pen
  | .null, p => p.scalar column key "null" .plain
  | .bool b, p => p.scalar column key (toString b) .plain
  | .number n, p => p.scalar column key n.text .plain
  | .string s, p => p.scalar column key s (ScalarStyle.wanted s)
  | .sequence [], p => (p.indicator "[" true true false).indicator "]" false false false
  | .sequence items, p =>
    let here := if inMapping && !p.indenting then column.getD 0 else Pen.inner column
    penItems here items p
  | .mapping [], p => (p.indicator "\x7b" true true false).indicator "\x7d" false false false
  | .mapping entries, p => penEntries (Pen.inner column) entries p
  | .tagged tag v, p => pen column inMapping key v (p.indicator ("!" ++ tag) true false false)

def penItems (column : Nat) : List Value → Pen → Pen
  | [], p => p
  | v :: rest, p =>
    let p := (p.indent column).indicator "-" true false true
    penItems column rest (pen (some column) false false v p)

def penEntries (column : Nat) : List (Value × Value) → Pen → Pen
  | [], p => p
  | (k, v) :: rest, p =>
    let p := p.indent column
    let p :=
      if k.isSimpleKey then (pen (some column) true true k p).indicator ":" false false false
      else
        let p := pen (some column) true false k (p.indicator "?" true false true)
        (p.indent column).indicator ":" true false true
    penEntries column rest (pen (some column) true false v p)

end

/-- The text of a value, ended by a line break. -/
def write (v : Value) : String := ((pen none false false v {}).indent 0).text

end Value

end ComposeToPodman.Yaml
