import ComposeToPodman.Yaml.Token.Property
import ComposeToPodman.Yaml.Token.Scalar

/-! From text to tokens. A colon may turn what stands before it into a key, so a token is passed on
only once no colon can come before it; what a fault leaves in the queue is never passed on. -/
namespace ComposeToPodman.Yaml

/-- A place that becomes a key if a colon follows it on its line. -/
structure KeyPlace where
  number : Nat
  mark : Mark
  /-- Here nothing but a key can stand. -/
  required : Bool

structure Scanner where
  cursor : Cursor
  /-- The column of the current block, `-1` outside of any. -/
  indent : Int := -1
  outer : List Int := []
  /-- The place of a key at each level of flow nesting, innermost first. -/
  places : List (Option KeyPlace) := [none]
  keyAllowed : Bool := true
  queue : List (Token × Mark) := []
  passed : Nat := 0
  ended : Bool := false

namespace Scanner

def inFlow (s : Scanner) : Bool := 1 < s.places.length

def push (s : Scanner) (t : Token) (m : Mark) : Scanner := { s with queue := s.queue ++ [(t, m)] }

def insert (s : Scanner) (number : Nat) (t : Token) (m : Mark) : Scanner :=
  { s with queue := s.queue.insertIdx (number - s.passed) (t, m) }

def forget (s : Scanner) : List (Option KeyPlace) → Except SyntaxError (List (Option KeyPlace))
  | [] => .ok []
  | none :: rest => (none :: ·) <$> s.forget rest
  | some k :: rest =>
    if k.mark.line < s.cursor.mark.line ∨ k.mark.index + 1024 < s.cursor.mark.index then
      if k.required then s.cursor.fail .colonMissing (Activity.simpleKey, k.mark)
      else (none :: ·) <$> s.forget rest
    else (some k :: ·) <$> s.forget rest

/-- A key stays on its line and within 1024 bytes. The outermost place is looked at first. -/
def forgetStale (s : Scanner) : Except SyntaxError Scanner :=
  (fun places => { s with places := places.reverse }) <$> s.forget s.places.reverse

def dropKey (s : Scanner) : Except SyntaxError Scanner :=
  match s.places with
  | some k :: rest =>
    if k.required then s.cursor.fail .colonMissing (Activity.simpleKey, k.mark)
    else .ok { s with places := none :: rest }
  | _ => .ok s

def markKey (s : Scanner) : Except SyntaxError Scanner :=
  if s.keyAllowed then do
    let required := !s.inFlow && s.indent == (s.cursor.mark.column : Int)
    let place := ⟨s.passed + s.queue.length, s.cursor.mark, required⟩
    let s ← s.dropKey
    return { s with places := some place :: s.places.drop 1 }
  else .ok s

/-- Open a block at a column, unless one is open there; `number` is the token it starts with. -/
def openBlock (s : Scanner) (column : Nat) (number : Option Nat) (t : Token) (m : Mark) : Scanner :=
  if s.inFlow ∨ (column : Int) ≤ s.indent then s
  else
    let s := { s with outer := s.indent :: s.outer, indent := column }
    match number with
    | some n => s.insert n t m
    | none => s.push t m

def closeFrom (s : Scanner) (column : Int) : List Int → Int → Scanner
  | [], indent => { s with outer := [], indent := indent }
  | o :: outer, indent =>
    if column < indent then (s.push .blockEnd s.cursor.mark).closeFrom column outer o
    else { s with outer := o :: outer, indent := indent }

def closeBlocks (s : Scanner) (column : Int) : Scanner :=
  if s.inFlow then s else s.closeFrom column s.outer s.indent

/-- To the next token: past blanks, comments and line breaks. A tab is no indentation; a byte order
mark may start a line; after a line break outside of flow collections a key may follow. -/
def seek (flow : Bool) (keyAllowed comment : Bool) : List Char → Mark → Bool × Cursor
  | '\r' :: '\n' :: rest, m => seek flow (keyAllowed || !flow) false rest (m.nextLine 2)
  | c :: rest, m =>
    if isBreak c then seek flow (keyAllowed || !flow) false rest (m.nextLine c.utf8Size)
    else if comment || c == ' ' || (c == '\t' && (flow || !keyAllowed)) ||
        (c == '\ufeff' && m.column == 0) then
      seek flow keyAllowed comment rest (m.next c)
    else if c == '#' then seek flow keyAllowed true rest (m.next c)
    else (keyAllowed, ⟨c :: rest, m⟩)
  | [], m => (keyAllowed, ⟨[], m⟩)

def single (s : Scanner) (t : Token) : Scanner :=
  { s.push t s.cursor.mark with cursor := s.cursor.next }

def scanEnd (s : Scanner) : Except SyntaxError Scanner := do
  let m := s.cursor.mark
  let m := if m.column = 0 then m else { m with line := m.line + 1, column := 0 }
  let s ← ({ s with cursor.mark := m }.closeBlocks (-1)).dropKey
  return { s.push .streamEnd m with keyAllowed := false, ended := true }

def scanDirective (s : Scanner) : Except SyntaxError Scanner := do
  let s ← (s.closeBlocks (-1)).dropKey
  let (token, after) ← Property.directive s.cursor
  return { s.push token s.cursor.mark with keyAllowed := false, cursor := after }

def scanDocument (s : Scanner) (t : Token) : Except SyntaxError Scanner := do
  let s ← (s.closeBlocks (-1)).dropKey
  return { s.push t s.cursor.mark with keyAllowed := false, cursor := s.cursor.next.next.next }

def openFlow (s : Scanner) (t : Token) : Except SyntaxError Scanner := do
  let s ← s.markKey
  return { s with places := none :: s.places, keyAllowed := true }.single t

def closeFlow (s : Scanner) (t : Token) : Except SyntaxError Scanner := do
  let s ← s.dropKey
  let places := if s.inFlow then s.places.drop 1 else s.places
  return { s with places, keyAllowed := false }.single t

def scanFlowEntry (s : Scanner) : Except SyntaxError Scanner := do
  let s ← s.dropKey
  return { s with keyAllowed := true }.single .flowEntry

def scanBlockEntry (s : Scanner) : Except SyntaxError Scanner := do
  let m := s.cursor.mark
  if !s.inFlow && !s.keyAllowed then s.cursor.fail .blockEntryNotAllowed
  else
    let s ← (s.openBlock m.column none .blockSequenceStart m).dropKey
    return { s with keyAllowed := true }.single .blockEntry

def scanKey (s : Scanner) : Except SyntaxError Scanner := do
  let m := s.cursor.mark
  if !s.inFlow && !s.keyAllowed then s.cursor.fail .keyNotAllowed
  else
    let s ← (s.openBlock m.column none .blockMappingStart m).dropKey
    return { s with keyAllowed := !s.inFlow }.single .key

/-- A colon: of the key that was waiting for it, or of an empty one. -/
def scanValue (s : Scanner) : Except SyntaxError Scanner :=
  match s.places with
  | some k :: rest =>
    let s := (s.insert k.number .key k.mark).openBlock k.mark.column (some k.number)
      .blockMappingStart k.mark
    .ok <| { s with places := none :: rest, keyAllowed := false }.single .value
  | _ =>
    let m := s.cursor.mark
    if !s.inFlow && !s.keyAllowed then s.cursor.fail .valueNotAllowed
    else
      let s := s.openBlock m.column none .blockMappingStart m
      .ok <| { s with keyAllowed := !s.inFlow }.single .value

def scanKeyLike (s : Scanner) (read : Cursor → Except SyntaxError (Token × Cursor)) :
    Except SyntaxError Scanner := do
  let s ← s.markKey
  let (token, after) ← read s.cursor
  return { s.push token s.cursor.mark with keyAllowed := false, cursor := after }

def scanPlain (s : Scanner) : Except SyntaxError Scanner := do
  let s ← s.markKey
  let p ← Scalar.plain s.inFlow (s.indent + 1) s.cursor
  let s := s.push (.scalar p.text .plain) s.cursor.mark
  return { s with keyAllowed := p.broken, cursor := p.after }

def scanBlockScalar (s : Scanner) (literal : Bool) : Except SyntaxError Scanner := do
  let s ← s.dropKey
  let (text, after) ← Scalar.block literal s.indent s.cursor
  return { s.push (.scalar text .block) s.cursor.mark with keyAllowed := true, cursor := after }

def scanQuoted (s : Scanner) (double : Bool) : Except SyntaxError Scanner :=
  s.scanKeyLike fun c => do
    let (text, after) ← Scalar.quoted double c
    return (.scalar text .quoted, after)

def scanAnchor (s : Scanner) (activity : Activity) (token : String → Token) :
    Except SyntaxError Scanner :=
  s.scanKeyLike fun c => do
    let (name, after) ← Property.anchorName activity c
    return (token name, after)

/-- Characters that start a token of another kind, or none at all. -/
def isIndicator (c : Char) : Bool :=
  ['-', '?', ':', ',', '[', ']', '\x7b', '\x7d', '#', '&', '*', '!', '|', '>', '\'', '"', '%', '@',
    '\x60'].contains c

/-- An indicator before more text starts a plain scalar, if it is one of three. -/
def startsPlain (flow : Bool) (c : Char) (rest : List Char) : Bool :=
  !(isGap c || isBreak c || isIndicator c) || (c == '-' && !(rest.head?.map isGap).getD false) ||
    (!flow && (c == '?' || c == ':') && !atGapOrEnd rest)

/-- Read one token, with the block starts and ends that its place implies. -/
def fetch (s : Scanner) : Except SyntaxError Scanner := do
  let (keyAllowed, cursor) := seek s.inFlow s.keyAllowed false s.cursor.rest s.cursor.mark
  let s ← { s with keyAllowed, cursor }.forgetStale
  let s := s.closeBlocks s.cursor.mark.column
  let firstColumn := s.cursor.mark.column == 0
  match s.cursor.rest with
  | [] => s.scanEnd
  | c :: rest =>
    let spaced := atGapOrEnd rest
    if firstColumn && c == '%' then s.scanDirective
    else if firstColumn && atDocumentIndicator (c :: rest) then
      s.scanDocument (if c == '-' then .documentStart else .documentEnd)
    else match c with
    | '[' => s.openFlow .flowSequenceStart
    | '\x7b' => s.openFlow .flowMappingStart
    | ']' => s.closeFlow .flowSequenceEnd
    | '\x7d' => s.closeFlow .flowMappingEnd
    | ',' => s.scanFlowEntry
    | '*' => s.scanAnchor .reference .reference
    | '&' => s.scanAnchor .anchor .anchor
    | '!' => s.scanKeyLike (Property.tag s.inFlow)
    | '\'' => s.scanQuoted false
    | '"' => s.scanQuoted true
    | _ =>
      if c == '-' && spaced then s.scanBlockEntry
      else if c == '?' && (s.inFlow || spaced) then s.scanKey
      else if c == ':' && (s.inFlow || spaced) then s.scanValue
      else if c == '|' && !s.inFlow then s.scanBlockScalar true
      else if c == '>' && !s.inFlow then s.scanBlockScalar false
      else if startsPlain s.inFlow c rest then s.scanPlain
      else s.cursor.fail .noSuchToken (Activity.nextToken, s.cursor.mark)

/-- Whether a colon could still put a key before the first token of the queue. -/
def awaitsColon (s : Scanner) : Bool :=
  s.places.any fun
    | some k => k.number == s.passed
    | none => false

/-- Pass tokens on, and read more when none can be passed on. -/
def run : Nat → Scanner → List (Token × Mark) → Tokens
  | 0, _, read => ⟨read.reverse, none⟩
  | fuel + 1, s, read =>
    match s.forgetStale with
    | .error e => ⟨read.reverse, some e⟩
    | .ok s =>
      match s.queue with
      | t :: queue =>
        if s.awaitsColon then
          match s.fetch with
          | .error e => ⟨read.reverse, some e⟩
          | .ok s => run fuel s read
        else run fuel { s with queue, passed := s.passed + 1 } (t :: read)
      | [] =>
        if s.ended then ⟨read.reverse, none⟩
        else match s.fetch with
          | .error e => ⟨read.reverse, some e⟩
          | .ok s => run fuel s read

end Scanner

/-- Only printable characters, tabs and line breaks may stand in a text. -/
def isAllowed (c : Char) : Bool :=
  c == '\t' || c == '\n' || c == '\r' || (' ' ≤ c && c ≤ '~') || c == '\u0085' ||
    ('\u00a0' ≤ c && c ≤ '\ufffd') || '\uffff' < c

def controlCharacter? : Nat → List Char → Option Nat
  | _, [] => none
  | offset, c :: rest =>
    if isAllowed c then controlCharacter? (offset + c.utf8Size) rest else some offset

/-- The tokens of a text. Each round reads at least one character or passes one token on, and a
character makes at most three tokens besides the block ends. -/
def Tokens.ofText (text : String) : Tokens :=
  let chars := text.toList
  match controlCharacter? 0 chars with
  | some offset => ⟨[], some ⟨.controlCharacter offset, {}, none⟩⟩
  | none => Scanner.run (8 * chars.length + 16) { cursor := ⟨chars, {}⟩ } []

end ComposeToPodman.Yaml
