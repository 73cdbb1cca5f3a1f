import ComposeToPodman.Json.Fault
import ComposeToPodman.Text.Basic

/-! Reading JSON texts piece by piece. Each function starts at a place and ends behind what it
read. -/
namespace ComposeToPodman.Json

structure Cursor where
  mark : Mark := {}
  rest : List Char
deriving Repr

abbrev Reader := StateT Cursor (Except ReadError)

namespace Reader

def peek : Reader (Option Char) := do return (← get).rest.head?

def skip : Reader Unit :=
  modify fun c =>
    match c.rest with
    | [] => c
    | a :: rest => ⟨c.mark.next a, rest⟩

def fail (fault : Fault) : Reader α := do throw ⟨fault, (← get).mark⟩

/-- Stop one byte further on: what is wrong is the next character. -/
def reject (fault : Fault) : Reader α := do
  let c ← get
  throw ⟨fault, match c.rest with
    | '\n' :: _ => ⟨c.mark.line + 1, 0⟩
    | _ :: _ => ⟨c.mark.line, c.mark.column + 1⟩
    | [] => c.mark⟩

def isBlank (c : Char) : Bool := c == ' ' || c == '\n' || c == '\t' || c == '\r'

/-- The text from the first character on that is not of a kind. -/
def dropWhile (kind : Char → Bool) : Mark → List Char → Cursor
  | m, [] => ⟨m, []⟩
  | m, c :: rest => if kind c then dropWhile kind (m.next c) rest else ⟨m, c :: rest⟩

/-- Pass over white space, and look at what follows. -/
def next : Reader (Option Char) := do
  modify fun c => dropWhile isBlank c.mark c.rest
  peek

def digits : Reader (List Char) := do
  let c ← get
  set (dropWhile Char.isDigit c.mark c.rest)
  return c.rest.takeWhile Char.isDigit

def word : List Char → Reader Unit
  | [] => pure ()
  | a :: rest => do
    match ← peek with
    | none => fail .endOfValue
    | some c => if c = a then skip else reject .expectedWord
    word rest

def hexDigits : Reader Nat := do
  let c ← get
  match Text.natural? 16 (c.rest.take 4) with
  | some n =>
    if (c.rest.take 4).length = 4 then
      set (⟨c.mark.afterBytes 4 c.rest, c.rest.drop 4⟩ : Cursor)
      return n
    else throw ⟨.endOfText, c.mark.afterBytes 4 c.rest⟩
  | none =>
    throw ⟨if (String.ofList c.rest).utf8ByteSize < 4 then .endOfText else .invalidEscape,
      c.mark.afterBytes 4 c.rest⟩

def isLeading (n : Nat) : Bool := 0xd800 ≤ n && n ≤ 0xdbff

def isTrailing (n : Nat) : Bool := 0xdc00 ≤ n && n ≤ 0xdfff

def pairWith (c : Char) : Reader Unit := do
  match ← peek with
  | none => fail .endOfText
  | some a => if a = c then skip else reject .unfinishedSurrogate

/-- A character by its number. Beyond sixteen bits it takes a pair of surrogates. -/
def numbered : Reader Char := do
  let n ← hexDigits
  if isTrailing n then fail .loneSurrogate
  else if isLeading n then
    pairWith '\\'
    pairWith 'u'
    let m ← hexDigits
    if isTrailing m then return Char.ofNat (0x10000 + (n - 0xd800) * 0x400 + (m - 0xdc00))
    else fail .loneSurrogate
  else return Char.ofNat n

def shortEscape? : Char → Option Char
  | '"' => some '"'
  | '\\' => some '\\'
  | '/' => some '/'
  | 'b' => some '\x08'
  | 'f' => some '\x0c'
  | 'n' => some '\n'
  | 'r' => some '\r'
  | 't' => some '\t'
  | _ => none

def escape (number : Reader Char) : Reader Char := do
  match ← peek with
  | none => fail .endOfText
  | some 'u' => do
    skip
    number
  | some c =>
    match shortEscape? c with
    | some a => do
      skip
      return a
    | none => reject .invalidEscape

def charactersFrom : Nat → List Char → Reader String
  | 0, _ => fail .endOfText
  | fuel + 1, before => do
    match ← peek with
    | none => fail .endOfText
    | some '"' => do
      skip
      return String.ofList before.reverse
    | some '\\' => do
      skip
      let c ← escape numbered
      charactersFrom fuel (c :: before)
    | some c =>
      if c < ' ' then reject .controlCharacter
      else do
        skip
        charactersFrom fuel (c :: before)

def characters : Reader String := do charactersFrom ((← get).rest.length + 1) []

def skipCharactersFrom : Nat → Reader Unit
  | 0 => fail .endOfText
  | fuel + 1 => do
    match ← peek with
    | none => fail .endOfText
    | some '"' => skip
    | some '\\' => do
      skip
      let _ ← escape do
        let _ ← hexDigits
        return ' '
      skipCharactersFrom fuel
    | some c =>
      if c < ' ' then fail .controlCharacter
      else do
        skip
        skipCharactersFrom fuel

/-- A text that is passed over, after its opening quote: surrogates need no pair. -/
def skipCharacters : Reader Unit := do skipCharactersFrom ((← get).rest.length + 1)

/-- `whole.part` times a power of ten. -/
structure Numeral where
  whole : List Char
  part : List Char := []
  exponent : Option Int := none

/-- A digit must come next; `atEnd` is what is wrong if the text ends. -/
def needDigit (atEnd : Fault) : Reader Unit := do
  match ← peek with
  | none => fail atEnd
  | some c => if c.isDigit then pure () else reject .invalidNumber

def exponent (atEnd : Fault) : Reader (Option Int) := do
  match ← peek with
  | some c =>
    if c == 'e' || c == 'E' then do
      skip
      let sign ← peek
      if sign = some '+' || sign = some '-' then skip
      needDigit atEnd
      let n := ((Text.natural? 10 (← digits)).getD 0 : Nat)
      return some (if sign = some '-' then -(n : Int) else n)
    else return none
  | none => return none

/-- A number after its sign. A leading zero stands alone. -/
def numeral (atEnd : Fault) : Reader Numeral := do
  needDigit atEnd
  let whole ← match ← peek with
    | some '0' => do
      skip
      if (← peek).any Char.isDigit then reject .invalidNumber
      pure ['0']
    | _ => digits
  if (← peek) = some '.' then
    skip
    needDigit atEnd
    let part ← digits
    return { whole, part, exponent := ← exponent atEnd }
  else return { whole, exponent := ← exponent atEnd }

/-- Integers of 64 bits, with a sign if negative, are integers; negative zero is none. -/
def number (negative : Bool) : Reader Found := do
  let n ← numeral .endOfValue
  let whole := (Text.natural? 10 n.whole).getD 0
  let isInteger := n.part.isEmpty && n.exponent.isNone
  if isInteger && !negative && whole < 0x10000000000000000 then return .integer whole
  else if isInteger && negative && 0 < whole && whole ≤ 0x8000000000000000 then
    return .integer (-(whole : Int))
  else
    let all := (Text.natural? 10 (n.whole ++ n.part)).getD 0
    let x := Binary64.ofDecimal negative all (n.exponent.getD 0 - n.part.length)
    if x.isFinite then return .float x else fail .numberOutOfRange

/-- What stands here; an array or an object is not entered. -/
def found : Reader Found := do
  match ← next with
  | some 'n' => do
    skip
    word ['u', 'l', 'l']
    return .null
  | some 't' => do
    skip
    word ['r', 'u', 'e']
    return .bool true
  | some 'f' => do
    skip
    word ['a', 'l', 's', 'e']
    return .bool false
  | some '-' => do
    skip
    number true
  | some '"' => do
    skip
    return .text (← characters)
  | some '[' => return .array
  | some '\x7b' => return .object
  | some c => if c.isDigit then number false else reject .expectedValue
  | none => fail .endOfValue

def mismatch (expected : String) : Reader α := do
  let f ← found
  fail (.wrongType f expected)

def expectText (expected : String) : Reader String := do
  match ← next with
  | some '"' => do
    skip
    characters
  | _ => mismatch expected

def null : Reader Unit := do
  match ← next with
  | some 'n' => do
    skip
    word ['u', 'l', 'l']
  | _ => mismatch "unit"

def optionalText : Reader (Option String) := do
  match ← next with
  | some 'n' => do
    null
    return none
  | _ => some <$> expectText "a string"

def colon : Reader Unit := do
  match ← next with
  | some ':' => skip
  | some _ => reject .expectedColon
  | none => fail .endOfObject

/-- Whether an array goes on, after some of its elements; the end is not passed. -/
def hasElement (first : Bool) : Reader Bool := do
  match ← next with
  | none => fail .endOfArray
  | some ']' => return false
  | some c =>
    if first then return true
    else if c = ',' then do
      skip
      match ← next with
      | none => fail .endOfValue
      | some ']' => reject .trailingComma
      | some _ => return true
    else reject .expectedArrayEnd

/-- The next key of an object, after some of its members; the end is not passed. -/
def key? (first : Bool) : Reader (Option String) := do
  match ← next with
  | none => fail .endOfObject
  | some '\x7d' => return none
  | some c =>
    if first then
      if c = '"' then do
        skip
        some <$> characters
      else reject .expectedKey
    else if c = ',' then do
      skip
      match ← next with
      | none => fail .endOfValue
      | some '"' => do
        skip
        some <$> characters
      | some '\x7d' => reject .trailingComma
      | some _ => reject .expectedKey
    else reject .expectedObjectEnd

mutual

def skipValueFrom : Nat → Reader Unit
  | 0 => fail .endOfValue
  | fuel + 1 => do
    match ← next with
    | some '"' => do
      skip
      skipCharacters
    | some '-' => do
      skip
      let _ ← numeral .invalidNumber
    | some '[' => do
      skip
      skipItemsFrom fuel true
    | some '\x7b' => do
      skip
      skipMembersFrom fuel true
    | some c =>
      if c.isDigit then do
        let _ ← numeral .invalidNumber
      else do
        let _ ← found
    | none => fail .endOfValue

def skipItemsFrom : Nat → Bool → Reader Unit
  | 0, _ => fail .endOfArray
  | fuel + 1, first => do
    match ← next with
    | none => fail .endOfArray
    | some ']' => skip
    | some c => do
      if !first then
        if c = ',' then skip else reject .expectedArrayEnd
      skipValueFrom fuel
      skipItemsFrom fuel false

def skipMembersFrom : Nat → Bool → Reader Unit
  | 0, _ => fail .endOfObject
  | fuel + 1, first => do
    match ← next with
    | none => fail .endOfObject
    | some '\x7d' => skip
    | some c => do
      if !first then
        if c = ',' then skip else reject .expectedObjectEnd
      match ← next with
      | none => fail .endOfObject
      | some '"' => skip
      | some _ => reject .expectedKey
      skipCharacters
      colon
      skipValueFrom fuel
      skipMembersFrom fuel false

end

def skipValue : Reader Unit := do skipValueFrom (2 * (← get).rest.length + 1)

def finish : Reader Unit := do
  match ← next with
  | none => pure ()
  | some _ => reject .trailingCharacters

/-- A whole text, with white space around what is read. -/
def ofText (read : Reader α) (s : String) : Except ReadError α :=
  (do
    let a ← read
    finish
    return a : Reader α).run' { rest := s.toList }

end Reader

end ComposeToPodman.Json
