import ComposeToPodman.Text.Basic
import ComposeToPodman.Yaml.Token

/-! Anchors, tags and directives. -/
namespace ComposeToPodman.Yaml.Property

/-- The name of an anchor, from its indicator; only certain characters may follow it. -/
def anchorName (activity : Activity) (c : Cursor) : Except SyntaxError (String × Cursor) :=
  let (name, after) := c.next.take isWord
  let ended := atGapOrEnd after.rest ||
    (after.rest.head?.map ['?', ':', ',', ']', '\x7d', '%', '@', '\x60'].contains).getD true
  if name.isEmpty || !ended then after.fail .anchorNameMissing (activity, c.mark)
  else .ok (String.ofList name, after)

inductive Place
  | directive
  | node
deriving DecidableEq

def Place.uri : Place → Activity
  | directive => .tagDirectiveUri
  | node => .tagUri

/-- A handle: `!`, `!name!`, or, before a node, the start of a tag without one. -/
def handle (place : Place) (start : Mark) (c : Cursor) :
    Except SyntaxError (List Char × Cursor) :=
  if !c.starts '!' then
    c.fail .tagBangMissing (if place = .directive then Activity.tagDirectiveHandle else .tag, start)
  else
    let (name, after) := c.next.take isWord
    if after.starts '!' then .ok ('!' :: name ++ ['!'], after.next)
    else if place = .directive && !name.isEmpty then
      after.fail .tagBangMissing (Activity.tagDirectiveHandleEnd, start)
    else .ok ('!' :: name, after)

/-- Flow indicators may stand in a URI only where its end is marked otherwise. -/
def isUri (delimited : Bool) (c : Char) : Bool :=
  isWord c ||
    [';', '/', '?', ':', '@', '&', '=', '+', '$', '.', '%', '!', '~', '*', '\'', '(',
      ')'].contains c ||
    (delimited && [',', '[', ']'].contains c)

def octets (first : Nat) : Nat :=
  if first < 0x80 then 1
  else if first / 0x20 = 6 then 2
  else if first / 0x10 = 14 then 3
  else if first / 8 = 30 then 4
  else 0

def octet? : List Char → Option Nat
  | '%' :: a :: b :: _ => do return (← Text.digitValue 16 a) * 16 + (← Text.digitValue 16 b)
  | _ => none

def trailingOctets (place : Place) (start : Mark) :
    Nat → Octets → Cursor → Except SyntaxError (Octets × Cursor)
  | 0, bytes, c => .ok (bytes, c)
  | n + 1, bytes, c =>
    match octet? c.rest with
    | none => c.fail .octetMissing (place.uri, start)
    | some o =>
      if o / 0x40 = 2 then trailingOctets place start n (o.toUInt8 :: bytes) c.next.next.next
      else c.fail .octetTrailing (place.uri, start)

def escapedOctets (place : Place) (start : Mark) (bytes : Octets) (c : Cursor) :
    Except SyntaxError (Octets × Cursor) :=
  match octet? c.rest with
  | none => c.fail .octetMissing (place.uri, start)
  | some o =>
    match octets o with
    | 0 => c.fail .octetLeading (place.uri, start)
    | n + 1 => trailingOctets place start n (o.toUInt8 :: bytes) c.next.next.next

/-- The octets of a URI, last first. -/
def uriOctets (delimited : Bool) (place : Place) (start : Mark) :
    Nat → Octets → Cursor → Except SyntaxError (Octets × Cursor)
  | 0, bytes, c => .ok (bytes, c)
  | fuel + 1, bytes, c =>
    match c.rest with
    | [] => .ok (bytes, c)
    | a :: _ =>
      if !isUri delimited a then .ok (bytes, c)
      else if a == '%' then do
        let (bytes, c) ← escapedOctets place start bytes c
        uriOctets delimited place start fuel bytes c
      else uriOctets delimited place start fuel (a.toNat.toUInt8 :: bytes) c.next

/-- A URI after text already read; a zero octet ends it early. -/
def uri (delimited : Bool) (place : Place) (head : List Char) (start : Mark) (c : Cursor) :
    Except SyntaxError (Octets × Cursor) := do
  let (bytes, after) ← uriOctets delimited place start c.rest.length [] c
  if head.isEmpty && bytes.isEmpty then after.fail .tagUriMissing (place.uri, start)
  else
    let lead := Octets.ofText (String.ofList (head.drop 1))
    return (lead ++ bytes.reverse.takeWhile (· ≠ 0), after)

/-- A tag: `!<uri>`, `!handle!suffix`, `!suffix`, or a lone `!`, which has an empty handle. -/
def tag (flow : Bool) (c : Cursor) : Except SyntaxError (Token × Cursor) := do
  let start := c.mark
  let (token, after) ←
    if (c.rest.drop 1).head? == some '<' then do
      let (suffix, after) ← uri true .node [] start c.next.next
      if after.starts '>' then pure (Token.tag "" suffix, after.next)
      else after.fail .tagAngleMissing (Activity.tag, start)
    else do
      let (name, after) ← handle .node start c
      if name.length > 1 && name.getLast? == some '!' then do
        let (suffix, after) ← uri false .node [] start after
        pure (Token.tag (String.ofList name) suffix, after)
      else do
        let (suffix, after) ← uri false .node name start after
        pure (if suffix.isEmpty then Token.tag "" (.ofText "!") else Token.tag "!" suffix, after)
  if (flow && after.starts ',') || atGapOrEnd after.rest then return (token, after)
  else after.fail .tagGapOrBreakMissing (Activity.tag, start)

def versionNumber (start : Mark) (c : Cursor) : Except SyntaxError (Nat × Cursor) :=
  let (digits, after) := c.take Char.isDigit
  if 9 < digits.length then
    (c.rest.take 9).foldl (fun c _ => c.next) c |>.fail .versionNumberLong
      (Activity.versionDirective, start)
  else if digits.isEmpty then after.fail .versionNumberMissing (Activity.versionDirective, start)
  else .ok ((Text.natural? 10 digits).getD 0, after)

def directive (c : Cursor) : Except SyntaxError (Token × Cursor) := do
  let start := c.mark
  let (name, after) := c.next.take isWord
  if name.isEmpty then after.fail .directiveNameMissing (Activity.directive, start)
  else if !atGapOrEnd after.rest then after.fail .directiveNameBroken (Activity.directive, start)
  else
    let (token, after) ←
      if name = ['Y', 'A', 'M', 'L'] then do
        let (major, after) ← versionNumber start (after.skip isGap)
        if after.starts '.' then do
          let (minor, after) ← versionNumber start after.next
          pure (Token.version major minor, after)
        else after.fail .versionPointMissing (Activity.versionDirective, start)
      else if name = ['T', 'A', 'G'] then do
        let (name, after) ← handle .directive start (after.skip isGap)
        if (after.rest.head?.map isGap).getD false then do
          let (meaning, after) ← uri true .directive [] start (after.skip isGap)
          if atGapOrEnd after.rest then
            pure (Token.tagHandle (String.ofList name) meaning, after)
          else after.fail .tagGapOrBreakMissing (Activity.tagDirective, start)
        else after.fail .tagGapMissing (Activity.tagDirective, start)
      else after.fail .directiveUnknown (Activity.directive, start)
    return (token, ← after.finishLine .directive start)

end ComposeToPodman.Yaml.Property
