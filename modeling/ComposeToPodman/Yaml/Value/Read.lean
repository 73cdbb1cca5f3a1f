import ComposeToPodman.Yaml.Event
import ComposeToPodman.Yaml.ReadError

/-! From a text to its value. Faults of the text come to light only where the reading of values
reaches them, so a fault of a value that stands earlier is the one that is told. -/
namespace ComposeToPodman.Yaml

structure Source where
  events : Array (Event Nat × Mark)
  /-- Where the node of each anchor number starts; the last entry counts. -/
  anchors : List (Nat × Nat)
  fault : Option ReadError

namespace Source

structure Names where
  numbers : List (String × Nat) := []
  known : Nat := 0
  starts : List (Nat × Nat) := []

/-- A name's number is the count of the names before it. A repeated name does not add to the count,
so the number may go to a later name as well. -/
def Names.define (n : Names) (position : Nat) (p : Properties) : Names :=
  match p.anchor with
  | none => n
  | some name =>
    { numbers := (name, n.known) :: n.numbers
      known := if (n.numbers.lookup name).isSome then n.known else n.known + 1
      starts := (n.known, position) :: n.starts }

def link (n : Names) (fault : Option ReadError) (events : Array (Event Nat × Mark)) :
    List (Event String × Mark) → Source
  | [] => ⟨events, n.starts, fault⟩
  | (.reference name, m) :: rest =>
    match n.numbers.lookup name with
    | some number => link n fault (events.push (.reference number, m)) rest
    | none => ⟨events, n.starts, some (.unknownAnchor m)⟩
  | (.scalar p text plain, m) :: rest =>
    link (n.define events.size p) fault (events.push (.scalar p text plain, m)) rest
  | (.sequenceStart p, m) :: rest =>
    link (n.define events.size p) fault (events.push (.sequenceStart p, m)) rest
  | (.mappingStart p, m) :: rest =>
    link (n.define events.size p) fault (events.push (.mappingStart p, m)) rest
  | (.sequenceEnd, m) :: rest => link n fault (events.push (.sequenceEnd, m)) rest
  | (.mappingEnd, m) :: rest => link n fault (events.push (.mappingEnd, m)) rest

def ofEvents (e : Events) : Source := link {} (e.fault.map .malformed) #[] e.list

end Source

namespace Value

structure Progress where
  position : Nat := 0
  followed : Nat := 0

abbrev Reader := StateT Progress (Except ReadError)

def peek (s : Source) : Reader (Event Nat × Mark) := do
  match s.events[(← get).position]?, s.fault with
  | some e, _ => return e
  | none, some fault => throw fault
  | none, none => return (.scalar {} "" true, {})

def advance : Reader Unit := modify fun p => { p with position := p.position + 1 }

def isOwnTag (tag : Octets) : Bool := tag.head? == some 0x21

/-- The tag that wraps a value: one of the document's own, if it is a text. -/
def ownTag (tag : Option Octets) : Option String := do
  match (← (← tag).text?).toList with
  | ['!'] => return "!"
  | '!' :: '!' :: c :: rest => return String.ofList (c :: rest)
  | '!' :: rest => return String.ofList rest
  | _ => none

def ofPlain (text : String) : Plain → Except Invalid Value
  | .null => .ok .null
  | .bool b => .ok (.bool b)
  | .number n => .ok (.number n)
  | .wide i => .error (.wideInteger i)
  | .text => .ok (.string text)

/-- Under a tag of the core schema a scalar is what the tag says, or nothing. -/
def ofCoreTag? (text : String) : String → Option (Except Invalid Value)
  | "tag:yaml.org,2002:bool" =>
    some <| match Plain.bool? text with
      | some b => .ok (.bool b)
      | none => .error (.misfit text "a boolean")
  | "tag:yaml.org,2002:int" =>
    some <| match Plain.integer? text with
      | some i => ofPlain text i
      | none => .error (.misfit text "an integer")
  | "tag:yaml.org,2002:float" =>
    some <| match Number.float? text.toList with
      | some x => .ok (.number (.float x))
      | none => .error (.misfit text "a float")
  | "tag:yaml.org,2002:null" =>
    some <| if Plain.null? text then .ok .null else .error (.misfit text "null")
  | _ => none

/-- A scalar without a tag, or with one of the document's own, is what its style says. Any other tag
makes it a string, unless the core schema knows better. -/
def ofScalar (tag : Option Octets) (text : String) (plain : Bool) : Except Invalid Value :=
  if (tag.map isOwnTag).getD true then
    if plain then ofPlain text (Plain.ofText text) else .ok (.string text)
  else ((tag.bind Octets.text?).bind (ofCoreTag? text)).getD (.ok (.string text))

def place (path : Path) (mark : Mark) : Except Invalid α → Reader α
  | .ok a => return a
  | .error cause => throw (.invalid cause path mark)

def items (s : Source) (read : Path → Reader Value) (path : Path) :
    Nat → Nat → List Value → Reader (List Value)
  | 0, _, found => return found.reverse
  | fuel + 1, index, found => do
    match (← peek s).1 with
    | .sequenceEnd =>
      advance
      return found.reverse
    | _ =>
      let v ← read (.item index :: path)
      items s read path fuel (index + 1) (v :: found)

/-- The entries of a mapping, up to its end. A key is looked at before its value is read. -/
def entries (s : Source) (read : Path → Reader Value) (path : Path) (mark : Mark) :
    Nat → List (Value × Value) → Reader (List (Value × Value))
  | 0, found => return found.reverse
  | fuel + 1, found => do
    let (first, _) ← peek s
    if first == .mappingEnd then
      advance
      return found.reverse
    else
      let key ← read path
      if found.any (·.1.same key) then throw (.invalid (.duplicateKey key) path mark)
      let step := match first with
        | .scalar _ text _ => Step.key text
        | _ => .unnamed
      let v ← read (step :: path)
      entries s read path mark fuel ((key, v) :: found)

def wrap (tag : Option String) (v : Value) : Value :=
  match tag with
  | some t => .tagged t v
  | none => v

/-- The value whose first event is given; without a reader its parts are nested too deep. -/
def ofEvent (s : Source) (read : Option (Path → Reader Value)) (path : Path) (mark : Mark) :
    Event Nat → Reader Value
  | .scalar p text plain => wrap (ownTag p.tag) <$> place path mark (ofScalar p.tag text plain)
  | .sequenceStart p =>
    match read with
    | none => throw (.tooDeep mark)
    | some read => wrap (ownTag p.tag) <$> .sequence <$> items s read path s.events.size 0 []
  | .mappingStart p =>
    match read with
    | none => throw (.tooDeep mark)
    | some read => wrap (ownTag p.tag) <$> .mapping <$> entries s read path mark s.events.size []
  | _ => return .null

def ofNode (s : Source) (read : Option (Path → Reader Value)) (path : Path) : Reader Value := do
  let (event, mark) ← peek s
  advance
  match event with
  | .reference n =>
    let back := (← get).position
    modify fun p => { p with followed := p.followed + 1 }
    if s.events.size * 100 < (← get).followed then throw .tooManyReferences
    let target := (s.anchors.lookup n).getD 0
    match s.events[target]? with
    | none => return .null
    | some (event, mark) =>
      modify fun p => { p with position := target + 1 }
      let v ← ofEvent s read path mark event
      modify fun p => { p with position := back }
      return v
  | event => ofEvent s read path mark event

/-- The value that starts here; `depth` is how many collections may still be nested. -/
def ofSource (s : Source) : Nat → Path → Reader Value
  | 0 => ofNode s none
  | depth + 1 => ofNode s (some (ofSource s depth))

def maxDepth : Nat := 128

/-- The value of the only document of a text; of an empty text it is null. -/
def read (text : String) : Except ReadError Value := do
  let events := Events.ofTokens (.ofText text)
  let source := Source.ofEvents events
  let (v, _) ← (ofSource source maxDepth []).run {}
  match source.fault with
  | some fault => throw fault
  | none => if events.more then throw .severalDocuments else return v

end Value

end ComposeToPodman.Yaml
