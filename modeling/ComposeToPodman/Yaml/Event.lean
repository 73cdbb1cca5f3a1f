import ComposeToPodman.Yaml.Token.Scan

/-! The events of a YAML document: its nodes in text order, each collection between its start and
its end. -/
namespace ComposeToPodman.Yaml

structure Properties where
  anchor : Option String := none
  tag : Option Octets := none
deriving DecidableEq, Repr, Inhabited

/-- References are by name in the text, and by number once the names are looked up. -/
inductive Event (ref : Type)
  | reference (anchor : ref)
  | scalar (properties : Properties) (text : String) (plain : Bool)
  | sequenceStart (properties : Properties)
  | sequenceEnd
  | mappingStart (properties : Properties)
  | mappingEnd
deriving DecidableEq, Repr, Inhabited

/-- The grammar of documents reads tokens and writes events; what was written stays where the rest
cannot be read. -/
structure Grammar where
  tokens : List (Token × Mark)
  /-- What stands after the last token: the fault that stopped the scanner. -/
  fault : Option SyntaxError
  handles : List (String × Octets) := []
  /-- The last event first. -/
  events : List (Event String × Mark) := []

abbrev Grammar.Reader := ExceptT SyntaxError (StateM Grammar)

namespace Grammar

/-- The next token. Past the end of the text there are only further ends. -/
def peek : Reader (Token × Mark) := do
  let g ← get
  match g.tokens, g.fault with
  | t :: _, _ => return t
  | [], some e => throw e
  | [], none => return (.streamEnd, {})

def advance : Reader Unit := modify fun g => { g with tokens := g.tokens.drop 1 }

def emit (e : Event String) (m : Mark) : Reader Unit :=
  modify fun g => { g with events := (e, m) :: g.events }

def fail (cause : Cause) (m : Mark) (during : Option (Activity × Mark) := none) : Reader α :=
  throw ⟨cause, m, during⟩

def emitEmpty (m : Mark) : Reader Unit := emit (.scalar {} "" true) m

def resolveTag (start here : Mark) (handle : String) (suffix : Octets) :
    Reader Octets := do
  if handle.isEmpty then return suffix
  else
    match (← get).handles.lookup handle with
    | some meaning => return meaning ++ suffix
    | none => fail .tagHandleUnknown here (Activity.node, start)

def properties (start : Mark) : Reader Properties := do
  match ← peek with
  | (.anchor name, _) =>
    advance
    match ← peek with
    | (.tag handle suffix, m) =>
      advance
      return ⟨name, some (← resolveTag start m handle suffix)⟩
    | _ => return ⟨name, none⟩
  | (.tag handle suffix, m) =>
    advance
    match ← peek with
    | (.anchor name, _) =>
      advance
      return ⟨name, some (← resolveTag start m handle suffix)⟩
    | _ => return ⟨none, some (← resolveTag start m handle suffix)⟩
  | _ => return {}

mutual

/-- A node. Outside of flow collections it may be a block collection, and behind a key also a
sequence that is not indented. -/
def node (fuel : Nat) (block unindented : Bool) : Reader Unit := do
  match fuel with
  | 0 => return
  | fuel + 1 =>
    let (first, start) ← peek
    if let .reference name := first then
      advance
      emit (.reference name) start
    else
      let p ← properties start
      let (token, m) ← peek
      match token with
      | .scalar text style =>
        advance
        emit (.scalar p text (style == .plain)) start
      | .flowSequenceStart =>
        advance
        emit (.sequenceStart p) start
        flowSequence fuel m true
      | .flowMappingStart =>
        advance
        emit (.mappingStart p) start
        flowMapping fuel m true
      | _ =>
        if unindented && token == .blockEntry then
          emit (.sequenceStart p) start
          unindentedSequence fuel
        else if block && token == .blockSequenceStart then
          advance
          emit (.sequenceStart p) start
          blockSequence fuel m
        else if block && token == .blockMappingStart then
          advance
          emit (.mappingStart p) start
          blockMapping fuel m
        else if p.anchor.isSome || p.tag.isSome then emit (.scalar p "" true) start
        else fail .nodeMissing m (if block then Activity.blockNode else .flowNode, start)

def blockSequence (fuel : Nat) (start : Mark) : Reader Unit := do
  match fuel with
  | 0 => return
  | fuel + 1 =>
    match ← peek with
    | (.blockEntry, m) =>
      advance
      match (← peek).1 with
      | .blockEntry | .blockEnd => emitEmpty m
      | _ => node fuel true false
      blockSequence fuel start
    | (.blockEnd, m) =>
      advance
      emit .sequenceEnd m
    | (_, m) => fail .dashMissing m (Activity.blockCollection, start)

/-- The entries of a block sequence that stands at the column of its key. -/
def unindentedSequence (fuel : Nat) : Reader Unit := do
  match fuel with
  | 0 => return
  | fuel + 1 =>
    match ← peek with
    | (.blockEntry, m) =>
      advance
      match (← peek).1 with
      | .blockEntry | .key | .value | .blockEnd => emitEmpty m
      | _ => node fuel true false
      unindentedSequence fuel
    | (_, m) => emit .sequenceEnd m

def blockMapping (fuel : Nat) (start : Mark) : Reader Unit := do
  match fuel with
  | 0 => return
  | fuel + 1 =>
    match ← peek with
    | (.key, m) =>
      advance
      match (← peek).1 with
      | .key | .value | .blockEnd => emitEmpty m
      | _ => node fuel true true
      match ← peek with
      | (.value, m) =>
        advance
        match (← peek).1 with
        | .key | .value | .blockEnd => emitEmpty m
        | _ => node fuel true true
      | (_, m) => emitEmpty m
      blockMapping fuel start
    | (.blockEnd, m) =>
      advance
      emit .mappingEnd m
    | (_, m) => fail .keyMissing m (Activity.blockMapping, start)

/-- The entries of a flow sequence that began at `start`. An entry with a colon is a mapping of one
pair. -/
def flowSequence (fuel : Nat) (start : Mark) (first : Bool) : Reader Unit := do
  match fuel with
  | 0 => return
  | fuel + 1 =>
    let (token, m) ← peek
    if token != .flowSequenceEnd && !first then
      if token == .flowEntry then advance
      else fail .sequenceCommaMissing m (Activity.flowSequence, start)
    let (token, m) ← peek
    match token with
    | .flowSequenceEnd =>
      advance
      emit .sequenceEnd m
    | .key =>
      advance
      emit (.mappingStart {}) m
      flowPair fuel
      flowSequence fuel start false
    | _ =>
      node fuel false false
      flowSequence fuel start false

/-- The pair of a mapping without braces. What stands directly after a lone question mark is passed
over, whatever it is. -/
def flowPair (fuel : Nat) : Reader Unit := do
  match fuel with
  | 0 => return
  | fuel + 1 =>
    match ← peek with
    | (.value, m) | (.flowEntry, m) | (.flowSequenceEnd, m) =>
      advance
      emitEmpty m
    | _ => node fuel false false
    match ← peek with
    | (.value, _) =>
      advance
      match ← peek with
      | (.flowEntry, m) | (.flowSequenceEnd, m) => emitEmpty m
      | _ => node fuel false false
    | (_, m) => emitEmpty m
    emit .mappingEnd (← peek).2

def flowMapping (fuel : Nat) (start : Mark) (first : Bool) : Reader Unit := do
  match fuel with
  | 0 => return
  | fuel + 1 =>
    let (token, m) ← peek
    if token != .flowMappingEnd && !first then
      if token == .flowEntry then advance
      else fail .mappingCommaMissing m (Activity.flowMapping, start)
    let (token, m) ← peek
    match token with
    | .flowMappingEnd =>
      advance
      emit .mappingEnd m
    | .key =>
      advance
      match ← peek with
      | (.value, m) | (.flowEntry, m) | (.flowMappingEnd, m) => emitEmpty m
      | _ => node fuel false false
      match ← peek with
      | (.value, _) =>
        advance
        match ← peek with
        | (.flowEntry, m) | (.flowMappingEnd, m) => emitEmpty m
        | _ => node fuel false false
      | (_, m) => emitEmpty m
      flowMapping fuel start false
    | _ =>
      node fuel false false
      emitEmpty (← peek).2
      flowMapping fuel start false

end

def directives : Nat → Bool → Reader Unit
  | 0, _ => return
  | fuel + 1, versioned => do
    match ← peek with
    | (.version major minor, m) =>
      if versioned then fail .versionTwice m
      if major != 1 || !(minor == 1 || minor == 2) then fail .versionUnsupported m
      advance
      directives fuel true
    | (.tagHandle handle meaning, m) =>
      if ((← get).handles.lookup handle).isSome then fail .tagDirectiveTwice m
      modify fun g => { g with handles := g.handles ++ [(handle, meaning)] }
      advance
      directives fuel versioned
    | _ => return

def standardHandles : List (String × Octets) :=
  [("!", .ofText "!"), ("!!", .ofText "tag:yaml.org,2002:")]

def isDirective : Token → Bool
  | .version .. | .tagHandle .. => true
  | _ => false

def firstDocument (fuel : Nat) : Reader Unit := do
  let (token, _) ← peek
  if token == .streamEnd then return
  if isDirective token || token == .documentStart then
    directives fuel false
    modify fun g => { g with handles := g.handles ++ standardHandles }
    let (token, m) ← peek
    if token != .documentStart then fail .documentStartMissing m
    advance
    let (token, m) ← peek
    match token with
    | .documentStart | .documentEnd | .streamEnd => emitEmpty m
    | _ => if isDirective token then emitEmpty m else node fuel true false
  else
    modify fun g => { g with handles := standardHandles }
    node fuel true false
  if (← peek).1 == .documentEnd then advance

/-- Whether anything but document ends follows. What cannot be read counts as something. -/
def hasMore (g : Grammar) : Bool :=
  match g.tokens.dropWhile (·.1 == .documentEnd) with
  | (.streamEnd, _) :: _ => false
  | [] => g.fault.isSome
  | _ => true

end Grammar

/-- The events of the first document of a text, what stops them early, and whether more documents
follow. -/
structure Events where
  list : List (Event String × Mark)
  fault : Option SyntaxError
  more : Bool

def Events.ofTokens (t : Tokens) : Events :=
  let (result, g) := (Grammar.firstDocument (4 * t.list.length + 8)).run ⟨t.list, t.fault, [], []⟩
  ⟨g.events.reverse, match result with | .error e => some e | .ok _ => none, g.hasMore⟩

end ComposeToPodman.Yaml
