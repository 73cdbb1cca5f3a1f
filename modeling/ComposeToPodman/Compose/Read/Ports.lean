import ComposeToPodman.Compose.Form.Basic
import ComposeToPodman.Compose.Reading

/-! Published ports, from their short form `[ip:][host:]container[/protocol]` and their long one. -/
namespace ComposeToPodman.Compose

structure ShortPort where
  ip : Option (List Char) := none
  host : Option (List Char) := none
  container : List Char
  protocol : Option (List Char) := none
deriving DecidableEq, Repr

namespace ShortPort

def isNumeral (s : List Char) : Bool := !s.isEmpty && s.all Text.isDecimal

/-- Four groups of one to three digits. -/
def isDotted (s : List Char) : Bool :=
  let groups := s.splitOn '.'
  groups.length == 4 && groups.all fun g => isNumeral g && g.length ≤ 3

def isBracketed (s : List Char) : Bool :=
  !s.isEmpty && s.all fun c => c == ':' || c == '.' || (Text.digitValue 16 c).isSome

/-- `[host:]container`. -/
def ports? (s : List Char) : Option ShortPort :=
  match s.splitOn ':' with
  | [container] => if isNumeral container then some { container } else none
  | [host, container] =>
    if isNumeral host && isNumeral container then some { host := some host, container } else none
  | _ => none

/-- `[ip:][host:]container`. -/
def binding? (s : List Char) : Option ShortPort :=
  match s with
  | '[' :: rest =>
    match Text.cut? ']' rest with
    | some (ip, ':' :: rest) =>
      if isBracketed ip then (ports? rest).map fun p => { p with ip := some ip } else none
    | _ => none
  | _ =>
    match Text.cut? ':' s with
    | some (ip, rest) =>
      if isDotted ip then (ports? rest).map fun p => { p with ip := some ip } else ports? s
    | none => ports? s

def isLetter (c : Char) : Bool := c.isAlpha

def parse? (s : List Char) : Option ShortPort :=
  match Text.cut? '/' s with
  | none => binding? s
  | some (rest, protocol) =>
    if !protocol.isEmpty && protocol.all isLetter then
      (binding? rest).map fun p => { p with protocol := some protocol }
    else none

end ShortPort

/-- A port has a number from 1 to 65535. -/
def portNumber? (digits : List Char) : Option Nat :=
  (Text.boundedNatural? 65535 digits).filter (0 < ·)

def protocolOr (protocol : Option String) : Except String Protocol :=
  match protocol with
  | none => .ok .tcp
  | some p => Protocol.ofText p

def readShortPort (service : String) (spec : String) : Reading (Option PortMapping) :=
  match ShortPort.parse? (Text.trimChars spec.toList) with
  | none => .skip service (.malformedPort spec)
  | some p =>
    match protocolOr (p.protocol.map String.ofList) with
    | .error name => .skip service (.portProtocol spec name)
    | .ok protocol =>
      match portNumber? p.container, p.host.map portNumber? with
      | none, _ => .skip service (.portOutOfRange spec)
      | some _, some none => .skip service (.portOutOfRange spec)
      | some containerPort, some (some hostPort) =>
        return some { hostIp := p.ip.map String.ofList, hostPort, containerPort, protocol }
      | some containerPort, none => do
        .warn service (.sameHostPort containerPort)
        return some
          { hostIp := p.ip.map String.ofList, hostPort := containerPort, containerPort, protocol }

/-- An address without the brackets it may be written in. -/
def withoutBrackets (ip : String) : String :=
  String.ofList
    (((ip.toList.dropWhile (· == '[')).reverse.dropWhile (· == ']')).reverse)

/-- The host port of a long form; without one it is the container's. -/
def readHostPort (service : String) (p : Form.LongPort) : Reading (Option Nat) :=
  match p.published with
  | none => do
    .warn service (.sameHostPort p.target)
    return some p.target
  | some published =>
    match portNumber? published.asText.toList with
    | some n => return some n
    | none => .skip service (.portOutOfRange ("target " ++ toString p.target))

def readLongPort (service : String) (p : Form.LongPort) : Reading (Option PortMapping) :=
  if p.target = 0 ∨ 65535 < p.target then
    .skip service (.portOutOfRange ("target " ++ toString p.target))
  else do
    match ← readHostPort service p with
    | none => return none
    | some hostPort =>
      match protocolOr p.protocol with
      | .error name => .skip service (.targetProtocol p.target name)
      | .ok protocol =>
        match p.mode.filter (· != "host") with
        | some mode => .warn service (.swarmPortMode mode)
        | none => pure ()
        return some
          { hostIp := p.hostIp.map withoutBrackets, hostPort, containerPort := p.target, protocol }

def readPort (service : String) : Form.Port → Reading (Option PortMapping)
  | .short spec => readShortPort service spec.asText
  | .long p => readLongPort service p

end ComposeToPodman.Compose
