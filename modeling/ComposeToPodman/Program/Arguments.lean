import ComposeToPodman.Options

/-! What the arguments of the program ask for. -/
namespace ComposeToPodman.Program

inductive Source
  | standardInput
  | file (path : String)
deriving DecidableEq, Repr

/-- A dash stands for standard input. -/
def Source.ofText (s : String) : Source := if s = "-" then .standardInput else .file s

structure ConvertRequest where
  source : Source := .standardInput
  format : Format := .podmanCompose
  options : Options := {}
  /-- Where each file is written; otherwise everything is printed. -/
  directory : Option String := none
  json : Bool := false
deriving DecidableEq, Repr

inductive Request
  | convert (request : ConvertRequest)
  | rules
  | validate (source : Source)
  | version
  | help
  /-- The arguments make no sense. -/
  | usage
deriving DecidableEq, Repr

inductive Command
  | convert
  | rules
  | validate
deriving DecidableEq, Repr

def Command.ofText? : String → Option Command
  | "translate" => some convert
  | "rules" => some rules
  | "validate" => some validate
  | _ => none

inductive Switch
  | debug
  | version
  | help
  | format
  | project
  | relabel
  | directory
  | json
deriving DecidableEq, Repr

namespace Switch

def long : Switch → String
  | debug => "debug"
  | version => "version"
  | help => "help"
  | format => "format"
  | project => "project"
  | relabel => "selinux"
  | directory => "output-dir"
  | json => "json"

def short? : Switch → Option Char
  | debug => some 'd'
  | version => some 'V'
  | help => some 'h'
  | format => some 'f'
  | project => some 'p'
  | directory => some 'o'
  | relabel | json => none

def takesValue : Switch → Bool
  | format | project | relabel | directory => true
  | debug | version | help | json => false

/-- The switches that are known before a command and after it. -/
def known : Option Command → List Switch
  | none => [debug, version, help]
  | some .convert => [debug, help, format, project, relabel, directory, json]
  | some _ => [debug, help]

end Switch

inductive Item
  | flag (switch : Switch)
  | value (switch : Switch) (text : String)
  | command (command : Command)
  | operand (text : String)
  | wrong
deriving DecidableEq, Repr

namespace Item

/-- An argument that starts with two dashes, and the switch that waits for the next argument. -/
def ofLong (known : List Switch) (body : List Char) : List Item × Option Switch :=
  let (name, attached) := match Text.cut? '=' body with
    | some (name, text) => (String.ofList name, some (String.ofList text))
    | none => (String.ofList body, none)
  match known.find? (·.long == name), attached with
  | none, _ => ([wrong], none)
  | some s, some v => (if s.takesValue then [value s v] else [wrong], none)
  | some s, none => if s.takesValue then ([], some s) else ([flag s], none)

/-- An argument of single letters behind one dash: flags, and at the end a switch with its value. -/
def ofShort (known : List Switch) : List Char → List Item × Option Switch
  | [] => ([], none)
  | c :: rest =>
    match known.find? (·.short? == some c) with
    | none => ([wrong], none)
    | some s =>
      if s.takesValue then
        match rest with
        | [] => ([], some s)
        | '=' :: v => ([value s (String.ofList v)], none)
        | v => ([value s (String.ofList v)], none)
      else
        let (items, waiting) := ofShort known rest
        (flag s :: items, waiting)

/-- Whether an argument is no value: it starts with a dash and is not the dash itself. -/
def isSwitchLike (argument : String) : Bool :=
  Text.startsWith argument '-' && argument != "-"

/-- The items of the arguments after a command, if there was one. Behind two dashes all arguments
are operands. A switch may be waiting for its value. -/
def ofArguments : Option Command → Bool → Option Switch → List String → List Item
  | _, _, none, [] => []
  | _, _, some _, [] => [wrong]
  | c, false, some s, a :: rest =>
    if isSwitchLike a then [wrong] else value s a :: ofArguments c false none rest
  | c, operands, _, a :: rest =>
    if operands || !isSwitchLike a then
      match c with
      | some c => operand a :: ofArguments (some c) operands none rest
      | none =>
        if operands then [wrong]
        else if a = "help" then [flag .help]
        else
          match Command.ofText? a with
          | some c => command c :: ofArguments (some c) false none rest
          | none => [wrong]
    else if a = "--" then ofArguments c true none rest
    else
      let (items, waiting) := match a.toList.tail with
        | '-' :: body => ofLong (Switch.known c) body
        | body => ofShort (Switch.known c) body
      items ++ ofArguments c false waiting rest

end Item

structure Draft where
  command : Option Command := none
  /-- The switches given before the command or after it, none of which may be repeated. -/
  seen : List Switch := []
  source : Option Source := none
  request : ConvertRequest := {}

namespace Draft

def once (d : Draft) (s : Switch) : Except Request Draft :=
  if d.seen.contains s then .error .usage else .ok { d with seen := s :: d.seen }

def setValue (d : Draft) (s : Switch) (text : String) : Except Request Draft :=
  let r := d.request
  match s with
  | .format =>
    match Format.ofText? text with
    | some format => .ok { d with request := { r with format } }
    | none => .error .usage
  | .relabel =>
    match Relabel.ofText? text with
    | some relabel => .ok { d with request := { r with options := { r.options with relabel } } }
    | none => .error .usage
  | .directory =>
    if text.isEmpty then .error .usage
    else .ok { d with request := { r with directory := some text } }
  | _ => .ok { d with request := { r with options := { r.options with projectName := some text } } }

/-- The first item that asks for help or the version, or that is wrong, settles the request. -/
def add (d : Draft) : Item → Except Request Draft
  | .wrong => .error .usage
  | .flag .help => .error .help
  | .flag .version => .error .version
  | .flag s => do
    let d ← d.once s
    return if s = .json then { d with request := { d.request with json := true } } else d
  | .value s text => do (← d.once s).setValue s text
  | .command c => .ok { d with command := some c, seen := [] }
  | .operand text =>
    if text.isEmpty || d.source.isSome || d.command = some .rules then .error .usage
    else .ok { d with source := some (.ofText text) }

def finish (d : Draft) : Request :=
  let source := d.source.getD .standardInput
  match d.command with
  | some .convert => .convert { d.request with source }
  | some .validate => .validate source
  | some .rules => .rules
  | none => .usage

end Draft

def Request.ofArguments (arguments : List String) : Request :=
  match (Item.ofArguments none false none arguments).foldlM Draft.add {} with
  | .ok d => d.finish
  | .error settled => settled

end ComposeToPodman.Program
