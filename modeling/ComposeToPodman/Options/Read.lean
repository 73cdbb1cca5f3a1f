import ComposeToPodman.Json.Read
import ComposeToPodman.Options

/-! Options from JSON: an object, or an array of the fields in their order. What is not given keeps
its usual value, and unknown fields are passed over. -/
namespace ComposeToPodman

open Json Json.Reader

namespace Relabel

def variant : Reader Relabel := do
  let name ← expectText "variant identifier"
  match ofText? name with
  | some r => return r
  | none => fail (.unknownVariant name "\x60shared\x60 or \x60private\x60")

/-- A name, or an object with the name as its only key and null as its value. -/
def read : Reader Relabel := do
  match ← next with
  | some '"' => variant
  | some '\x7b' => do
    skip
    let r ← variant
    colon
    null
    match ← next with
    | some '\x7d' => do
      skip
      return r
    | some _ => fail .expectedValue
    | none => fail .endOfObject
  | some _ => reject .expectedValue
  | none => fail .endOfValue

end Relabel

namespace Options

def ofArray : Reader Options := do
  let hasName ← hasElement true
  let projectName ← if hasName then optionalText else pure none
  let hasRelabel ← if hasName then hasElement false else pure false
  let relabel ← if hasRelabel then Relabel.read else pure .shared
  match ← next with
  | some ']' => skip
  | some ',' => do
    skip
    let c ← next
    reject (if c = some ']' then .trailingComma else .trailingCharacters)
  | some _ => reject .trailingCharacters
  | none => fail .endOfArray
  return { projectName, relabel }

/-- The fields that an object has given so far. -/
structure Given where
  projectName : Option (Option String) := none
  relabel : Option Relabel := none

/-- A field may be given once. -/
def again (name : String) : Reader α := do
  if (← next) = some '\x7d' then skip
  fail (.duplicateField name)

def membersFrom : Nat → Bool → Given → Reader Given
  | 0, _, _ => fail .endOfObject
  | fuel + 1, first, given => do
    match ← key? first with
    | none => return given
    | some "project_name" => do
      if given.projectName.isSome then again "project_name"
      colon
      let name ← optionalText
      membersFrom fuel false { given with projectName := some name }
    | some "selinux_label" => do
      if given.relabel.isSome then again "selinux_label"
      colon
      let relabel ← Relabel.read
      membersFrom fuel false { given with relabel := some relabel }
    | some _ => do
      colon
      skipValue
      membersFrom fuel false given

def ofObject : Reader Options := do
  let given ← membersFrom ((← get).rest.length + 1) true {}
  skip
  return { projectName := given.projectName.join, relabel := given.relabel.getD .shared }

def read : Reader Options := do
  match ← next with
  | some '[' => do
    skip
    ofArray
  | some '\x7b' => do
    skip
    ofObject
  | _ => mismatch "struct TranslateOptions"

def ofJson (s : String) : Except ReadError Options := read.ofText s

end Options

end ComposeToPodman
