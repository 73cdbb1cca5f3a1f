import ComposeToPodman.Compose.Read.Document
import ComposeToPodman.Rule
import ComposeToPodman.Target.ComposeFile
import ComposeToPodman.Target.Kube
import ComposeToPodman.Target.Quadlet

/-! Conversions: read a compose file, apply the rules, write the format. -/
namespace ComposeToPodman

open Compose Target

/-- The format that a selector names; without one it is a compose file. -/
def Format.select (selector : Option String) : Except ConversionError Format :=
  match selector with
  | none => .ok .podmanCompose
  | some s =>
    match Format.ofText? s with
    | some f => .ok f
    | none => .error (.unsupportedFormat s)

def Format.output (f : Format) (d : Document) (o : Options) : Output :=
  match f with
  | podmanCompose => ComposeFile.output d
  | quadlet => Quadlet.output d o
  | kube => Kube.output d o

/-- The outcome of a conversion. With errors beside an output it is partial; without an output it
failed. -/
structure Conversion where
  output : Option String := none
  warnings : List String := []
  errors : List String := []
  files : List OutputFile := []
deriving DecidableEq, Repr

namespace Conversion

def isPartial (t : Conversion) : Bool := t.output.isSome && !t.errors.isEmpty

def ofFailure (f : Failure) : Conversion :=
  { warnings := f.warnings.map Notice.message, errors := f.error.messages }

end Conversion

/-- Convert to a format. Warnings come in the order of reading, rules, writing. -/
def convertTo (o : Options) (f : Format) (input : String) : Except Failure Conversion := do
  let (document, noticed) ← Document.read input
  match Rule.run ⟨f, o⟩ Rule.all document with
  | .error failure => throw ⟨failure.error, noticed ++ failure.warnings⟩
  | .ok revision =>
    let output := f.output revision.document o
    let diagnostics := Diagnostics.ofWarnings (noticed ++ revision.notices) ++ output.diagnostics
    return { output := some output.text
             warnings := diagnostics.warnings.map Notice.message
             errors := diagnostics.errors.map Notice.message
             files := output.files }

/-- Convert to the format that a selector names. It is looked at before the input is. -/
def convert (o : Options) (selector : Option String) (input : String) :
    Except Failure Conversion :=
  match Format.select selector with
  | .ok f => convertTo o f input
  | .error e => .error ⟨e, []⟩

structure Validation where
  valid : Bool := false
  services : Nat := 0
  networks : Nat := 0
  volumes : Nat := 0
  error : Option String := none
deriving DecidableEq, Repr

def validate (input : String) : Validation :=
  match Document.read input with
  | .ok (d, _) =>
    { valid := true, services := d.services.length, networks := d.networks.size,
      volumes := d.volumes.size }
  | .error f => { error := some f.error.message }

end ComposeToPodman
