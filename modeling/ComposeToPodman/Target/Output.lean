import ComposeToPodman.Diagnostics
import ComposeToPodman.Failure
import ComposeToPodman.Options

/-! What a conversion writes, and the building blocks of the values in it: mappings whose fields may
be left out. -/
namespace ComposeToPodman.Target

open Yaml (Value)

structure OutputFile where
  name : String
  contents : String
deriving DecidableEq, Repr

structure Output where
  /-- Everything in one text. -/
  text : String
  /-- The files of a deployment. -/
  files : List OutputFile
  diagnostics : Diagnostics Notice := {}

def Output.single (name contents : String) (diagnostics : Diagnostics Notice) : Output :=
  ⟨contents, [⟨name, contents⟩], diagnostics⟩

/-- A field of a mapping, or none. -/
abbrev Field := Option (String × Value)

def field (name : String) (v : Value) : Field := some (name, v)

def textField (name : String) (s : String) : Field := some (name, .string s)

def optionalField (name : String) (v : Option Value) : Field := v.map (name, ·)

/-- Left out when false. -/
def flagField (name : String) (b : Bool) : Field := if b then some (name, .bool true) else none

/-- Left out when empty. -/
def listField (name : String) (items : List Value) : Field :=
  if items.isEmpty then none else some (name, .sequence items)

/-- Left out when empty. -/
def dictField (name : String) (f : α → Value) (d : Dict α) : Field :=
  if d.isEmpty then none
  else some (name, .mapping (d.entries.map fun (key, a) => (.string key, f a)))

def texts (items : List String) : List Value := items.map .string

def natural (n : Nat) : Value := .number (.int n)

def mapping (fields : List Field) : Value :=
  .mapping (fields.filterMap (·.map fun (name, v) => (.string name, v)))

end ComposeToPodman.Target
