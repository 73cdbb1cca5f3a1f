import ComposeToPodman.Proofs.Compose.Entries
import ComposeToPodman.Target.Output

/-! Fields of the values that are written, found by their names. -/
namespace ComposeToPodman.Target

open Compose
open Yaml (Value)

/-- What a mapping has under a name; other values have nothing. -/
def ComposeFile.fieldUnder? (name : String) : Value → Option Value
  | .mapping entries => under? name entries
  | _ => none

open ComposeFile (fieldUnder?)

/-- What a field holds if it has the name. -/
def fieldNamed? (name : String) (f : Field) : Option Value :=
  f.bind fun e => if e.1 = name then some e.2 else none

section Fields

variable (name other : String)

@[simp] theorem fieldUnder?_cons (f : Field) (fs : List Field) :
    fieldUnder? name (mapping (f :: fs)) =
      (fieldNamed? name f).or (fieldUnder? name (mapping fs)) := by
  cases f with
  | none => rfl
  | some e =>
    by_cases here : e.1 = name
    · simp [fieldNamed?,fieldUnder?,mapping,under?,here]
    · have apart : (Value.string name == .string e.1) = false := by simpa using Ne.symm here
      simp [fieldNamed?,fieldUnder?,mapping,under?,here,List.lookup_cons,apart]

@[simp] theorem fieldUnder?_nil : fieldUnder? name (mapping []) = none := rfl

@[simp] theorem fieldNamed?_field (v : Value) :
    fieldNamed? name (field other v) = if other = name then some v else none := by
  simp [fieldNamed?,field]

@[simp] theorem fieldNamed?_textField (s : String) :
    fieldNamed? name (textField other s) = if other = name then some (.string s) else none := by
  simp [fieldNamed?,textField]

@[simp] theorem fieldNamed?_optionalField (v : Option Value) :
    fieldNamed? name (optionalField other v) = if other = name then v else none := by
  cases v <;> simp [fieldNamed?,optionalField]

@[simp] theorem fieldNamed?_flagField (b : Bool) : fieldNamed? name (flagField other b) =
    if other = name then (if b then some (.bool true) else none) else none := by
  cases b <;> simp [fieldNamed?,flagField]

@[simp] theorem fieldNamed?_listField (items : List Value) :
    fieldNamed? name (listField other items) =
      if other = name then (if items.isEmpty then none else some (.sequence items)) else none := by
  unfold listField
  split <;> simp [fieldNamed?]

@[simp] theorem fieldNamed?_none : fieldNamed? name none = none := rfl

@[simp] theorem fieldNamed?_ite (p : Prop) [Decidable p] (f : Field) :
    fieldNamed? name (if p then f else none) = if p then fieldNamed? name f else none := by
  split <;> rfl

end Fields

/-- The items of a list under a name; a list without items may be left out. -/
def itemsUnder (name : String) (v : Value) : List Value :=
  match fieldUnder? name v with
  | some (.sequence items) => items
  | _ => []

theorem itemsUnder_of_eq {name : String} {v : Value} {items : List Value}
    (given : fieldUnder? name v = if items.isEmpty then none else some (.sequence items)) :
    itemsUnder name v = items := by
  cases items with
  | nil => simp [itemsUnder,given]
  | cons item rest => simp [itemsUnder,given]

end ComposeToPodman.Target
