import ComposeToPodman.Text.Quoted
import ComposeToPodman.Yaml.Number

/-! Values of YAML. -/
namespace ComposeToPodman.Yaml

/-- A tag is kept without its exclamation mark, unless that is all there is. -/
inductive Value
  | null
  | bool (value : Bool)
  | number (value : Number)
  | string (value : String)
  | sequence (items : List Value)
  | mapping (entries : List (Value × Value))
  | tagged (tag : String) (value : Value)
deriving Repr, Inhabited

namespace Value

def untagged : Value → Value
  | .tagged _ v => v.untagged
  | v => v

def text? (v : Value) : Option String :=
  match v.untagged with
  | .string s => some s
  | _ => none

mutual

def equal : Value → Value → Bool
  | .null, .null => true
  | .bool a, .bool b => a == b
  | .number a, .number b => a == b
  | .string a, .string b => a == b
  | .sequence a, .sequence b => equalItems a b
  | .mapping a, .mapping b => equalEntries a b
  | .tagged s a, .tagged t b => s == t && equal a b
  | _, _ => false

def equalItems : List Value → List Value → Bool
  | [], [] => true
  | a :: as, b :: bs => equal a b && equalItems as bs
  | _, _ => false

def equalEntries : List (Value × Value) → List (Value × Value) → Bool
  | [], [] => true
  | (k, v) :: as, (k', v') :: bs => equal k k' && equal v v' && equalEntries as bs
  | _, _ => false

end

mutual

theorem equal_iff : (a b : Value) → (equal a b = true ↔ a = b)
  | .sequence a, b => by cases b <;> simp [equal, equalItems_iff a]
  | .mapping a, b => by cases b <;> simp [equal, equalEntries_iff a]
  | .tagged _ a, b => by cases b <;> simp [equal, equal_iff a]
  | .null, b | .bool _, b | .number _, b | .string _, b => by cases b <;> simp [equal]

theorem equalItems_iff : (a b : List Value) → (equalItems a b = true ↔ a = b)
  | [], b => by cases b <;> simp [equalItems]
  | v :: as, b => by cases b <;> simp [equalItems, equal_iff v, equalItems_iff as]

theorem equalEntries_iff : (a b : List (Value × Value)) → (equalEntries a b = true ↔ a = b)
  | [], b => by cases b <;> simp [equalEntries]
  | (k, v) :: as, b => by
    cases b <;> simp [equalEntries, equal_iff k, equal_iff v, equalEntries_iff as, Prod.ext_iff]

end

instance : DecidableEq Value := fun a b => decidable_of_iff _ (equal_iff a b)

mutual

/-- Equality of keys: the order of a mapping does not count. -/
def same : Value → Value → Bool
  | .null, .null => true
  | .bool a, .bool b => a == b
  | .number a, .number b => a.same b
  | .string a, .string b => a == b
  | .sequence a, .sequence b => sameItems a b
  | .mapping a, .mapping b => a.length == b.length && within a b
  | .tagged s a, .tagged t b => s == t && same a b
  | _, _ => false

def sameItems : List Value → List Value → Bool
  | [], [] => true
  | a :: as, b :: bs => same a b && sameItems as bs
  | _, _ => false

def within : List (Value × Value) → List (Value × Value) → Bool
  | [], _ => true
  | (k, v) :: rest, b => (b.any fun (k', v') => same k k' && same v v') && within rest b

end

mutual

/-- The value as messages show it, with its kind. -/
def shown : Value → String
  | .null => "Null"
  | .bool b => "Bool(" ++ toString b ++ ")"
  | .number n => "Number(" ++ n.text ++ ")"
  | .string s => "String(" ++ Text.quoted s ++ ")"
  | .sequence items => "Sequence [" ++ ", ".intercalate (shownItems items) ++ "]"
  | .mapping entries => "Mapping \x7b" ++ ", ".intercalate (shownEntries entries) ++ "\x7d"
  | .tagged tag v => "TaggedValue \x7b tag: !" ++ tag ++ ", value: " ++ shown v ++ " \x7d"

def shownItems : List Value → List String
  | [] => []
  | v :: rest => shown v :: shownItems rest

/-- Scalar keys are shown without their kind. -/
def shownEntries : List (Value × Value) → List String
  | [] => []
  | (k, v) :: rest =>
    let key := match k with
      | .bool b => toString b
      | .number n => n.text
      | .string s => Text.quoted s
      | other => shown other
    (key ++ ": " ++ shown v) :: shownEntries rest

end

end Value

end ComposeToPodman.Yaml
