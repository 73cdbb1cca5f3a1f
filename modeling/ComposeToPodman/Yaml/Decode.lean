import ComposeToPodman.Dict
import ComposeToPodman.Yaml.Value

/-! Typed data from values: texts, numbers, lists, maps, records, and choices between shapes. -/
namespace ComposeToPodman.Yaml

inductive DecodeError
  | wrongType (found : Value) (expected : String)
  | outOfRange (value : Int) (expected : String)
  | wrongLength (expected : String)
  | missingField (name : String)
  | duplicateField (name : String)
  | noShape (choice : String)
  | taggedShape
deriving DecidableEq

namespace DecodeError

def found : Value → String
  | .null => "unit value"
  | .bool b => "boolean \x60" ++ toString b ++ "\x60"
  | .number (.int i) => "integer \x60" ++ toString i ++ "\x60"
  | .number (.float x) => "floating point \x60" ++ x.messageText ++ "\x60"
  | .string s => "string " ++ Text.quoted s
  | .sequence _ => "sequence"
  | .mapping _ => "map"
  | .tagged .. => "enum"

def message : DecodeError → String
  | wrongType v expected => "invalid type: " ++ found v ++ ", expected " ++ expected
  | outOfRange i expected =>
    "invalid value: integer \x60" ++ toString i ++ "\x60, expected " ++ expected
  | wrongLength expected => "invalid length, expected " ++ expected
  | missingField name => "missing field \x60" ++ name ++ "\x60"
  | duplicateField name => "duplicate field \x60" ++ name ++ "\x60"
  | noShape choice => "data did not match any variant of untagged enum " ++ choice
  | taggedShape => "untagged and internally tagged enums do not support enum input"

end DecodeError

/-- A value is read on its own, or as one of several shapes. On its own, null is an empty collection
and tags are passed over. As a shape, a record may also be a sequence of its fields, or name them by
their number. -/
inductive Mode
  | alone
  | shape
deriving DecidableEq, Repr

namespace Decode

abbrev Result := Except DecodeError

def string (v : Value) : Result String :=
  match v.untagged with
  | .string s => .ok s
  | other => .error (.wrongType other "a string")

def bool (v : Value) : Result Bool :=
  match v.untagged with
  | .bool b => .ok b
  | other => .error (.wrongType other "a boolean")

def word16 (v : Value) : Result Nat :=
  match v.untagged with
  | .number (.int i) =>
    if 0 ≤ i ∧ i < 0x10000 then .ok i.toNat else .error (.outOfRange i "u16")
  | other => .error (.wrongType other "u16")

def optional (read : Value → Result α) : Value → Result (Option α)
  | .null => .ok none
  | v => some <$> read v

def list (m : Mode) (read : Value → Result α) (v : Value) : Result (List α) :=
  match v.untagged, m with
  | .sequence items, _ => items.mapM read
  | .null, .alone => .ok []
  | other, _ => .error (.wrongType other "a sequence")

def entries (read : Value → Result α) : List (Value × Value) → Result (List (String × α))
  | [] => .ok []
  | (k, v) :: rest => do
    let k ← string k
    let a ← read v
    return (k, a) :: (← entries read rest)

def dict (m : Mode) (read : Value → Result α) (v : Value) : Result (Dict α) :=
  match v.untagged, m with
  | .mapping es, _ => Dict.ofList <$> entries read es
  | .null, .alone => .ok {}
  | other, _ => .error (.wrongType other "a map")

structure RecordField (σ : Type) where
  name : String
  /-- The record is nothing without it. -/
  required : Bool := false
  /-- A sequence may end before it. -/
  omissible : Bool := false
  read : Value → σ → Result σ

/-- The field that a key names; other fields are passed over. -/
def fieldOf (m : Mode) (fields : List (RecordField σ)) (key : Value) :
    Result (Option (RecordField σ)) :=
  match m, key.untagged with
  | _, .string s => .ok (fields.find? (·.name == s))
  | .shape, .number (.int (.ofNat n)) => .ok fields[n]?
  | _, other => .error (.wrongType other "field identifier")

/-- The entries of a record in their order; a field may be given once. -/
def fieldsOf (m : Mode) (fields : List (RecordField σ)) :
    List (Value × Value) → List String → σ → Result (List String × σ)
  | [], seen, s => .ok (seen, s)
  | (k, v) :: rest, seen, s => do
    match ← fieldOf m fields k with
    | none => fieldsOf m fields rest seen s
    | some f =>
      if seen.contains f.name then throw (.duplicateField f.name)
      fieldsOf m fields rest (f.name :: seen) (← f.read v s)

def itemsOf (record : String) : List (RecordField σ) → List Value → σ → Result σ
  | [], [], s => .ok s
  | [], _ :: _, _ => .error (.wrongLength record)
  | f :: fields, v :: items, s => do itemsOf record fields items (← f.read v s)
  | f :: fields, [], s =>
    if f.omissible then itemsOf record fields [] s else .error (.wrongLength record)

def record (m : Mode) (name : String) (fields : List (RecordField σ)) (start : σ) (v : Value) :
    Result σ :=
  let ofEntries (es : List (Value × Value)) : Result σ := do
    let (seen, s) ← fieldsOf m fields es [] start
    match fields.find? fun f => f.required && !seen.contains f.name with
    | some f => throw (.missingField f.name)
    | none => return s
  match v.untagged, m with
  | .mapping es, _ => ofEntries es
  | .null, .alone => ofEntries []
  | .sequence items, .shape => itemsOf ("struct " ++ name) fields items start
  | other, _ => .error (.wrongType other ("struct " ++ name))

mutual

def hasTag : Value → Bool
  | .sequence items => itemsHaveTag items
  | .mapping es => entriesHaveTag es
  | .tagged .. => true
  | _ => false

def itemsHaveTag : List Value → Bool
  | [] => false
  | v :: rest => hasTag v || itemsHaveTag rest

def entriesHaveTag : List (Value × Value) → Bool
  | [] => false
  | (k, v) :: rest => hasTag k || hasTag v || entriesHaveTag rest

end

/-- The first shape that fits. No shape has a tag. -/
def firstOf (choice : String) (shapes : List (Value → Result α)) (v : Value) : Result α :=
  if hasTag v then .error .taggedShape
  else
    match shapes.findSome? fun shape => (shape v).toOption with
    | some a => .ok a
    | none => .error (.noShape choice)

end Decode

end ComposeToPodman.Yaml
