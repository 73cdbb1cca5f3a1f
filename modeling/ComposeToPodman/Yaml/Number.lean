import ComposeToPodman.Binary64
import ComposeToPodman.Text.Basic

/-! Numbers of YAML, and the plain scalars that are numbers. -/
namespace ComposeToPodman.Yaml

/-- An integer between `-2 ^ 63` and `2 ^ 64`, or a floating point number. -/
inductive Number
  | int (value : Int)
  | float (value : Binary64)
deriving DecidableEq, Repr, Inhabited

namespace Number

/-- The two zeros are one key, and so is whatever is not a number. -/
def same : Number → Number → Bool
  | .int a, .int b => a == b
  | .float (.finite _ 0 _), .float (.finite _ 0 _) => true
  | .float a, .float b => a == b
  | _, _ => false

def text : Number → String
  | .int i => toString i
  | .float x => x.yamlText

/-- Two digits or more with a leading zero: a telephone number or a date, not a number. -/
def isZeroPadded (s : List Char) : Bool :=
  let digits := match s with
    | '+' :: rest | '-' :: rest => rest
    | _ => s
  match digits with
  | '0' :: d :: rest => (d :: rest).all Char.isDigit
  | _ => false

def unsigned? (s : List Char) : Option Nat :=
  match s with
  | '0' :: 'x' :: rest => Text.natural? 16 rest
  | '0' :: 'o' :: rest => Text.natural? 8 rest
  | '0' :: 'b' :: rest => Text.natural? 2 rest
  | _ => Text.natural? 10 s

def integer? (s : List Char) : Option Int :=
  if isZeroPadded s then none
  else match s with
    | '-' :: rest => (unsigned? rest).map fun n => -(n : Int)
    | '+' :: rest => (unsigned? rest).map Int.ofNat
    | _ => (unsigned? s).map Int.ofNat

/-- Digits before the point, digits after it, and the rest. -/
def mantissa? (s : List Char) : Option (List Char × List Char × List Char) :=
  let whole := s.takeWhile Char.isDigit
  let rest := s.dropWhile Char.isDigit
  match rest with
  | '.' :: rest =>
    let part := rest.takeWhile Char.isDigit
    if whole.isEmpty && part.isEmpty then none else some (whole, part, rest.dropWhile Char.isDigit)
  | _ => if whole.isEmpty then none else some (whole, [], rest)

def exponent? : List Char → Option Int
  | [] => some 0
  | e :: rest =>
    if e == 'e' || e == 'E' then
      match rest with
      | '-' :: digits => (Text.natural? 10 digits).map fun n => -(n : Int)
      | '+' :: digits => (Text.natural? 10 digits).map Int.ofNat
      | digits => (Text.natural? 10 digits).map Int.ofNat
    else none

def unsignedFloat? (negative : Bool) (s : List Char) : Option Binary64 := do
  let (whole, part, rest) ← mantissa? s
  let exponent ← exponent? rest
  let digits ← Text.natural? 10 (whole ++ part)
  return .ofDecimal negative digits (exponent - part.length)

def isInfinity (s : List Char) : Bool :=
  [".inf", ".Inf", ".INF"].contains (String.ofList s)

def isNotANumber (s : List Char) : Bool :=
  [".nan", ".NaN", ".NAN"].contains (String.ofList s)

/-- A decimal too large for a finite number is no number. -/
def float? (s : List Char) : Option Binary64 :=
  if isNotANumber s then some .nan
  else match s with
    | '-' :: rest =>
      if isInfinity rest then some (.infinite true)
      else (unsignedFloat? true rest).filter Binary64.isFinite
    | '+' :: rest =>
      if isInfinity rest then some (.infinite false)
      else (unsignedFloat? false rest).filter Binary64.isFinite
    | _ =>
      if isInfinity s then some (.infinite false)
      else (unsignedFloat? false s).filter Binary64.isFinite

end Number

inductive Plain
  | null
  | bool (value : Bool)
  | number (value : Number)
  /-- An integer of up to 128 bits that no number of YAML can hold. -/
  | wide (value : Int)
  | text

namespace Plain

def null? (s : String) : Bool := ["null", "Null", "NULL", "~"].contains s

def bool? (s : String) : Option Bool :=
  if ["true", "True", "TRUE"].contains s then some true
  else if ["false", "False", "FALSE"].contains s then some false
  else none

def integer? (s : String) : Option Plain := do
  let i ← Number.integer? s.toList
  if -0x8000000000000000 ≤ i ∧ i < 0x10000000000000000 then some (.number (.int i))
  else if -0x80000000000000000000000000000000 ≤ i ∧ i < 0x100000000000000000000000000000000 then
    some (.wide i)
  else none

def float? (s : String) : Option Binary64 :=
  if Number.isZeroPadded s.toList then none else Number.float? s.toList

/-- Null, then booleans, integers and floating point numbers; anything else is text. -/
def ofText (s : String) : Plain :=
  if s.isEmpty || null? s then .null
  else match bool? s with
    | some b => .bool b
    | none =>
      match integer? s with
      | some i => i
      | none =>
        match float? s with
        | some x => .number (.float x)
        | none => .text

end Plain

end ComposeToPodman.Yaml
