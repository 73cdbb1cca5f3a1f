/-! Binary floating point numbers of 64 bits, kept as mantissa and exponent so that reading and
printing them is exact arithmetic on natural numbers. A number is printed as the shortest decimal
that reads back as it. -/
namespace ComposeToPodman

/-- A finite number is `mantissa * 2 ^ exponent`, with a mantissa below `2 ^ 53` and the exponent
the least one of at least `-1074` for which the mantissa is an integer part of that size. -/
inductive Binary64
  | nan
  | infinite (negative : Bool)
  | finite (negative : Bool) (mantissa : Nat) (exponent : Int)
deriving DecidableEq, Repr, Inhabited

namespace Binary64

def zero (negative : Bool) : Binary64 := .finite negative 0 (-1074)

/-- The quotient rounded to the nearest integer, a half to the even one. -/
def divideToEven (num den : Nat) : Nat :=
  let q := num / den
  let twice := 2 * (num % den)
  if twice < den then q else if den < twice then q + 1 else q + q % 2

def scaled (num den : Nat) (e : Int) : Nat × Nat :=
  if 0 ≤ e then (num, den * Nat.pow 2 e.toNat) else (num * Nat.pow 2 (-e).toNat, den)

def exponentFor (num den : Nat) : Int :=
  let guess : Int := (num.log2 : Int) - (den.log2 : Int) - 52
  let (n, d) := scaled num den guess
  max (-1074) (if n < d * Nat.pow 2 52 then guess - 1 else guess)

/-- The nearest number to a positive quotient; a tie goes to the even mantissa, and what would need
an exponent above 971 is infinite. -/
def ofQuotient (negative : Bool) (num den : Nat) : Binary64 :=
  if num = 0 then zero negative
  else
    let e := exponentFor num den
    let (n, d) := scaled num den e
    let m := divideToEven n d
    let (m, e) := if m = Nat.pow 2 53 then (Nat.pow 2 52, e + 1) else (m, e)
    if 971 < e then .infinite negative else .finite negative m e

/-- The nearest number to `digits * 10 ^ power`. Powers far outside the range are answered before
any large number is formed. -/
def ofDecimal (negative : Bool) (digits : Nat) (power : Int) : Binary64 :=
  let magnitude : Int := ((Nat.toDigits 10 digits).length : Int) + power
  if digits = 0 ∨ magnitude < -340 then zero negative
  else if 320 < magnitude then .infinite negative
  else if 0 ≤ power then ofQuotient negative (digits * Nat.pow 10 power.toNat) 1
  else ofQuotient negative digits (Nat.pow 10 (-power).toNat)

def ofInt (i : Int) : Binary64 := ofQuotient (i < 0) i.natAbs 1

def isFinite : Binary64 → Bool
  | .finite .. => true
  | _ => false

inductive Tie
  | toEven
  | up
deriving DecidableEq, Repr

/-- `digits * 10 ^ power`. -/
structure Decimal where
  digits : Nat
  power : Int
deriving DecidableEq, Repr

/-- The decimals that read back as a finite number: those between its two halfway points, which
belong to it when the mantissa is even. All three are quotients over one denominator. -/
structure Interval where
  low : Nat
  value : Nat
  high : Nat
  den : Nat
  closed : Bool

/-- Below a power of two the neighbour is half as far. -/
def interval (mantissa : Nat) (exponent : Int) : Interval :=
  let below := if mantissa = Nat.pow 2 52 ∧ -1074 < exponent then 1 else 2
  let e := exponent - 2
  let num (n : Nat) := if 0 ≤ e then n * Nat.pow 2 e.toNat else n
  ⟨num (4 * mantissa - below), num (4 * mantissa), num (4 * mantissa + 2),
    if 0 ≤ e then 1 else Nat.pow 2 (-e).toNat, mantissa % 2 = 0⟩

def Interval.contains (i : Interval) (n : Nat) (power : Int) : Bool :=
  let point := if 0 ≤ power then n * Nat.pow 10 power.toNat * i.den else n * i.den
  let scale := if 0 ≤ power then 1 else Nat.pow 10 (-power).toNat
  if i.closed then i.low * scale ≤ point && point ≤ i.high * scale
  else i.low * scale < point && point < i.high * scale

/-- The decimals on either side of the value that are multiples of `10 ^ power`, with twice the
distance of the lower one compared with the step. -/
def Interval.onGrid (i : Interval) (power : Int) (tie : Tie) : Option Nat :=
  let num := if 0 ≤ power then i.value else i.value * Nat.pow 10 (-power).toNat
  let den := if 0 ≤ power then i.den * Nat.pow 10 power.toNat else i.den
  let n := num / den
  let twice := 2 * (num % den)
  match i.contains n power, i.contains (n + 1) power with
  | true, false => some n
  | false, true => some (n + 1)
  | false, false => none
  | true, true =>
    if twice < den then some n else if den < twice then some (n + 1)
    else match tie with
      | .toEven => some (n + n % 2)
      | .up => some (n + 1)

def Interval.leadingPower (i : Interval) : Int :=
  if i.den ≤ i.value then ((Nat.toDigits 10 (i.value / i.den)).length : Int) - 1
  else
    let inverse := Nat.toDigits 10 (i.den / i.value)
    let guess : Int := -(inverse.length : Int)
    if i.den ≤ i.value * Nat.pow 10 (inverse.length - 1) then guess + 1 else guess

def shortestFrom (i : Interval) (tie : Tie) (lead : Int) : Nat → Nat → Decimal
  | 0, count => ⟨(i.onGrid (lead - count) tie).getD 0, lead - count⟩
  | fuel + 1, count =>
    match i.onGrid (lead - count) tie with
    | some n => ⟨n, lead - count⟩
    | none => shortestFrom i tie lead fuel (count + 1)

def Decimal.normal : Nat → Decimal → Decimal
  | 0, d => d
  | fuel + 1, d =>
    if d.digits ≠ 0 ∧ d.digits % 10 = 0 then normal fuel ⟨d.digits / 10, d.power + 1⟩ else d

/-- The fewest digits that read back, and of those the nearest. Seventeen always suffice. -/
def shortest (tie : Tie) (mantissa : Nat) (exponent : Int) : Decimal :=
  if mantissa = 0 then ⟨0, 0⟩
  else
    let i := interval mantissa exponent
    (shortestFrom i tie i.leadingPower 17 0).normal 20

def signText (negative : Bool) : String := if negative then "-" else ""

def zeros (n : Nat) : String := String.ofList (List.replicate n '0')

def positional (d : Decimal) (fraction : String) : String :=
  let digits := Nat.toDigits 10 d.digits
  if 0 ≤ d.power then String.ofList digits ++ zeros d.power.toNat ++ fraction
  else
    let point : Int := (digits.length : Int) + d.power
    if 0 < point then
      String.ofList (digits.take point.toNat) ++ "." ++ String.ofList (digits.drop point.toNat)
    else "0." ++ zeros (-point).toNat ++ String.ofList digits

def scientific (d : Decimal) : String :=
  let digits := Nat.toDigits 10 d.digits
  let exponent := "e" ++ toString ((digits.length : Int) + d.power - 1)
  match digits with
  | [only] => only.toString ++ exponent
  | first :: rest => first.toString ++ "." ++ String.ofList rest ++ exponent
  | [] => exponent

/-- The text of a YAML number: positional from `1e-5` up to `1e16`, always with a point or an
exponent, so that it reads back as a floating point number. -/
def yamlText : Binary64 → String
  | .nan => ".nan"
  | .infinite negative => signText negative ++ ".inf"
  | .finite negative mantissa exponent =>
    let d := shortest .toEven mantissa exponent
    let point : Int := ((Nat.toDigits 10 d.digits).length : Int) + d.power
    signText negative ++ if -5 < point ∧ point ≤ 16 then positional d ".0" else scientific d

/-- The text of a number that stands as a value: always positional, an integer without a point. -/
def plainText : Binary64 → String
  | .nan => "NaN"
  | .infinite negative => signText negative ++ "inf"
  | .finite negative mantissa exponent =>
    signText negative ++ positional (shortest .up mantissa exponent) ""

/-- The text of a number in a message: as `plainText`, but never mistaken for an integer. -/
def messageText : Binary64 → String
  | .finite negative mantissa exponent =>
    signText negative ++ positional (shortest .up mantissa exponent) ".0"
  | x => x.plainText

end Binary64

end ComposeToPodman
