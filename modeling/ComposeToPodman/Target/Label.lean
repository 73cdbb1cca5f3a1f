/-! Labels of DNS: lower case letters, digits and hyphens, at most 63 characters, with a letter or a
digit at either end. -/
namespace ComposeToPodman.Target.Label

def maxLength : Nat := 63

/-- Letters and digits in lower case, and one hyphen for each run of anything else; `hyphen` tells
that the character before is a hyphen. -/
def collapse : Bool → List Char → List Char
  | _, [] => []
  | hyphen, c :: rest =>
    if c.isAlphanum then c.toLower :: collapse false rest
    else if hyphen then collapse true rest
    else '-' :: collapse true rest

def dropLast (s : List Char) : List Char := (s.reverse.dropWhile (· == '-')).reverse

/-- Without the hyphens at either end, also where the text was cut. -/
def trimmed (s : List Char) : List Char :=
  dropLast ((dropLast (s.dropWhile (· == '-'))).take maxLength)

/-- A text without letters and digits becomes a single letter. -/
def ofText (s : String) : String :=
  match trimmed (collapse false s.toList) with
  | [] => "x"
  | label => String.ofList label

/-- The label itself, then with `-2`, `-3` and so on in place of its end. -/
def candidate (base : String) : Nat → String
  | 0 => base
  | n + 1 =>
    let suffix := "-" ++ toString (n + 2)
    String.ofList (dropLast (base.toList.take (maxLength - suffix.length))) ++ suffix

/-- The first candidate that is not taken. A label that was cut after `-2` is its own second
candidate; those from the second on differ, so one of them is free among one more than are taken. -/
def unique (name : String) (taken : List String) : String :=
  let candidates := (List.range (taken.length + 2)).map (candidate (ofText name))
  (candidates.find? (!taken.contains ·)).getD (ofText name)

end ComposeToPodman.Target.Label
