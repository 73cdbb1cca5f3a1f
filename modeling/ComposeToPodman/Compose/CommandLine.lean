import ComposeToPodman.Text.Basic

/-! Commands written as one line, split into words at blanks. Quotes of either kind keep blanks, and
a backslash keeps the character after it, except between single quotes. -/
namespace ComposeToPodman.Compose

/-- The words so far, the last one first, and the word that is being read, if one is. -/
structure Words where
  done : List (List Char) := []
  current : Option (List Char) := none
  quote : Option Char := none
deriving DecidableEq, Repr

namespace Words

/-- Characters of a word are kept last first. -/
def add (w : Words) (c : Char) : Words := { w with current := some (c :: w.current.getD []) }

def close (w : Words) : Words :=
  match w.current with
  | some word => { w with done := word.reverse :: w.done, current := none }
  | none => w

def read (w : Words) : List Char → Words
  | [] => w
  | c :: rest =>
    if w.quote = some c then { w with quote := none }.read rest
    else if c = '\\' ∧ w.quote ≠ some '\'' then
      match rest with
      | [] => { w with current := some (w.current.getD []) }
      | next :: rest => (w.add next).read rest
    else if w.quote.isSome then (w.add c).read rest
    else if c = '\'' ∨ c = '"' then
      { w with quote := some c, current := some (w.current.getD []) }.read rest
    else if Text.isBlank c then w.close.read rest
    else (w.add c).read rest

def toList (w : Words) : List String := w.close.done.reverse.map String.ofList

end Words

def splitCommand (line : String) : List String := (Words.read {} line.toList).toList

end ComposeToPodman.Compose
