import ComposeToPodman.Text.Basic

/-! Unit files of systemd: sections of entries, and the quoting of values. -/
namespace ComposeToPodman.Target

/-- A `[Name]` line and the `Key=value` lines under it. -/
structure UnitSection where
  name : String
  entries : List (String × String) := []
deriving DecidableEq, Repr

/-- A unit file without empty sections. -/
structure UnitFile where
  sections : List UnitSection
deriving DecidableEq, Repr

namespace UnitSection

def setAll (s : UnitSection) (entries : List (String × String)) : UnitSection :=
  { s with entries := s.entries ++ entries }

def render (s : UnitSection) : String :=
  s.entries.foldl (fun text (key, value) => text ++ key ++ "=" ++ value ++ "\n")
    ("[" ++ s.name ++ "]\n")

end UnitSection

namespace UnitFile

def ofSections (sections : List UnitSection) : UnitFile :=
  ⟨sections.filter (!·.entries.isEmpty)⟩

def render (f : UnitFile) : String := "\n".intercalate (f.sections.map UnitSection.render)

/-- The per cent sign introduces a specifier and is doubled. -/
def escapeSpecifiers (s : String) : String := Text.replaceChar '%' "%%" s

def needsQuotes (c : Char) : Bool := Text.isBlank c || c == '"' || c == '\'' || c == '\\'

/-- One word of a value, between double quotes where it is empty or holds blanks, quotes or
backslashes. -/
def quote (value : String) : String :=
  let escaped := escapeSpecifiers value
  if escaped.isEmpty || escaped.toList.any needsQuotes then
    "\"" ++ Text.replaceChar '"' "\\\"" (Text.replaceChar '\\' "\\\\" escaped) ++ "\""
  else escaped

/-- The words of a command line; a dollar sign introduces a variable and is doubled. -/
def quoteWords (words : List String) : String :=
  " ".intercalate (words.map fun word => quote (Text.replaceChar '$' "$$" word))

end UnitFile

end ComposeToPodman.Target
