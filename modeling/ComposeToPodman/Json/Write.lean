/-! Texts of JSON. -/
namespace ComposeToPodman.Json

def hexDigit (n : Nat) : Char := (Nat.toDigits 16 n).headD '0'

/-- Control characters, the quote and the backslash are escaped; all else stands for itself. -/
def escape (c : Char) : List Char :=
  match c with
  | '"' => ['\\', '"']
  | '\\' => ['\\', '\\']
  | '\x08' => ['\\', 'b']
  | '\x0c' => ['\\', 'f']
  | '\n' => ['\\', 'n']
  | '\r' => ['\\', 'r']
  | '\t' => ['\\', 't']
  | _ =>
    if c < ' ' then ['\\', 'u', '0', '0', hexDigit (c.toNat / 16), hexDigit (c.toNat % 16)] else [c]

def text (s : String) : String := "\"" ++ String.ofList (s.toList.flatMap escape) ++ "\""

def array (items : List String) : String := "[" ++ ",".intercalate (items.map text) ++ "]"

inductive Printed
  | text (s : String)
  | natural (n : Nat)
  | bool (b : Bool)
  | texts (items : List String)

def Printed.render : Printed → String
  | .text s => Json.text s
  | .natural n => toString n
  | .bool b => toString b
  | .texts [] => "[]"
  | .texts items =>
    "[\n" ++ ",\n".intercalate (items.map fun s => "    " ++ Json.text s) ++ "\n  ]"

/-- An object with one field a line, indented by two columns. -/
def object (fields : List (String × Printed)) : String :=
  let line : String × Printed → String := fun (name, v) => "  " ++ text name ++ ": " ++ v.render
  "\x7b\n" ++ ",\n".intercalate (fields.map line) ++ "\n\x7d"

end ComposeToPodman.Json
