/-! What a run reports, in order: warnings tell what was dropped or approximated, errors what needs
a manual follow-up. Neither stops the run. -/
namespace ComposeToPodman

inductive Severity
  | warning
  | error
deriving DecidableEq, Repr

namespace Severity

def text : Severity → String
  | warning => "warning"
  | error => "error"

/-- A warning is less than an error. -/
def lt : Severity → Severity → Bool
  | warning, error => true
  | _, _ => false

end Severity

structure Diagnostic (μ : Type) where
  severity : Severity
  message : μ
deriving DecidableEq, Repr

structure Diagnostics (μ : Type) where
  entries : List (Diagnostic μ) := []
deriving DecidableEq, Repr

namespace Diagnostics

variable {μ : Type}

instance : Inhabited (Diagnostics μ) := ⟨{}⟩

def add (d : Diagnostics μ) (severity : Severity) (message : μ) : Diagnostics μ :=
  ⟨d.entries ++ [⟨severity, message⟩]⟩

def warn (d : Diagnostics μ) (message : μ) : Diagnostics μ := d.add .warning message

def error (d : Diagnostics μ) (message : μ) : Diagnostics μ := d.add .error message

instance : Append (Diagnostics μ) := ⟨fun d e => ⟨d.entries ++ e.entries⟩⟩

def messages (d : Diagnostics μ) (severity : Severity) : List μ :=
  (d.entries.filter (·.severity == severity)).map (·.message)

def warnings (d : Diagnostics μ) : List μ := d.messages .warning

def errors (d : Diagnostics μ) : List μ := d.messages .error

def hasErrors (d : Diagnostics μ) : Bool := d.entries.any (·.severity == .error)

def size (d : Diagnostics μ) : Nat := d.entries.length

def isEmpty (d : Diagnostics μ) : Bool := d.entries.isEmpty

def ofWarnings (messages : List μ) : Diagnostics μ := ⟨messages.map (⟨.warning, ·⟩)⟩

def ofErrors (messages : List μ) : Diagnostics μ := ⟨messages.map (⟨.error, ·⟩)⟩

@[simp] theorem entries_append (d e : Diagnostics μ) : (d ++ e).entries = d.entries ++ e.entries :=
  rfl

@[simp] theorem messages_append (d e : Diagnostics μ) (s : Severity) :
    (d ++ e).messages s = d.messages s ++ e.messages s := by
  simp [messages]

@[simp] theorem errors_append (d e : Diagnostics μ) : (d ++ e).errors = d.errors ++ e.errors :=
  messages_append d e .error

theorem messages_of_severity (s t : Severity) (l : List μ) :
    messages ⟨l.map (⟨s, ·⟩)⟩ t = if s = t then l else [] := by
  by_cases same : s = t <;> simp [messages, List.filter_map, Function.comp_def, same]

@[simp] theorem warnings_ofWarnings (l : List μ) : (ofWarnings l).warnings = l :=
  messages_of_severity .warning .warning l

@[simp] theorem errors_ofWarnings (l : List μ) : (ofWarnings l).errors = [] :=
  messages_of_severity .warning .error l

@[simp] theorem warnings_ofErrors (l : List μ) : (ofErrors l).warnings = [] :=
  messages_of_severity .error .warning l

@[simp] theorem errors_ofErrors (l : List μ) : (ofErrors l).errors = l :=
  messages_of_severity .error .error l

end Diagnostics

end ComposeToPodman
