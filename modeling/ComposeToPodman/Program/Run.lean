import ComposeToPodman.Json.Write
import ComposeToPodman.Program.Arguments
import ComposeToPodman.Program.Host
import ComposeToPodman.Conversion

/-! Running the program: what it prints, what it writes, and how it ends. -/
namespace ComposeToPodman.Program

open Target

structure Report where
  output : String := ""
  errors : String := ""
  code : Nat := 0
deriving DecidableEq, Repr

/-- A fault that ends the program, after what it has printed. -/
def Report.failed (r : Report) (action path : String) (cause : FileFault) : Report :=
  { r with
    errors := r.errors ++ "Error: Failed to " ++ action ++ " " ++ path ++ "\n\nCaused by:\n    " ++
      cause.message ++ "\n"
    code := 1 }

def lines (texts : List String) : String := String.join (texts.map (· ++ "\n"))

def versionText : String := "podshift 0.1.0\n"

def usageText : String :=
  "Usage: podshift [-d] translate [FILE] [-f FORMAT] [-p PROJECT] [--selinux shared|private] " ++
    "[-o DIR] [--json]\n       podshift [-d] rules\n       podshift [-d] validate [FILE]\n" ++
    "       podshift --version\n"

/-- The rules by their names, in two columns. -/
def rulesText : String :=
  lines (Rule.all.map fun r => r.id.pushn ' ' (16 - r.id.length) ++ " " ++ r.description)

def conversionJson (t : Conversion) : String :=
  Json.object ((t.output.toList.map fun text => ("output", .text text)) ++
    [("warnings", .texts t.warnings), ("errors", .texts t.errors)])

def validationJson (v : Validation) : String :=
  Json.object ([
    ("valid", .bool v.valid),
    ("services", .natural v.services),
    ("networks", .natural v.networks),
    ("volumes", .natural v.volumes)] ++ v.error.toList.map fun e => ("error", .text e))

/-- The outcome of a conversion, also of one that failed. -/
def conversion (r : ConvertRequest) (input : String) : Conversion :=
  match convertTo r.options r.format input with
  | .ok t => t
  | .error f => .ofFailure f

def join (directory name : String) : String :=
  if directory.endsWith "/" then directory ++ name else directory ++ "/" ++ name

variable {m : Type → Type} [Monad m]

def read (h : Host m) : Source → m (Except FileFault String)
  | .standardInput => h.standardInput
  | .file path => h.readFile path

/-- Write files one by one, printing their paths, up to the first that fails. -/
def writeFiles (h : Host m) (directory : String) : List OutputFile → Report → m Report
  | [], r => return r
  | file :: rest, r => do
    let path := join directory file.name
    match ← h.writeFile path file.contents with
    | .ok () => writeFiles h directory rest { r with output := r.output ++ path ++ "\n" }
    | .error cause => return r.failed "write" path cause

def writeAll (h : Host m) (directory : String) (files : List OutputFile) (r : Report) :
    m Report := do
  match ← h.createDirectory directory with
  | .ok () => writeFiles h directory files r
  | .error cause => return r.failed "create" directory cause

def runConvert (h : Host m) (request : ConvertRequest) (input : String) : m Report := do
  let t := conversion request input
  let code := if t.errors.isEmpty then 0 else 1
  if request.json then return { output := conversionJson t ++ "\n", code }
  let told : Report :=
    { errors := lines (t.warnings.map ("warning: " ++ ·)) ++ lines (t.errors.map ("error: " ++ ·))
      code }
  match t.output, request.directory with
  | some _, some directory => writeAll h directory t.files told
  | some output, none => return { told with output }
  | none, _ => return told

def runValidate (input : String) : Report :=
  let v := validate input
  { output := validationJson v ++ "\n", code := if v.valid then 0 else 1 }

/-- Read the input first; without it nothing else happens. -/
def withInput (h : Host m) (source : Source) (run : String → m Report) : m Report := do
  match source, ← read h source with
  | _, .ok input => run input
  | .standardInput, .error cause => return Report.failed {} "read" "compose file from stdin" cause
  | .file path, .error cause => return Report.failed {} "read" path cause

def Request.run (h : Host m) : Request → m Report
  | .convert request => withInput h request.source (runConvert h request)
  | .validate source => withInput h source (pure ∘ runValidate)
  | .rules => return { output := rulesText }
  | .version => return { output := versionText }
  | .help => return { output := usageText }
  | .usage => return { errors := "error: invalid arguments\n\n" ++ usageText, code := 2 }

end ComposeToPodman.Program
