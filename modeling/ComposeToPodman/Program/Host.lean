import ComposeToPodman.Dict
import ComposeToPodman.Text.Basic

/-! The files that the program reads and writes: what it needs of them, and a model in which they
are a table of paths. -/
namespace ComposeToPodman.Program

inductive FileFault
  | missing
  | exists
  | notDirectory
  | isDirectory
  | denied
  | notText
  | other (text : String)
deriving DecidableEq, Repr

def FileFault.message : FileFault → String
  | missing => "No such file or directory (os error 2)"
  | «exists» => "File exists (os error 17)"
  | notDirectory => "Not a directory (os error 20)"
  | isDirectory => "Is a directory (os error 21)"
  | denied => "Permission denied (os error 13)"
  | notText => "stream did not contain valid UTF-8"
  | other text => text

structure Host (m : Type → Type) where
  standardInput : m (Except FileFault String)
  readFile : String → m (Except FileFault String)
  /-- With its parents; one that exists is left alone. -/
  createDirectory : String → m (Except FileFault Unit)
  writeFile : String → String → m (Except FileFault Unit)

/-- A standard input, and a directory of files and folders by their paths in it. -/
structure Workspace where
  standardInput : String := ""
  files : Dict String := {}
  folders : TextSet := {}

namespace Workspace

/-- The names on a path; a single dot names nothing. -/
def components (path : String) : List String :=
  (Text.partTexts '/' path).filter fun name => !name.isEmpty && name != "."

def pathOf (names : List String) : String := "/".intercalate names

/-- A folder is one by itself or because something is in it. -/
def isFolder (w : Workspace) (names : List String) : Bool :=
  names.isEmpty || w.folders.contains (pathOf names) ||
    w.files.keys.any fun file => names.isPrefixOf (components file) && components file != names

def isFile (w : Workspace) (names : List String) : Bool := w.files.contains (pathOf names)

def ancestors (names : List String) : List (List String) :=
  (List.range names.length).map names.take

def absence (w : Workspace) (names : List String) : FileFault :=
  if (ancestors names).any w.isFile then .notDirectory else .missing

def readFile (w : Workspace) (path : String) : Except FileFault String :=
  let names := components path
  match w.files.get? (pathOf names) with
  | some text => if path.endsWith "/" then .error .notDirectory else .ok text
  | none => .error (if w.isFolder names then .isDirectory else w.absence names)

def createDirectory (w : Workspace) (path : String) : Except FileFault Workspace :=
  let names := components path
  if w.isFile names then .error .exists
  else if (ancestors names).any w.isFile then .error .notDirectory
  else
    let passed := (ancestors names ++ [names]).map pathOf
    .ok { w with folders := passed.foldl TextSet.insert w.folders }

def writeFile (w : Workspace) (path text : String) : Except FileFault Workspace :=
  let names := components path
  if w.isFolder names then .error .isDirectory
  else if w.isFolder names.dropLast then .ok { w with files := w.files.insert (pathOf names) text }
  else .error (w.absence names)

def attempt (change : Workspace → Except FileFault Workspace) :
    StateM Workspace (Except FileFault Unit) := do
  match change (← get) with
  | .ok w => do
    set w
    return .ok ()
  | .error e => return .error e

def host : Host (StateM Workspace) where
  standardInput := do return .ok (← get).standardInput
  readFile path := do return (← get).readFile path
  createDirectory path := attempt (·.createDirectory path)
  writeFile path text := attempt (·.writeFile path text)

end Workspace

end ComposeToPodman.Program
