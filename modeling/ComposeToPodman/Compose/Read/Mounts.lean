import ComposeToPodman.Compose.Form.Basic
import ComposeToPodman.Compose.Reading

/-! Mounts, from their short form `source:target[:option,…]` and their long one. -/
namespace ComposeToPodman.Compose

def isPathLike (source : List Char) : Bool :=
  source.contains '/' || source.head? == some '.' || source.head? == some '~'

/-- A source is a volume if it is declared as one or does not look like a path. -/
def mountKind (volumes : Dict Volume) (source : String) : MountKind :=
  if volumes.contains source || !isPathLike source.toList then .volume else .bind

/-- The options between commas, without blanks around them. -/
def mountOptions (options : List Char) : TextSet :=
  TextSet.ofList <|
    (((options.splitOn ',').map Text.trimChars).filter (!·.isEmpty)).map String.ofList

def readShortMount (service : String) (volumes : Dict Volume) (spec : String) :
    Reading (Option Mount) :=
  let mount (source target options : List Char) : Reading (Option Mount) :=
    if source.isEmpty || target.head? != some '/' then .skip service (.malformedVolume spec)
    else
      let source := String.ofList source
      return some
        { source, target := String.ofList target, kind := mountKind volumes source,
          options := mountOptions options }
  match spec.toList.splitOn ':' with
  | [_] => .skip service (.anonymousVolume spec)
  | [source, target] => mount source target []
  | [source, target, options] => mount source target options
  | _ => .skip service (.malformedVolume spec)

/-- Volumes are mounted unless a bind mount is asked for; there are no other kinds. -/
def longMountKind : Option String → Except String MountKind
  | none => .ok .volume
  | some "volume" => .ok .volume
  | some "bind" => .ok .bind
  | some other => .error other

def longMountOptions (m : Form.LongMount) : TextSet :=
  let readOnly := if m.readOnly = some true then ["ro"] else []
  let relabel := (m.bind.bind (·.selinux)).filter fun s => s == "z" || s == "Z"
  TextSet.ofList (readOnly ++ relabel.toList ++ (m.bind.bind (·.propagation)).toList)

def readLongMount (service : String) (m : Form.LongMount) : Reading (Option Mount) :=
  match longMountKind m.kind with
  | .error kind => .skip service (.mountKind kind m.target)
  | .ok kind =>
    match m.source.filter (!·.isEmpty) with
    | none => .skip service (.anonymousVolume m.target)
    | some source =>
      if Text.startsWith m.target '/' then
        return some { source, target := m.target, kind, options := longMountOptions m }
      else .skip service (.relativeTarget m.target)

def readMount (service : String) (volumes : Dict Volume) : Form.Mount → Reading (Option Mount)
  | .short spec => readShortMount service volumes spec
  | .long m => readLongMount service m

end ComposeToPodman.Compose
