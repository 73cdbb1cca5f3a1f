import ComposeToPodman.Binary64
import ComposeToPodman.Dict

/-! The forms in which a compose file may write its settings, short and long alike. -/
namespace ComposeToPodman.Compose.Form

/-- A scalar where a text is expected. -/
inductive Scalar
  | bool (value : Bool)
  /-- An integer of 64 bits with a sign. -/
  | int (value : Int)
  | float (value : Binary64)
  | text (value : String)
deriving DecidableEq, Repr, Inhabited

/-- The text that a scalar stands for. -/
def Scalar.asText : Scalar → String
  | .bool b => toString b
  | .int i => toString i
  | .float x => x.plainText
  | .text s => s

inductive Command
  | shell (line : String)
  | words (words : List String)
deriving DecidableEq, Repr

inductive Environment
  /-- `KEY=value` each. -/
  | list (items : List String)
  | map (values : Dict (Option Scalar))
deriving DecidableEq, Repr

structure LongPort where
  target : Nat
  published : Option Scalar := none
  hostIp : Option String := none
  protocol : Option String := none
  mode : Option String := none
deriving DecidableEq, Repr

inductive Port
  | short (spec : Scalar)
  | long (port : LongPort)
deriving DecidableEq, Repr

structure BindOptions where
  propagation : Option String := none
  selinux : Option String := none
deriving DecidableEq, Repr

structure LongMount where
  kind : Option String := none
  source : Option String := none
  target : String
  readOnly : Option Bool := none
  bind : Option BindOptions := none
deriving DecidableEq, Repr

inductive Mount
  | short (spec : String)
  | long (mount : LongMount)
deriving DecidableEq, Repr

/-- How a service joins one network. -/
structure Attachment where
  aliases : Option (List String) := none
  ipv4Address : Option String := none
  ipv6Address : Option String := none
deriving DecidableEq, Repr

/-- Whether it asks for more than joining. -/
def Attachment.isCustomized (a : Attachment) : Bool :=
  a.aliases.any (!·.isEmpty) || a.ipv4Address.isSome || a.ipv6Address.isSome

inductive Networks
  | list (names : List String)
  | map (attachments : Dict (Option Attachment))
deriving DecidableEq, Repr

structure Condition where
  condition : Option String := none
deriving DecidableEq, Repr

inductive Dependencies
  | list (names : List String)
  | map (conditions : Dict Condition)
deriving DecidableEq, Repr

inductive Labels
  /-- `key=value` each. -/
  | list (items : List String)
  | map (values : Dict Scalar)
deriving DecidableEq, Repr

/-- Whether a resource is managed outside of the project. -/
inductive External
  | flag (value : Bool)
  | named (name : String)
deriving DecidableEq, Repr

def External.isExternal : External → Bool
  | .flag b => b
  | .named _ => true

structure Pool where
  subnet : Option String := none
  gateway : Option String := none
deriving DecidableEq, Repr

structure Ipam where
  driver : Option String := none
  pools : List Pool := []
deriving DecidableEq, Repr

structure Network where
  driver : Option String := none
  ipam : Option Ipam := none
  external : Option External := none
  internal : Option Bool := none
  name : Option String := none
deriving DecidableEq, Repr

structure Volume where
  driver : Option String := none
  external : Option External := none
  name : Option String := none
deriving DecidableEq, Repr

end ComposeToPodman.Compose.Form
