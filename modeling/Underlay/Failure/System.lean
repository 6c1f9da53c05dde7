import Underlay.Failure

/-!
Failures of the system. Its error numbers and the classes of its input and output errors each map
to one kind; what has no kind of its own is a `runtime` failure.
-/

namespace Underlay

/-- Classes of input and output errors that a kind is told from. -/
inductive IoFault where
  | notFound
  | permissionDenied
  | invalidInput
  | invalidData
  | writeZero
  | interrupted
  | unexpectedEof
  | outOfMemory
  | other
deriving DecidableEq, Repr, Inhabited

namespace IoFault

/-- A class by its name; all names without a kind of their own are `other`. -/
def ofName (name : String) : IoFault :=
  match name with
  | "NotFound" => notFound
  | "PermissionDenied" => permissionDenied
  | "InvalidInput" => invalidInput
  | "InvalidData" => invalidData
  | "WriteZero" => writeZero
  | "Interrupted" => interrupted
  | "UnexpectedEof" => unexpectedEof
  | "OutOfMemory" => outOfMemory
  | _ => other

def kind : IoFault → Kind
  | outOfMemory => .memory
  | notFound => .fileNotFound
  | permissionDenied => .permission
  | invalidInput | invalidData => .value
  | unexpectedEof | writeZero | interrupted => .io
  | other => .runtime

/-- The failure made from an input or output error without a system error number. -/
def failure (fault : IoFault) (message : String) : Failure :=
  { kind := fault.kind, message, location := none }

end IoFault

/-- The kind of a system error number. -/
def Kind.ofErrno (errno : Int) : Kind :=
  match errno with
  | 12 => .memory
  | 2 => .fileNotFound
  | 13 | 1 => .permission
  | 5 => .io
  | 22 => .value
  | _ => .runtime

end Underlay
