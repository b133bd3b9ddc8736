import Keyset.Error.Basic
import Keyset.Value.Key

/-!
# Keyset — foreign errors

Errors that are not the engine's own, known only by the name of their type. An error of
the operating system that tells its number has the type of that number, and an error
about encoded text needs the text, the place and the reason.

* `ForeignError.typeName` — the type of an error that is made of arguments.
-/

namespace Keyset.ForeignError

/-- The types of system errors by number. -/
def systemTypes : List (Int × String) :=
  [(1, "PermissionError"), (2, "FileNotFoundError"), (3, "ProcessLookupError"),
    (4, "InterruptedError"), (10, "ChildProcessError"), (11, "BlockingIOError"),
    (13, "PermissionError"), (17, "FileExistsError"), (20, "NotADirectoryError"),
    (21, "IsADirectoryError"), (32, "BrokenPipeError"), (103, "ConnectionAbortedError"),
    (104, "ConnectionResetError"), (108, "BrokenPipeError"), (110, "TimeoutError"),
    (111, "ConnectionRefusedError"), (114, "BlockingIOError"), (115, "BlockingIOError")]

/-- The names of the general type of system errors. -/
def systemNames : List String := ["OSError", "IOError", "EnvironmentError"]

/-- The general type of system errors. -/
def systemType : String := "OSError"

/-- The type of a system error. A number counts if something, but not too much, follows
it. -/
def systemTypeName : List Value → Except Failure String
  | number :: _ :: rest =>
      if 3 < rest.length then .ok systemType
      else if !number.hashable then .error .wrongType
      else .ok ((number.asInteger?.bind fun n => systemTypes.lookup n).getD systemType)
  | _ => .ok systemType

/-- Whether a value is an integer. -/
def isInteger : Value → Bool
  | .int _ => true
  | .bool _ => true
  | _ => false

/-- Whether arguments end in a place, given by start and end, and a reason. -/
def isPlace : List Value → Bool
  | [first, last, .str _] => isInteger first && isInteger last
  | _ => false

/-- The types of errors about text that need arguments. -/
def textTypes : List String :=
  ["UnicodeDecodeError", "UnicodeEncodeError", "UnicodeTranslateError"]

/-- Whether arguments make an error about text; types that ask for nothing take all. -/
def isComplete (name : String) (arguments : List Value) : Bool :=
  match name, arguments with
  | "UnicodeDecodeError", .str _ :: .bytes _ :: place => isPlace place
  | "UnicodeEncodeError", .str _ :: .str _ :: place => isPlace place
  | "UnicodeTranslateError", .str _ :: place => isPlace place
  | _, _ => !textTypes.contains name

/-- The type of an error that is made of arguments under a name. -/
def typeName (name : String) (arguments : List Value) : Except Failure String :=
  if systemNames.contains name then systemTypeName arguments
  else if isComplete name arguments then .ok name
  else .error .wrongType

end Keyset.ForeignError
