import Keyset.Encoding
import Keyset.Error.Basic
import Keyset.Settings.Annotation
import Keyset.Settings.EnvFile
import Keyset.Settings.Files
import Keyset.Text.Casing

/-!
# Keyset — resolving settings

The value of a setting comes from the highest source that mentions it: an
argument, an environment variable, the settings file, the declared default. Names
of variables are upper-cased setting names. The winning value is converted as the
setting's annotation says.

* `SettingsClass`, `Declarations.ofChain` — classes of settings that inherit from
  one another, and the settings that the last of them has.
* `Sources` — where values come from.
* `Declarations.load` — the values of all settings.
-/

namespace Keyset

/-! ## Declarations -/

/-- What a class says about its settings file. -/
inductive FileReference where
  /-- The path of the file, if there is one, and its encoding. -/
  | file (path encoding : Value)
  /-- Something that is no reference to a file. -/
  | other

/-- A setting as a class declares it; without a default of its own it has the
inherited one. -/
structure Declaration where
  name : String
  type : Annotation
  default : Option Value

/-- A class of settings; without a file reference of its own it has the inherited
one. -/
structure SettingsClass where
  declarations : List Declaration
  file : Option FileReference := none

/-- A setting with its annotation and default. -/
structure Setting where
  name : String
  type : Annotation
  default : Value

/-- The settings of a class and its settings file. -/
structure Declarations where
  settings : List Setting := []
  file : FileReference := .file .null .null

namespace Declarations

/-- Declare a setting. One that is declared already keeps its place, and its default
unless a new one is given. -/
def declare : List Setting → Declaration → List Setting
  | [], d => [⟨d.name, d.type, d.default.getD .null⟩]
  | s :: rest, d =>
      if s.name = d.name then ⟨d.name, d.type, d.default.getD s.default⟩ :: rest
      else s :: declare rest d

/-- The name under which a class keeps its file reference. -/
def fileReferenceName : String := "model_config"

/-- The file reference of a class; a default under the name of the reference takes its
place. -/
def ownFile? (c : SettingsClass) : Option FileReference :=
  let hidden := c.declarations.any fun d => d.name == fileReferenceName && d.default.isSome
  c.file <|> if hidden then some .other else none

/-- What a class has that inherits from another. -/
def extend (base : Declarations) (c : SettingsClass) : Declarations :=
  { settings := c.declarations.foldl declare base.settings
    file := (ownFile? c).getD base.file }

/-- What the last class of a chain has, of which each inherits from the one before. -/
def ofChain (chain : List SettingsClass) : Declarations := chain.foldl extend {}

/-- Whether a setting is public: names with an underscore in front are not, nor is
the name of the file reference. -/
def isPublic (name : String) : Bool :=
  name.toList.head? != some '_' && name != fileReferenceName

end Declarations

/-! ## Sources -/

/-- Where the values of settings come from, besides their defaults. -/
structure Sources where
  arguments : List (String × Value) := []
  environment : List (String × String) := []
  /-- The files of the working directory. -/
  files : List (String × List UInt8) := []

namespace Sources

/-- The encoding that a file reference asks for: by default, and as that of the locale,
UTF-8. None if there is no such encoding. -/
def encoding? : Value → Except Failure (Option Encoding)
  | .null => .ok (some .utf8)
  | .str name =>
      if name.toList.contains '\x00' then .error (.value .embeddedNull)
      else .ok (if name = "locale" then some .utf8 else Encoding.ofName? name)
  | _ => .error .wrongType

/-- The text of a file. -/
def fileText (e : Encoding) (content : List UInt8) : Except Failure String :=
  (e.decode content).mapError fun fault => match fault with
    | .bytes => .undecodable
    | .form => .unreadable

/-- The assignments of the settings file at a path; none if it does not exist. -/
def assignmentsAt (s : Sources) (path : String) (encoding : Value) :
    Except Failure (List (String × String)) :=
  match Files.find s.files path with
  | .missing => .ok []
  | .tooLong => .error .pathTooLong
  | .directory => do
      let _ ← encoding? encoding
      .error .isDirectory
  | .file content => do
      match ← encoding? encoding with
      | none => .error .unknownEncoding
      | some e => return EnvFile.parse (← fileText e content)

/-- The assignments of a settings file. -/
def assignments (s : Sources) (file : FileReference) : Except Failure (List (String × String)) :=
  match file with
  | .other => .error .noAttribute
  | .file path encoding =>
      if !path.truthy then .ok []
      else match path with
        | .str p => s.assignmentsAt p encoding
        | _ => .error .wrongType

/-- The environment variable of a setting. -/
def variableName (name : String) : String := Text.upper name

/-- The winning value of a setting: argument, environment variable, settings file,
default. -/
def winning (s : Sources) (fileValues : List (String × String)) (setting : Setting) : Value :=
  match s.arguments.find? (·.1 == setting.name) with
  | some a => a.2
  | none =>
      match s.environment.find? (·.1 == variableName setting.name) with
      | some e => .str e.2
      | none =>
          match EnvFile.get? fileValues (variableName setting.name) with
          | some v => .str v
          | none => setting.default

end Sources

namespace Declarations

/-- The values of the given settings. -/
def values (s : Sources) (fileValues : List (String × String)) :
    List Setting → Except ValueFault (List (String × Value))
  | [] => .ok []
  | setting :: rest => do
      let value ← setting.type.convert (s.winning fileValues setting)
      let others ← values s fileValues rest
      return (setting.name, value) :: others

/-- The name of the settings themselves, which no argument can have. -/
def reservedArgument : String := "self"

/-- The values of all public settings. -/
def load (d : Declarations) (s : Sources) : Except Failure (List (String × Value)) := do
  if s.arguments.any (·.1 == reservedArgument) then .error .wrongType
  let fileValues ← s.assignments d.file
  values s fileValues (d.settings.filter fun x => isPublic x.name)

end Declarations

end Keyset
