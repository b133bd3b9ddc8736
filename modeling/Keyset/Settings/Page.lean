import Keyset.Schema.Config
import Keyset.Settings.Resolve

/-!
# Keyset — settings of pagination

The settings that an application can give to the library from outside, and the
configuration that they make.

* `PageSettings.load` — the settings from all sources.
* `PageSettings.config` — the configuration of loaded settings.
* `PageSettings.Cache` — the settings of the process, loaded on first use.
-/

namespace Keyset.PageSettings

/-- What every setting's name begins with. -/
def namespaceOf (name : String) : String := "pagination_" ++ name

/-- A setting with its default. -/
def setting (name : String) (type : Annotation) (default : Value) : Declaration :=
  ⟨namespaceOf name, type, some default⟩

/-- The class of these settings, read from the file `.env` as well. -/
def declared : SettingsClass :=
  { declarations :=
      [setting "default_page_size" .integer (.int 25),
        setting "max_page_size" (.choice .integer) .null,
        setting "cursor_field" .other (.str "createdAt"),
        setting "cursor_type" .other (.str "Date"),
        setting "soft_delete_field" .other (.str "deletedAt"),
        setting "with_deleted_key" .other (.str "withDeleted"),
        setting "strict_operators" .boolean (.bool false),
        setting "escape_patterns" .boolean (.bool false),
        setting "secret_key" (.choice .other) .null,
        setting "tz_aware" .boolean (.bool false),
        setting "allow_disk_use" .boolean (.bool true)]
    file := some (.file (.str ".env") (.str "utf-8")) }

/-- The settings from all sources. -/
def load (s : Sources) : Except Failure (List (String × Value)) :=
  (Declarations.ofChain [declared]).load s

/-- The names of the configuration's fields. -/
def configNames : List String := (Config.fields {}).map (·.1)

/-- The configuration of loaded settings. -/
def config (values : List (String × Value)) : Except Failure Config :=
  (Config.ofEntries (configNames.map fun name =>
    (.str name, (Value.field? values (namespaceOf name)).getD .null))).run

/-! ## The process -/

/-- The settings of the process, if they were loaded. -/
structure Cache where
  loaded : Option (List (String × Value)) := none

/-- The settings of the process: the loaded ones, else loaded now. A failure loads
nothing. -/
def Cache.get (c : Cache) (s : Sources) : Cache × Except Failure (List (String × Value)) :=
  match c.loaded with
  | some values => (c, .ok values)
  | none =>
      match load s with
      | .ok values => (⟨some values⟩, .ok values)
      | .error f => (c, .error f)

end Keyset.PageSettings
