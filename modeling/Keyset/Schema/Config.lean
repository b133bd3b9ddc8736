import Keyset.Schema.Check

/-!
# Keyset — configuration

What an application fixes for all its paginated queries: page sizes, the default
cursor, soft deletion, the filter policy and the signing of cursors.
-/

namespace Keyset

/-- The configuration of pagination. -/
structure Config where
  /-- The page size when a request gives none. -/
  defaultPageSize : Int := 25
  /-- The greatest page size, if there is one. -/
  maxPageSize : Option Int := none
  cursorField : String := "createdAt"
  cursorType : String := "Date"
  /-- The field that marks a document as deleted. -/
  softDeleteField : String := "deletedAt"
  /-- The filter key that includes deleted documents. -/
  withDeletedKey : String := "withDeleted"
  /-- Whether an unknown filter operator is an error. -/
  strictOperators : Bool := false
  /-- Whether pattern values are matched literally. -/
  escapePatterns : Bool := false
  /-- The secret that signs cursors. -/
  secretKey : Option String := none
  /-- Whether date cursors are read with the UTC offset. -/
  tzAware : Bool := false
  allowDiskUse : Bool := true
  deriving DecidableEq, Inhabited

namespace Config

/-- Check the fields of a configuration. -/
def ofEntries (es : List (Value × Value)) : Check Config :=
  Config.mk
    <$> Check.field es "default_page_size" Check.integer 25
    <*> Check.field es "max_page_size" (Check.nullable Check.integer) none
    <*> Check.field es "cursor_field" Check.text "createdAt"
    <*> Check.field es "cursor_type" Check.text "Date"
    <*> Check.field es "soft_delete_field" Check.text "deletedAt"
    <*> Check.field es "with_deleted_key" Check.text "withDeleted"
    <*> Check.field es "strict_operators" Check.boolean false
    <*> Check.field es "escape_patterns" Check.boolean false
    <*> Check.field es "secret_key" (Check.nullable Check.text) none
    <*> Check.field es "tz_aware" Check.boolean false
    <*> Check.field es "allow_disk_use" Check.boolean true

/-- The fields by name. -/
def fields (c : Config) : List (String × Value) :=
  [("default_page_size", .int c.defaultPageSize),
    ("max_page_size", .ofOption .int c.maxPageSize),
    ("cursor_field", .str c.cursorField),
    ("cursor_type", .str c.cursorType),
    ("soft_delete_field", .str c.softDeleteField),
    ("with_deleted_key", .str c.withDeletedKey),
    ("strict_operators", .bool c.strictOperators),
    ("escape_patterns", .bool c.escapePatterns),
    ("secret_key", .ofOption .str c.secretKey),
    ("tz_aware", .bool c.tzAware),
    ("allow_disk_use", .bool c.allowDiskUse)]

end Config

end Keyset
