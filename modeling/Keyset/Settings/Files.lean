/-!
# Keyset — files by path

Where a path leads from the working directory. Of the directories around it only those
are known that every system has.

* `Files.Entry` — what stands under a path.
* `Files.find` — look up a path.
-/

namespace Keyset.Files

/-- What stands under a path. -/
inductive Entry where
  | missing
  | directory
  /-- Paths, or names in them, cannot be so long. -/
  | tooLong
  | file (content : List UInt8)
  deriving DecidableEq, Repr

/-- A directory on the way: below the working directory, or outside of it, with the
directories in it that are known. -/
inductive Place where
  | inside (parts : List String)
  | outside (known : List String)

/-- The directories of the root. -/
def rootDirectories : List String :=
  ["bin", "boot", "dev", "etc", "home", "lib", "media", "mnt", "opt", "proc", "root", "run",
    "sbin", "srv", "sys", "tmp", "usr", "var"]

/-- The parts of a path, without those that stay where they are. -/
def pathParts (path : String) : List String := (path.splitOn "/").filter fun p => p ≠ "" ∧ p ≠ "."

/-- The greatest length of a name in bytes. -/
def nameLimit : Nat := 255

/-- The greatest length of a path in bytes. -/
def pathLimit : Nat := 4095

/-- The content of a file below the working directory. -/
def content? (files : List (String × List UInt8)) (parts : List String) : Option (List UInt8) :=
  (files.find? fun f => pathParts f.1 = parts).map (·.2)

/-- Whether something stands below the parts. -/
def isDirectory (files : List (String × List UInt8)) (parts : List String) : Bool :=
  files.any fun f => parts.isPrefixOf (pathParts f.1)

/-- Go from a directory along the parts of a path. -/
def walk (files : List (String × List UInt8)) : Place → List String → Entry
  | _, [] => .directory
  | .outside known, name :: rest =>
      if name = ".." then walk files (.outside rootDirectories) rest
      else if nameLimit < name.utf8ByteSize then .tooLong
      else if known.contains name then walk files (.outside []) rest
      else .missing
  | .inside parts, name :: rest =>
      if name = ".." then
        walk files (if parts.isEmpty then .outside [] else .inside parts.dropLast) rest
      else if nameLimit < name.utf8ByteSize then .tooLong
      else
        let here := parts ++ [name]
        match content? files here with
        | some content => if rest.isEmpty then .file content else .missing
        | none => if isDirectory files here then walk files (.inside here) rest else .missing

/-- Look up a path: from the root if it begins with a slash, else from the working
directory. -/
def find (files : List (String × List UInt8)) (path : String) : Entry :=
  let parts := pathParts path
  let absolute := path.toList.head? = some '/'
  let length := ("/".intercalate parts).utf8ByteSize + if absolute then 1 else 0
  if path.toList.contains '\x00' then .missing
  else if pathLimit < length then .tooLong
  else walk files (if absolute then .outside rootDirectories else .inside []) parts

end Keyset.Files
