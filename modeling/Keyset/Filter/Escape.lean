/-!
# Keyset — literal patterns

The pattern that matches a text literally: every character with a meaning in
patterns has a backslash before it.
-/

namespace Keyset.Pattern

/-- The characters that are escaped: those with a meaning in patterns, and those
with one in extended patterns, which are blanks and the comment mark. -/
def special : List Char := "()[]\x7b\x7d?*+-|^$\\.&~# \t\n\r\x0b\x0c".toList

/-- Escape one character. -/
def escapeChar (c : Char) : List Char := if special.contains c then ['\\', c] else [c]

/-- The pattern that matches a text literally. -/
def escape (s : String) : String := String.ofList (s.toList.flatMap escapeChar)

end Keyset.Pattern
