import Keyset.Error.Basic
import Keyset.Number.Basic
import Keyset.Text.Blank
import Keyset.Text.Casing
import Keyset.Text.Utf8
import Keyset.Value.Key

/-!
# Keyset — checking data

A model checks its data field by field and reports everything that is wrong, not
only the first thing. Values are converted where that loses nothing: a text that
spells a number is a number, a whole double is an integer.

* `Check` — a checked value or all complaints; sequencing collects complaints.
* `Check.integer`, `boolean`, `text`, … — the conversions.
* `Check.field`, `Check.required` — the fields of a mapping.
-/

namespace Keyset

/-- A checked value, or everything that is wrong with the data. -/
structure Check (α : Type) where
  result : Except (List Issue) α

namespace Check

/-- A good value. -/
def good {α : Type} (a : α) : Check α := ⟨.ok a⟩

/-- One complaint about the value itself. -/
def bad {α : Type} (kind : IssueKind) : Check α := ⟨.error [⟨[], kind⟩]⟩

/-- Change the value. -/
def map {α β : Type} (f : α → β) (c : Check α) : Check β := ⟨c.result.map f⟩

/-- Check two things and report the complaints about both. -/
def both {α β : Type} (f : Check (α → β)) (a : Unit → Check α) : Check β :=
  match f.result, (a ()).result with
  | .ok f, .ok a => good (f a)
  | .ok _, .error es => ⟨.error es⟩
  | .error es, .ok _ => ⟨.error es⟩
  | .error es, .error fs => ⟨.error (es ++ fs)⟩

instance : Applicative Check where
  pure := good
  map := map
  seq := both

/-- Report complaints as being at a place inside the value. -/
def within {α : Type} (steps : List PathStep) (c : Check α) : Check α :=
  ⟨c.result.mapError fun es => es.map fun e => { e with path := steps ++ e.path }⟩

/-- The checked value, or the failure that reports all complaints. -/
def run {α : Type} (c : Check α) : Except Failure α := c.result.mapError .rejected

/-! ## Texts of numbers -/

/-- Drop the leading zeros of a number text, and the underscores among them, up to its
first other digit, a minus sign or the character before a point. -/
def dropZeros : List Char → Option (List Char)
  | [] => none
  | c :: rest =>
      if startsNumber c then some (c :: rest)
      else if c = '0' then
        let zeros := rest.takeWhile fun d => d = '0' || d = '_'
        match rest.drop zeros.length with
        | [] => some [zeros.getLast?.getD '0']
        | '.' :: tail => some (zeros.getLast?.getD '0' :: '.' :: tail)
        | d :: tail => if startsNumber d then some (d :: tail) else none
      else none
where
  /-- Whether a number without leading zeros may start with a character. -/
  startsNumber (c : Char) : Bool := ('1' ≤ c && c ≤ '9') || c = '-'

/-- Drop a point that zeros follow, one at least, and nothing else. -/
def dropFraction (cs : List Char) : List Char :=
  let whole := cs.takeWhile (· ≠ '.')
  match cs.drop whole.length with
  | _ :: '0' :: fraction => if fraction.all (· = '0') then whole else cs
  | _ => cs

/-- Whether two underscores stand side by side. -/
def doubled : List Char → Bool
  | '_' :: '_' :: _ => true
  | _ :: rest => doubled rest
  | [] => false

/-- Drop single underscores between other characters. -/
def dropUnderscores (cs : List Char) : List Char :=
  if cs.head? = some '_' ∨ cs.getLast? = some '_' ∨ doubled cs then cs
  else cs.filter (· ≠ '_')

/-- The greatest number of digits of a spelled integer. -/
def spellingLimit : Nat := 4300

/-- An integer in its plain spelling: a minus sign or none, and digits without leading
zeros. Too many digits are reported as such, whatever follows them. -/
def plainInteger (cs : List Char) : Check Int :=
  let (negative, body) := match cs with
    | '-' :: rest => (true, rest)
    | rest => (false, rest)
  let digits := body.takeWhile Char.isDigit
  if digits.isEmpty || (digits.head? = some '0' && 1 < digits.length) then bad .intParsing
  else if spellingLimit < digits.length then bad .intParsingSize
  else if digits.length < body.length then bad .intParsing
  else
    let n : Int := digits.foldl (fun n c => n * 10 + (c.toNat - 48 : Nat)) 0
    good (if negative then -n else n)

/-- The plain spelling of a number text, without blanks around it, a plus sign, leading
zeros, an all-zero fraction and underscores between digits. -/
def plainSpelling? (cs : List Char) : Option (List Char) :=
  match Text.stripBoth Text.isSpace cs with
  | '+' :: '-' :: _ => none
  | '+' :: rest => shorten rest
  | '-' :: rest => (shorten rest).map ('-' :: ·)
  | rest => shorten rest
where
  /-- Shorten a number text without a sign. -/
  shorten (cs : List Char) : Option (List Char) :=
    (dropZeros cs).map fun cs => dropUnderscores (dropFraction cs)

/-- The integer that a text spells, plainly or in a way that can be made plain. Only of
a plain text it is reported that it is too long. -/
def integerOfText (s : String) : Check Int :=
  match (plainInteger s.toList).result with
  | .ok n => good n
  | .error [⟨[], .intParsingSize⟩] => bad .intParsingSize
  | .error _ =>
      match (plainSpelling? s.toList).map fun cs => (plainInteger cs).result with
      | some (.ok n) => good n
      | _ => bad .intParsing

/-- The words for the two truth values. -/
def booleanOfText (s : String) : Check Bool :=
  let word := Text.lowerAscii s
  if ["0", "off", "f", "false", "n", "no"].contains word then good false
  else if ["1", "on", "t", "true", "y", "yes"].contains word then good true
  else bad .boolParsing

/-! ## Conversions -/

/-- The first integer beyond a signed word of 64 bits, two to the 63rd. -/
def wordLimit : Int := 9223372036854775808

/-- The integer that a double is, within 64 bits. -/
def integerOfDouble (x : Double) : Check Int :=
  match x with
  | .nan => bad .finiteNumber
  | .infinity _ => bad .finiteNumber
  | .finite .. =>
      match x.toInt? with
      | none => bad .intFromFloat
      | some n => if -wordLimit < n ∧ n < wordLimit then good n else bad .intParsingSize

/-- An integer. -/
def integer : Value → Check Int
  | .int n => good n
  | .bool b => good (if b then 1 else 0)
  | .float x => integerOfDouble x
  | .str s => integerOfText s
  | .bytes bs =>
      match Utf8.decode? bs with
      | some s => integerOfText s
      | none => bad .intParsing
  | _ => bad .intType

/-- The truth value of an integer. -/
def booleanOfInteger (n : Int) : Check Bool :=
  if n = 0 then good false
  else if n = 1 then good true
  else if -wordLimit ≤ n ∧ n < wordLimit then bad .boolParsing
  else bad .boolType

/-- A truth value. -/
def boolean : Value → Check Bool
  | .bool b => good b
  | .int n => booleanOfInteger n
  | .float x =>
      match (integerOfDouble x).result with
      | .ok n => booleanOfInteger n
      | .error _ => bad .boolType
  | .str s => booleanOfText s
  | .bytes bs =>
      match Utf8.decode? bs with
      | some s => booleanOfText s
      | none => bad .boolParsing
  | _ => bad .boolType

/-- A text. -/
def text : Value → Check String
  | .str s => good s
  | .bytes bs =>
      match Utf8.decode? bs with
      | some s => good s
      | none => bad .stringUnicode
  | _ => bad .stringType

/-- Null, or something else. -/
def nullable {α : Type} (check : Value → Check α) : Value → Check (Option α)
  | .null => good none
  | v => (check v).map some

/-- Check all items of a list, each at its index. -/
def items {α : Type} (check : Value → Check α) : Nat → List Value → Check (List α)
  | _, [] => good []
  | i, v :: rest =>
      both (((check v).within [.index i]).map List.cons) fun _ => items check (i + 1) rest

/-- A list. -/
def list {α : Type} (check : Value → Check α) : Value → Check (List α)
  | .list vs => items check 0 vs
  | .tuple vs => items check 0 vs
  | _ => bad .listType

/-- A mapping, by its entries. -/
def mapping {α : Type} (check : List (Value × Value) → Check α) : Value → Check α
  | .mapping es => check es
  | _ => bad .modelType

/-- The step that names a mapping's key: an integer within 64 bits by itself, any
other key that is no text by its quoted form. -/
def keyStep : Value → PathStep
  | .str s => .name s
  | .bool b => .index (if b then 1 else 0)
  | .int n =>
      if -wordLimit ≤ n ∧ n < wordLimit then .index n
      else .name (quotedKey (.int n))
  | v => .name (quotedKey v)
where
  /-- A key in its quoted form, or its type where that cannot be written. -/
  quotedKey (v : Value) : String :=
    v.quoted.toOption.getD ("<unprintable " ++ v.typeName ++ " object>")

/-- Check that all keys are texts. -/
def entries : List (Value × Value) → Check (List (String × Value))
  | [] => good []
  | (k, v) :: rest =>
      both (((text k).within [keyStep k, .name "[key]"]).map fun s more => (s, v) :: more)
        fun _ => entries rest

/-- Put a value under a text key, in place of the present one or at the end. -/
def putField (fields : List (String × Value)) (name : String) (v : Value) :
    List (String × Value) :=
  match fields with
  | [] => [(name, v)]
  | f :: rest => if f.1 = name then (name, v) :: rest else f :: putField rest name v

/-- A mapping with text keys and any values. Two keys may become one text; then
the last value counts. -/
def textMapping : Value → Check (List (String × Value))
  | .mapping es =>
      (entries es).map fun fields => fields.foldl (fun acc f => putField acc f.1 f.2) []
  | _ => bad .dictType

/-! ## Fields -/

/-- An optional field of a mapping, with its default. -/
def field {α : Type} (es : List (Value × Value)) (name : String) (check : Value → Check α)
    (default : α) : Check α :=
  match Entries.field? es name with
  | some v => (check v).within [.name name]
  | none => good default

/-- A field that may be given under an alias or, without that, under its name; a
missing one is reported under the alias. -/
def aliased {α : Type} (es : List (Value × Value)) (outer name : String) (check : Value → Check α)
    (default : Option α) : Check α :=
  match Entries.field? es outer, Entries.field? es name with
  | some v, _ => (check v).within [.name outer]
  | none, some v => (check v).within [.name name]
  | none, none =>
      match default with
      | some a => good a
      | none => (bad .missing).within [.name outer]

/-- A field that must be given. -/
def required {α : Type} (es : List (Value × Value)) (name : String) (check : Value → Check α) :
    Check α :=
  match Entries.field? es name with
  | some v => (check v).within [.name name]
  | none => (bad .missing).within [.name name]

end Check

end Keyset
