import Keyset.Journal.Line
import Keyset.Journal.Template
import Keyset.Json.Encodable
import Keyset.Text.Utf8

/-!
# Keyset — the journal

An application that wants the engine's log entries on its output opens a journal.
The journal drops entries below its threshold, completes the others and writes them
as interchange documents or as lines for people.

* `Journal.start` — a journal as its settings ask for, and its own first entry.
* `Journal.Call` — a call that writes an entry, and `Journal.Call.ofEntry`, the call
  that an engine's entry is.
* `Journal.write` — what a call writes.
-/

namespace Keyset

/-- How severe an entry has to be to be written: the greater, the more severe. -/
def Level.severity : Level → Nat
  | .debug => 10
  | .info => 20
  | .warning => 30
  | .error => 40
  | .critical => 50

/-- A journal. -/
structure Journal where
  /-- The name that lines for people show. -/
  service : Value := .str "docpager"
  /-- The least severity that is written. -/
  threshold : Nat := Level.info.severity
  /-- Whether entries are written as documents. -/
  documents : Bool := true

namespace Journal

/-! ## Calls -/

/-- A call that writes an entry. -/
structure Call where
  logger : Value
  /-- What the logger knows beforehand. -/
  initial : List (String × Value) := []
  /-- The name of the level, as calls spell it. -/
  method : String
  event : Value
  /-- The arguments of the event, if it is a template. -/
  arguments : List Value := []
  fields : List (String × Value) := []

/-- The call that an entry of the engine is. -/
def Call.ofEntry (e : LogEntry) : Call where
  logger := .str e.logger
  method := e.level.text
  event := .str e.event
  fields := e.fields

/-- The levels by the names that calls use. -/
def methods : List (String × Level) :=
  [("debug", .debug), ("info", .info), ("warning", .warning), ("warn", .warning),
    ("error", .error), ("exception", .error), ("critical", .critical), ("fatal", .critical)]

/-- Names that a logger's own knowledge may not have. -/
def reservedInitially : List String := ["name", "logger", "logger_factory_args"]

/-- Names that the fields of a call may not have. -/
def reservedInCalls : List String := ["self", "event", "method_name"]

/-- Whether some field has one of the names. -/
def anyNamed (names : List String) (fields : List (String × Value)) : Bool :=
  fields.any fun f => names.contains f.1

/-- The name of a logger; without one it is the root of all loggers. -/
def loggerName (v : Value) : Except Failure String :=
  match v with
  | .str s => .ok (if s.isEmpty then "root" else s)
  | v => if v.truthy then .error .wrongType else .ok "root"

/-! ## Completing events -/

/-- Put text fields into an event. -/
def putAll (e : Event) (fields : List (String × Value)) : Event :=
  fields.foldl (fun e f => Entries.put e (.str f.1) f.2) e

/-- What is known of a call before the journal adds to it. -/
def initialEvent (c : Call) : Event :=
  let e := putAll [] (c.initial ++ c.fields)
  let e := match c.event with
    | .null => e
    | v => Entries.put e (.str "event") v
  if c.arguments.isEmpty then e
  else Entries.put e (.str "positional_args") (.tuple c.arguments)

/-- The arguments of a template: one nonempty mapping alone stands for its entries. -/
def supply (v : Value) : Except Failure Supply :=
  let ofItems (items : List Value) : Supply := match items with
    | [.mapping (e :: es)] => .single (.mapping (e :: es))
    | _ => .single v
  match v with
  | .tuple items => .ok (ofItems items)
  | .list items => .ok (ofItems items)
  | .mapping _ => .ok (.single v)
  | .str _ => .ok (.single v)
  | .bytes _ => .ok (.single v)
  | _ => .error .wrongType

/-- Write the arguments of an event into its message. -/
def fillMessage (e : Event) : Except Failure Event :=
  match Entries.field? e "positional_args" with
  | none => .ok e
  | some .null => .ok e
  | some v =>
      if v.truthy then do
        let s ← supply v
        match Entries.field? e "event" with
        | none => .error .missingKey
        | some (.str template) =>
            let message ← Template.fill template s
            return Entries.erase (Entries.put e (.str "event") (.str message)) "positional_args"
        | some _ => .error .wrongType
      else .ok (Entries.erase e "positional_args")

/-- Bytes as text; ill-formed bytes are replaced. -/
def decodeBytes (e : Event) : Event :=
  e.map fun (k, v) => match v with
    | .bytes bs => (k, .str (Utf8.decodeLossy bs))
    | v => (k, v)

/-- An event with everything that a journal adds: logger, level, message, component and
time. Requests for traces are dropped, as there is nothing to trace. -/
def complete (now logger : String) (level : Level) (e : Event) : Except Failure Event := do
  let e := putAll e [("logger", .str logger), ("level", .str level.text)]
  let e ← fillMessage e
  let e ← Event.tagComponent e
  let e := Entries.put e (.str "timestamp") (.str now)
  return decodeBytes (Entries.erase (Entries.erase e "stack_info") "exc_info")

/-! ## Writing -/

/-- A line of a journal. -/
inductive Line where
  | document (fields : Value)
  | text (s : String)

/-- The lines of a completed event. -/
def lines (j : Journal) (e : Event) : Except Failure (List Line) := do
  if j.documents then
    return [.document (← Json.encodable Json.lenient (.mapping e))]
  else
    let (shown, _) ← Event.line j.service e
    return (shown.splitOn "\n").map .text

/-- What follows an entry about an exception when none is being handled. -/
def noException : Line := .text "NoneType: None"

/-- What a call writes at a time. -/
def write (j : Journal) (now : String) (c : Call) : Except Failure (List Line) := do
  if anyNamed reservedInitially c.initial then .error .wrongType
  let logger ← loggerName c.logger
  match methods.lookup c.method with
  | none => .error .noAttribute
  | some level =>
      if anyNamed reservedInCalls c.fields then .error .wrongType
      if level.severity < j.threshold then return []
      let written ← j.lines (← complete now logger level (initialEvent c))
      return written ++ if c.method = "exception" then [noException] else []

/-! ## Opening -/

/-- The thresholds by name. -/
def thresholds : List (String × Nat) :=
  [("CRITICAL", 50), ("FATAL", 50), ("ERROR", 40), ("WARNING", 30), ("WARN", 30), ("INFO", 20),
    ("DEBUG", 10), ("NOTSET", 0)]

/-- The threshold that a level's name asks for, in capital or small letters. -/
def thresholdOf : Value → Except Failure Nat
  | .str s => match thresholds.lookup (Text.upper s) with
    | some n => .ok n
    | none => .error .noAttribute
  | .bytes _ => .error .wrongType
  | _ => .error .noAttribute

/-- The entry with which a journal begins. -/
def firstCall (service format : Value) : Call where
  logger := .str "docpager.logging_config"
  method := "info"
  event := .str "Logging configured"
  fields := [("service", service), ("log_format", format)]

/-- The names of the settings. -/
def settingNames : List String := ["service_name", "log_level", "log_format"]

/-- Open a journal with settings by name, and write its first entry. -/
def start (now : String) (settings : List (String × Value)) :
    Except Failure (Journal × List Line) := do
  if settings.any fun s => !settingNames.contains s.1 then .error .wrongType
  let setting (name default : String) : Value := (Value.field? settings name).getD (.str default)
  let service := setting "service_name" "docpager"
  let format := setting "log_format" "json"
  let documents := match format with
    | .str s => s == "json"
    | _ => false
  let j : Journal := ⟨service, ← thresholdOf (setting "log_level" "INFO"), documents⟩
  return (j, ← j.write now (firstCall service format))

end Journal

end Keyset
