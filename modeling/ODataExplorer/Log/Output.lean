import ODataExplorer.Log.Entry
import ODataExplorer.Log.Message

/-!
The output of the log.

Records come from named loggers, and the names form a tree with dots between its levels. The root
sets the threshold; two noisy trees have one of their own. What passes is written, as an object on
one line or as text. A record whose message does not fit its arguments leaves no trace; one whose
further fields take the name of a field that every record has is a fault.
-/

namespace ODataExplorer.Log

open Text

/-- A record as it is handed to a logger. -/
structure Record where
  logger : String
  level : Level
  /-- The message. One that is an object is a number of fields for lines that are objects. -/
  message : Json
  arguments : List Json := []
  /-- Further fields, which only lines that are objects show. -/
  extra : List (String × Json) := []

/-- How lines are written. -/
inductive LineFormat where
  | text
  | object
  deriving DecidableEq, Repr

/-- The format of a name; objects unless text is asked for. -/
def LineFormat.named (name : String) : LineFormat := if name == "text" then .text else .object

/-- A set-up of the log: the threshold of the root, and the format of lines. -/
structure Setup where
  threshold : Level
  format : LineFormat
  deriving DecidableEq, Repr

/-- Why a log cannot be set up. -/
inductive SetupFault where
  | unknownLevel (name : String)
  deriving DecidableEq, Repr

def SetupFault.message : SetupFault → String
  | .unknownLevel _ => "Unable to configure logger ''"

/-- The set-up that settings ask for. -/
def Setup.ofNames (level format : String) : Except SetupFault Setup :=
  match Level.named? level with
  | some threshold => .ok ⟨threshold, .named format⟩
  | none => .error (.unknownLevel level)

/-- The trees that have a threshold of their own: the client's requests and the server's. -/
def ownThresholds : List (String × Level) := [("httpx", .warning), ("uvicorn", .info)]

/-- Whether a logger is in the tree below a name. -/
def isWithin (tree logger : String) : Bool :=
  logger == tree || (tree ++ ".").toList.isPrefixOf logger.toList

/-- The name of a logger; the root has one too. -/
def Record.loggerName (record : Record) : String :=
  if record.logger.isEmpty then "root" else record.logger

namespace Setup

/-- The threshold of a logger. -/
def thresholdOf (setup : Setup) (logger : String) : Level :=
  match ownThresholds.find? fun (tree, _) => isWithin tree logger with
  | some (_, level) => level
  | none => setup.threshold

/-- Whether a record passes. One without a level never does. -/
def lets (setup : Setup) (record : Record) : Bool :=
  record.level != .unset && (setup.thresholdOf record.logger).rank ≤ record.level.rank

end Setup

/-! ## Fields -/

/-- The names that further fields cannot have: those of the fields of every record. -/
def takenNames : List String := [
  "message", "asctime", "name", "msg", "args", "levelname", "levelno", "pathname", "filename",
  "module", "exc_info", "exc_text", "stack_info", "lineno", "funcName", "created", "msecs",
  "relativeCreated", "thread", "threadName", "processName", "process"]

/-- Why a record cannot be made. -/
inductive RecordFault where
  | nameTaken (name : String)
  deriving DecidableEq, Repr

def RecordFault.message : RecordFault → String
  | .nameTaken name => s!"Attempt to overwrite {quoted name} in LogRecord"

/-- The fault of a record, if it has one. -/
def Record.fault? (record : Record) : Option RecordFault :=
  (record.extra.find? fun (name, _) => takenNames.contains name).map fun (name, _) =>
    .nameTaken name

/-! ## Lines -/

/-- A written line. -/
inductive Line where
  | text (line : String)
  | object (fields : Json)

/-- The text of the message of a record, if its placeholders fit its arguments. -/
def Record.text? (record : Record) : Option String :=
  messageText? (plainly record.message) record.arguments

/-- What a record says as fields: its text, or the fields that its message is. The time is not
among them. -/
def Record.said? (record : Record) : Option (List (String × Json)) :=
  match record.message with
  | .object members =>
    some (("message", .string "") :: members.filter fun (name, _) => name != "asctime")
  | _ => record.text?.map fun text => [("message", .string text)]

/-- The fields of a line that is an object: the two of context are always there, and further ones
are shown unless their name starts with an underscore. -/
def Record.fields (record : Record) (said : List (String × Json)) : Json :=
  let further := record.extra.filter fun (name, _) => name.toList.head? != some '_'
  .ofMembers ([
    ("name", .string record.loggerName), ("levelname", .string record.level.name),
    ("source_url", .null), ("odata_version", .null)] ++ said ++ further)

/-- The width of the column of levels. -/
def levelWidth : Nat := 8

/-- The text that a record is written as. -/
def Record.textLine (record : Record) (message : String) : String :=
  let level := record.level.name
  let padding := String.ofList (List.replicate (levelWidth - level.length) ' ')
  s!"{level}{padding} {record.loggerName}: {message}"

namespace Setup

/-- The lines of a record that passes. A text with line ends in it takes several. -/
def linesOf (setup : Setup) (record : Record) : List Line :=
  match setup.format with
  | .text =>
    match record.text? with
    | some message => (Text.lines (record.textLine message).toList).map (.text <| .ofList ·)
    | none => []
  | .object => (record.said?.map fun said => .object (record.fields said)).toList

/-- The lines of records, or the fault of the first that has one. -/
def lines (setup : Setup) (records : List Record) : Except RecordFault (List Line) := do
  let written ← (records.filter setup.lets).mapM fun record =>
    match record.fault? with
    | some fault => .error fault
    | none => .ok (setup.linesOf record)
  return written.flatten

end Setup

/-- What the service itself records when it starts and when it stops. -/
def duringService (records : List Record) : List Record :=
  let own (message : String) : Record := { logger := "odata_api.main", level := .info, message := .string message }
  own "Starting OData explorer API service" :: records ++
    [own "Shutting down OData explorer API service"]

end ODataExplorer.Log
