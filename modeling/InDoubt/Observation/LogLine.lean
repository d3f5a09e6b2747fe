import InDoubt.Json.Writer
import InDoubt.Recovery.Trip
import InDoubt.Settings.Basic

namespace InDoubt

namespace Fields

def set (fields : Fields) (name : String) (value : Value) : Fields :=
  match fields with
  | [] => [(name, value)]
  | (known, old) :: rest =>
      if known = name then (known, value) :: rest else (known, old) :: set rest name value

def update (fields more : Fields) : Fields :=
  more.foldl (fun updated (name, value) => set updated name value) fields

def fill (fields more : Fields) : Fields :=
  more.foldl (fun filled (name, value) =>
    if filled.any (·.1 == name) then filled else filled ++ [(name, value)]) fields

def get? (fields : Fields) (name : String) : Option Value := fields.lookup name

def without (fields : Fields) (names : List String) : Fields :=
  fields.filter fun field => !names.contains field.1

end Fields

namespace LogLine

def timestamp : String := "<ts>"

def requests : List String := ["exc_info", "stack_info"]

/-- All fields of a line: bound ones and the event's own, the event, context variables that are new,
level and time. -/
def fields (bound contextVariables : Fields) (event : Event) : Fields :=
  let own := Fields.set (Fields.update bound event.fields) "event" (.text event.name)
  let filled := Fields.fill own contextVariables
  let dated :=
    Fields.set (Fields.set filled "level" (.text event.level.label)) "timestamp" (.text timestamp)
  Fields.without dated requests

def json? (fields : Fields) : Option String :=
  Json.write? (.dict (fields.map fun (name, value) => (.text name, value)))

def style (code : String) : String := "\x1b[" ++ code ++ "m"

def reset : String := style "0"

def bright : String := style "1"

def dim : String := style "2"

def keyColor : String := style "36"

def valueColor : String := style "35"

def loggerColor : String := style "34"

def levelColor : Level → String
  | .debug | .info => style "32"
  | .warning => style "33"
  | .error | .critical => style "31"

def levelWidth : Nat := 9

def eventWidth : Nat := 30

def padded (width : Nat) (text : String) : String :=
  text ++ String.ofList (List.replicate (width - text.length) ' ')

def needsQuotes (character : Char) : Bool :=
  character = ' ' || character = '\t' || character = '=' || character = '\r' ||
    character = '\n' || character = Text.doubleQuote || character = Text.apostrophe

def shownValue? : Value → Option String
  | .text given => some (if given.toList.any needsQuotes then Text.quoted given else given)
  | value => value.printed?

def pair? (name : String) (value : Value) : Option String := do
  some (keyColor ++ name ++ reset ++ "=" ++ valueColor ++ (← shownValue? value) ++ reset)

def writable? (value : Value) : Option String :=
  value.text?.bind fun codes =>
    if codes.all Text.isCharacter then some (String.ofList (codes.map Char.ofNat)) else none

def loggerName? (name : Value) : Option String := do
  some ("[" ++ reset ++ bright ++ loggerColor ++ (← writable? name) ++ reset ++ "]" ++ reset)

def columns? (level : Level) (fields : Fields) : Option (List String) := do
  let unnamed ← (Fields.get? fields "").mapM (pair? "")
  let event ← (Fields.get? fields "event").mapM writable?
  let logger ← (Fields.get? fields "logger").mapM loggerName?
  let named ← (Fields.get? fields "logger_name").mapM loggerName?
  let always := [
    dim ++ timestamp ++ reset,
    "[" ++ levelColor level ++ bright ++ padded levelWidth level.label ++ reset ++ "]",
    bright ++ padded eventWidth (event.getD "") ++ reset]
  some (unnamed.toList ++ always ++ logger.toList ++ named.toList)

def placed : List String :=
  ["", "event", "level", "timestamp", "logger", "logger_name", "stack", "exception"]

def rule : String := String.ofList (List.replicate 79 '=')

def below? (fields : Fields) (name : String) : Option (Option String) :=
  ((Fields.get? fields name).filter fun value => !value.isNull).mapM writable?

/-- The fields with columns of their own stand first and the others follow by name; a stack and an
exception stand below, with a rule between them. -/
def console? (level : Level) (fields : Fields) : Option String := do
  let columns ← columns? level fields
  let others := (Fields.without fields placed).mergeSort fun first second => first.1 ≤ second.1
  let pairs ← others.mapM fun (name, value) => pair? name value
  let stack ← below? fields "stack"
  let exception ← below? fields "exception"
  let stackPart := match stack with
    | some text =>
        "\n" ++ text ++ if exception.isSome then "\n\n" ++ rule ++ "\n" else ""
    | none => ""
  let exceptionPart := match exception with
    | some text => "\n" ++ text
    | none => ""
  some (" ".intercalate (columns ++ pairs) ++ stackPart ++ exceptionPart)

def breaksLine (character : Char) : Bool :=
  let code := character.toNat
  (0x0a ≤ code && code ≤ 0x0d) || (0x1c ≤ code && code ≤ 0x1e) || code == 0x85 ||
    code == 0x2028 || code == 0x2029

def splitLines : List Char → List (List Char)
  | [] => []
  | '\r' :: '\n' :: rest => [] :: splitLines rest
  | character :: rest =>
      if breaksLine character then [] :: splitLines rest
      else
        match splitLines rest with
        | first :: others => (character :: first) :: others
        | [] => [[character]]

end LogLine

structure Logger where
  threshold : Level
  format : LogFormat
  bound : Fields
  contextVariables : Fields

namespace Logger

def ofSettings (settings : ObservabilitySettings) (bound : Fields) : Logger :=
  ⟨settings.logLevel, settings.logFormat, Fields.update [] bound, []⟩

def bind (logger : Logger) (more : Fields) : Logger :=
  { logger with bound := Fields.update logger.bound more }

def bindContext (logger : Logger) (more : Fields) : Logger :=
  { logger with contextVariables := Fields.update logger.contextVariables more }

def unbound (logger : Logger) : Logger := { logger with bound := [] }

def lines (logger : Logger) (event : Event) : List String :=
  if event.level.rank < logger.threshold.rank then []
  else
    let fields := LogLine.fields logger.bound logger.contextVariables event
    let text := match logger.format with
      | .json => LogLine.json? fields
      | .console => LogLine.console? event.level fields
    match text with
    | some printed => (LogLine.splitLines (printed.toList ++ ['\n'])).map String.ofList
    | none => []

def tripLines (logger : Logger) (trip : Trip) : List String :=
  trip.events.flatMap logger.unbound.lines

end Logger

end InDoubt
