import Standings.Service.LogPattern
import Standings.Text.Decimal
import Standings.Text.Split

/-! # Log filters

Which lines of the log are shown. A filter is a list of directives between commas. A directive is
a level alone, or says for which lines its level is meant: `part[span{field=value}]=level`, where
the part of the program, the brackets and the level may each be left out. Without a level it lets
everything through.

Of the directives that care about a line the most specific one decides: that for the longest part,
or else that with the most fields, or else the later one. A line about which none cares is not
shown. -/

namespace Standings

namespace Service

/-- How much is shown, least first. -/
inductive LogLevel where
  /-- Nothing. -/
  | off
  /-- Errors. -/
  | error
  /-- Warnings too. -/
  | warn
  /-- What goes on too. -/
  | info
  /-- What helps to find faults too. -/
  | debug
  /-- Everything. -/
  | trace
  deriving DecidableEq, Repr

namespace LogLevel

/-- The place of a level among the levels. -/
def rank : LogLevel → Nat
  | .off => 0
  | .error => 1
  | .warn => 2
  | .info => 3
  | .debug => 4
  | .trace => 5

/-- The levels with their names, in the order of their ranks. -/
def choices : List (String × LogLevel) :=
  [("off", .off), ("error", .error), ("warn", .warn), ("info", .info), ("debug", .debug),
    ("trace", .trace)]

/-- The name of a level as the log shows it. -/
def name (level : LogLevel) : String :=
  match level with
  | .off => "OFF"
  | .error => "ERROR"
  | .warn => "WARN"
  | .info => "INFO"
  | .debug => "DEBUG"
  | .trace => "TRACE"

/-- Reads a level: its name in any case, or its rank. -/
def read? (text : List Char) : Option LogLevel :=
  match Decimal.readUInt64 text with
  | .ok rank => (choices[rank.toNat]?).map Prod.snd
  | .error _ => choices.lookup (String.ofList text).toLower

end LogLevel

/-- A line of the log. -/
structure LogLine where
  /-- Its level. -/
  level : LogLevel := .info
  /-- The part of the program that has written it. -/
  target : String
  /-- What it says. -/
  message : String
  /-- Further fields. -/
  fields : List (String × String) := []
  deriving DecidableEq, Repr

/-- A field that a directive asks for. -/
structure LogField where
  /-- Its name. -/
  name : String
  /-- Whether it has to have a certain value. -/
  valued : Bool
  deriving DecidableEq, Repr

/-- A part of a filter. -/
structure LogDirective where
  /-- The part of the program it is for; `none` for all. -/
  target : Option String := none
  /-- The span that lines have to be written in. -/
  span : Option String := none
  /-- The fields that lines or their spans have to have. -/
  fields : List LogField := []
  /-- How much is shown. -/
  level : LogLevel := .trace
  deriving DecidableEq, Repr

namespace LogDirective

/-- What the reader of a directive is in the middle of; texts are held last character first. -/
inductive Phase where
  /-- Nothing has been read. -/
  | start
  /-- In a level that stands alone, or in the name of a part. -/
  | head (text : List Char)
  /-- In the name of a span. -/
  | span (text : List Char)
  /-- In a field. -/
  | field (text : List Char)
  /-- Behind the fields. -/
  | fields
  /-- Behind the closing bracket. -/
  | closed
  /-- In the level behind an equals sign. -/
  | level (text : List Char)
  deriving DecidableEq, Repr

/-- Whether a directive may start with a character, other than with a bracket. -/
def isStart (c : Char) : Bool :=
  c = '-' || c = ':' || c = '_' || Text.isAlphanumeric c

/-- The text of characters that are held last character first. -/
def held (text : List Char) : String := String.ofList text.reverse

/-- Reads a field: a name, or a name and a value; what follows a second equals sign is passed
over. -/
def field? (text : List Char) : Option LogField :=
  match Text.pieces '=' text with
  | name :: value :: _ =>
    if LogPattern.isValue value then some ⟨String.ofList name, true⟩ else none
  | _ => some ⟨String.ofList text, false⟩

/-- Takes one character; `none` if it may not stand there. The character `seen` says what comes,
and `kept` is what becomes of it in a text. -/
def step (state : Phase × LogDirective) (seen kept : Char) : Option (Phase × LogDirective) :=
  let (phase, d) := state
  match phase with
  | .start =>
    if seen = '[' then some (.span [], d)
    else if isStart seen then some (.head [kept], d)
    else none
  | .head text =>
    if seen = '=' then some (.level [], { d with target := some (held text) })
    else if seen = '[' then some (.span [], { d with target := some (held text) })
    else some (.head (kept :: text), d)
  | .span text =>
    if seen = ']' then some (.closed, { d with span := some (held text) })
    else if seen = '\x7b' then
      some (.field [], { d with span := if text = [] then none else some (held text) })
    else some (.span (kept :: text), d)
  | .field text =>
    if seen = '\x7d' then
      if text = [] then none
      else (field? text.reverse).map fun field => (.fields, { d with fields := [field] })
    else some (.field (kept :: text), d)
  | .fields => if seen = ']' then some (.closed, d) else none
  | .closed => if seen = '=' then some (.level [], d) else none
  | .level text => some (.level (kept :: text), d)

/-- The directive at the end of a text, of which `rest` is still to be kept; `none` if something
is missing. -/
def finish? (rest : List Char) (state : Phase × LogDirective) : Option LogDirective :=
  let (phase, d) := state
  match phase with
  | .head text =>
    let text := text.reverse ++ rest
    match LogLevel.read? text with
    | some level => some { d with level }
    | none => some { d with target := some (String.ofList text) }
  | .level text =>
    let text := text.reverse ++ rest
    if text = [] then some d
    else (LogLevel.read? text).map fun level => { d with level }
  | .closed => some d
  | _ => none

/-- Reads a directive. What comes is seen in the text without the blanks around it, but what is
kept is cut from the text with them, at the same places: a blank belongs to what it stands by. -/
def parse? (text : List Char) : Option LogDirective :=
  let seen := Text.trim text
  ((seen.zip text).foldlM (fun state (seen, kept) => step state seen kept) (.start, {})).bind
    (finish? (text.drop seen.length))

/-- Whether a directive can decide about lines that are written outside of all spans. -/
def isStatic (d : LogDirective) : Bool :=
  d.span.isNone && d.fields.all (!·.valued)

/-- Whether a directive cares about a line: the line is from its part of the program and has all
the fields it asks for. -/
def concerns (line : LogLine) (d : LogDirective) : Bool :=
  (d.target.getD "").toList.isPrefixOf line.target.toList
    && d.fields.all fun field => field.name = "message" || (line.fields.lookup field.name).isSome

/-- The length of the name of a directive's part, with one for having a part at all. -/
def reach (d : LogDirective) : Nat :=
  match d.target with
  | none => 0
  | some target => target.utf8ByteSize + 1

/-- How specific one directive is against another. -/
def compare (a b : LogDirective) : Ordering :=
  (Ord.compare a.reach b.reach).then <|
    (Ord.compare a.fields.length b.fields.length).then <|
      (Ord.compare (a.target.getD "") (b.target.getD "")).then
        (Ord.compare (a.fields.map LogField.name) (b.fields.map LogField.name))

end LogDirective

/-- A filter. -/
structure LogFilter where
  /-- Its directives. -/
  directives : List LogDirective
  deriving DecidableEq, Repr

namespace LogFilter

/-- Reads a filter; `none` if a directive cannot be read. -/
def parse? (text : String) : Option LogFilter :=
  (((Text.pieces ',' text.toList).filter (!·.isEmpty)).mapM LogDirective.parse?).map LogFilter.mk

/-- The filter that is used if none is set or the one that is set cannot be read. -/
def usual : LogFilter :=
  ⟨[{ level := .info }, { target := some "sqlx", level := .info },
    { target := some "hyper", level := .warn }, { target := some "tower", level := .warn },
    { target := some "h2", level := .error }]⟩

/-- The filter of a setting. -/
def ofSetting (setting : Option String) : LogFilter :=
  (setting.bind parse?).getD usual

/-- The directive that decides about a line. -/
def deciding (filter : LogFilter) (line : LogLine) : Option LogDirective :=
  (filter.directives.filter fun d => d.isStatic && d.concerns line).foldl
    (fun best next =>
      match best with
      | none => some next
      -- Of two that are alike the later one counts.
      | some best => if (best.compare next).isLE then some next else some best)
    none

/-- Whether a line is shown. -/
def passes (filter : LogFilter) (line : LogLine) : Bool :=
  (filter.deciding line).any fun d => line.level.rank ≤ d.level.rank

/-- The lines that a filter shows. -/
def shown (filter : LogFilter) (lines : List LogLine) : List LogLine :=
  lines.filter filter.passes

end LogFilter

end Service

end Standings
