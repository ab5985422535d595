import Standings.Settings.Environment
import Standings.Text.Alphanumeric
import Standings.Text.Blank
import Standings.Text.Split

/-! # Environment files

A file of environment variables, one `NAME=value` to a line, with `export` before the name if one
likes. Blank lines and lines that start with a hash are comments, and so is what follows a blank
and a hash behind a value. In single quotes a value stands as it is. Otherwise a backslash takes
the special meaning from the next character, and `$NAME` or `$`, a brace, a name and a brace stand
for a variable: that of the environment, or one of an earlier line.

A variable that is already set keeps its value. Reading stops at the first line that cannot be
read; what the lines before it have set stays. -/

namespace Standings

namespace DotEnv

/-- What the reader of a value is in the middle of. -/
inductive Phase where
  /-- Characters that stand for themselves. -/
  | plain
  /-- Behind a backslash. -/
  | escaped
  /-- In the name of a variable, with or without braces, last character first. -/
  | name (braced : Bool) (chars : List Char)
  /-- Behind a blank, where only a comment may follow. -/
  | ended
  /-- In a comment. -/
  | comment
  deriving DecidableEq, Repr

/-- A value that is being read. -/
structure Reading where
  /-- The quotation mark that has to come, if one is open. -/
  quote : Option Char := none
  /-- What the reader is in the middle of. -/
  phase : Phase := .plain
  /-- The value so far, last character first. -/
  output : List Char := []
  deriving DecidableEq, Repr

namespace Reading

/-- Puts a character behind the value. -/
def push (r : Reading) (c : Char) : Reading :=
  { r with phase := .plain, output := c :: r.output }

/-- Puts the value of a variable behind the value. -/
def substitute (env : Environment) (r : Reading) (name : List Char) : Reading :=
  { r with
    phase := .plain
    output := ((env (String.ofList name.reverse)).getD "").toList.reverse ++ r.output }

/-- Takes a character that is part of no escape, name or comment. -/
def plainStep (r : Reading) (c : Char) : Reading :=
  if r.quote = some '\'' then
    if c = '\'' then { r with quote := none } else r.push c
  else if c = '$' then { r with phase := .name false [] }
  else if r.quote = some '"' ∧ c = '"' then { r with quote := none }
  else if c = '\\' then { r with phase := .escaped }
  else if r.quote = some '"' then r.push c
  else if c = '\'' ∨ c = '"' then { r with quote := some c }
  else if c = ' ' ∨ c = '\t' then { r with phase := .ended }
  else r.push c

/-- Takes one character; `none` if it may not stand there. -/
def step (env : Environment) (r : Reading) (c : Char) : Option Reading :=
  match r.phase with
  | .plain => some (r.plainStep c)
  | .comment => some r
  | .ended =>
    if c = ' ' ∨ c = '\t' then some r
    else if c = '#' then some { r with phase := .comment }
    else none
  | .escaped =>
    if c = 'n' then some (r.push '\n')
    else if ['\\', '\'', '"', '$', ' '].contains c then some (r.push c)
    else none
  | .name true chars =>
    if c = '\x7d' then some (r.substitute env chars)
    else some { r with phase := .name true (c :: chars) }
  | .name false chars =>
    if Text.isAlphanumeric c then some { r with phase := .name false (c :: chars) }
    else if c = '\x7b' ∧ chars = [] then some { r with phase := .name true [] }
    else
      -- The name ends here. A character behind it stands for itself, unless it starts a name.
      let r := r.substitute env chars
      if c = '$' then some { r with phase := .name false [] } else some (r.push c)

/-- The value at the end of a line; `none` if a quotation mark or a brace is still open. -/
def finish (env : Environment) (r : Reading) : Option String :=
  if r.quote.isSome then none
  else match r.phase with
    | .name true _ => none
    | .name false chars => some (String.ofList (r.substitute env chars).output.reverse)
    | _ => some (String.ofList r.output.reverse)

end Reading

/-- Reads a value. -/
def value? (env : Environment) (text : List Char) : Option String :=
  (text.foldlM (Reading.step env) {}).bind (Reading.finish env)

/-- Reads a name and returns what follows it. -/
def name? (text : List Char) : Option (String × List Char) :=
  match text with
  | [] => none
  | first :: _ =>
    if first.isAlpha ∨ first = '_' then
      let isNameChar (c : Char) : Bool := c.isAlphanum || c = '_' || c = '.'
      some (String.ofList (text.takeWhile isNameChar), text.dropWhile isNameChar)
    else none

/-- Drops the blanks at the start of a text. -/
def skip (text : List Char) : List Char := text.dropWhile Text.isBlank

/-- Drops an equals sign at the start of a text. -/
def equals? : List Char → Option (List Char)
  | '=' :: rest => some rest
  | _ => none

/-- The name that a line sets, and the text of the value. -/
def assignment? (line : List Char) : Option (String × List Char) := do
  let (name, rest) ← name? line
  let rest := skip rest
  match equals? rest with
  | some value => return (name, skip value)
  | none =>
    if name = "export" then
      let (name, rest) ← name? rest
      let value ← equals? (skip rest)
      return (name, skip value)
    else none

/-- Reads a line: `some none` for a comment, `none` if it cannot be read. -/
def line? (env : Environment) (line : List Char) :
    Option (Option (String × String)) :=
  let line := (skip ((line.reverse.dropWhile Text.isBlank).reverse))
  if line = [] ∨ line.head? = some '#' then some none
  else do
    let (name, text) ← assignment? line
    if text = [] ∨ text.head? = some '#' then return some (name, "")
    else
      let value ← value? env text
      return some (name, value)

/-- Sets variables line by line, as long as lines can be read. -/
def setFrom (bindings : List (String × String)) : List (List Char) → List (String × String)
  | [] => bindings
  | line :: rest =>
    match line? (.ofBindings bindings) line with
    | none => bindings
    | some none => setFrom bindings rest
    | some (some (name, value)) =>
      -- What is set already stays as it is.
      if (Environment.ofBindings bindings name).isSome then setFrom bindings rest
      else setFrom (bindings ++ [(name, value)]) rest

/-- The variables that are set after a file has been read. -/
def load (bindings : List (String × String)) (file : String) : List (String × String) :=
  setFrom bindings (Text.pieces '\n' file.toList)

/-- The names that stand somewhere in a file, whether they are set there or asked for. -/
def mentioned (file : String) : List String :=
  ((file.toList.map fun c => if Text.isAlphanumeric c ∨ c = '_' ∨ c = '.' then c else ' ')
    |> Text.pieces ' ').filterMap fun name =>
      if name = [] then none else some (String.ofList name)

end DotEnv

end Standings
