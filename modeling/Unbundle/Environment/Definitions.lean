import Unbundle.Attempt
import Unbundle.Environment.Basic
import Unbundle.FileStore.Basic
import Unbundle.Text.Blank
import Unbundle.Text.File
import Unbundle.Text.Lowercase

/-!
# Files of variable definitions

A definitions file has statements `NAME=value`, one to a line, perhaps with `export` before the
name. Values may stand in quotes, and then span lines; a value can use other variables. A line that
is no statement is told and passed over. What is set in the environment wins over the file, and a
variable of the environment can keep the file from being read.
-/

namespace Unbundle.Definitions

/-! ## Statements -/

/-- Blanks within a line. -/
def isGap (c : Char) : Bool := Text.isBlank c && c != '\n' && c != '\r'

/-- What is left after the blanks of a line. -/
def skipGap (cs : List Char) : List Char := cs.dropWhile isGap

/-- Reading stops where a statement cannot go on; what is left there is passed on. -/
abbrev Reading := Except (List Char)

/-- What is left after the word `export` with a blank behind it. -/
def skipExport (cs : List Char) : List Char :=
  match "export".toList.isPrefixOf cs, cs.drop 6 with
  | true, c :: rest => if isGap c then skipGap rest else cs
  | _, _ => cs

/-- Reads a name: in quotes, or up to a blank, an equals sign or a comment. A comment has none. -/
def readName : List Char → Reading (Option String × List Char)
  | '#' :: rest => .ok (none, '#' :: rest)
  | '\'' :: rest =>
    match rest.takeWhile (· != '\''), rest.dropWhile (· != '\'') with
    | c :: name, _ :: after => .ok (some (String.ofList (c :: name)), after)
    | _, _ => .error ('\'' :: rest)
  | cs =>
    let isName := fun (c : Char) => c != '=' && c != '#' && !Text.isBlank c
    match cs.takeWhile isName with
    | [] => .error cs
    | name => .ok (some (String.ofList name), cs.dropWhile isName)

/-- Splits a text behind an opening quote at the quote that closes it. A backslash takes the
character after it along, whichever it is. -/
def splitQuoted? (quote : Char) : List Char → Option (List Char × List Char)
  | [] => none
  | '\\' :: c :: rest =>
    (splitQuoted? quote rest).map fun (inside, after) => ('\\' :: c :: inside, after)
  | c :: rest =>
    if c == quote then some ([], rest)
    else (splitQuoted? quote rest).map fun (inside, after) => (c :: inside, after)

/-- The character that stands for itself or for a control after a backslash, in text between such
quotes. -/
def escape? (quote c : Char) : Option Char :=
  if c == '\\' || c == '\'' then some c
  else if quote == '\'' then none
  else match c with
    | '"' => some '"'
    | 'a' => some '\x07'
    | 'b' => some '\x08'
    | 'f' => some '\x0c'
    | 'n' => some '\n'
    | 'r' => some '\r'
    | 't' => some '\t'
    | 'v' => some '\x0b'
    | _ => none

/-- A text between quotes with its escapes resolved. -/
def unescape (quote : Char) : List Char → List Char
  | '\\' :: c :: rest =>
    match escape? quote c with
    | some d => d :: unescape quote rest
    | none => '\\' :: unescape quote (c :: rest)
  | c :: rest => c :: unescape quote rest
  | [] => []

/-- Cuts a comment, with the blanks before it, off a value without quotes. -/
def dropComment : List Char → List Char
  | [] => []
  | c :: rest =>
    if Text.isBlank c && (rest.dropWhile Text.isBlank).head? == some '#' then []
    else c :: dropComment rest

/-- Reads a value. -/
def readValue : List Char → Reading (String × List Char)
  | [] => .ok ("", [])
  | c :: rest =>
    if c == '\'' || c == '"' then
      match splitQuoted? c rest with
      | some (inside, after) => .ok (String.ofList (unescape c inside), after)
      | none => .error (c :: rest)
    else
      let onLine := fun (c : Char) => c != '\n' && c != '\r'
      .ok (String.ofList (Text.trimEnd (dropComment ((c :: rest).takeWhile onLine))),
        (c :: rest).dropWhile onLine)

/-- Whether a comment follows after at least one blank. -/
def commentAhead (cs : List Char) : Bool := cs.head?.any isGap && (skipGap cs).head? == some '#'

/-- Reads the value behind a name, if there is an equals sign. A comment behind it leaves the value
empty. -/
def readAssignment : List Char → Reading (Option String × List Char)
  | '=' :: rest =>
    if commentAhead rest then .ok (some "", rest)
    else do
      let (value, after) ← readValue (skipGap rest)
      return (some value, after)
  | cs => .ok (none, cs)

/-- What is left after a comment on the line. -/
def skipComment (cs : List Char) : List Char :=
  match skipGap cs with
  | '#' :: rest => rest.dropWhile fun c => c != '\n' && c != '\r'
  | _ => cs

/-- What is left after the end of the line. -/
def endLine (cs : List Char) : Reading (List Char) :=
  match skipGap cs with
  | [] => .ok []
  | '\r' :: '\n' :: rest => .ok rest
  | c :: rest => if c == '\n' || c == '\r' then .ok rest else .error cs

/-- A name and perhaps a value for it. -/
abbrev Definition := String × Option String

/-- Reads one statement, which may be only a comment. -/
def readStatement (cs : List Char) : Reading (Option Definition × List Char) := do
  let (name, afterName) ← readName (skipExport cs)
  let (value, afterValue) ← readAssignment (skipGap afterName)
  let rest ← endLine (skipComment afterValue)
  return (name.map (·, value), rest)

/-- What is left after the current line. -/
def skipLine (cs : List Char) : List Char :=
  (cs.dropWhile fun c => c != '\n' && c != '\r').drop 1

/-- The definitions of a file, with a notice for each line that is no statement. Reading ends at a
statement that takes nothing, so it comes to an end. -/
def statements (line : Nat) (cs : List Char) : List Notice × List Definition :=
  match cs.dropWhile Text.isBlank with
  | [] => ([], [])
  | text =>
    let (notices, found, rest) := match readStatement text with
      | .ok (definition, rest) => ([], definition.toList, rest)
      | .error stop => ([Notice.unreadableVariable line], [], skipLine stop)
    if rest.length < cs.length then
      let taken := cs.take (cs.length - rest.length)
      let (more, others) := statements (line + taken.count '\n') rest
      (notices ++ more, found ++ others)
    else (notices, found)
termination_by cs.length

/-! ## Values that use variables -/

/-- A reference to a variable behind a dollar sign and a brace: its name, what stands for it if it
is not set, and how many characters the reference takes. -/
def reference? (cs : List Char) : Option (String × String × Nat) :=
  let name := cs.takeWhile fun c => c != '\x7d' && c != ':'
  match cs.drop name.length with
  | '\x7d' :: _ => some (String.ofList name, "", name.length + 1)
  | ':' :: '-' :: rest =>
    let spare := rest.takeWhile (· != '\x7d')
    match rest.drop spare.length with
    | _ :: _ => some (String.ofList name, String.ofList spare, name.length + spare.length + 3)
    | [] => none
  | _ => none

/-- A value with its references resolved. -/
def resolve (lookup : String → Option String) : List Char → List Char
  | '$' :: '\x7b' :: inside =>
    match reference? inside with
    | some (name, spare, size) =>
      ((lookup name).getD spare).toList ++ resolve lookup (inside.drop size)
    | none => '$' :: resolve lookup ('\x7b' :: inside)
  | c :: rest => c :: resolve lookup rest
  | [] => []
termination_by cs => cs.length
decreasing_by all_goals simp only [List.length_drop, List.length_cons]; omega

/-- The names that a text refers to. -/
def referencesIn : List Char → List String
  | '$' :: '\x7b' :: inside =>
    match reference? inside with
    | some (name, _, _) => name :: referencesIn inside
    | none => referencesIn inside
  | _ :: rest => referencesIn rest
  | [] => []

/-- Gives a name a value among definitions; a name keeps its first place. -/
def assign (known : List Definition) (name : String) (value : Option String) : List Definition :=
  if known.any (·.1 == name) then known.map fun d => if d.1 == name then (name, value) else d
  else known ++ [(name, value)]

/-- What a name stands for in a later value: the environment wins, and a name without a value stands
for nothing. -/
def meaning (env : Environment) (known : List Definition) (name : String) : Option String :=
  (env.get? name).or ((known.lookup name).map (·.getD ""))

/-- The definitions with all references resolved, each name once. -/
def resolveAll (env : Environment) (definitions : List Definition) : List Definition :=
  definitions.foldl (fun known (name, value) =>
    assign known name (value.map fun v => String.ofList (resolve (meaning env known) v.toList))) []

/-! ## Loading -/

/-- The file that definitions are read from, in the working directory. -/
def fileName : String := ".env"

/-- The variable that keeps the file from being read. -/
def disablingVariable : String := "PYTHON_DOTENV_DISABLED"

/-- The words with which it does so. -/
def disablingWords : List String := ["1", "true", "t", "yes", "y"]

/-- A word with its case taken away; the long s is an s. -/
def foldCase (word : String) : String :=
  String.ofList ((Text.lowerChars word.toList).map fun c => if c == 'ſ' then 's' else c)

/-- Whether the file is not to be read. -/
def isDisabled (env : Environment) : Bool :=
  (env.get? disablingVariable).any fun word => disablingWords.contains (foldCase word)

/-- The environment with the definitions of the file, if there is one and it is to be read. -/
def load (s : FileStore) (env : Environment) : Attempt Environment := do
  if isDisabled env then return env
  match s.stat fileName with
  | .ok (_, .file _) =>
    let content ← .ofExcept ((s.fetch .use fileName).mapError fun cause => .file ⟨cause, fileName⟩)
    let text ← .ofExcept ((Text.readWhole content).mapError .undecodable)
    let (notices, definitions) := statements 1 text
    .tellAll notices
    .ofExcept <| (resolveAll env definitions).foldlM (fun known (name, value) =>
      match value with
      | some v => known.define name v
      | none => .ok known) env
  | _ => return env

/-- The variables that reading the file, if there is one, may look up. -/
def lookups (s : FileStore) : List String :=
  match s.stat fileName with
  | .ok (_, .file content) =>
    match Text.readWhole content with
    | .ok text => (statements 1 text).2.map (·.1) ++ referencesIn text
    | .error _ => []
  | _ => []

end Unbundle.Definitions
