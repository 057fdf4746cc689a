import Unbundle.Text.Blank
import Unbundle.Text.Lowercase
import Unbundle.Tree.Node

/-!
# Reading a script

A small reader of PowerShell scripts that builds the part of the syntax tree that splitting needs:
the callables, the string literals and the names of commands, nested as the brackets and strings
around them.

The reader goes through the text once. What is open at a place - brackets, expandable strings,
callables whose body has not ended - is a stack of frames.
-/

namespace Unbundle.Script

/-- Where in a statement the reader stands. -/
inductive Place
  /-- At the start of a statement. -/
  | statement
  /-- Where a command may stand, inside a statement. -/
  | command
  /-- Elsewhere. -/
  | inside
  deriving DecidableEq, Repr

/-- The constructs that can be open. -/
inductive Opened
  /-- Code in brackets. -/
  | block
  /-- A string in double quotes. -/
  | quoted
  /-- A here-string in double quotes. -/
  | here
  /-- A callable after its name. -/
  | callable
  deriving DecidableEq, Repr

/-- An open construct: where it starts and what has been found in it, latest first. -/
structure Frame where
  opened : Opened
  start : Nat
  found : List Node := []

/-- How far the reader is: the byte offset, the place, the open constructs, innermost first, and
what has been found outside of them, latest first. -/
structure State where
  offset : Nat := 0
  place : Place := .statement
  frames : List Frame := []
  found : List Node := []

/-- A node without children. -/
def leaf (kind : String) (named : Bool) (start stop : Nat) : Node :=
  .mk { kind, start, stop, named } []

namespace State

/-- Adds a node to the innermost open construct. -/
def add (s : State) (node : Node) : State :=
  match s.frames with
  | [] => { s with found := node :: s.found }
  | f :: rest => { s with frames := { f with found := node :: f.found } :: rest }

/-- Opens a construct that starts at `start`. -/
def push (s : State) (opened : Opened) (start : Nat) (place : Place) : State :=
  { s with frames := ⟨opened, start, []⟩ :: s.frames, place }

/-- The kind of node that a construct becomes. -/
def nodeKind : Opened → String
  | .block => "block"
  | .quoted => "string_literal"
  | .here => "here_string_literal"
  | .callable => "function_statement"

/-- Closes the innermost construct at byte `stop`. -/
def pop (s : State) (stop : Nat) (place : Place) : State :=
  match s.frames with
  | [] => { s with place }
  | f :: rest =>
    let node :=
      .mk { kind := nodeKind f.opened, start := f.start, stop, named := true } f.found.reverse
    { (({ s with frames := rest } : State).add node) with place }

/-- Takes a callable back that has no body: the keyword and the name are words like others, and what
was found after them is found where the callable would stand. -/
def withdraw (s : State) : State :=
  match s.frames with
  | ⟨.callable, _, found⟩ :: rest =>
    (found.reverse.drop 2).foldl add { s with frames := rest, place := .inside }
  | _ => s

/-- Closes all constructs that are open, at byte `stop`. -/
def finish (s : State) (stop : Nat) : List Node :=
  let s := s.withdraw
  let rec close : List Frame → List Node → List Node
    | [], found => found
    | f :: rest, found =>
      let node :=
        .mk { kind := nodeKind f.opened, start := f.start, stop, named := true } found.reverse
      match rest with
      | [] => node :: s.found
      | g :: _ => close rest (node :: g.found)
  match s.frames with
  | [] => s.found.reverse
  | f :: _ => (close s.frames f.found).reverse

end State

/-- How many bytes characters take. -/
def byteSize (cs : List Char) : Nat := (Utf8.encodeChars cs).length

/-- Brackets that open. -/
def isOpening (c : Char) : Bool := c == '(' || c == '[' || c == '\x7b'

/-- Brackets that close. -/
def isClosing (c : Char) : Bool := c == ')' || c == ']' || c == '\x7d'

/-- Quotes. -/
def isQuote (c : Char) : Bool := c == '\'' || c == '"'

/-- Characters that end the name of a callable. -/
def endsName (c : Char) : Bool :=
  Text.isBlank c || isOpening c || isClosing c || isQuote c || c == ';' || c == '|' || c == '&'

/-- Characters that end a word. -/
def endsWord (c : Char) : Bool := endsName c || c == ',' || c == '`'

/-- The words that start a callable. -/
def callableKeywords : List String := ["function", "filter", "workflow"]

/-- The operators that assign and are words of their own. -/
def assignments : List String := ["+=", "-=", "*=", "/=", "%=", "??="]

/-- How many characters follow an opening quote up to and including the one that closes; a quote
inside is doubled. -/
def verbatimLength : List Char → Nat
  | [] => 0
  | '\'' :: '\'' :: rest => 2 + verbatimLength rest
  | '\'' :: _ => 1
  | _ :: rest => 1 + verbatimLength rest

/-- How many characters stand before the first occurrence of `mark`, and its length; all if there is
none. -/
def lengthThrough (mark : List Char) : List Char → Nat
  | [] => 0
  | c :: rest => if mark.isPrefixOf (c :: rest) then mark.length else 1 + lengthThrough mark rest

/-- How many characters follow an opened here-string mark before the line feed that begins its body,
if one does. -/
def hereGap (cs : List Char) : Option Nat :=
  let gap := cs.takeWhile fun c => Text.isBlank c && c != '\n'
  if (cs.drop gap.length).head? == some '\n' then some gap.length else none

/-- How many characters a backtick takes: the line ending that it joins, or the character that it
protects. -/
def escapeLength : List Char → Nat
  | '\r' :: '\n' :: _ => 2
  | [] => 0
  | _ => 1

/-- Whether a backtick joins the next line to this one. -/
def joinsLines : List Char → Bool
  | '\r' :: '\n' :: _ => true
  | '\n' :: _ => true
  | _ => false

/-- Whether a here-string begins here. -/
def opensHere : List Char → Bool
  | '@' :: quote :: rest => isQuote quote && (hereGap rest).isSome
  | _ => false

/-- The word that goes on here, up to a character that ends it or a here-string. -/
def wordRest (ends : Char → Bool) : List Char → List Char
  | [] => []
  | c :: rest => if ends c || opensHere (c :: rest) then [] else c :: wordRest ends rest

/-- The word that starts with `c`; a variable ends before an equals sign. -/
def wordFrom (c : Char) (cs : List Char) : List Char :=
  if c == '=' then [c]
  else if c == '$' then c :: wordRest (fun d => endsWord d || d == '=') cs
  else c :: wordRest endsWord cs

/-- What is left after blanks and comments. -/
def skipBlanks : List Char → List Char
  | [] => []
  | '#' :: rest => skipBlanks (rest.dropWhile (· != '\n'))
  | '<' :: '#' :: rest => skipBlanks (rest.drop (lengthThrough ['#', '>'] rest))
  | c :: rest => if Text.isBlank c then skipBlanks rest else c :: rest
termination_by cs => cs.length
decreasing_by
  · have := (List.dropWhile_sublist (l := rest) (· != '\n')).length_le
    simp only [List.length_cons]; omega
  · simp only [List.length_drop, List.length_cons]; omega
  · simp only [List.length_cons]; omega

/-- Whether the header of a callable goes on here: with its body or, if it may have parameters yet,
with those. -/
def headerGoesOn (parameters : Bool) (cs : List Char) : Bool :=
  match skipBlanks cs with
  | '\x7b' :: _ => true
  | '(' :: _ => parameters
  | _ => false

/-- Reads a word. Gives the new state and how many characters after the first it takes. -/
def readWord (s : State) (c : Char) (cs : List Char) : State × Nat :=
  let word := wordFrom c cs
  let rest := cs.drop (word.length - 1)
  let gap := rest.takeWhile Text.isBlank
  let name := (rest.drop gap.length).takeWhile (!endsName ·)
  let afterName := rest.drop (gap.length + name.length)
  let stop := s.offset + byteSize word
  let keyword := String.ofList (Text.lowerChars word)
  if s.place == .statement && callableKeywords.contains keyword && !gap.isEmpty && !name.isEmpty
      && headerGoesOn true afterName then
    let nameStart := stop + byteSize gap
    let opened := s.push .callable s.offset .inside
    let opened := opened.add (leaf keyword false s.offset stop)
    let opened := opened.add (leaf "function_name" true nameStart (nameStart + byteSize name))
    (opened, word.length - 1 + gap.length + name.length)
  else if c == '=' || assignments.contains (String.ofList word) then
    ({ s with place := .command }, word.length - 1)
  else if s.place == .inside then (s, word.length - 1)
  else ({ s.add (leaf "command_name" true s.offset stop) with place := .inside }, word.length - 1)

/-- Reads on in code. -/
def readCode (s : State) (c : Char) (cs : List Char) : State × Nat :=
  if c == '\n' || c == ';' then ({ s with place := .statement }, 0)
  else if Text.isBlank c then (s, 0)
  else if c == '#' then (s, (cs.takeWhile (· != '\n')).length)
  else if c == '<' && cs.head? == some '#' then (s, 1 + lengthThrough ['#', '>'] (cs.drop 1))
  else if c == '`' then
    (if joinsLines cs then s else { s with place := .inside }, escapeLength cs)
  else if isOpening c then (s.push .block s.offset .statement, 0)
  else if isClosing c then
    let closed := s.pop (s.offset + 1) .inside
    match closed.frames with
    | ⟨.callable, _, _⟩ :: _ =>
      if c == '\x7d' then (closed.pop (s.offset + 1) .statement, 0) else (closed, 0)
    | _ => (closed, 0)
  else if c == '\'' then
    let length := verbatimLength cs
    let stop := s.offset + byteSize (c :: cs.take length)
    ({ s.add (leaf "string_literal" true s.offset stop) with place := .inside }, length)
  else if c == '"' then (s.push .quoted s.offset .inside, 0)
  else if c == '|' then ({ s with place := .command }, 0)
  else if c == '&' || c == ',' then ({ s with place := .inside }, 0)
  else
    match c, cs with
    | '@', quote :: rest =>
      match isQuote quote, hereGap rest with
      | true, some gap =>
        if quote == '\'' then
          let length := 1 + gap + lengthThrough ['\n', '\'', '@'] (rest.drop gap)
          let stop := s.offset + byteSize (c :: cs.take length)
          ({ s.add (leaf "here_string_literal" true s.offset stop) with place := .inside }, length)
        else (s.push .here s.offset .inside, 1 + gap)
      | _, _ => readWord s c cs
    | _, _ => readWord s c cs

/-- Reads on between the name of a callable and its body. Without a body it is no callable. -/
def readHeader (s : State) (found : List Node) (c : Char) (cs : List Char) : State × Nat :=
  if !headerGoesOn (found.length ≤ 2) (c :: cs) then readCode s.withdraw c cs
  else if c == '#' then (s, (cs.takeWhile (· != '\n')).length)
  else if c == '<' then (s, 1 + lengthThrough ['#', '>'] (cs.drop 1))
  else if isOpening c then (s.push .block s.offset .statement, 0)
  else (s, 0)

/-- Reads on in a string that code may stand in; `closing` is what follows its first closing
character `close`. -/
def readExpandable (s : State) (isClose : Bool) (closeLength : Nat) (c : Char) (cs : List Char) :
    State × Nat :=
  if isClose then (s.pop (s.offset + closeLength + 1) .inside, closeLength)
  else if c == '$' && cs.head? == some '(' then (s.push .block (s.offset + 1) .statement, 1)
  else (s, 0)

/-- Reads on from character `c` with `cs` after it. Gives the new state, its offset still at `c`,
and how many characters after `c` were read. -/
def step (s : State) (c : Char) (cs : List Char) : State × Nat :=
  match s.frames with
  | [] | ⟨.block, _, _⟩ :: _ => readCode s c cs
  | ⟨.callable, _, found⟩ :: _ => readHeader s found c cs
  | ⟨.quoted, _, _⟩ :: _ =>
    if c == '`' then (s, min 1 cs.length)
    else if c == '"' && cs.head? == some '"' then (s, 1)
    else readExpandable s (c == '"') 0 c cs
  | ⟨.here, _, _⟩ :: _ =>
    if c == '`' && cs.head? != some '\n' && cs.head? != some '\r' then (s, min 1 cs.length)
    else readExpandable s (c == '\n' && ['"', '@'].isPrefixOf cs) 2 c cs

/-- Reads the rest of a script. -/
def run (s : State) : List Char → State
  | [] => s
  | c :: cs =>
    let (next, length) := step s c cs
    run { next with offset := s.offset + byteSize (c :: cs.take length) } (cs.drop length)
termination_by cs => cs.length
decreasing_by simp only [List.length_drop, List.length_cons]; omega

/-- The tree of a script. -/
def tree (text : String) : Node :=
  let cs := text.toList
  let stop := byteSize cs
  let statements := (run {} cs).finish stop
  .mk { kind := "program", start := 0, stop, named := true }
    [.mk { kind := "statement_list", start := 0, stop, named := true } statements]

end Unbundle.Script

namespace Unbundle

/-- The source that reads each text itself. -/
def TreeSource.scripts : TreeSource := fun _ text => some (Script.tree text)

end Unbundle
