import Unbundle.Yaml.Cursor

/-!
# Scalars of a YAML stream

Reading the text of quoted, plain and block scalars. Each loop reads at least one character a round,
so the length of the rest of the stream bounds it.
-/

namespace Unbundle.Yaml

open Text (isHexDigit digitValue digitsValue)

/-! ## Quoted scalars -/

/-- What an escape of one character means. -/
def escapeMeaning : Char → Option Char
  | '0' => some '\x00'
  | 'a' => some '\x07'
  | 'b' => some '\x08'
  | 't' | '\t' => some '\t'
  | 'n' => some '\n'
  | 'v' => some '\x0b'
  | 'f' => some '\x0c'
  | 'r' => some '\r'
  | 'e' => some '\x1b'
  | ' ' => some ' '
  | '"' => some '"'
  | '\\' => some '\\'
  | '/' => some '/'
  | 'N' => some (Char.ofNat 0x85)
  | '_' => some (Char.ofNat 0xa0)
  | 'L' => some (Char.ofNat 0x2028)
  | 'P' => some (Char.ofNat 0x2029)
  | _ => none

/-- How many hexadecimal digits an escape takes. -/
def escapeDigits : Char → Option Nat
  | 'x' => some 2
  | 'u' => some 4
  | 'U' => some 8
  | _ => none

/-- The letter with a code, if there is one. -/
def letterOfCode (code : Nat) : Except Failure Letter :=
  if code < 0x110000 then .ok (.ofCode code)
  else if code < 0x80000000 then
    .error (.error (.invalid (.scalar "chr() arg not in range(0x110000)")))
  else .error (.error .tooLarge)

/-- The breaks of the empty lines at the start of which the cursor stands; blanks before them go. -/
def flowBreaks : Nat → Cursor → Except Failure (List Char × Cursor)
  | 0, c => c.refuse
  | fuel + 1, c =>
    if c.atDocumentMark then .error .malformed
    else
      let c := c.skipRun fun ch => ch == ' ' || ch == '\t'
      if isBreak c.peek then do
        let (first, c) := c.lineBreak
        let (others, c) ← flowBreaks fuel c
        return (first ++ others, c)
      else .ok ([], c)

/-- Blanks in a quoted scalar: kept inside a line, folded around a line break. -/
def flowSpaces (c : Cursor) : Except Failure (List Char × Cursor) := do
  let (blanks, c) := c.takeRun fun ch => ch == ' ' || ch == '\t'
  if c.peek == streamEnd then c.refuse
  else if isBreak c.peek then
    let (first, c) := c.lineBreak
    let (others, c) ← flowBreaks (c.left + 1) c
    let fold := if first != ['\n'] then first else if others.isEmpty then [' '] else []
    return (fold ++ others, c)
  else return (blanks, c)

/-- Characters that interrupt a run of plain text in a quoted scalar. -/
def interruptsFlow (c : Char) : Bool := c == '\'' || c == '"' || c == '\\' || isGapOrEnd c

/-- The text of a quoted scalar up to blanks or the closing quote; `double` tells the kind of
quotes. -/
def flowText (double : Bool) : Nat → Cursor → Except Failure (Letters × Cursor)
  | 0, c => c.refuse
  | fuel + 1, c => do
    let (run, c) := c.takeRun (!interruptsFlow ·)
    let run := Letters.ofChars run
    let ch := c.peek
    if !double && ch == '\'' && c.peekAt 1 == '\'' then
      let (rest, c) ← flowText double fuel (c.skip 2)
      return (run ++ .char '\'' :: rest, c)
    else if (double && ch == '\'') || (!double && (ch == '"' || ch == '\\')) then
      let (rest, c) ← flowText double fuel c.next
      return (run ++ .char ch :: rest, c)
    else if double && ch == '\\' then
      let c := c.next
      let ch := c.peek
      match escapeMeaning ch, escapeDigits ch with
      | some meaning, _ =>
        let (rest, c) ← flowText double fuel c.next
        return (run ++ .char meaning :: rest, c)
      | none, some width =>
        let digits := (c.next.ahead width).takeWhile isHexDigit
        let c := c.next.skip digits.length
        if digits.length == width then
          let meaning ← letterOfCode (digitsValue 16 digits)
          let (rest, c) ← flowText double fuel c
          return (run ++ meaning :: rest, c)
        else c.refuse
      | none, none =>
        if isBreak ch then
          let c := c.lineBreak.2
          let (breaks, c) ← flowBreaks (c.left + 1) c
          let (rest, c) ← flowText double fuel c
          return (run ++ .ofChars breaks ++ rest, c)
        else c.refuse
    else return (run, c)

/-- The rest of a quoted scalar, and the cursor behind its closing quote. -/
def flowRest (quote : Char) : Nat → Cursor → Except Failure (Letters × Cursor)
  | 0, c => c.refuse
  | fuel + 1, c => do
    if c.peek == quote then return ([], c.next)
    else
      let (spaces, c) ← flowSpaces c
      let (text, c) ← flowText (quote == '"') (c.left + 1) c
      let (rest, c) ← flowRest quote fuel c
      return (.ofChars spaces ++ text ++ rest, c)

/-- Reads a quoted scalar; the cursor stands at its opening quote. -/
def quotedScalar (c : Cursor) : Except Failure (Letters × Cursor) := do
  let quote := c.peek
  let c := c.next
  let (text, c) ← flowText (quote == '"') (c.left + 1) c
  let (rest, c) ← flowRest quote (c.left + 1) c
  return (text ++ rest, c)

/-! ## Plain scalars -/

/-- How many characters a run of a plain scalar takes. -/
def plainLength (flow : Bool) : List Char → Nat
  | [] => 0
  | c :: rest =>
    let after := rest.headD streamEnd
    let stops := isGapOrEnd c
      || (c == ':' &&
        (isGapOrEnd after || (flow && [',', '[', ']', '\x7b', '\x7d'].contains after)))
      || (flow && [',', '?', '[', ']', '\x7b', '\x7d'].contains c)
    if stops then 0 else 1 + plainLength flow rest

/-- The breaks of the lines that follow in a plain scalar, or nothing at a mark between
documents. -/
def plainBreaks : Nat → Cursor → Option (List Char) × Cursor
  | 0, c => (none, c)
  | fuel + 1, c =>
    let c := c.skipRun (· == ' ')
    if isBreak c.peek then
      let (first, c) := c.lineBreak
      if c.atDocumentMark then (none, c)
      else
        let (others, c) := plainBreaks fuel c
        (others.map (first ++ ·), c)
    else (some [], c)

/-- The blanks between two runs of a plain scalar: what they mean, whether a line ended, and the
cursor behind them. Nothing is given where the scalar ends. -/
def plainSpaces (c : Cursor) : Option (List Char) × Bool × Cursor :=
  let (blanks, c) := c.takeRun (· == ' ')
  if isBreak c.peek then
    let (first, c) := c.lineBreak
    if c.atDocumentMark then (none, true, c)
    else
      let (others, c) := plainBreaks (c.left + 1) c
      match others with
      | none => (none, true, c)
      | some others =>
        let fold := if first != ['\n'] then first else if others.isEmpty then [' '] else []
        (some (fold ++ others), true, c)
  else if blanks.isEmpty then (none, false, c)
  else (some blanks, false, c)

/-- The text of a plain scalar; `spaces` are the blanks before the next run and `keys` says whether
a simple key may start where the cursor stands. -/
def plainText (flow : Bool) (indent : Int) :
    Nat → (spaces : List Char) → (keys : Bool) → Cursor → List Char × Bool × Cursor
  | 0, _, keys, c => ([], keys, c)
  | fuel + 1, spaces, keys, c =>
    let length := if c.peek == '#' then 0 else plainLength flow c.rest
    if length == 0 then ([], keys, c)
    else
      let run := c.ahead length
      let (blanks, ended, c) := plainSpaces (c.skip length)
      match blanks with
      | none => (spaces ++ run, ended, c)
      | some blanks =>
        if c.peek == '#' || (!flow && (c.column : Int) < indent) then (spaces ++ run, ended, c)
        else
          let (rest, keys, c) := plainText flow indent fuel blanks ended c
          (spaces ++ run ++ rest, keys, c)

/-- Reads a plain scalar whose lines are indented at least to `indent`. Gives the text, whether a
simple key may start behind it, and the cursor. -/
def plainScalar (flow : Bool) (indent : Int) (c : Cursor) : Letters × Bool × Cursor :=
  let (text, keys, c) := plainText flow indent (c.left + 1) [] false c
  (.ofChars text, keys, c)

/-! ## Block scalars -/

/-- What happens to the line breaks at the end of a block scalar. -/
inductive Chomping
  | strip
  | clip
  | keep
  deriving DecidableEq

/-- The chomping that a sign asks for. -/
def chomping? : Char → Option Chomping
  | '+' => some .keep
  | '-' => some .strip
  | _ => none

/-- The head of a block scalar: its chomping, its indentation if it is given, and the cursor behind
them. -/
def blockIndicators (c : Cursor) : Except Failure (Chomping × Option Nat × Cursor) := do
  let digit := fun (c : Cursor) => if c.peek.isDigit then some (digitValue c.peek) else none
  let (chomping, increment, c) :=
    match chomping? c.peek with
    | some chomping =>
      match digit c.next with
      | some n => (chomping, some n, c.next.next)
      | none => (chomping, none, c.next)
    | none =>
      match digit c with
      | some n =>
        match chomping? c.next.peek with
        | some chomping => (chomping, some n, c.next.next)
        | none => (.clip, some n, c.next)
      | none => (.clip, none, c)
  if increment == some 0 then throw .malformed
  if !isSpaceOrEnd c.peek then c.refuse else return (chomping, increment, c)

/-- The breaks before the first line of a block scalar, and the deepest column that spaces reach. -/
def blockIndentation : Nat → Nat → Cursor → List Char × Nat × Cursor
  | 0, deepest, c => ([], deepest, c)
  | fuel + 1, deepest, c =>
    if c.peek == ' ' then
      blockIndentation fuel (max deepest c.next.column) c.next
    else if isBreak c.peek then
      let (first, c) := c.lineBreak
      let (others, deepest, c) := blockIndentation fuel deepest c
      (first ++ others, deepest, c)
    else ([], deepest, c)

/-- The cursor behind the spaces up to column `indent`. -/
def skipIndent (indent : Nat) (c : Cursor) : Cursor :=
  c.skip (min (indent - c.column) (c.rest.takeWhile (· == ' ')).length)

/-- The breaks between two lines of a block scalar. -/
def blockBreaks (indent : Nat) : Nat → Cursor → List Char × Cursor
  | 0, c => ([], c)
  | fuel + 1, c =>
    let c := skipIndent indent c
    if isBreak c.peek then
      let (first, c) := c.lineBreak
      let (others, c) := blockBreaks indent fuel c
      (first ++ others, c)
    else ([], c)

/-- The lines of a block scalar after `breaks`; gives the text, the last line break, the breaks
behind it and the cursor. -/
def blockLines (folded : Bool) (indent : Nat) :
    Nat → (breaks : List Char) → Cursor → List Char × List Char × List Char × Cursor
  | 0, breaks, c => ([], [], breaks, c)
  | fuel + 1, breaks, c =>
    if c.column == indent && c.peek != streamEnd then
      let leading := c.peek != ' ' && c.peek != '\t'
      let (line, c) := c.takeRun (!isBreakOrEnd ·)
      let (ending, c) := c.lineBreak
      let (after, c) := blockBreaks indent (c.left + 1) c
      if c.column == indent && c.peek != streamEnd then
        let fold :=
          if folded && ending == ['\n'] && leading && c.peek != ' ' && c.peek != '\t' then
            if after.isEmpty then [' '] else []
          else ending
        let (rest, last, left, c) := blockLines folded indent fuel after c
        (breaks ++ line ++ fold ++ rest, last, left, c)
      else (breaks ++ line, ending, after, c)
    else ([], [], breaks, c)

/-- Reads a block scalar inside a collection indented to `parent`; the cursor stands at its mark. -/
def blockScalar (parent : Int) (c : Cursor) : Except Failure (Letters × Cursor) := do
  let folded := c.peek == '>'
  let (chomping, increment, c) ← blockIndicators c.next
  let c ← c.endOfLine
  let least := max 1 (parent + 1).toNat
  let (breaks, indent, c) :=
    match increment with
    | none =>
      let (breaks, deepest, c) := blockIndentation (c.left + 1) 0 c
      (breaks, max least deepest, c)
    | some n =>
      let indent := least + n - 1
      let (breaks, c) := blockBreaks indent (c.left + 1) c
      (breaks, indent, c)
  let (text, last, left, c) := blockLines folded indent (c.left + 1) breaks c
  let ending := match chomping with
    | .strip => []
    | .clip => last
    | .keep => last ++ left
  return (.ofChars (text ++ ending), c)

end Unbundle.Yaml
