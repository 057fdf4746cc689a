import Unbundle.Yaml.Scalar

/-!
# Tokens of a YAML stream

A stream is cut into tokens from the front, and only as far as the next token needs it. A mapping
key need not be marked: what may be one is remembered as a simple key, and when a colon follows on
the same line a key token is put before it; until then the token waits. Indentation opens and closes
block collections.
-/

namespace Unbundle.Yaml

open Text (isHexDigit digitsValue)

/-- How a tag is written: its handle, if it has one, and the rest. -/
structure TagText where
  handle : Option String
  suffix : String
  deriving DecidableEq

/-- The directives at the head of a document. -/
inductive DirectiveText
  | version (major minor : Nat)
  | tag (handle shorthand : String)
  | unknown
  deriving DecidableEq

/-- The tokens of a stream. -/
inductive Token
  | directive (text : DirectiveText)
  | documentStart
  | documentEnd
  | blockSequenceStart
  | blockMappingStart
  | blockEnd
  | flowSequenceStart
  | flowSequenceEnd
  | flowMappingStart
  | flowMappingEnd
  | key
  | value
  | blockEntry
  | flowEntry
  | alias (name : String)
  | anchor (name : String)
  | tag (text : TagText)
  | scalar (text : Letters) (plain : Bool)
  | streamEnd
  deriving DecidableEq

/-- A place where an unmarked key may have started: the number of the token there, whether it must
be a key, and where it stands. -/
structure SimpleKey where
  token : Nat
  required : Bool
  index : Nat
  line : Nat
  column : Nat

/-- How far the tokens have been read. -/
structure Scanner where
  cursor : Cursor
  /-- The tokens that have been read and not taken. -/
  waiting : List Token := []
  /-- How many tokens have been taken. -/
  taken : Nat := 0
  /-- How many flow collections are open. -/
  flowLevel : Nat := 0
  /-- The column of the innermost block collection, and those of the ones around it. -/
  indent : Int := -1
  indents : List Int := []
  /-- Whether an unmarked key may start here. -/
  keyAllowed : Bool := true
  /-- What may be an unmarked key, by flow level. -/
  keys : List (Nat × SimpleKey) := []
  done : Bool := false

namespace Scanner

/-- Whether the reader is inside a flow collection. -/
def inFlow (s : Scanner) : Bool := s.flowLevel != 0

/-- How many tokens have been read. -/
def count (s : Scanner) : Nat := s.taken + s.waiting.length

/-- Adds a token. -/
def emit (s : Scanner) (token : Token) : Scanner := { s with waiting := s.waiting ++ [token] }

/-- Adds a token before the one numbered `n`, which waits. -/
def emitAt (s : Scanner) (n : Nat) (token : Token) : Scanner :=
  let before := n - s.taken
  { s with waiting := s.waiting.take before ++ token :: s.waiting.drop before }

/-- Moves on over `n` characters. -/
def skip (s : Scanner) (n : Nat) : Scanner := { s with cursor := s.cursor.skip n }

/-- Forgets the keys that can be none any more: they stand on an earlier line or too far back. -/
def dropStaleKeys (s : Scanner) : Except Failure Scanner :=
  let isStale := fun (k : SimpleKey) => k.line != s.cursor.line || k.index + 1024 < s.cursor.index
  if s.keys.any fun k => isStale k.2 && k.2.required then .error .malformed
  else .ok { s with keys := s.keys.filter fun k => !isStale k.2 }

/-- Forgets the key of this flow level. -/
def dropKey (s : Scanner) : Except Failure Scanner :=
  match s.keys.lookup s.flowLevel with
  | none => .ok s
  | some key =>
    if key.required then .error .malformed
    else .ok { s with keys := s.keys.filter (·.1 != s.flowLevel) }

/-- Remembers that an unmarked key may start here. -/
def saveKey (s : Scanner) : Except Failure Scanner := do
  if !s.keyAllowed then return s
  let s ← s.dropKey
  let c := s.cursor
  let key : SimpleKey :=
    ⟨s.count, !s.inFlow && s.indent == (c.column : Int), c.index, c.line, c.column⟩
  return { s with keys := (s.flowLevel, key) :: s.keys }

/-- Closes the block collections indented deeper than `column`. -/
def unwindTo (column : Int) : List Int → Scanner → Scanner
  | [], s => s
  | outer :: rest, s =>
    if column < s.indent then
      unwindTo column rest { s.emit .blockEnd with indent := outer, indents := rest }
    else s

/-- Closes the block collections indented deeper than `column`, unless inside a flow collection. -/
def unwind (s : Scanner) (column : Int) : Scanner :=
  if s.inFlow then s else unwindTo column s.indents s

/-- Whether a block collection at `column` would be a new one. -/
def isDeeper (s : Scanner) (column : Nat) : Bool := s.indent < (column : Int)

/-- Opens a block collection at `column`. -/
def indentTo (s : Scanner) (column : Nat) : Scanner :=
  { s with indents := s.indent :: s.indents, indent := column }

/-- Opens a block collection here with `token` if it would be a new one. -/
def openBlock (s : Scanner) (token : Token) : Scanner :=
  if s.isDeeper s.cursor.column then (s.indentTo s.cursor.column).emit token else s

/-- Moves on to the next token: over spaces, comments and line breaks. -/
def toNextToken : Nat → Scanner → Scanner
  | 0, s => s
  | fuel + 1, s =>
    let c := (s.cursor.skipRun (· == ' ')).skipComment
    let (ending, c) := c.lineBreak
    if ending.isEmpty then { s with cursor := c }
    else toNextToken fuel { s with cursor := c, keyAllowed := s.keyAllowed || !s.inFlow }

/-! ## Directives, anchors and tags -/

/-- Reads decimal digits. -/
def number (c : Cursor) : Except Failure (Nat × Cursor) :=
  let (digits, c) := c.takeRun Char.isDigit
  if digits.isEmpty then c.refuse
  else if Text.digitLimit < digits.length then
    .error (.error (.invalid (.tooManyDigits (some digits.length))))
  else .ok (digitsValue 10 digits, c)

/-- Characters of the text of a tag. -/
def isTagChar (c : Char) : Bool := isWordChar c || ";/?:@&=+$,.!~*'()[]%".toList.contains c

/-- The bytes of the percent escapes that come next. -/
def percentBytes : Nat → Cursor → Except Failure (Bytes × Cursor)
  | 0, c => c.refuse
  | fuel + 1, c =>
    if c.peek != '%' then .ok ([], c)
    else do
      let digits := (c.next.ahead 2).takeWhile isHexDigit
      let c := c.next.skip digits.length
      if digits.length != 2 then c.refuse
      else
        let (rest, c) ← percentBytes fuel c
        return (UInt8.ofNat (digitsValue 16 digits) :: rest, c)

/-- The text of a tag, as far as it goes. -/
def tagUri : Nat → Cursor → Except Failure (List Char × Cursor)
  | 0, c => c.refuse
  | fuel + 1, c =>
    if c.peek == '%' then do
      let (bytes, c) ← percentBytes (c.left + 1) c
      match Utf8.decode bytes with
      | .error _ => throw .malformed
      | .ok text =>
        let (rest, c) ← tagUri fuel c
        return (text.toList ++ rest, c)
    else if isTagChar c.peek then do
      let (rest, after) ← tagUri fuel c.next
      return (c.peek :: rest, after)
    else .ok ([], c)

/-- The text of a tag; it must not be empty. -/
def tagText (c : Cursor) : Except Failure (String × Cursor) := do
  if !isTagChar c.peek then c.refuse
  else
    let (text, c) ← tagUri (c.left + 1) c
    return (String.ofList text, c)

/-- The handle of a tag, between exclamation marks. -/
def tagHandle (c : Cursor) : Except Failure (String × Cursor) :=
  if c.peek != '!' then c.refuse
  else if c.peekAt 1 == ' ' then .ok ("!", c.next)
  else
    let (word, after) := c.next.takeRun isWordChar
    if after.peek == '!' then .ok (String.ofList ('!' :: word ++ ['!']), after.next)
    else after.refuse

/-- Goes on if `holds`, and stops reading here otherwise. -/
def require (c : Cursor) (holds : Bool) : Except Failure Unit := if holds then .ok () else c.refuse

/-- Reads a directive; the cursor stands at its percent sign. -/
def directive (c : Cursor) : Except Failure (DirectiveText × Cursor) := do
  let (name, c) := c.next.takeRun isWordChar
  require c (!name.isEmpty && isSpaceOrEnd c.peek)
  if name == "YAML".toList then
    let (major, c) ← number (c.skipRun (· == ' '))
    require c (c.peek == '.')
    let (minor, c) ← number c.next
    require c (isSpaceOrEnd c.peek)
    return (.version major minor, ← c.endOfLine)
  else if name == "TAG".toList then
    let (handle, c) ← tagHandle (c.skipRun (· == ' '))
    require c (c.peek == ' ')
    let (shorthand, c) ← tagText (c.skipRun (· == ' '))
    require c (isSpaceOrEnd c.peek)
    return (.tag handle shorthand, ← c.endOfLine)
  else return (.unknown, ← (c.skipRun (!isBreakOrEnd ·)).endOfLine)

/-- Reads the name of an anchor or alias; the cursor stands at its mark. -/
def anchorName (c : Cursor) : Except Failure (String × Cursor) :=
  let (name, c) := c.next.takeRun isWordChar
  let ends := isGapOrEnd c.peek || ['?', ':', ',', ']', '\x7d', '%', '@', '`'].contains c.peek
  if name.isEmpty || !ends then c.refuse else .ok (String.ofList name, c)

/-- Whether a further exclamation mark stands in the word that comes next. -/
def hasHandle (cs : List Char) : Bool := (cs.takeWhile (!isSpaceOrEnd ·)).contains '!'

/-- Reads a tag; the cursor stands at its exclamation mark. -/
def tag (c : Cursor) : Except Failure (TagText × Cursor) := do
  let (text, c) ←
    if c.peekAt 1 == '<' then do
      let (suffix, c) ← tagText (c.skip 2)
      require c (c.peek == '>')
      pure (⟨none, suffix⟩, c.next)
    else if isGapOrEnd (c.peekAt 1) then pure (⟨none, "!"⟩, c.next)
    else if hasHandle (c.rest.drop 1) then do
      let (handle, c) ← tagHandle c
      let (suffix, c) ← tagText c
      pure (⟨some handle, suffix⟩, c)
    else do
      let (suffix, c) ← tagText c.next
      pure ((⟨some "!", suffix⟩ : TagText), c)
  require c (isSpaceOrEnd c.peek)
  return (text, c)

/-! ## Fetching tokens -/

/-- Adds a token that stands for `n` characters, after which no unmarked key may start. -/
def document (s : Scanner) (token : Token) : Except Failure Scanner := do
  let s ← (s.unwind (-1)).dropKey
  return ({ s with keyAllowed := false }.skip 3).emit token

/-- Ends the stream. -/
def finish (s : Scanner) : Except Failure Scanner := do
  let s ← (s.unwind (-1)).dropKey
  return { s.emit .streamEnd with done := true }

/-- Opens a flow collection. -/
def openFlow (s : Scanner) (token : Token) : Except Failure Scanner := do
  let s ← s.saveKey
  return ({ s with flowLevel := s.flowLevel + 1, keyAllowed := true }.skip 1).emit token

/-- Closes a flow collection. -/
def closeFlow (s : Scanner) (token : Token) : Except Failure Scanner := do
  let s ← s.dropKey
  return ({ s with flowLevel := s.flowLevel - 1, keyAllowed := false }.skip 1).emit token

/-- Adds a mark that begins an entry or key, opening a block collection with `opening` if need
be. -/
def mark (s : Scanner) (opening token : Token) (keyAllowed : Bool) : Except Failure Scanner := do
  if !s.inFlow && !s.keyAllowed then throw .malformed
  let s := if s.inFlow then s else s.openBlock opening
  let s ← { s with keyAllowed }.dropKey
  return (s.skip 1).emit token

/-- Adds a value mark; what was remembered as a key becomes one. -/
def valueMark (s : Scanner) : Except Failure Scanner := do
  match s.keys.lookup s.flowLevel with
  | some key =>
    let s := { s with keys := s.keys.filter (·.1 != s.flowLevel), keyAllowed := false }
    let s := s.emitAt key.token .key
    let s :=
      if !s.inFlow && s.isDeeper key.column then
        (s.indentTo key.column).emitAt key.token .blockMappingStart
      else s
    return (s.skip 1).emit .value
  | none => s.mark .blockMappingStart .value (!s.inFlow)

/-- Adds a token that may be an unmarked key and after which none may start. -/
def content (s : Scanner) (read : Cursor → Except Failure (Token × Cursor)) :
    Except Failure Scanner := do
  let s ← s.saveKey
  let (token, cursor) ← read s.cursor
  return { s with cursor, keyAllowed := false }.emit token

/-- Adds a plain scalar. -/
def plain (s : Scanner) : Except Failure Scanner := do
  let s ← s.saveKey
  let (text, keyAllowed, cursor) := plainScalar s.inFlow (s.indent + 1) s.cursor
  return { s with cursor, keyAllowed }.emit (.scalar text true)

/-- Adds a block scalar. -/
def block (s : Scanner) : Except Failure Scanner := do
  let s ← { s with keyAllowed := true }.dropKey
  let (text, cursor) ← blockScalar s.indent s.cursor
  return { s with cursor }.emit (.scalar text false)

/-- Characters that no plain scalar starts with. -/
def isIndicator (c : Char) : Bool :=
  isGapOrEnd c || "-?:,[]#&*!|>'\"%@`".toList.contains c || c == '\x7b' || c == '\x7d'

/-- Whether a plain scalar starts here. -/
def startsPlain (s : Scanner) : Bool :=
  let ch := s.cursor.peek
  !isIndicator ch ||
    (!isGapOrEnd (s.cursor.peekAt 1) && (ch == '-' || (!s.inFlow && (ch == '?' || ch == ':'))))

/-- Reads the token that stands next. -/
def token (s : Scanner) : Except Failure Scanner :=
  let c := s.cursor
  let ch := c.peek
  let gapAhead := isGapOrEnd (c.peekAt 1)
  if ch == Yaml.streamEnd then s.finish
  else if ch == '%' && c.column == 0 then do
    let s ← (s.unwind (-1)).dropKey
    let (text, cursor) ← directive c
    return { s with cursor, keyAllowed := false }.emit (.directive text)
  else if c.column == 0 && c.atDocumentMark then
    s.document (if ch == '-' then .documentStart else .documentEnd)
  else if ch == '[' then s.openFlow .flowSequenceStart
  else if ch == '\x7b' then s.openFlow .flowMappingStart
  else if ch == ']' then s.closeFlow .flowSequenceEnd
  else if ch == '\x7d' then s.closeFlow .flowMappingEnd
  else if ch == ',' then do
    let s ← { s with keyAllowed := true }.dropKey
    return (s.skip 1).emit .flowEntry
  else if ch == '-' && gapAhead then s.mark .blockSequenceStart .blockEntry true
  else if ch == '?' && (s.inFlow || gapAhead) then s.mark .blockMappingStart .key (!s.inFlow)
  else if ch == ':' && (s.inFlow || gapAhead) then s.valueMark
  else if ch == '*' then s.content fun c => (anchorName c).map fun (n, c) => (.alias n, c)
  else if ch == '&' then s.content fun c => (anchorName c).map fun (n, c) => (.anchor n, c)
  else if ch == '!' then s.content fun c => (tag c).map fun (t, c) => (.tag t, c)
  else if (ch == '|' || ch == '>') && !s.inFlow then s.block
  else if ch == '\'' || ch == '"' then
    s.content fun c => (quotedScalar c).map fun (t, c) => (.scalar t false, c)
  else if s.startsPlain then s.plain
  else .error .malformed

/-- Reads on until there is a further token, or the stream ends. -/
def fetch (s : Scanner) : Except Failure Scanner := do
  let s := toNextToken (s.cursor.left + 1) s
  s.cursor.check
  let s ← s.dropStaleKeys
  let s ← (s.unwind s.cursor.column).token
  s.cursor.check
  return s

/-- Whether the first token that waits may still turn out to be a key. -/
def isOpen (s : Scanner) : Bool := s.keys.any fun k => k.2.token == s.taken

/-- Reads on until it is known what the next token is. Each round reads at least one character or
ends the stream. -/
def ready : Nat → Scanner → Except Failure Scanner
  | 0, s => .ok s
  | fuel + 1, s =>
    if s.done then .ok s
    else if s.waiting.isEmpty then do ready fuel (← s.fetch)
    else do
      let s ← s.dropStaleKeys
      if s.isOpen then ready fuel (← s.fetch) else return s

/-- The next token, and the scanner that has it waiting. -/
def peek (s : Scanner) : Except Failure (Token × Scanner) := do
  let s ← s.ready (s.cursor.left + 2)
  return (s.waiting.headD .streamEnd, s)

/-- Takes the first token that waits. -/
def take (s : Scanner) : Scanner := { s with waiting := s.waiting.drop 1, taken := s.taken + 1 }

/-- The scanner at the start of a stream. A byte order mark there is passed over. -/
def start (cursor : Cursor) : Scanner :=
  { cursor := if cursor.peek.toNat == 0xfeff then cursor.next else cursor }

end Scanner

end Unbundle.Yaml
