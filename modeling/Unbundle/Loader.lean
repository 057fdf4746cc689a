import Unbundle.Text.Blank

/-!
# The loader

The block that is appended to a split module: it loads the files of the private and the public
directory and publishes the public ones. A module that is split again has its old block removed
first. A block reaches from a line that opens the loader's region to the next line that closes a
region.
-/

namespace Unbundle.Loader

/-- The name of the loader's region. -/
def regionName : String := "Module loader (generated by module-splitter)"

/-- A text as a literal in single quotes; a quote inside is written twice. -/
def literal (text : String) : String :=
  String.ofList ('\'' :: Text.substitute '\'' ['\'', '\''] text.toList ++ ['\''])

/-- The line that collects the script files of a directory in a variable. -/
def collectLine (variableName directory extension : String) : String :=
  "$" ++ variableName ++ " = @(Get-ChildItem -Path (Join-Path -Path $PSScriptRoot -ChildPath " ++
    literal directory ++ ") -Filter " ++ literal ("*" ++ extension) ++
    " -File -ErrorAction SilentlyContinue | Sort-Object -Property Name)"

/-- The lines of the loader. -/
def lines (publicDir privateDir extension : String) : List String := [
  "#region " ++ regionName,
  collectLine "Private" privateDir extension,
  collectLine "Public" publicDir extension,
  "",
  "# internal helpers first: published functions may call them",
  "foreach ($Import in @($Private + $Public)) \x7b",
  "    try \x7b",
  "        . $Import.FullName",
  "    \x7d",
  "    catch \x7b",
  "        Write-Error -Message \"Failed to import function $($Import.FullName): $_\"",
  "    \x7d",
  "\x7d",
  "",
  "Export-ModuleMember -Function $Public.BaseName",
  "#endregion"]

/-- The loader for the given directories, with every line ended by `newline`. -/
def render (publicDir privateDir extension newline : String) : String :=
  String.join ((lines publicDir privateDir extension).map (· ++ newline))

/-- A row of a text, without its line feed. -/
abbrev Row := List Char

/-- Blanks inside a line of code. -/
def isGap (c : Char) : Bool := c == ' ' || c == '\t'

/-- Whether a row opens the loader's region. -/
def opens (row : Row) : Bool :=
  let opening := "#region".toList
  let code := row.dropWhile isGap
  let rest := code.drop opening.length
  opening.isPrefixOf code && (rest.head?.any isGap) &&
    regionName.toList.isPrefixOf (rest.dropWhile isGap)

/-- The word that closes a region. -/
def closing : Row := "#endregion".toList

/-- Whether a row closes a region. -/
def closes (row : Row) : Bool := closing.isPrefixOf (row.dropWhile isGap)

/-- What stays of a row that closes a block: nothing but what follows a carriage return inside it.
`last` says that no line feed follows the row. Nothing at all is left when the line feed goes
too. -/
def closingRest (row : Row) (last : Bool) : Option Row :=
  let rest := ((row.dropWhile isGap).drop closing.length).dropWhile (· != '\r')
  if !last && (rest == [] || rest == ['\r']) then none else some rest

/-- Removes the blocks from rows; `held` are the rows of a block that has been opened and not yet
closed. Gives the rows that stay and whether a block was removed. -/
def stripRows : (held : Option (List Row)) → List Row → List Row × Bool
  | none, [] => ([], false)
  | some held, [] => (held, false)
  | none, row :: rest =>
    if opens row then stripRows (some [row]) rest
    else
      let (rows, found) := stripRows none rest
      (row :: rows, found)
  | some held, row :: rest =>
    if closes row then
      ((closingRest row rest.isEmpty).toList ++ (stripRows none rest).1, true)
    else stripRows (some (held ++ [row])) rest

/-- A text without its loader blocks, and whether there was one. -/
def strip (text : String) : String × Bool :=
  let (rows, found) := stripRows none (Text.rows text.toList)
  (String.ofList (Text.joinRows rows), found)

end Unbundle.Loader
