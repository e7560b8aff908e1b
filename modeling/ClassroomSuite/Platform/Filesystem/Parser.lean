import ClassroomSuite.Python.Lines
import ClassroomSuite.Python.Text
import ClassroomSuite.Python.Json

/-!
# Parsing the filesystem usage

The usage of the mounted filesystems is read from a table, line by line. A line is split into nine
columns, of which the last one may contain white space, and six of them are numbers. A line with too
few columns is an error, and so is one of which some but not all of the numbers can be read; a line
without a number, such as the heading, is passed over.

The construction of a record cannot fail: its numbers are not negative, and the text is one that
was decoded.

Source: `cli/src/bcs/platform/adapters/filesystem/parser.py`,
`cli/src/bcs/platform/adapters/filesystem/models.py`.

## Main definitions

* `FilesystemUsage`, `FilesystemUsageReport`.
* `tryParseInodeField`, `tryParseByteField`, `Columns.parseNumbers`.
* `parseLine`, `parseFilesystemUsage`.
-/

namespace ClassroomSuite.Platform.Filesystem

open Python Library

/-- The usage of one mounted filesystem, with the line it was read from. -/
structure FilesystemUsage where
  source : String
  target : String
  fsType : String
  sizeBytes : ℕ
  usedBytes : ℕ
  availableBytes : ℕ
  inodesTotal : Option ℕ := none
  inodesUsed : Option ℕ := none
  inodesAvailable : Option ℕ := none
  rawLine : String
  deriving DecidableEq, Repr

/-- The usage of all filesystems, with the texts it was read from. -/
structure FilesystemUsageReport where
  filesystems : List FilesystemUsage := []
  rawText : String
  rawStderr : String := ""
  deriving DecidableEq, Repr

/-- The columns of a line. -/
structure Columns where
  source : List Char
  fsType : List Char
  itotal : List Char
  iused : List Char
  iavail : List Char
  size : List Char
  used : List Char
  avail : List Char
  target : List Char
  deriving DecidableEq, Repr

variable (rt : TextRuntime) (numerals : Numerals)

/-- A count of inodes, or that there is none, or neither. -/
def tryParseInodeField (token : List Char) : Except PyError (Option (Option ℕ)) :=
  if token = ['-'] then .ok (some none)
  else if numerals.isNumber token then do return some (some (← numerals.int token))
  else .ok none

/-- A number of bytes, if the column holds one. -/
def tryParseByteField (token : List Char) : Except PyError (Option ℕ) :=
  if numerals.isNumber token then do return some (← numerals.int token) else .ok none

/-- The error about a line with too few columns. -/
def malformedRow (line : List Char) (number : ℕ) : PyError :=
  .valueError ("malformed row (line " ++ toString number ++ "): " ++
    rt.repr (String.ofList line))

/-- The error about a column that is no number. -/
def malformedField (field : String) (line : List Char) (number : ℕ) : PyError :=
  .valueError ("malformed " ++ field ++ " line (line " ++ toString number ++ "): " ++
    rt.repr (String.ofList line))

/-- The columns of a line, of which the last two are split apart after the others. -/
def splitColumns (stripped : List Char) : Option Columns :=
  match splitWords isSpace 7 stripped with
  | [source, fsType, itotal, iused, iavail, size, used, remainder] =>
    match splitWords isSpace 1 remainder with
    | [avail, target] =>
      some { source, fsType, itotal, iused, iavail, size, used, avail, target }
    | _ => none
  | _ => none

/-- What has been read of the numeric columns. -/
structure Numbers where
  itotal : Option (Option ℕ)
  iused : Option (Option ℕ)
  iavail : Option (Option ℕ)
  size : Option ℕ
  used : Option ℕ
  avail : Option ℕ

/-- The numbers of a line, as far as its columns hold any. -/
def Columns.parseNumbers (columns : Columns) : Except PyError Numbers := do
  let itotal ← tryParseInodeField numerals columns.itotal
  let iused ← tryParseInodeField numerals columns.iused
  let iavail ← tryParseInodeField numerals columns.iavail
  let size ← tryParseByteField numerals columns.size
  let used ← tryParseByteField numerals columns.used
  let avail ← tryParseByteField numerals columns.avail
  return { itotal, iused, iavail, size, used, avail }

/-- The numeric columns by name, and whether they have been read. -/
def Numbers.fields (numbers : Numbers) : List (String × Bool) := [
  ("itotal", numbers.itotal.isSome),
  ("iused", numbers.iused.isSome),
  ("iavail", numbers.iavail.isSome),
  ("size", numbers.size.isSome),
  ("used", numbers.used.isSome),
  ("avail", numbers.avail.isSome)]

/-- How many of the numeric columns have been read. -/
def Numbers.successes (numbers : Numbers) : ℕ := numbers.fields.countP (·.2)

/-- The first of the numeric columns that has not been read. -/
def Numbers.failedField (numbers : Numbers) : String :=
  ((numbers.fields.find? fun field => !field.2).map (·.1)).getD ""

/-- The record that the columns make, if all numbers have been read. -/
def Columns.usage (columns : Columns) (numbers : Numbers) (line : List Char) :
    Option FilesystemUsage := do
  let inodesTotal ← numbers.itotal
  let inodesUsed ← numbers.iused
  let inodesAvailable ← numbers.iavail
  let sizeBytes ← numbers.size
  let usedBytes ← numbers.used
  let availableBytes ← numbers.avail
  return {
    source := String.ofList columns.source
    target := String.ofList columns.target
    fsType := String.ofList columns.fsType
    sizeBytes, usedBytes, availableBytes, inodesTotal, inodesUsed, inodesAvailable
    rawLine := String.ofList line }

/-- One line: a record, nothing, or an error. -/
def parseLine (line : List Char) (number : ℕ) : Except PyError (Option FilesystemUsage) :=
  if (strip isSpace line).isEmpty then .ok none
  else match splitColumns (strip isSpace line) with
    | none => .error (malformedRow rt line number)
    | some columns => do
      let numbers ← columns.parseNumbers numerals
      if numbers.successes = 0 then return none
      else if numbers.successes < numbers.fields.length then
        throw (malformedField rt numbers.failedField line number)
      else return columns.usage numbers line

/-- Read a report: a heading, and a filesystem on every other line that is not blank. -/
def parseFilesystemUsage (text : String) : Except PyError FilesystemUsageReport := do
  let rows ← ((splitLines text.toList).zipIdx 1).mapM fun (line, number) =>
    parseLine rt numerals line number
  return { filesystems := rows.reduceOption, rawText := text }

end ClassroomSuite.Platform.Filesystem
