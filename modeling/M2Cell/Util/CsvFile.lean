import M2Cell.Lib.Getline
import M2Cell.Lib.IndexedVector
import Mathlib.Algebra.Ring.Nat

/-!
# CSV files

`CsvFile::read` takes the lines of a file and the cells of each line with
`getline`: the first line has the column names, and each of the others is a row.
A line without cells ends the reading at once; the row count and the index of the
columns are set only when the loop comes to its end.

Counters are `int`.  Counting a row beyond the largest `int` is undefined, and sizes
are narrowed when they are stored.  The text of a file is a list of characters.

`CsvTable` is what such a file is written for.
-/

namespace M2Cell

/-- The text of a file, of a line or of a cell. -/
abbrev Text := List Char

/-- How an operation on a file fails. -/
inductive CsvFailure
  /-- `runtime_error`. -/
  | runtimeError (what : String)
  /-- An `int` overflows, or a vector is accessed outside. -/
  | undefined
  deriving DecidableEq, Repr

/-- What `open` finds. -/
inductive CsvSource
  | unreadable (errno : ℤ)
  | text (content : Text)

/-- A `CsvFile`. -/
structure CsvFile where
  /-- `_fileName`. -/
  fileName : String
  /-- `_columnNames`. -/
  columnNames : List Text
  /-- `_columnCount`, which has no value before `read`. -/
  columnCount : Int32
  /-- `_rowStrings`. -/
  rowStrings : List (List Text)
  /-- `_rowCount`. -/
  rowCount : Int32
  /-- `_colIndex`. -/
  colIndex : List (Text × ℕ)

/-- How the loop over the rows ends. -/
inductive RowsEnd
  | endOfFile
  /-- A line without cells. -/
  | blankLine
  | failed (failure : CsvFailure)
  deriving DecidableEq, Repr

/-- A line of the file for a row. -/
def appendRow (row : List Text) : Text := joined ',' row ++ ['\n']

namespace CsvFile

/-- The constructor. -/
def new (fileName : String) : CsvFile := ⟨fileName, [], 0, [], 0, []⟩

/-- `_readRow`. -/
def readRow (line : Text) : List Text := pieces ',' line

/-- The text of the exception for a row that is too short. -/
def incompleteRow (fileName : String) (rowCount : ℕ) : String :=
  "CsvFile::read() " ++ fileName ++ " incomplete row " ++ toString rowCount

/-- The loop over the rows: the rows that are stored, and how it ends. -/
def readRows (fileName : String) (columnNames : List Text) :
    ℕ → List Text → List (List Text) × RowsEnd
  | _, [] => ([], .endOfFile)
  | rowCount, line :: lines =>
      if (readRow line).length = 0 then ([], .blankLine)
      else if (readRow line).length < columnNames.length then
        ([], .failed (.runtimeError (incompleteRow fileName rowCount)))
      else if rowCount + 1 = 2 ^ 31 then
        -- `++rowCount` overflows
        ([readRow line], .failed .undefined)
      else
        let result := readRows fileName columnNames (rowCount + 1) lines
        (readRow line :: result.1, result.2)

/-- The loop of `_organize`, from column `j` on. -/
def indexColumns (fileName : String) : ℕ → List Text → List (Text × ℕ) →
    List (Text × ℕ) × Except CsvFailure Unit
  | _, [], colIndex => (colIndex, .ok ())
  | j, name :: names, colIndex =>
      if (colIndex.lookup name).isSome then
        (colIndex, .error (.runtimeError ("CsvFile::_organize duplicate column name " ++
          String.ofList name ++ " in " ++ fileName)))
      else indexColumns fileName (j + 1) names (colIndex ++ [(name, j)])

/-- `_organize`, which goes through the first `_columnCount` names. -/
def organize (csv : CsvFile) : CsvFile × Except CsvFailure Unit :=
  let result := indexColumns csv.fileName 0 (csv.columnNames.take csv.columnCount.toInt.toNat)
    csv.colIndex
  ({ csv with colIndex := result.1 }, result.2)

/-- What `read` does after the loop. -/
def finish (csv : CsvFile) : RowsEnd → CsvFile × Except CsvFailure Unit
  | .failed failure => (csv, .error failure)
  | .blankLine => (csv, .ok ())
  | .endOfFile => organize { csv with rowCount := Int32.ofNat csv.rowStrings.length }

/-- `read` of the text of a file. -/
def readText (content : Text) (csv : CsvFile) : CsvFile × Except CsvFailure Unit :=
  let header := (getline '\n' content).getD ([], [])
  let columnNames := csv.columnNames ++ readRow header.1
  let rows := readRows csv.fileName columnNames 0 (pieces '\n' header.2)
  finish
    { csv with columnNames := columnNames, columnCount := Int32.ofNat columnNames.length,
               rowStrings := csv.rowStrings ++ rows.1 } rows.2

/-- `read`. -/
def read (source : CsvSource) (csv : CsvFile) : CsvFile × Except CsvFailure Unit :=
  match source with
  | .unreadable errno => (csv, .error (.runtimeError
      ("CsvFile::read() could not open file " ++ csv.fileName ++ " " ++ toString errno)))
  | .text content => csv.readText content

/-- `dumpStr`. -/
def dumpStr (csv : CsvFile) : Text :=
  appendRow csv.columnNames ++ csv.rowStrings.flatMap appendRow

/-- `getValue`. -/
def getValue (col : Text) (row : ℤ) (csv : CsvFile) : Except CsvFailure Text :=
  if row < 0 ∨ csv.rowCount.toInt ≤ row then
    .error (.runtimeError ("CsvFile::getValue row " ++ toString row ++ " is out of range for " ++
      csv.fileName ++ ":" ++ String.ofList col))
  else
    match csv.colIndex.lookup col with
    | none => .error (.runtimeError ("CsvFile::getValue col " ++ String.ofList col ++
        " is out of range for " ++ csv.fileName))
    | some j => do
        let cells ← readAt CsvFailure.undefined csv.rowStrings row.toNat
        readAt CsvFailure.undefined cells j

end CsvFile

/-! ## Tables -/

/-- The characters of a name or of a cell. -/
def Plain (cell : Text) : Prop := ',' ∉ cell ∧ '\n' ∉ cell

/-- A table with at least one column. -/
structure CsvTable where
  names : List Text
  rows : List (List Text)
  names_ne_nil : names ≠ []
  nodup_names : names.Nodup
  name_ne_nil : ∀ name ∈ names, name ≠ []
  plain_name : ∀ name ∈ names, Plain name
  length_row : ∀ row ∈ rows, row.length = names.length
  plain_cell : ∀ row ∈ rows, ∀ cell ∈ row, Plain cell
  /-- With one column, an empty cell is a blank line. -/
  cell_ne_nil : names.length = 1 → ∀ row ∈ rows, ∀ cell ∈ row, cell ≠ []

/-- What follows the last cell of a file. -/
inductive CsvEnding
  | noNewline
  | newline (blankLines : ℕ)
  deriving DecidableEq, Repr

namespace CsvTable

/-- The lines of a table. -/
def lines (table : CsvTable) : List Text :=
  joined ',' table.names :: table.rows.map (joined ',')

/-- The text of a table. -/
def text (table : CsvTable) : CsvEnding → Text
  | .noNewline => joined '\n' table.lines
  | .newline blankLines => ended '\n' table.lines ++ List.replicate blankLines '\n'

end CsvTable

/-- The number of blank lines after the last row. -/
def CsvEnding.blankLines : CsvEnding → ℕ
  | noNewline => 0
  | newline blankLines => blankLines

/-- The file answers as the table: the number of rows, and every cell. -/
structure CsvFile.Shows (csv : CsvFile) (table : CsvTable) : Prop where
  rowCount_eq : csv.rowCount.toInt = table.rows.length
  getValue_eq : ∀ (r j : ℕ) (row : List Text) (name cell : Text), table.rows[r]? = some row →
    table.names[j]? = some name → row[j]? = some cell → csv.getValue name r = .ok cell

/-- Reading the text gives the table, and so does reading what `dumpStr` then gives. -/
def ReadsBack (fileName : String) (table : CsvTable) (content : Text) : Prop :=
  ∃ csv, (CsvFile.new fileName).read (.text content) = (csv, .ok ()) ∧ csv.Shows table ∧
    ∃ csv', (CsvFile.new fileName).read (.text csv.dumpStr) = (csv', .ok ()) ∧ csv'.Shows table

end M2Cell
