import M2Cell.Util.CsvFile
import Mathlib.Data.List.Nodup

/-!
# Which tables are read back

A row comes back unless its last cell is empty: then `getline` gives one cell less and
the row is incomplete (`readRows_not_failed`).  The row count and the index of the
columns are set when the loop comes to the end of the file (`readText_ofTable`), so
with blank lines only a table without rows looks right (`shows_of_blankLine`).

`readsBack_iff` puts these together.  The text of `dumpStr` is a text of the table
without blank lines, so that it is read back whenever the first text is.

The text is taken apart from the outside: its lines (`pieces_text`), which are non-empty and
without a newline (`line_of_mem`), then the cells of a line (`readRow_joined`,
`readRow_of_endsEmpty`), then the loop over the lines (`readRows_append`).  What was read shows
the table when every column is found under its name (`lookup_zipIdx`) and the numbers of rows and
columns are kept by an `int` (`shows_ofTable_iff`).
-/

namespace M2Cell

/-! ## Rows -/

section rows

variable {row names : List Text} {rows : List (List Text)} {rest : List Text}
  {fileName : String} {rowCount : ℕ}

theorem readRow_joined (hplain : ∀ cell ∈ row, Plain cell) (hlast : row.getLast? ≠ some []) :
    CsvFile.readRow (joined ',' row) = row :=
  pieces_joined (fun cell hcell => (hplain cell hcell).1) hlast

/-- An empty last cell is not read. -/
theorem readRow_of_endsEmpty (hplain : ∀ cell ∈ row, Plain cell) (hlast : row.getLast? = some []) :
    (CsvFile.readRow (joined ',' row)).length + 1 = row.length := by
  obtain ⟨front, rfl⟩ := List.getLast?_eq_some_iff.mp hlast
  have hfront : ∀ cell ∈ front, ',' ∉ cell := fun cell hcell =>
    (hplain cell (List.mem_append_left _ hcell)).1
  rw [CsvFile.readRow, pieces_joined_concat_nil hfront, List.length_append, List.length_singleton]

/-- A row that has a cell with text, or two cells, has text. -/
theorem joined_ne_nil (hne : row ≠ []) (hcell : row.length = 1 → ∀ cell ∈ row, cell ≠ []) :
    joined ',' row ≠ [] := by
  cases row with
  | nil => exact absurd rfl hne
  | cons first others =>
      cases others with
      | nil =>
          rw [joined_singleton]
          exact hcell rfl first List.mem_cons_self
      | cons second others =>
          rw [joined_cons _ (List.cons_ne_nil second others)]
          simp

theorem notMem_joined (hne : row ≠ []) (hplain : ∀ cell ∈ row, Plain cell) :
    '\n' ∉ joined ',' row := by
  induction row with
  | nil => exact absurd rfl hne
  | cons first others ih =>
      have hfirst : '\n' ∉ first := (hplain first List.mem_cons_self).2
      cases others with
      | nil => rwa [joined_singleton]
      | cons second others =>
          have hothers := ih (List.cons_ne_nil second others)
            fun cell hcell => hplain cell (List.mem_cons_of_mem _ hcell)
          rw [joined_cons _ (List.cons_ne_nil second others), List.mem_append, List.mem_cons]
          rintro (h | h | h)
          · exact hfirst h
          · exact absurd h (by decide)
          · exact hothers h

/-- Rows whose last cells have text are read, one after the other. -/
theorem readRows_append (hne : names ≠ []) (hlength : ∀ row ∈ rows, row.length = names.length)
    (hplain : ∀ row ∈ rows, ∀ cell ∈ row, Plain cell)
    (hlast : ∀ row ∈ rows, row.getLast? ≠ some []) (hcount : rowCount + rows.length < 2 ^ 31) :
    CsvFile.readRows fileName names rowCount (rows.map (joined ',') ++ rest) =
      (rows ++ (CsvFile.readRows fileName names (rowCount + rows.length) rest).1,
        (CsvFile.readRows fileName names (rowCount + rows.length) rest).2) := by
  induction rows generalizing rowCount with
  | nil => rfl
  | cons row rows ih =>
      rw [List.forall_mem_cons] at hlength hplain hlast
      obtain ⟨hrow, hlength⟩ := hlength
      have hread := readRow_joined hplain.1 hlast.1
      have hnames := List.length_pos_of_ne_nil hne
      have hnext : (rowCount + 1) + rows.length < 2 ^ 31 := by
        rw [List.length_cons] at hcount
        omega
      have hrows := ih hlength hplain.2 hlast.2 hnext
      rw [List.map_cons, List.cons_append, CsvFile.readRows, hread, if_neg (by omega),
        if_neg (by omega), if_neg (by omega), hrows, List.length_cons,
        Nat.add_assoc, Nat.add_comm 1 rows.length]
      rfl

/-- **When the loop does not fail**, all last cells have text, and the counter has not reached
its bound. -/
theorem readRows_not_failed (hne : names ≠ [])
    (hlength : ∀ row ∈ rows, row.length = names.length)
    (hplain : ∀ row ∈ rows, ∀ cell ∈ row, Plain cell)
    (hcell : names.length = 1 → ∀ row ∈ rows, ∀ cell ∈ row, cell ≠ [])
    (hcount : rowCount < 2 ^ 31)
    (h : ∀ failure, (CsvFile.readRows fileName names rowCount
      (rows.map (joined ',') ++ rest)).2 ≠ .failed failure) :
    (∀ row ∈ rows, row.getLast? ≠ some []) ∧ rowCount + rows.length < 2 ^ 31 := by
  induction rows generalizing rowCount with
  | nil => exact ⟨fun _ hrow => absurd hrow List.not_mem_nil, hcount⟩
  | cons row rows ih =>
      rw [List.forall_mem_cons] at hlength hplain
      obtain ⟨hrow, hlength⟩ := hlength
      obtain ⟨hplainRow, hplain⟩ := hplain
      have hnames := List.length_pos_of_ne_nil hne
      rw [List.map_cons, List.cons_append, CsvFile.readRows] at h
      by_cases hlast : row.getLast? = some []
      · -- the row is one cell short, and has another one
        have hread := readRow_of_endsEmpty hplainRow hlast
        have htwo : names.length ≠ 1 := fun hone =>
          hcell hone row List.mem_cons_self [] (List.mem_of_getLast? hlast) rfl
        rw [if_neg (by omega), if_pos (by omega)] at h
        exact absurd rfl (h _)
      · have hread := readRow_joined hplainRow hlast
        rw [hread, if_neg (by omega), if_neg (by omega)] at h
        by_cases hbound : rowCount + 1 = 2 ^ 31
        · rw [if_pos hbound] at h
          exact absurd rfl (h _)
        · rw [if_neg hbound] at h
          have hcell' : names.length = 1 → ∀ row ∈ rows, ∀ cell ∈ row, cell ≠ [] :=
            fun hone => (List.forall_mem_cons.mp (hcell hone)).2
          obtain ⟨hrows, htotal⟩ := ih hlength hplain hcell' (by omega) h
          refine ⟨List.forall_mem_cons.mpr ⟨hlast, hrows⟩, ?_⟩
          rw [List.length_cons]
          omega

end rows

/-! ## Columns -/

section columns

variable {names : List Text} {colIndex : List (Text × ℕ)} {fileName : String} {j : ℕ}

/-- Columns with new names are added to the index, in their order. -/
theorem indexColumns_of_nodup (hnodup : names.Nodup)
    (hnew : ∀ name ∈ names, colIndex.lookup name = none) :
    CsvFile.indexColumns fileName j names colIndex = (colIndex ++ names.zipIdx j, .ok ()) := by
  induction names generalizing j colIndex with
  | nil => rw [CsvFile.indexColumns, List.zipIdx_nil, List.append_nil]
  | cons name names ih =>
      obtain ⟨hname, hnodup⟩ := List.nodup_cons.mp hnodup
      have hrest : ∀ other ∈ names, (colIndex ++ [(name, j)]).lookup other = none := by
        intro other hother
        have hne : (other == name) = false := beq_eq_false_iff_ne.mpr fun h => hname (h ▸ hother)
        rw [List.lookup_append, hnew other (List.mem_cons_of_mem _ hother)]
        simp [List.lookup_cons, hne]
      rw [CsvFile.indexColumns, hnew name List.mem_cons_self, if_neg (by simp),
        ih hnodup hrest, List.append_assoc, List.zipIdx_cons, List.singleton_append]

/-- The index finds a column by its name. -/
theorem lookup_zipIdx {name : Text} (hnodup : names.Nodup) {i : ℕ} (h : names[i]? = some name) :
    (names.zipIdx j).lookup name = some (j + i) := by
  induction names generalizing i j with
  | nil => cases h
  | cons first names ih =>
      obtain ⟨hfirst, hnodup⟩ := List.nodup_cons.mp hnodup
      rw [List.zipIdx_cons]
      cases i with
      | zero =>
          obtain rfl := Option.some.inj h
          rw [List.lookup_cons_self]
          rfl
      | succ i =>
          rw [List.getElem?_cons_succ] at h
          have hne : (name == first) = false := beq_eq_false_iff_ne.mpr fun heq =>
            hfirst (heq ▸ List.mem_of_getElem? h)
          rw [List.lookup_cons, hne, ih hnodup h, Nat.add_assoc, Nat.add_comm 1 i]

theorem lookup_zipIdx_of_notMem {name : Text} (hname : name ∉ names) :
    (names.zipIdx j).lookup name = none := by
  induction names generalizing j with
  | nil => rfl
  | cons first names ih =>
      obtain ⟨hfirst, hrest⟩ := not_or.mp (fun h => hname (List.mem_cons.mpr h))
      have hne : (name == first) = false := beq_eq_false_iff_ne.mpr hfirst
      rw [List.zipIdx_cons, List.lookup_cons, hne, ih hrest]

end columns

/-! ## Files -/

namespace CsvTable

variable (table : CsvTable)

theorem row_ne_nil {row : List Text} (hrow : row ∈ table.rows) : row ≠ [] := by
  intro h
  have hlength := table.length_row row hrow
  rw [h, List.length_nil] at hlength
  exact table.names_ne_nil (List.length_eq_zero_iff.mp hlength.symm)

theorem getLast?_names_ne : table.names.getLast? ≠ some [] := fun h =>
  table.name_ne_nil [] (List.mem_of_getLast? h) rfl

/-- A line of a table has no newline in it, and is not empty. -/
theorem line_of_mem {line : Text} (hline : line ∈ table.lines) : '\n' ∉ line ∧ line ≠ [] := by
  rcases List.mem_cons.mp hline with rfl | hmem
  · exact ⟨notMem_joined table.names_ne_nil table.plain_name,
      joined_ne_nil table.names_ne_nil fun _ => table.name_ne_nil⟩
  · obtain ⟨row, hrow, rfl⟩ := List.mem_map.mp hmem
    have hcell : row.length = 1 → ∀ cell ∈ row, cell ≠ [] := fun hone =>
      table.cell_ne_nil ((table.length_row row hrow).symm.trans hone) row hrow
    exact ⟨notMem_joined (table.row_ne_nil hrow) (table.plain_cell row hrow),
      joined_ne_nil (table.row_ne_nil hrow) hcell⟩

/-- The lines of a text of the table. -/
theorem pieces_text (ending : CsvEnding) :
    pieces '\n' (table.text ending) = table.lines ++ List.replicate ending.blankLines [] := by
  cases ending with
  | noNewline =>
      rw [text, CsvEnding.blankLines, List.replicate_zero, List.append_nil]
      refine pieces_joined (fun line hline => (table.line_of_mem hline).1) fun hlast => ?_
      exact (table.line_of_mem (List.mem_of_getLast? hlast)).2 rfl
  | newline blankLines =>
      rw [text, pieces_ended_append fun line hline => (table.line_of_mem hline).1,
        pieces_replicate]
      rfl

end CsvTable

/-- What `dumpStr` writes after the names and rows of a table were stored. -/
theorem dumpStr_eq_text {csv : CsvFile} {table : CsvTable} (hnames : csv.columnNames = table.names)
    (hrows : csv.rowStrings = table.rows) : csv.dumpStr = table.text (.newline 0) := by
  rw [CsvFile.dumpStr, hnames, hrows, CsvTable.text, CsvTable.lines, ended, List.flatMap_cons,
    List.flatMap_map, List.replicate_zero, List.append_nil]
  rfl

section files

variable {table : CsvTable} {content : Text} {fileName : String} {blankLines : ℕ}

/-- The rows that `read` stores, and how its loop ends. -/
def tableRows (fileName : String) (table : CsvTable) (blankLines : ℕ) :
    List (List Text) × RowsEnd :=
  CsvFile.readRows fileName table.names 0
    (table.rows.map (joined ',') ++ List.replicate blankLines [])

/-- `read` of the lines of a table, and of blank lines after them. -/
theorem read_of_pieces
    (h : pieces '\n' content = table.lines ++ List.replicate blankLines []) :
    (CsvFile.new fileName).read (.text content) =
      CsvFile.finish
        ⟨fileName, table.names, Int32.ofNat table.names.length,
          (tableRows fileName table blankLines).1, 0, []⟩
        (tableRows fileName table blankLines).2 := by
  obtain ⟨rest, hline, hrest⟩ := getline_of_pieces h
  have hnames := readRow_joined table.plain_name table.getLast?_names_ne
  simp only [CsvFile.read, CsvFile.readText, hline, Option.getD_some, CsvFile.new, hnames, hrest,
    List.nil_append]
  rfl

/-- The last cell of no row is empty, and the rows can be counted. -/
def CsvTable.Readable (table : CsvTable) : Prop :=
  (∀ row ∈ table.rows, row.getLast? ≠ some []) ∧ table.rows.length < 2 ^ 31

theorem tableRows_eq (h : table.Readable) :
    tableRows fileName table blankLines =
      (table.rows, if blankLines = 0 then .endOfFile else .blankLine) := by
  have hcount : 0 + table.rows.length < 2 ^ 31 := by
    rw [Nat.zero_add]
    exact h.2
  rw [tableRows, readRows_append table.names_ne_nil table.length_row table.plain_cell h.1 hcount]
  cases blankLines with
  | zero => simp [CsvFile.readRows]
  | succ n => simp [List.replicate_succ, CsvFile.readRows, CsvFile.readRow]

/-- A table whose rows are read without a failure is readable. -/
theorem readable_of_not_failed
    (h : ∀ failure, (tableRows fileName table blankLines).2 ≠ .failed failure) :
    table.Readable := by
  have hrows := readRows_not_failed table.names_ne_nil table.length_row table.plain_cell
    table.cell_ne_nil (by decide) h
  rwa [Nat.zero_add] at hrows

/-- The file after `read` has come to the end of the table. -/
def CsvFile.ofTable (fileName : String) (table : CsvTable) : CsvFile where
  fileName := fileName
  columnNames := table.names
  columnCount := Int32.ofNat table.names.length
  rowStrings := table.rows
  rowCount := Int32.ofNat table.rows.length
  colIndex := (table.names.take (Int32.ofNat table.names.length).toInt.toNat).zipIdx

/-- **The end of the file.**  A readable table without blank lines is read and indexed. -/
theorem readText_ofTable (h : pieces '\n' content = table.lines) (hreadable : table.Readable) :
    (CsvFile.new fileName).read (.text content) = (CsvFile.ofTable fileName table, .ok ()) := by
  have hpieces : pieces '\n' content = table.lines ++ List.replicate 0 [] := by
    rw [h, List.replicate_zero, List.append_nil]
  have hnodup : (table.names.take (Int32.ofNat table.names.length).toInt.toNat).Nodup :=
    (List.take_sublist _ _).nodup table.nodup_names
  rw [read_of_pieces hpieces, tableRows_eq hreadable, if_pos rfl]
  simp only [CsvFile.finish, CsvFile.organize]
  rw [indexColumns_of_nodup hnodup fun _ _ => rfl]
  rfl

/-! ### Values -/

/-- A size beyond the largest `int` is not kept. -/
theorem toNat_toInt_ofNat_lt {n : ℕ} (h : 2 ^ 31 ≤ n) : (Int32.ofNat n).toInt.toNat < n := by
  have hlt := (Int32.ofNat n).toInt_lt
  omega

/-- The cells of a table that was read are found, when it has rows exactly if its columns can
be counted. -/
theorem shows_ofTable_iff (hcount : table.rows.length < 2 ^ 31) :
    (CsvFile.ofTable fileName table).Shows table ↔
      table.rows = [] ∨ table.names.length < 2 ^ 31 := by
  have hrowCount := Int32.toInt_ofNat_of_lt hcount
  constructor
  · intro hshows
    by_contra hcon
    obtain ⟨hrows, hnames⟩ := not_or.mp hcon
    obtain ⟨row, rest, hcons⟩ := List.exists_cons_of_ne_nil hrows
    -- the last column is beyond the index
    have hlast : table.names.length - 1 < table.names.length := by omega
    have hrow : row.length = table.names.length :=
      table.length_row row (hcons ▸ List.mem_cons_self)
    have hget := hshows.getValue_eq 0 (table.names.length - 1) row _ _ (by rw [hcons]; rfl)
      (List.getElem?_eq_getElem hlast) (List.getElem?_eq_getElem (hrow ▸ hlast))
    have hout : table.names[table.names.length - 1] ∉
        table.names.take (Int32.ofNat table.names.length).toInt.toNat := by
      intro hmem
      obtain ⟨i, hi, heq⟩ := List.mem_take_iff_getElem.mp hmem
      have hidx := (List.Nodup.getElem_inj_iff table.nodup_names).mp heq
      have hbound := toNat_toInt_ofNat_lt (not_lt.mp hnames)
      omega
    have hnone : (CsvFile.ofTable fileName table).colIndex.lookup
        table.names[table.names.length - 1] = none := lookup_zipIdx_of_notMem hout
    unfold CsvFile.getValue at hget
    split_ifs at hget
    rw [hnone] at hget
    cases hget
  · intro h
    refine ⟨hrowCount, ?_⟩
    intro r j row name cell hrow hname hcell
    have hnames : table.names.length < 2 ^ 31 := by
      rcases h with hrows | hnames
      · rw [hrows] at hrow
        cases hrow
      · exact hnames
    obtain ⟨hr, -⟩ := List.getElem?_eq_some_iff.mp hrow
    have hall : table.names.take (Int32.ofNat table.names.length).toInt.toNat = table.names := by
      rw [Int32.toInt_ofNat_of_lt hnames, Int.toNat_natCast, List.take_length]
    have hlookup : (CsvFile.ofTable fileName table).colIndex.lookup name = some j := by
      rw [CsvFile.ofTable, hall, lookup_zipIdx table.nodup_names hname, Nat.zero_add]
    have hinside : ¬ ((r : ℤ) < 0 ∨ (CsvFile.ofTable fileName table).rowCount.toInt ≤ r) := by
      rw [CsvFile.ofTable, hrowCount]
      omega
    rw [CsvFile.getValue, if_neg hinside, hlookup]
    simp only [Int.toNat_natCast, CsvFile.ofTable, readAt, hrow, hcell, bind, Except.bind]

/-! ### Reading back -/

/-- After a blank line, no row is counted and no column is indexed. -/
theorem shows_of_blankLine {stored : List (List Text)} {columnCount : Int32} :
    (CsvFile.mk fileName table.names columnCount stored 0 []).Shows table ↔ table.rows = [] := by
  constructor
  · intro hshows
    exact List.length_eq_zero_iff.mp (Int.ofNat_inj.mp hshows.rowCount_eq.symm)
  · intro hrows
    refine ⟨by rw [hrows]; rfl, fun r j row name cell hrow => ?_⟩
    rw [hrows] at hrow
    cases hrow

/-- What was stored is read again from `dumpStr`. -/
theorem read_dumpStr {csv : CsvFile} (hnames : csv.columnNames = table.names)
    (hrows : csv.rowStrings = table.rows) (hreadable : table.Readable) :
    (CsvFile.new fileName).read (.text csv.dumpStr) =
      (CsvFile.ofTable fileName table, .ok ()) := by
  have hpieces := table.pieces_text (.newline 0)
  rw [CsvEnding.blankLines, List.replicate_zero, List.append_nil] at hpieces
  rw [dumpStr_eq_text hnames hrows]
  exact readText_ofTable hpieces hreadable

/-- The rows of a table that is read without a failure can be read. -/
theorem readable_of_read {csv : CsvFile}
    (h : pieces '\n' content = table.lines ++ List.replicate blankLines [])
    (hread : (CsvFile.new fileName).read (.text content) = (csv, .ok ())) : table.Readable := by
  have hnot : ∀ failure, (tableRows fileName table blankLines).2 ≠ .failed failure := by
    intro failure hfailed
    rw [read_of_pieces h, hfailed] at hread
    cases (Prod.mk.inj hread).2
  exact readable_of_not_failed hnot

/-- **Reading back.**  The text of a table is read back, and dumped so that it is read back
again, exactly when the table has no rows, or its last cells all have text, its rows and
columns can be counted in an `int`, and no blank line follows. -/
theorem readsBack_iff (fileName : String) (table : CsvTable) (ending : CsvEnding) :
    ReadsBack fileName table (table.text ending) ↔
      table.rows = [] ∨
        (table.Readable ∧ table.names.length < 2 ^ 31 ∧ ending.blankLines = 0) := by
  have hpieces := table.pieces_text ending
  constructor
  · rintro ⟨csv, hread, hshows, -⟩
    have hreadable := readable_of_read hpieces hread
    -- with a blank line the loop ends there, and nothing is counted or indexed
    by_cases hblank : ending.blankLines = 0
    · rw [hblank, List.replicate_zero, List.append_nil] at hpieces
      rw [readText_ofTable hpieces hreadable] at hread
      obtain ⟨rfl, -⟩ := Prod.mk.inj hread
      rcases (shows_ofTable_iff hreadable.2).mp hshows with hrows | hnames
      · exact Or.inl hrows
      · exact Or.inr ⟨hreadable, hnames, hblank⟩
    · rw [read_of_pieces hpieces, tableRows_eq hreadable, if_neg hblank] at hread
      obtain ⟨rfl, -⟩ := Prod.mk.inj hread
      exact Or.inl (shows_of_blankLine.mp hshows)
  · intro h
    have hreadable : table.Readable := by
      rcases h with hrows | ⟨hreadable, -⟩
      · exact ⟨by simp [hrows], by simp [hrows]⟩
      · exact hreadable
    have hcolumns : table.rows = [] ∨ table.names.length < 2 ^ 31 := h.imp id fun h => h.2.1
    have hdumped : (CsvFile.ofTable fileName table).Shows table :=
      (shows_ofTable_iff hreadable.2).mpr hcolumns
    by_cases hblank : ending.blankLines = 0
    · rw [hblank, List.replicate_zero, List.append_nil] at hpieces
      exact ⟨_, readText_ofTable hpieces hreadable, hdumped, _, read_dumpStr rfl rfl hreadable,
        hdumped⟩
    · have hrows : table.rows = [] := by
        rcases h with hrows | ⟨-, -, hzero⟩
        · exact hrows
        · exact absurd hzero hblank
      have hread : (CsvFile.new fileName).read (.text (table.text ending)) =
          (⟨fileName, table.names, Int32.ofNat table.names.length, table.rows, 0, []⟩, .ok ()) := by
        rw [read_of_pieces hpieces, tableRows_eq hreadable, if_neg hblank]
        rfl
      exact ⟨_, hread, shows_of_blankLine.mpr hrows, _, read_dumpStr rfl rfl hreadable, hdumped⟩

end files

/-! ## A table that is not read back -/

/-- A table with an empty last cell. -/
def emptyLastCell : CsvTable where
  names := [['a'], ['b']]
  rows := [[['1'], []]]
  names_ne_nil := by decide
  nodup_names := by decide
  name_ne_nil := by decide
  plain_name := by simp [Plain]
  length_row := by decide
  plain_cell := by simp [Plain]
  cell_ne_nil := by decide

/-- `a,b` and a row `1,` with nothing after the comma. -/
theorem not_readsBack_emptyLastCell :
    ¬ ReadsBack "table.csv" emptyLastCell (emptyLastCell.text (.newline 0)) := by
  rintro ⟨csv, hread, -⟩
  have hreadable := readable_of_read (emptyLastCell.pieces_text (.newline 0)) hread
  exact hreadable.1 [['1'], []] List.mem_cons_self rfl

end M2Cell
