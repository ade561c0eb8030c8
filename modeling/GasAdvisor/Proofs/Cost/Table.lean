import GasAdvisor.Proofs.Cost.Amounts
import GasAdvisor.Proofs.Cost.Measured
import GasAdvisor.Proofs.Text.Identifiers
import GasAdvisor.Proofs.Text.Search
import GasAdvisor.Proofs.Text.Shapes
import GasAdvisor.Proofs.Text.Words

/-!
# Printed tables

A row of a table has six cells: the names of a contract and of a method, the least and the greatest cost,
the average and the number of calls. Cells are padded with spaces, and nothing but the marks between them
tells which is which. The reader counts the marks from the bar at the front of a row, so it comes to the
average whatever the other cells hold (`Hardhat.rowAt_front`), and what stands there decides: digits are
read, while a word that is no number leaves nothing to read (`Hardhat.averageAt_cell`). As a row has one
bar only, the search for a row does not succeed at any later place.

A table that is printed line by line then states, for each method, the last average in its rows that is
positive and of 64 bits (`TableLine.table_read_exactly`).
-/

namespace GasAdvisor

open Text

namespace Hardhat

/-! ## Cells -/

/-- Spaces. -/
def padding (width : Nat) : List Char :=
  List.replicate width ' '

theorem isBlank_of_mem_padding {width : Nat} : ∀ c ∈ padding width, isBlank c = true := by
  intro c hc
  rw [List.eq_of_mem_replicate hc]
  decide

theorem not_mem_padding {width : Nat} {c : Char} (hc : isBlank c = false) : c ∉ padding width := by
  intro hmem
  rw [isBlank_of_mem_padding c hmem] at hc
  cases hc

/-- A class without spaces stops at padding, as it does at the mark behind it. -/
theorem stops_padding {p : Char → Bool} (hspace : p ' ' = false) (hmark : p columnMark = false)
    (width : Nat) (s : List Char) : Stops p (padding width ++ columnMark :: s) := by
  cases width with
  | zero => exact stops_cons.2 hmark
  | succ width => exact stops_cons.2 hspace

theorem blanks_padding (width : Nat) {s : List Char} (hs : Stops isBlank s) (before : Option Char) :
    Shape.blanks before (padding width ++ s) = some (padding width, s) :=
  Shape.many_append isBlank_of_mem_padding hs before

theorem columnEnd_append (width : Nat) (s : List Char) (before : Option Char) :
    columnEnd before (padding width ++ columnMark :: s) = some (padding width ++ [columnMark], s) :=
  Shape.andThen_of_some (blanks_padding width (stops_cons.2 (by decide)) before)
    fun _ => Shape.one_cons (decide_eq_true rfl) _ s

theorem skip_columnEnd_eq_none {c : Char} (hblank : isBlank c = false) (hmark : c ≠ columnMark)
    (s : List Char) : Shape.skip columnEnd (c :: s) = none := by
  have hend : columnEnd none (c :: s) = none := by
    have hblanks : Shape.blanks none (c :: s) = some ([], c :: s) :=
      blanks_padding 0 (stops_cons.2 hblank) none
    have hone (before : Option Char) : Shape.one (· = columnMark) before (c :: s) = none :=
      if_neg (by simpa using hmark)
    rw [columnEnd, Shape.seq, Shape.seq, Shape.andThen_eq_bind, hblanks, Option.bind_some, hone]
    · rfl
    · simp
  rw [Shape.skip, hend]
  rfl

theorem anyColumn_append {cell : List Char} (hcell : columnMark ∉ cell) (s : List Char)
    (before : Option Char) :
    anyColumn before (cell ++ columnMark :: s) = some (cell ++ [columnMark], s) := by
  have hother : ∀ c ∈ cell, (c != columnMark) = true := fun c hc =>
    bne_iff_ne.2 fun h => hcell (h ▸ hc)
  exact Shape.andThen_of_some (Shape.many_append hother (stops_cons.2 (by decide)) before)
    fun _ => Shape.one_cons (decide_eq_true rfl) _ s

/-! ## Rows -/

/-- The bar and the first column are passed over. -/
theorem skip_contract {contract : List Char} (hcontract : IsName contract) (a b c : Nat)
    {s : List Char} (hs : Stops isBlank s) :
    Shape.skip (.seq [.one (· = '|'), .blanks, .many1 isWord, columnEnd, .blanks])
      ('|' :: (padding a ++ (contract ++ (padding b ++ columnMark :: (padding c ++ s))))) =
      some s := by
  have hmark (before : Option Char) :=
    Shape.andThen_of_some (columnEnd_append b (padding c ++ s) before) (blanks_padding c hs)
  have hname (before : Option Char) :=
    Shape.andThen_of_some (Shape.many1_append hcontract.ne_nil hcontract.isWord
      (stops_padding (by decide) (by decide) b _) before) hmark
  have hcell (before : Option Char) :=
    Shape.andThen_of_some
      (blanks_padding a (stops_isBlank_of_word hcontract.ne_nil hcontract.isWord) before) hname
  exact Shape.skip_of_some (Shape.andThen_of_some (Shape.one_cons (decide_eq_true rfl) none _) hcell)

/-- From the name of a method on, two columns are passed over, whatever they hold. -/
theorem skip_least_greatest {least greatest : List Char} (hleast : columnMark ∉ least)
    (hgreatest : columnMark ∉ greatest) (d : Nat) (s : List Char) :
    Shape.skip (.seq [columnEnd, anyColumn, anyColumn, .blanks])
      (padding d ++ columnMark :: (least ++ columnMark :: (greatest ++ columnMark :: s))) =
      some (s.dropWhile isBlank) := by
  have hblanks (before : Option Char) :
      Shape.blanks before s = some (s.takeWhile isBlank, s.dropWhile isBlank) := rfl
  have hsecond (before : Option Char) :=
    Shape.andThen_of_some (anyColumn_append hgreatest s before) hblanks
  have hfirst (before : Option Char) :=
    Shape.andThen_of_some (anyColumn_append hleast _ before) hsecond
  exact Shape.skip_of_some (Shape.andThen_of_some (columnEnd_append d _ none) hfirst)

/-- The digits of the average, where its cell starts. -/
def averageAt (s : List Char) : Option (List Char) := do
  let (ds, s) ← Shape.digits? (s.dropWhile isBlank)
  let _ ← Shape.skip columnEnd s
  return ds

/-- **A row is read up to its average** by counting marks. -/
theorem rowAt_front {contract method least greatest : List Char} (hcontract : IsName contract)
    (hmethod : IsName method) (hleast : columnMark ∉ least) (hgreatest : columnMark ∉ greatest)
    (a b c d : Nat) (s : List Char) (before : Option Char) :
    rowAt before ('|' :: (padding a ++ (contract ++ (padding b ++ columnMark ::
      (padding c ++ (method ++ (padding d ++ columnMark ::
        (least ++ columnMark :: (greatest ++ columnMark :: s))))))))) =
      (averageAt s).map (method, ·) := by
  have hnames := skip_contract hcontract a b c
    (stops_isBlank_of_word (b := padding d ++ columnMark ::
      (least ++ columnMark :: (greatest ++ columnMark :: s))) hmethod.ne_nil hmethod.isWord)
  have hword : Shape.word? (method ++ (padding d ++ columnMark ::
      (least ++ columnMark :: (greatest ++ columnMark :: s)))) = some (method, _) :=
    Shape.word?_append hmethod.ne_nil hmethod.isWord
      (stops_padding (by decide) (by decide) d _)
  have hcosts := skip_least_greatest hleast hgreatest d s
  simp only [rowAt, hnames, hword, hcosts, averageAt, Option.bind_eq_bind, Option.bind_some,
    Option.pure_def]
  cases Shape.digits? (s.dropWhile isBlank) with
  | none => rfl
  | some found =>
    simp only [Option.bind_some]
    cases Shape.skip columnEnd found.2 <;> rfl

/-- **What stands in the cell of the average decides**: digits are read, and of a word that is no number
nothing is. -/
theorem averageAt_cell {w : List Char} (hw : IsWhole w) (hmark : columnMark ∉ w) (e f : Nat)
    (s : List Char) :
    averageAt (padding e ++ (w ++ (padding f ++ columnMark :: s))) =
      if w.all isDecimalDigit then some w else none := by
  have hfront : (padding e ++ (w ++ (padding f ++ columnMark :: s))).dropWhile isBlank =
      w ++ (padding f ++ columnMark :: s) :=
    dropWhile_append_of_stop isBlank_of_mem_padding (hw.stops _)
  have hend : Stops isDecimalDigit (padding f ++ columnMark :: s) :=
    stops_padding (by decide) (by decide) f s
  rw [averageAt, hfront]
  by_cases hall : w.all isDecimalDigit = true
  · have hdigits : Shape.digits? (w ++ (padding f ++ columnMark :: s)) =
        some (w, padding f ++ columnMark :: s) :=
      Shape.digits?_append hw.ne_nil (List.all_eq_true.1 hall) hend
    have hmark : Shape.skip columnEnd (padding f ++ columnMark :: s) = some s :=
      Shape.skip_of_some (columnEnd_append f s none)
    simp only [hdigits, hmark, hall, if_true, Option.bind_eq_bind, Option.bind_some,
      Option.pure_def]
  · -- the first character that is no digit ends the digits, and it is not the end of the cell either
    rw [if_neg hall]
    rw [List.all_eq_true] at hall
    obtain ⟨front, c, rest, rfl, hfront, hc⟩ := exists_first_not hall
    rw [List.append_assoc, List.cons_append]
    rcases front with _ | ⟨d, front⟩
    · have hnone : Shape.digits? (c :: (rest ++ (padding f ++ columnMark :: s))) = none := by
        rw [Shape.digits?, Shape.many1_eq, if_neg]
        simpa using hc
      rw [List.nil_append, hnone]
      rfl
    · have hdigits := Shape.digits?_append (List.cons_ne_nil d front) hfront
        (b := c :: (rest ++ (padding f ++ columnMark :: s))) (stops_cons.2 hc)
      have hblank : isBlank c = false := hw.solid c (by simp)
      have hother : c ≠ columnMark := fun h => hmark (by simp [h])
      rw [hdigits]
      simp only [skip_columnEnd_eq_none hblank hother, Option.bind_eq_bind, Option.bind_some,
        Option.bind_none]

/-! ## Searching for rows -/

/-- A row starts with a bar. -/
theorem rowAt_eq_none {c : Char} (hc : c ≠ '|') (s : List Char) (before : Option Char) :
    rowAt before (c :: s) = none := by
  have hbar : Shape.skip (.seq [.one (· = '|'), .blanks, .many1 isWord, columnEnd, .blanks])
      (c :: s) = none := by
    have hone : Shape.one (· = '|') none (c :: s) = none := if_neg (by simpa using hc)
    rw [Shape.skip, Shape.seq, Shape.andThen_eq_bind, hone]
    · rfl
    · simp
  rw [rowAt, hbar]
  rfl

/-- Without a bar there is no row. -/
theorem firstFrom_rowAt_eq_none {s : List Char} (hs : '|' ∉ s) (before : Option Char) :
    firstFrom rowAt before s = none := by
  have hnone : ∀ u v, s = u ++ v → v ≠ [] → ∀ before, rowAt before (v ++ []) = none := by
    intro u v huv hv before
    obtain ⟨c, v, rfl⟩ := List.exists_cons_of_ne_nil hv
    have hc : c ≠ '|' := fun h => hs (by simp [huv, h])
    exact rowAt_eq_none hc _ before
  have hpass : firstFrom rowAt before (s ++ []) = none := firstFrom_append_of_none hnone
  rwa [List.append_nil] at hpass

/-- **A line with one bar is read at the bar**, or not at all. -/
theorem first?_rowAt {s : List Char} (hs : '|' ∉ s) :
    first? rowAt ('|' :: s) = rowAt none ('|' :: s) := by
  rw [first?, firstFrom]
  split
  · next hfound => exact hfound.symm
  · next hnone => rw [firstFrom_rowAt_eq_none hs, hnone]

theorem ofTableLine?_of_no_bar {s : List Char} (hs : '|' ∉ s) : ofTableLine? s = none := by
  rw [ofTableLine?, first?, firstFrom_rowAt_eq_none hs]
  rfl

end Hardhat

/-! ## Printed tables -/

/-- A text with spaces on both sides. -/
structure TableCell where
  left : Nat
  content : String
  right : Nat

/-- The text of a cell with its spaces. -/
def TableCell.text (cell : TableCell) : String :=
  String.ofList (Hardhat.padding cell.left) ++ cell.content ++
    String.ofList (Hardhat.padding cell.right)

/-- A text without the characters that make up a table: bars, marks of columns and line feeds. -/
structure IsCellContent (s : List Char) : Prop where
  bar : '|' ∉ s
  mark : Hardhat.columnMark ∉ s
  feed : '\n' ∉ s

instance (s : List Char) : Decidable (IsCellContent s) :=
  decidable_of_iff ('|' ∉ s ∧ Hardhat.columnMark ∉ s ∧ '\n' ∉ s)
    ⟨fun h => ⟨h.1, h.2.1, h.2.2⟩, fun h => ⟨h.bar, h.mark, h.feed⟩⟩

namespace TableCell

open Hardhat

/-- A cell as a part of its row. -/
theorem toList_text (cell : TableCell) :
    cell.text.toList = padding cell.left ++ (cell.content.toList ++ padding cell.right) := by
  rw [text, String.toList_append, String.toList_append, String.toList_ofList,
    String.toList_ofList, List.append_assoc]

/-- Spaces do not make up a table. -/
theorem isCellContent_text {cell : TableCell} (h : IsCellContent cell.content.toList) :
    IsCellContent cell.text.toList := by
  have hside {c : Char} (hc : isBlank c = false) (hcontent : c ∉ cell.content.toList) :
      c ∉ cell.text.toList := by
    simp only [toList_text, List.mem_append, not_or]
    exact ⟨not_mem_padding hc, hcontent, not_mem_padding hc⟩
  refine ⟨hside (by decide) h.bar, hside (by decide) h.mark, fun hfeed => ?_⟩
  simp only [toList_text, List.mem_append] at hfeed
  rcases hfeed with hmem | hmem | hmem
  · exact absurd (List.eq_of_mem_replicate hmem) (by decide)
  · exact h.feed hmem
  · exact absurd (List.eq_of_mem_replicate hmem) (by decide)

end TableCell

theorem isCellContent_of_isName {s : List Char} (h : IsName s) : IsCellContent s :=
  ⟨h.not_mem (by decide), h.not_mem (by decide), h.not_mem (by decide)⟩

/-- A row of a table. The names are words and the average is one word, a number or not; the other cells
may hold anything. -/
structure TableRow where
  contract : TableCell
  method : TableCell
  least : TableCell
  greatest : TableCell
  average : TableCell
  calls : TableCell
  isName_contract : IsName contract.content.toList := by decide +kernel
  isName_method : IsName method.content.toList := by decide +kernel
  isCellContent_least : IsCellContent least.content.toList := by decide +kernel
  isCellContent_greatest : IsCellContent greatest.content.toList := by decide +kernel
  isWhole_average : IsWhole average.content.toList := by decide +kernel
  isCellContent_average : IsCellContent average.content.toList := by decide +kernel
  isCellContent_calls : IsCellContent calls.content.toList := by decide +kernel

namespace TableRow

/-- The line of a row. -/
def line (r : TableRow) : String :=
  "|" ++ String.intercalate "·" [r.contract.text, r.method.text, r.least.text, r.greatest.text,
    r.average.text, r.calls.text] ++ "·"

/-- The name of the method in lower case. -/
def key (r : TableRow) : String :=
  lowerName r.method.content

/-- The average of a row, if it is written in digits, positive and one of 64 bits. -/
def average? (r : TableRow) : Option Nat :=
  let gas := Nat.ofDigitChars 10 r.average.content.toList 0
  if IsDigits r.average.content.toList ∧ 0 < gas ∧ gas < 2 ^ 64 then some gas else none

/-! ### What a row states -/

open Hardhat

/-- What follows the bar of a row. -/
def columns (r : TableRow) : List Char :=
  r.contract.text.toList ++ columnMark :: (r.method.text.toList ++ columnMark ::
    (r.least.text.toList ++ columnMark :: (r.greatest.text.toList ++ columnMark ::
      (r.average.text.toList ++ columnMark :: (r.calls.text.toList ++ [columnMark])))))

theorem toList_line (r : TableRow) : r.line.toList = '|' :: r.columns := by
  have hbar : "|".toList = ['|'] := by decide
  have hmark : "·".toList = [columnMark] := by decide
  simp [line, columns, hbar, hmark]

/-- A row has neither another bar nor a line feed. -/
theorem not_mem_columns (r : TableRow) : '|' ∉ r.columns ∧ '\n' ∉ r.columns := by
  have hcontract := TableCell.isCellContent_text (isCellContent_of_isName r.isName_contract)
  have hmethod := TableCell.isCellContent_text (isCellContent_of_isName r.isName_method)
  have hleast := TableCell.isCellContent_text r.isCellContent_least
  have hgreatest := TableCell.isCellContent_text r.isCellContent_greatest
  have haverage := TableCell.isCellContent_text r.isCellContent_average
  have hcalls := TableCell.isCellContent_text r.isCellContent_calls
  have hbar : '|' ≠ columnMark := by decide
  have hfeed : '\n' ≠ columnMark := by decide
  simp only [columns, List.mem_append, List.mem_cons, List.not_mem_nil, not_or]
  exact ⟨⟨hcontract.bar, hbar, hmethod.bar, hbar, hleast.bar, hbar, hgreatest.bar, hbar,
      haverage.bar, hbar, hcalls.bar, hbar, not_false⟩,
    hcontract.feed, hfeed, hmethod.feed, hfeed, hleast.feed, hfeed, hgreatest.feed, hfeed,
      haverage.feed, hfeed, hcalls.feed, hfeed, not_false⟩

/-- The average stands in its own column. -/
theorem first?_rowAt_line (r : TableRow) :
    first? rowAt r.line.toList =
      if r.average.content.toList.all isDecimalDigit then
        some (r.method.content.toList, r.average.content.toList)
      else none := by
  have hcolumns : r.columns = padding r.contract.left ++ (r.contract.content.toList ++
      (padding r.contract.right ++ columnMark :: (padding r.method.left ++
        (r.method.content.toList ++ (padding r.method.right ++ columnMark ::
          (r.least.text.toList ++ columnMark :: (r.greatest.text.toList ++ columnMark ::
            (padding r.average.left ++ (r.average.content.toList ++ (padding r.average.right ++
              columnMark :: (r.calls.text.toList ++ [columnMark]))))))))))) := by
    simp only [columns, TableCell.toList_text r.contract, TableCell.toList_text r.method,
      TableCell.toList_text r.average, List.append_assoc]
  rw [toList_line, first?_rowAt r.not_mem_columns.1, hcolumns,
    rowAt_front r.isName_contract r.isName_method
      (TableCell.isCellContent_text r.isCellContent_least).mark
      (TableCell.isCellContent_text r.isCellContent_greatest).mark,
    averageAt_cell r.isWhole_average r.isCellContent_average.mark]
  split <;> rfl

/-- **A row states its average**, for its method, if it has one that counts. -/
theorem ofTableLine?_line (r : TableRow) :
    ofTableLine? r.line.toList = r.average?.map (r.key, ·) := by
  have hdigits (h : IsDigits r.average.content.toList) :
      r.average.content.toList.all isDecimalDigit = true :=
    List.all_eq_true.2 fun c hc => isDecimalDigit_of_isDigit (h.isDigit c hc)
  rw [ofTableLine?, first?_rowAt_line]
  by_cases hall : r.average.content.toList.all isDecimalDigit = true
  · rw [if_pos hall]
    simp only [Option.bind_eq_bind, Option.bind_some, Gas.ofDigits?_eq, average?, Option.pure_def]
    by_cases hfits : IsDigits r.average.content.toList ∧
        Nat.ofDigitChars 10 r.average.content.toList 0 < 2 ^ 64
    · rw [if_pos hfits, Option.bind_some, Gas.positive?]
      by_cases hpos : 0 < Nat.ofDigitChars 10 r.average.content.toList 0
      · rw [if_pos hpos, if_pos ⟨hfits.1, hpos, hfits.2⟩]
        rfl
      · rw [if_neg hpos, if_neg fun h => hpos h.2.1]
        rfl
    · rw [if_neg hfits, if_neg fun h => hfits ⟨h.1, h.2.2⟩]
      rfl
  · rw [if_neg hall, average?, if_neg fun h => hall (hdigits h.1)]
    rfl

theorem dropReturn_line (r : TableRow) : dropReturn r.line.toList = r.line.toList := by
  have hmark : "·".toList = [columnMark] := by decide
  rw [line, String.toList_append, hmark, dropReturn_concat _ (by decide)]

end TableRow

/-- A line of a printed table: a row, or any text without a bar. -/
inductive TableLine where
  | row (r : TableRow)
  | other (text : String) (hbar : '|' ∉ text.toList) (hfeed : '\n' ∉ text.toList)

namespace TableLine

open Hardhat

/-- The text of a line. -/
def text : TableLine → String
  | .row r => r.line
  | .other text _ _ => text

/-- The row of a line, if it is one. -/
def row? : TableLine → Option TableRow
  | .row r => some r
  | .other _ _ _ => none

/-- Whether a line is a row with an average that counts. -/
def counts (line : TableLine) : Bool :=
  (line.row?.bind TableRow.average?).isSome

/-- The rows of a table. -/
def rows (table : List TableLine) : List TableRow :=
  table.filterMap row?

/-- The last average in some rows that counts for the lower case of a name. -/
def lastAverage? (rows : List TableRow) (name : String) : Option Nat :=
  rows.reverse.findSome? fun r => if r.key = name then r.average? else none

/-- **What a line states** is what its row does. -/
theorem ofTableLine?_text (line : TableLine) :
    ofTableLine? line.text.toList = line.row?.bind fun r => r.average?.map (r.key, ·) := by
  cases line with
  | row r => exact r.ofTableLine?_line
  | other text hbar _ => exact ofTableLine?_of_no_bar hbar

theorem feed_not_mem_text (line : TableLine) : '\n' ∉ line.text.toList := by
  cases line with
  | row r =>
    show '\n' ∉ r.line.toList
    rw [r.toList_line, List.mem_cons, not_or]
    exact ⟨by decide, r.not_mem_columns.2⟩
  | other text _ hfeed => exact hfeed

theorem ofTableLine?_dropReturn_text (line : TableLine) :
    ofTableLine? (dropReturn line.text.toList) = ofTableLine? line.text.toList := by
  cases line with
  | row r => exact congrArg ofTableLine? r.dropReturn_line
  | other text hbar _ =>
    have hkept : '|' ∉ dropReturn text.toList := by
      rw [dropReturn]
      split
      · exact fun h => hbar (List.dropLast_subset _ h)
      · exact hbar
    exact (ofTableLine?_of_no_bar hkept).trans (ofTableLine?_of_no_bar hbar).symm

/-- **A table states what its rows state**, in their order. -/
theorem ofTable_ofLines (table : List TableLine) (ended : Bool) :
    ofTable (ofLines (table.map text) ended) =
      .ofList ((rows table).filterMap fun r => r.average?.map (r.key, ·)) := by
  have hlines : (lines (ofLines (table.map text) ended).toList).filterMap ofTableLine? =
      (table.map text).filterMap fun x => ofTableLine? x.toList :=
    filterMap_lines_ofLines (by decide) (List.forall_mem_map.2 fun line _ => feed_not_mem_text line)
      (List.forall_mem_map.2 fun line _ => ofTableLine?_dropReturn_text line) ended
  rw [ofTable, hlines, List.filterMap_map, rows, List.filterMap_filterMap]
  exact congrArg (fun f => Costs.ofList (table.filterMap f)) (funext ofTableLine?_text)

/-- Lines that do not count might as well be left out. -/
theorem ofTable_ofLines_filter (table : List TableLine) (ended : Bool) :
    ofTable (ofLines ((table.filter counts).map text) ended) =
      ofTable (ofLines (table.map text) ended) := by
  rw [ofTable_ofLines, ofTable_ofLines, rows, rows, List.filterMap_filterMap,
    List.filterMap_filterMap, List.filterMap_filter]
  congr 2
  funext line
  split
  · rfl
  · next h =>
    rw [counts, Option.not_isSome_iff_eq_none] at h
    cases hrow : line.row? with
    | none => rfl
    | some r =>
      have hnone : r.average? = none := by rwa [hrow] at h
      rw [Option.bind_some, hnone, Option.map_none]

/-- **A printed table is read exactly.** Each row states its average for its method if that is written
in digits, positive and of 64 bits, and nothing otherwise. Each name has the last average that counts in
the rows of the table, and all other lines might as well be left out. -/
theorem table_read_exactly (table : List TableLine) (ended : Bool) :
    ((ofTable (ofLines (table.map text) ended)).entries.map Prod.fst).Nodup ∧
      (∀ name, (ofTable (ofLines (table.map text) ended)).get? name =
        lastAverage? (rows table) name) ∧
      ofTable (ofLines ((table.filter counts).map text) ended) =
        ofTable (ofLines (table.map text) ended) ∧
      ∀ r : TableRow, ofTableLine? r.line.toList = r.average?.map (r.key, ·) := by
  refine ⟨Costs.nodup_names_ofList _, fun name => ?_, ofTable_ofLines_filter table ended,
    TableRow.ofTableLine?_line⟩
  rw [ofTable_ofLines, Costs.get?_ofList_filterMap, lastAverage?]

/-- A table with a heading, a method in two letter cases, and one that was never called. -/
def tokenTable : List TableLine :=
  [.row (.mk ⟨2, "Contract", 2⟩ ⟨2, "Method", 4⟩ ⟨2, "Min", 4⟩ ⟨2, "Max", 4⟩ ⟨2, "Avg", 4⟩
     ⟨2, "# calls", 2⟩),
   .other "-----" (by decide) (by decide),
   .row (.mk ⟨2, "Token", 5⟩ ⟨2, "transfer", 2⟩ ⟨4, "51000", 0⟩ ⟨4, "53000", 0⟩ ⟨0, "0052117", 0⟩
     ⟨8, "4", 2⟩),
   .row (.mk ⟨2, "Token", 5⟩ ⟨2, "Transfer", 2⟩ ⟨8, "-", 0⟩ ⟨8, "-", 0⟩ ⟨4, "51234", 2⟩ ⟨8, "1", 2⟩),
   .row (.mk ⟨0, "Vault", 0⟩ ⟨0, "withdraw", 0⟩ ⟨0, "-", 0⟩ ⟨0, "-", 0⟩ ⟨0, "0", 0⟩ ⟨0, "0", 0⟩)]

example :
    (ofTable (ofLines (tokenTable.map text) true)).entries = [("transfer", 51234)] := by
  rw [ofTable_ofLines]
  decide +kernel

end TableLine

end GasAdvisor
