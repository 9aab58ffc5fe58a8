import Yardstick.Csv.Reader
import Yardstick.Proofs.Csv.Cells
import Yardstick.Proofs.Csv.Header
import Yardstick.Proofs.Csv.Scan
import Yardstick.Proofs.Frame.Columns

/-!
# Frames from files and back

A file of different names and rows as long as its header is read as a frame with one column for each
position (`readFrame_eq_ok`), and what is written of a frame is read back as its table of texts
(`readRows_write`), if that is legible: without carriage returns, byte order mark and lone blanks.
-/

namespace Yardstick

open Text Csv

/-! ## Frames of columns -/

namespace Frame

variable {columns rest : List (String × Column)} {f g : Frame}

/-- The frame with one more column, if that has its length. -/
def addColumn? (f : Option Frame) (e : String × Column) : Option Frame :=
  f.bind fun f => if h : e.2.size = f.rows then some (f.put e.1 e.2 h) else none

theorem ofColumns?_cons (e : String × Column) (rest : List (String × Column)) :
    ofColumns? (e :: rest) = rest.foldl addColumn? (some ((ofRows e.2.size).put e.1 e.2 rfl)) := rfl

theorem foldl_addColumn?_none (rest : List (String × Column)) : rest.foldl addColumn? none = none := by
  induction rest with
  | nil => rfl
  | cons e rest ih => exact ih

theorem entries_of_foldl_addColumn? (hnodup : (f.names ++ rest.map (·.1)).Nodup)
    (h : rest.foldl addColumn? (some f) = some g) :
    g.columns.entries = f.columns.entries ++ rest := by
  induction rest generalizing f with
  | nil =>
    cases h
    rw [List.append_nil]
  | cons e rest ih =>
    rw [List.foldl_cons] at h
    rw [List.map_cons, List.nodup_append] at hnodup
    by_cases hsize : e.2.size = f.rows
    · have hadd : addColumn? (some f) e = some (f.put e.1 e.2 hsize) := by simp [addColumn?, hsize]
      have hnew : e.1 ∉ f.columns.keys := fun hmem => hnodup.2.2 _ hmem _ List.mem_cons_self rfl
      have hentries := Table.entries_put_of_not_mem f.columns e.1 e.2 hnew
      have hput : (f.put e.1 e.2 hsize).columns.entries = f.columns.entries ++ [e] := hentries
      rw [hadd] at h
      rw [ih ?_ h, hput, List.append_assoc, List.singleton_append]
      have hnames : (f.put e.1 e.2 hsize).names = f.names ++ [e.1] := by
        unfold names Table.keys
        rw [hput, List.map_append]
        rfl
      rw [hnames, List.append_assoc, List.singleton_append, List.nodup_append]
      exact hnodup
    · have hadd : addColumn? (some f) e = none := by simp [addColumn?, hsize]
      rw [hadd, foldl_addColumn?_none] at h
      cases h

/-- Columns of different names are the columns of their frame. -/
theorem entries_of_ofColumns? (hnodup : (columns.map (·.1)).Nodup) (h : ofColumns? columns = some f) :
    f.columns.entries = columns := by
  cases columns with
  | nil =>
    cases h
    rfl
  | cons e rest =>
    rw [ofColumns?_cons] at h
    exact entries_of_foldl_addColumn? (f := (ofRows e.2.size).put e.1 e.2 rfl) hnodup h

end Frame

namespace Csv

/-! ## Reading -/

variable {header : List Word} {rows : List (List Word)} {names : List String} {j : Nat}

theorem wordsOf_of_mapM (hbytes : ∀ w ∈ header, ∀ c ∈ w, c.toNat < 256)
    (h : header.mapM decodeWord = .ok names) : header = names.map fun s => wordOf s.toList := by
  have hmap := mapM_eq_ok.1 h
  induction header generalizing names with
  | nil =>
    obtain rfl : names = [] := List.map_eq_nil_iff.1 hmap.symm
    rfl
  | cons w header ih =>
    obtain ⟨s, names, rfl, hs, hnames⟩ := List.map_eq_cons_iff.1 hmap.symm
    rw [List.forall_mem_cons] at hbytes
    have hheader := ih hbytes.2 (mapM_eq_ok.2 hnames.symm) hnames.symm
    rw [List.map_cons, wordOf_of_decodeWord hbytes.1 hs.symm, ← hheader]

theorem forall_mem_byteChars (bytes : ByteArray) : ∀ c ∈ byteChars bytes, c.toNat < 256 := by
  have hall : ∀ c ∈ (Utf8.byteList bytes).map Char.ofNat, c.toNat < 256 := by
    intro c hc
    obtain ⟨n, hn, rfl⟩ := List.mem_map.1 hc
    obtain ⟨b, -, rfl⟩ := List.mem_map.1 hn
    rw [toNat_ofNat b.toNat_lt]
    exact b.toNat_lt
  intro c hc
  unfold byteChars at hc
  dsimp only at hc
  split at hc
  · exact hall c (List.mem_of_mem_drop hc)
  · exact hall c hc

/-- A frame that is read has the columns of the file, under the names of its header. -/
structure IsRead (f : Frame) (names : List String) (rows : List (List Word)) : Prop where
  names_eq : f.names = columnNames names
  columns : ∀ j name, (columnNames names)[j]? = some name →
    ∃ c, f.columns.get? name = some c ∧ columnAt rows j = .ok c

theorem IsRead.cells {f : Frame} {name : String} (h : IsRead f names rows)
    (hname : (columnNames names)[j]? = some name) :
    ∃ c, f.columns.get? name = some c ∧ c.cells = (wordsAt rows j).map (wordsAt rows j).kind.cell := by
  obtain ⟨c, hc, hcolumn⟩ := h.columns j name hname
  exact ⟨c, hc, Words.cells_of_column hcolumn⟩

theorem columnsOf_eq_ok {columns : List (String × Column)}
    (hwidth : ∀ row ∈ rows, row.length = header.length) (h : columnsOf header rows = .ok columns) :
    ∃ names cs, header.mapM decodeWord = .ok names ∧
      (List.range header.length).map (columnAt rows) = cs.map .ok ∧
      columns = (columnNames names).zip cs := by
  have hdropped : rows.head?.elim 0 List.length - header.length = 0 := by
    cases rows with
    | nil => exact Nat.zero_sub _
    | cons row rows =>
      show row.length - header.length = 0
      rw [hwidth row List.mem_cons_self, Nat.sub_self]
  unfold columnsOf at h
  obtain ⟨names, hnames, h⟩ := bind_eq_ok.1 h
  dsimp only at h
  rw [hdropped, Nat.zero_add] at h
  obtain ⟨cs, hcs, h⟩ := bind_eq_ok.1 h
  exact ⟨names, cs, hnames, mapM_eq_ok.1 hcs, (Except.ok.inj h).symm⟩

theorem columnsOf_of_readColumns {bytes : ByteArray} {columns : List (String × Column)}
    (hread : readRows (byteChars bytes) = ⟨header :: rows, none⟩) (h : readColumns bytes = .ok columns) :
    columnsOf header rows = .ok columns := by
  have hlast : ∀ x : Except Fault (List String),
      (x >>= fun _ => (Except.ok () >>= fun _ => (columnsOf header rows).mapError .encoding)) =
        .ok columns → columnsOf header rows = .ok columns := by
    intro x hx
    obtain ⟨_, -, hx⟩ := bind_eq_ok.1 hx
    obtain ⟨_, -, hx⟩ := bind_eq_ok.1 hx
    exact mapError_eq_ok.1 hx
  unfold readColumns at h
  simp only [hread] at h
  split at h
  · obtain ⟨_, -, h⟩ := bind_eq_ok.1 h
    exact hlast _ h
  · exact hlast _ h

theorem isRead_of_ofColumns? {f : Frame} {cs : List Column} (hnodup : names.Nodup)
    (hcs : (List.range names.length).map (columnAt rows) = cs.map .ok)
    (h : Frame.ofColumns? ((columnNames names).zip cs) = some f) : IsRead f names rows := by
  have hlength : cs.length = (columnNames names).length := by
    have := congrArg List.length hcs
    rw [List.length_map, List.length_map, List.length_range] at this
    rw [length_columnNames hnodup, this]
  have hkeys : ((columnNames names).zip cs).map (·.1) = columnNames names :=
    List.map_fst_zip (Nat.le_of_eq hlength.symm)
  have hentries := Frame.entries_of_ofColumns? (by rw [hkeys]; exact nodup_columnNames hnodup) h
  refine ⟨?_, fun j name hname => ?_⟩
  · unfold Frame.names Table.keys
    rw [hentries, hkeys]
  · obtain ⟨hj, hname⟩ := List.getElem?_eq_some_iff.1 hname
    have hjcs : j < cs.length := hlength ▸ hj
    have hjnames : j < names.length := by rwa [← length_columnNames hnodup]
    have hcolumn : columnAt rows j = .ok cs[j] := by
      have hget := congrArg (·[j]?) hcs
      simpa [hjcs, hjnames] using hget
    refine ⟨cs[j], Table.get?_eq_some_iff.2 ?_, hcolumn⟩
    rw [hentries]
    refine List.mem_iff_getElem.2 ⟨j, by simpa [hlength] using hj, ?_⟩
    rw [List.getElem_zip, hname]

theorem readFrame_eq_ok {bytes : ByteArray} {f : Frame}
    (hread : readRows (byteChars bytes) = ⟨header :: rows, none⟩) (hnodup : header.Nodup)
    (hwidth : ∀ row ∈ rows, row.length = header.length) (h : readFrame bytes = .ok f) :
    ∃ names, header = names.map (fun s => wordOf s.toList) ∧ names.Nodup ∧ IsRead f names rows := by
  have hbytes : ∀ row ∈ (readRows (byteChars bytes)).rows, ∀ w ∈ row, ∀ c ∈ w, c.toNat < 256 :=
    forall_mem_readRows (forall_mem_byteChars bytes)
  rw [hread, List.forall_mem_cons] at hbytes
  unfold readFrame at h
  split at h
  · cases h
  · next columns hcolumns =>
    have hcolumnsOf := columnsOf_of_readColumns hread hcolumns
    obtain ⟨names, cs, hnames, hcs, rfl⟩ := columnsOf_eq_ok hwidth hcolumnsOf
    obtain rfl := wordsOf_of_mapM hbytes.1 hnames
    rw [List.length_map] at hcs
    have hframe : Frame.ofColumns? ((columnNames names).zip cs) = some f := by
      cases hf : Frame.ofColumns? ((columnNames names).zip cs) with
      | none => rw [hf] at h; cases h
      | some g => rw [hf] at h; cases h; rfl
    exact ⟨names, rfl, hnodup.of_map _, isRead_of_ofColumns? (hnodup.of_map _) hcs hframe⟩

/-- A word of the header is a name, under which its column is read unless it is empty. -/
theorem exists_name {word : Word} (hnames : names.Nodup)
    (hword : (names.map fun s => wordOf s.toList)[j]? = some word) :
    ∃ name, word = wordOf name.toList ∧ (word ≠ [] → (columnNames names)[j]? = some name) := by
  rw [List.getElem?_map] at hword
  obtain ⟨name, hname, rfl⟩ := Option.map_eq_some_iff.1 hword
  refine ⟨name, rfl, fun hnonempty => getElem?_columnNames hnames hname ?_⟩
  simpa [wordOf_eq_nil] using hnonempty

/-- A file that is read alike by all readers of such files, if it is read in one piece: its columns have names
of their own, with a cell for each in every row, and no cell has the character that may be taken for its
end. -/
structure Regular (header : List Word) (rows : List (List Word)) : Prop where
  nodup : header.Nodup
  width : ∀ row ∈ rows, row.length = header.length
  no_zero : ∀ row ∈ header :: rows, ∀ w ∈ row, Char.ofNat 0 ∉ w

/-- The cells up to which every file is read in one piece. In the pieces of a longer one a column may be of
different kinds. -/
def pieceLimit : Nat := Decimal.twoTo 19

theorem IsRead.keeps_of_textual {f : Frame} {name : String} (h : IsRead f names rows)
    (hbytes : ∀ row ∈ rows, ∀ w ∈ row, ∀ c ∈ w, c.toNat < 256)
    (hname : (columnNames names)[j]? = some name) (htextual : ∀ w ∈ wordsAt rows j, Textual w) :
    ∀ w ∈ wordsAt rows j, (wordsAt rows j).kind.Keeps w := by
  obtain ⟨c, -, hcolumn⟩ := h.columns j name hname
  refine Kind.keeps_of_textual ?_ htextual hcolumn
  intro w hw c hc
  obtain ⟨row, hrow, rfl⟩ := List.mem_map.1 hw
  rw [List.getD_eq_getElem?_getD] at hc
  cases hget : row[j]? with
  | none =>
    rw [hget] at hc
    cases hc
  | some w =>
    rw [hget] at hc
    exact hbytes row hrow w (List.mem_of_getElem? hget) c hc

/-! ## Writing -/

variable {f : Frame}

/-- What is written of a frame: its names and the texts of its cells, row by row. -/
def table (f : Frame) : List (List (List Char)) :=
  f.names.map String.toList ::
    (cellRows f.rows (f.columns.entries.map (·.2))).map fun row => row.map cellText

/-- The table as it is read byte by byte. -/
def wordTable (f : Frame) : List (List Word) := (table f).map fun row => row.map wordOf

theorem write_eq (f : Frame) : write f = String.ofList ((table f).flatMap writeRow) := by
  unfold write table
  rw [List.flatMap_cons, List.flatMap_map]
  rfl

theorem needsQuotes_iff {s : List Char} : needsQuotes s = true ↔ ',' ∈ s ∨ '"' ∈ s ∨ '\n' ∈ s := by
  simp only [needsQuotes, List.any_eq_true, Bool.or_eq_true, decide_eq_true_eq]
  constructor
  · rintro ⟨c, hc, (rfl | rfl) | rfl⟩
    · exact .inl hc
    · exact .inr (.inl hc)
    · exact .inr (.inr hc)
  · rintro (h | h | h)
    · exact ⟨_, h, .inl (.inl rfl)⟩
    · exact ⟨_, h, .inl (.inr rfl)⟩
    · exact ⟨_, h, .inr rfl⟩

theorem needsQuotes_wordOf (s : List Char) : needsQuotes (wordOf s) = needsQuotes s := by
  rw [Bool.eq_iff_iff, needsQuotes_iff, needsQuotes_iff, mem_wordOf (by decide), mem_wordOf (by decide),
    mem_wordOf (by decide)]

theorem doubleQuotes_wordOf (s : List Char) : doubleQuotes (wordOf s) = wordOf (doubleQuotes s) := by
  unfold doubleQuotes
  rw [wordOf_flatMap]
  unfold wordOf
  rw [List.flatMap_assoc]
  refine List.flatMap_congr fun c _ => ?_
  by_cases hascii : c.toNat < 128
  · rw [charWord_of_ascii hascii, List.flatMap_singleton]
    split
    · rfl
    · rw [List.flatMap_singleton, charWord_of_ascii hascii]
  · have hquote : c ≠ '"' := by
      rintro rfl
      exact hascii (by decide)
    have hbytes := le_of_mem_charWord (Nat.le_of_not_lt hascii)
    rw [if_neg hquote, List.flatMap_singleton]
    refine (List.flatMap_congr fun d hd => ?_).trans (List.flatMap_singleton' _)
    rw [if_neg]
    rintro rfl
    exact absurd (hbytes _ hd) (by decide)

theorem wordOf_writeCell (alone : Bool) (s : List Char) :
    wordOf (writeCell alone s) = writeCell alone (wordOf s) := by
  have hempty : (wordOf s).isEmpty = s.isEmpty := by
    rw [Bool.eq_iff_iff, List.isEmpty_iff, List.isEmpty_iff, wordOf_eq_nil]
  have hquote : charWord '"' = ['"'] := charWord_of_ascii (by decide)
  unfold writeCell
  rw [needsQuotes_wordOf, hempty]
  split
  · rw [List.cons_append, wordOf_cons, wordOf_append, wordOf_cons, hquote, doubleQuotes_wordOf]
    rfl
  · rfl

theorem wordOf_intercalate (cells : List (List Char)) :
    wordOf ([','].intercalate cells) = [','].intercalate (cells.map wordOf) := by
  have hcomma : wordOf [','] = [','] := wordOf_of_ascii (List.forall_mem_singleton.2 (by decide))
  induction cells with
  | nil => rfl
  | cons s cells ih =>
    cases cells with
    | nil => rw [List.map_singleton, List.intercalate_singleton, List.intercalate_singleton]
    | cons s' cells =>
      rw [List.map_cons, List.map_cons, List.intercalate_cons_cons, List.intercalate_cons_cons,
        wordOf_append, wordOf_append, hcomma, ih, List.map_cons]

/-- A row is written byte by byte as it is written. -/
theorem wordOf_writeRow (row : List (List Char)) : wordOf (writeRow row) = writeRow (row.map wordOf) := by
  have hfeed : wordOf ['\n'] = ['\n'] := wordOf_of_ascii (List.forall_mem_singleton.2 (by decide))
  unfold writeRow
  rw [wordOf_append, hfeed, wordOf_intercalate, List.map_map, List.map_map, List.length_map]
  refine congrArg (fun cells => [','].intercalate cells ++ ['\n']) (List.map_congr_left fun s _ => ?_)
  exact wordOf_writeCell _ s

/-- The byte order mark, byte by byte. -/
def mark : Word := [Char.ofNat 0xEF, Char.ofNat 0xBB, Char.ofNat 0xBF]

theorem take_writeRow_ne_mark {w : Word} (hw : ¬ mark <+: w) (cells : List Word) (rest : List Char) :
    (writeRow (w :: cells) ++ rest).take 3 ≠ mark := by
  obtain ⟨d, rest', hrow, hd⟩ := Scan.exists_writeRow_cons w cells
  have hdmark : d ∉ mark := by rcases hd with ⟨-, rfl⟩ | ⟨-, rfl⟩ <;> decide
  rw [hrow, List.append_assoc]
  unfold writeCell
  intro h
  split at h
  · have hhead := congrArg List.head? h
    simp [mark] at hhead
  · by_cases hlength : 3 ≤ w.length
    · rw [List.take_append_of_le_length hlength] at h
      exact hw (h ▸ List.take_prefix 3 w)
    · obtain ⟨n, hn⟩ := Nat.exists_eq_add_of_lt (Nat.lt_of_not_le hlength)
      have hrest : 3 - w.length = n + 1 := by omega
      rw [List.take_append, hrest, List.cons_append, List.take_succ_cons] at h
      exact hdmark (h ▸ List.mem_append_right _ List.mem_cons_self)

/-- What is written of a frame can be read back. -/
structure Legible (f : Frame) : Prop where
  rows : ∀ row ∈ wordTable f, Scan.Legible row
  no_mark : ∀ name ∈ f.names.head?, ¬ mark <+: wordOf name.toList

instance : DecidablePred Legible := fun f =>
  decidable_of_iff ((∀ row ∈ wordTable f, Scan.Legible row) ∧
    ∀ name ∈ f.names.head?, ¬ mark <+: wordOf name.toList)
    ⟨fun h => ⟨h.1, h.2⟩, fun h => ⟨h.rows, h.no_mark⟩⟩

theorem byteChars_write (h : Legible f) :
    byteChars (Utf8.encode (write f)) = (wordTable f).flatMap writeRow := by
  have hchars : (Utf8.byteList (Utf8.encode (write f))).map Char.ofNat =
      (wordTable f).flatMap writeRow := by
    rw [map_byteList_encode, write_eq, String.toList_ofList, wordOf_flatMap]
    unfold wordTable
    rw [List.flatMap_map]
    exact List.flatMap_congr fun row _ => wordOf_writeRow row
  have hmark : ((wordTable f).flatMap writeRow).take 3 ≠ mark := by
    have hheader := h.rows ((f.names.map String.toList).map wordOf) List.mem_cons_self
    have hnomark := h.no_mark
    unfold wordTable table
    rw [List.map_cons, List.flatMap_cons]
    cases hnames : f.names with
    | nil => exact absurd (by rw [hnames]; rfl) hheader.ne_nil
    | cons name names =>
      rw [hnames] at hnomark
      exact take_writeRow_ne_mark (hnomark name rfl) _ _
  unfold byteChars
  rw [hchars]
  exact if_neg hmark

/-! ## Cells in their rows -/

/-- The cells of columns of one length, row by row. -/
theorem cellRows_go {n : Nat} {columns : List (List Cell)} (h : ∀ cells ∈ columns, cells.length = n) :
    (∀ row ∈ cellRows.go n columns, row.length = columns.length) ∧
      ∀ k cells, columns[k]? = some cells → (cellRows.go n columns).map (·.getD k .missing) = cells := by
  induction n generalizing columns with
  | zero =>
    refine ⟨by simp [cellRows.go], fun k cells hk => ?_⟩
    exact (List.length_eq_zero_iff.1 (h cells (List.mem_of_getElem? hk))).symm
  | succ n ih =>
    have htails : ∀ cells ∈ columns.map List.tail, cells.length = n := by
      intro cells hcells
      obtain ⟨cells', hcells', rfl⟩ := List.mem_map.1 hcells
      rw [List.length_tail, h cells' hcells', Nat.add_sub_cancel]
    obtain ⟨hlength, hcolumn⟩ := ih htails
    rw [cellRows.go]
    refine ⟨List.forall_mem_cons.2 ⟨List.length_map .., fun row hrow => ?_⟩, fun k cells hk => ?_⟩
    · rw [hlength row hrow, List.length_map]
    · obtain ⟨cell, rest, rfl⟩ :=
        List.exists_of_length_succ cells (h cells (List.mem_of_getElem? hk))
      have htail := hcolumn k rest (by simp [hk])
      rw [List.map_cons, htail]
      simp [List.getD_eq_getElem?_getD, hk]

/-- The word that is written of a cell. -/
def cellWord (cell : Cell) : Word := wordOf (cellText cell)

/-- The words of a column are written again exactly if each of them is. -/
theorem map_cellWord_eq_self_iff {ws : Words} {k : Kind} :
    (ws.map k.cell).map cellWord = ws ↔ ∀ w ∈ ws, k.Keeps w := by
  rw [List.map_map]
  conv_lhs => rhs; rw [← List.map_id ws]
  exact List.map_inj_left

theorem wordTable_eq (f : Frame) : wordTable f = f.names.map (fun name => wordOf name.toList) ::
    (cellRows.go f.rows (f.columns.entries.map fun e => e.2.cells)).map fun row => row.map cellWord := by
  have hrows (rows : Nat) (columns : List Column) :
      cellRows rows columns = cellRows.go rows (columns.map Column.cells) := by
    cases rows <;> rfl
  unfold wordTable table
  rw [hrows, List.map_map, List.map_cons, List.map_map, List.map_map]
  refine congrArg (_ :: ·) (List.map_congr_left fun row _ => ?_)
  exact List.map_map

theorem length_of_mem_columns : ∀ cells ∈ f.columns.entries.map (fun e => e.2.cells),
    cells.length = f.rows := by
  intro cells hcells
  obtain ⟨e, he, rfl⟩ := List.mem_map.1 hcells
  rw [Column.length_cells, f.aligned e he]

theorem length_of_mem_wordTable : ∀ row ∈ wordTable f, row.length = f.names.length := by
  rw [wordTable_eq, List.forall_mem_cons]
  refine ⟨List.length_map .., fun row hrow => ?_⟩
  obtain ⟨cells, hcells, rfl⟩ := List.mem_map.1 hrow
  rw [List.length_map, (cellRows_go length_of_mem_columns).1 cells hcells, List.length_map]
  exact (List.length_map ..).symm

/-- What is written of a frame is read back as its table. -/
theorem readRows_write (h : Legible f) :
    readRows (byteChars (Utf8.encode (write f))) = ⟨wordTable f, none⟩ := by
  rw [byteChars_write h]
  exact readRows_writeRows h.rows length_of_mem_wordTable

/-- A file that has been read has a column of this name, with these words in its rows. -/
def Rows.HasColumn (read : Rows) (name : Word) (ws : Words) : Prop :=
  ∃ header rows k, read = ⟨header :: rows, none⟩ ∧ header[k]? = some name ∧ wordsAt rows k = ws

theorem wordsAt_body {k : Nat} {e : String × Column} (he : f.columns.entries[k]? = some e) :
    wordsAt ((cellRows.go f.rows (f.columns.entries.map fun e => e.2.cells)).map fun row =>
      row.map cellWord) k = e.2.cells.map cellWord := by
  have hget : (f.columns.entries.map fun e => e.2.cells)[k]? = some e.2.cells := by
    rw [List.getElem?_map, he, Option.map_some]
  have hcells := (cellRows_go length_of_mem_columns).2 k e.2.cells hget
  unfold wordsAt
  rw [← hcells, List.map_map, List.map_map]
  refine List.map_congr_left fun row _ => ?_
  show (row.map cellWord).getD k (cellWord .missing) = cellWord (row.getD k .missing)
  rw [List.getD_eq_getElem?_getD, List.getD_eq_getElem?_getD, List.getElem?_map, Option.getD_map]

/-- The columns of a written frame are those that it has. -/
theorem hasColumn_write_iff (h : Legible f) {name : Word} {ws : Words} :
    (readRows (byteChars (Utf8.encode (write f)))).HasColumn name ws ↔
      ∃ n c, name = wordOf n.toList ∧ f.columns.get? n = some c ∧ ws = c.cells.map cellWord := by
  rw [readRows_write h, wordTable_eq]
  constructor
  · rintro ⟨header, rows, k, hread, hname, hws⟩
    obtain ⟨hheader, hrows⟩ := List.cons.inj (Rows.mk.inj hread).1
    subst hheader hrows
    obtain ⟨n, hn, rfl⟩ := Option.map_eq_some_iff.1 (List.getElem?_map .. ▸ hname)
    obtain ⟨e, he, rfl⟩ := Option.map_eq_some_iff.1 (List.getElem?_map .. ▸ hn)
    refine ⟨e.1, e.2, rfl, Table.get?_eq_some_iff.2 (List.mem_of_getElem? he), ?_⟩
    rw [← hws, wordsAt_body he]
  · rintro ⟨n, c, rfl, hget, rfl⟩
    obtain ⟨k, he⟩ := List.mem_iff_getElem?.1 (Table.get?_eq_some_iff.1 hget)
    exact ⟨_, _, k, rfl, by simp [Frame.names, Table.keys, he], wordsAt_body he⟩

end Csv

end Yardstick
