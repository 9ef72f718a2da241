import PoissonFactor.Proofs.Outcome
import PoissonFactor.Proofs.Table.Records
import PoissonFactor.Proofs.Text.Utf8
import PoissonFactor.Ratings.Load

/-!
# Written rating files

A table of texts can be written as a file, and loading gives its rows back:

> `LoadedRating.load_written`: one row for each that was written, in order, with its identifiers
> unchanged and its rating read as a number.

The columns may stand in any order among any others. Names and texts have a limit, and it holds
for the names of columns that nobody asks for as well (`LoadedRating.load_longName`).
-/

namespace PoissonFactor

namespace Records

/-- Encoded text is read as the text. -/
theorem readBytes_utf8 (cs : List Char) :
    readBytes (cs.flatMap String.utf8EncodeChar) = read cs := by
  unfold readBytes
  rw [Text.decodePieces_utf8 (by decide)]

end Records

namespace LoadedRating

/-! ## Tables of texts -/

/-- The columns of a table and its rows, each with a text for every column, as records. -/
def records (columns : List String) (rows : List (String → String)) : List Records.Record :=
  columns.map String.toList :: rows.map fun r => columns.map fun c => (r c).toList

/-- The bytes of a table that was written. -/
def fileBytes (lineEnd : List Char) (columns : List String) (rows : List (String → String)) :
    List UInt8 :=
  (Records.write lineEnd (records columns rows)).flatMap String.utf8EncodeChar

/-- A row under a name has the text that was written for it. -/
theorem field_map (name : String) (columns : List String) (r : String → String)
    (found : Option String) :
    field name columns (columns.map fun c => (r c).toList) found
      = if name ∈ columns then some (r name) else found := by
  induction columns generalizing found with
  | nil => rfl
  | cons c columns ih =>
    rw [List.map_cons, field, ih, String.ofList_toList]
    by_cases hmem : name ∈ columns
    · rw [if_pos hmem, if_pos (List.mem_cons_of_mem c hmem)]
    · rw [if_neg hmem]
      by_cases hname : c = name
      · rw [if_pos hname, hname, if_pos List.mem_cons_self]
      · have hnot : name ∉ c :: columns := fun h =>
          (List.mem_cons.mp h).elim (fun h => hname h.symm) hmem
        rw [if_neg hname, if_neg hnot]

theorem checkColumns_eq_ok {columns : List String} (h : ∀ c ∈ requiredColumns, c ∈ columns) :
    checkColumns columns = .ok () := by
  have hnone : requiredColumns.filter (fun c => !columns.contains c) = [] := by
    rw [List.filter_eq_nil_iff]
    intro c hc
    rw [List.contains_iff_mem.mpr (h c hc)]
    exact Bool.false_ne_true
  unfold checkColumns
  rw [hnone]

section

variable {columns : List String} {rating : (String → String) → Float}

/-- The row that loading makes of a written one. -/
def ofTexts (rating : (String → String) → Float) (r : String → String) : LoadedRating :=
  ⟨some (r "user_id"), some (r "item_id"), rating r⟩

theorem ofRecord_map (hcolumns : ∀ c ∈ requiredColumns, c ∈ columns) {r : String → String}
    (hr : (Value.str (r "rating")).toFloat = .ok (rating r))
    (hnan : Decimal.isNaN (rating r) = false) (line : Nat) :
    ofRecord columns line (columns.map fun c => (r c).toList) = .ok (ofTexts rating r) := by
  have hparse : parseRating (.str (r "rating")) line = .ok (rating r) := by
    unfold parseRating
    rw [hr]
    dsimp only
    rw [hnan, if_neg Bool.false_ne_true]
  unfold ofRecord
  rw [field_map, field_map, field_map, if_pos (hcolumns _ (by decide)),
    if_pos (hcolumns _ (by decide)), if_pos (hcolumns _ (by decide))]
  exact bind_eq_ok_iff.mpr ⟨_, hparse, rfl⟩

/-- Written rows are loaded one by one. -/
theorem ofRecords_map (hcolumns : ∀ c ∈ requiredColumns, c ∈ columns)
    {rows : List (String → String)}
    (hrating : ∀ r ∈ rows, (Value.str (r "rating")).toFloat = .ok (rating r)
      ∧ Decimal.isNaN (rating r) = false) (line count : Nat) :
    ofRecords columns none none line count (rows.map fun r => columns.map fun c => (r c).toList)
      = .ok (rows.map (ofTexts rating)) := by
  induction rows generalizing line count with
  | nil => rfl
  | cons r rows ih =>
    obtain ⟨hr, hnan⟩ := hrating r List.mem_cons_self
    have hrow := ofRecord_map hcolumns hr hnan line
    have hrest := ih (fun x hx => hrating x (List.mem_cons_of_mem r hx)) (line + 1) (count + 1)
    -- A record of such a table has fields, so it is not passed over.
    obtain ⟨f, fs, hfields⟩ : ∃ f fs, (columns.map fun c => (r c).toList) = f :: fs := by
      cases columns with
      | nil => exact absurd (hcolumns "user_id" (by decide)) List.not_mem_nil
      | cons c cs => exact ⟨_, _, rfl⟩
    rw [List.map_cons, hfields, ofRecords, ← hfields, hrow]
    · dsimp only [bind, Except.bind]
      rw [hrest]
      rfl
    · exact List.cons_ne_nil f fs

end

/-! ## Written files -/

/-- The path is one of a rating file. -/
def IsRatingPath (path : String) : Prop :=
  (Path.ofString path).suffix.map Char.toLower = extension

theorem load_eq_ofBytes {files : FileTree} {path : String} {bytes : List UInt8}
    (hpath : IsRatingPath path) (hfile : files.read (Path.ofString path) = .ok bytes) :
    load files path none = ofBytes none bytes := by
  have hsuffix : ¬ (Path.ofString path).suffix.map Char.toLower ≠ extension := fun h => h hpath
  unfold load
  dsimp only
  rw [if_neg hsuffix, hfile]
  rfl

/-- **Loading undoes writing.** From the encoded file of a table whose names and texts keep to
the limit come its rows in order, as many as were written: the identifiers are the texts of
their columns, the rating is the number its text spells, and the other columns leave no trace. -/
theorem load_written {files : FileTree} {path : String} {lineEnd : List Char}
    {columns : List String} {rows : List (String → String)} (rating : (String → String) → Float)
    (hpath : IsRatingPath path) (hend : Records.IsLineEnd lineEnd)
    (hfile : files.read (Path.ofString path) = .ok (fileBytes lineEnd columns rows))
    (hcolumns : ∀ c ∈ requiredColumns, c ∈ columns)
    (hnames : ∀ c ∈ columns, c.length ≤ Records.fieldLimit)
    (htexts : ∀ r ∈ rows, ∀ c ∈ columns, (r c).length ≤ Records.fieldLimit)
    (hrating : ∀ r ∈ rows, (Value.str (r "rating")).toFloat = .ok (rating r)
      ∧ Decimal.isNaN (rating r) = false) :
    load files path none = .ok (rows.map (ofTexts rating)) := by
  have hnonempty : columns ≠ [] :=
    List.ne_nil_of_mem (hcolumns "user_id" (by decide))
  have hrecords : ∀ r ∈ records columns rows, r ≠ [] := by
    intro r hr
    rcases List.mem_cons.mp hr with rfl | hr
    · exact mt List.map_eq_nil_iff.mp hnonempty
    · obtain ⟨row, -, rfl⟩ := List.mem_map.mp hr
      exact mt List.map_eq_nil_iff.mp hnonempty
  have hlimit : ∀ r ∈ records columns rows, ∀ f ∈ r, f.length ≤ Records.fieldLimit := by
    intro r hr f hf
    rcases List.mem_cons.mp hr with rfl | hr
    · obtain ⟨c, hc, rfl⟩ := List.mem_map.mp hf
      exact hnames c hc
    · obtain ⟨row, hrow, rfl⟩ := List.mem_map.mp hr
      obtain ⟨c, hc, rfl⟩ := List.mem_map.mp hf
      exact htexts row hrow c hc
  have hread : Records.readBytes (fileBytes lineEnd columns rows) = (records columns rows, none) :=
    (Records.readBytes_utf8 _).trans (Records.read_write hend hrecords hlimit)
  have hheader : (columns.map String.toList).map String.ofList = columns := by
    rw [List.map_map]
    exact List.map_id'' (fun _ => String.ofList_toList) columns
  rw [load_eq_ofBytes hpath hfile]
  unfold ofBytes
  rw [hread]
  unfold records
  dsimp only
  rw [hheader, checkColumns_eq_ok hcolumns]
  exact ofRecords_map hcolumns hrating 2 0

/-- The tree that holds one file. -/
def oneFile (name : String) (bytes : List UInt8) : FileTree :=
  { files := [([name.toList], bytes)], folders := [] }

theorem read_oneFile (bytes : List UInt8) :
    (oneFile "r.csv" bytes).read (Path.ofString "r.csv") = .ok bytes := by
  rfl

/-- Breaks, quotes and commas in an identifier, an empty one, and columns in another order. -/
theorem load_written_breaks :
    let columns := ["rating", "a,\"b\"", "item_id", "user_id"]
    let row : String → String := fun c =>
      if c = "rating" then " 4.5" else if c = "user_id" then "x\r\n\"ü\"," else ""
    let files := oneFile "r.csv" (fileBytes ['\r', '\n'] columns [row])
    IsRatingPath "r.csv" ∧ (∀ c ∈ requiredColumns, c ∈ columns)
      ∧ (Value.str (row "rating")).toFloat = .ok 4.5
      ∧ load files "r.csv" none = .ok [⟨some "x\r\n\"ü\",", some "", 4.5⟩] := by
  intro columns row files
  have hpath : IsRatingPath "r.csv" := by rfl
  have hrating : (Value.str (row "rating")).toFloat = .ok 4.5 ∧ Decimal.isNaN 4.5 = false := by
    decide
  refine ⟨hpath, by decide, hrating.1, ?_⟩
  exact load_written (fun _ => 4.5) hpath (Or.inr rfl) (read_oneFile _) (by decide) (by decide)
    (by decide) fun r hr => List.mem_singleton.mp hr ▸ hrating

/-- A column with a name beyond the limit keeps the file from being loaded, whoever asks for it. -/
theorem load_longName {files : FileTree} {path : String} {lineEnd : List Char}
    {columns : List String} {rows : List (String → String)} (hpath : IsRatingPath path)
    (hfile : files.read (Path.ofString path) = .ok (fileBytes lineEnd columns rows))
    (hlong : ∃ c ∈ columns, Records.fieldLimit < c.length) :
    load files path none = .error (.fieldTooLarge Records.fieldLimit) := by
  obtain ⟨c, hc, hlength⟩ := hlong
  have hfield : ∃ f ∈ columns.map String.toList, Records.fieldLimit < f.length :=
    ⟨c.toList, List.mem_map_of_mem hc, hlength⟩
  have hread : Records.readBytes (fileBytes lineEnd columns rows)
      = ([], some (.fieldTooLarge Records.fieldLimit)) :=
    (Records.readBytes_utf8 _).trans (Records.read_write_tooLong lineEnd hfield _)
  rw [load_eq_ofBytes hpath hfile]
  unfold ofBytes
  rw [hread]

/-- One character too many in the name of a fourth column, and short texts everywhere else. -/
theorem load_longName_fails :
    let long := String.ofList (List.replicate 131073 'x')
    let columns := ["user_id", "item_id", "rating", long]
    let row : String → String := fun _ => "1"
    let files := oneFile "r.csv" (fileBytes ['\n'] columns [row])
    columns.Nodup ∧ (∀ c ∈ requiredColumns, c ∈ columns)
      ∧ (∀ c ∈ columns, (row c).length ≤ 131072)
      ∧ (Value.str (row "rating")).toFloat = .ok 1 ∧ Decimal.isNaN 1 = false
      ∧ IsRatingPath "r.csv"
      ∧ load files "r.csv" none = .error (.fieldTooLarge 131072) := by
  intro long columns row files
  have hlong : long.length = 131073 := by
    rw [String.length_ofList, List.length_replicate]
  -- Names of different lengths differ, so that the long one need not be spelled out.
  have hother {name : String} (h : name.length < 131073) : name ≠ long := by
    rintro rfl
    omega
  have hpath : IsRatingPath "r.csv" := by rfl
  refine ⟨?_, ?_, fun _ _ => ?_, by decide, by decide, hpath, ?_⟩
  · have huser : "user_id" ≠ long := hother (by decide)
    have hitem : "item_id" ≠ long := hother (by decide)
    have hrating : "rating" ≠ long := hother (by decide)
    simp [columns, huser, hitem, hrating]
  · simp [columns, requiredColumns]
  · decide
  · refine load_longName hpath (read_oneFile _) ⟨long, by simp [columns], ?_⟩
    rw [hlong]
    decide

end LoadedRating

end PoissonFactor
