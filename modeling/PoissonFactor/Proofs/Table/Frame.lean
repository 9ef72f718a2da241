import PoissonFactor.Proofs.Table.Column
import PoissonFactor.Proofs.Table.Delimited
import PoissonFactor.Proofs.Text.Utf8
import PoissonFactor.Table.Frame

/-!
# Frames are read and written exactly

The functions for frames that are defined here keep to what tables and columns say:

> `TableLibrary.standard_readsExactly`: from every text of a table they read its columns, as exactly
> as the columns of its texts are read,
> `Frame.isWrittenAs_text`: and they write a text of the table that a frame is.
-/

namespace PoissonFactor

open Delimited (FieldText RowText RowsText)

namespace Frame

/-! ## Writing -/

/-- A frame as a table of texts, in which a missing entry is empty. -/
def written (f : Frame) : Delimited.Grid where
  names := f.map Prod.fst
  rows := f.rows.map fun row => row.map fun v => ((Column.entryText v).getD "").toList

/-- Quotes stand around a field that needs them. A carriage return would need them too, and gets
none. -/
theorem fieldText_spec {cs : List Char} (h : '\r' ∉ cs) : FieldText cs (fieldText cs) := by
  unfold fieldText
  by_cases hquotes : needsQuotes cs = true
  · rw [if_pos hquotes]
    exact .quoted
  · rw [if_neg hquotes]
    refine .plain fun c hc hspecial => hquotes (List.any_eq_true.mpr ⟨c, hc, ?_⟩)
    simp only [List.mem_cons, List.not_mem_nil, or_false] at hspecial
    rcases hspecial with rfl | rfl | rfl | rfl
    · rfl
    · rfl
    · rfl
    · exact absurd hc h

/-- Fields with commas between them are a text of their row. -/
theorem rowText_spec {fields : List (List Char)} (hne : fields ≠ [])
    (h : ∀ cs ∈ fields, '\r' ∉ cs) :
    RowText fields (List.intercalate [','] (fields.map fieldText)) := by
  induction fields with
  | nil => exact absurd rfl hne
  | cons cs fields ih =>
    obtain ⟨hcs, hfields⟩ := List.forall_mem_cons.mp h
    cases fields with
    | nil =>
      rw [List.map_singleton, List.intercalate_singleton]
      exact .last (fieldText_spec hcs)
    | cons cs' fields =>
      rw [List.map_cons, List.map_cons, List.intercalate_cons_cons, List.append_assoc]
      exact .cons (fieldText_spec hcs) (ih (List.cons_ne_nil _ _) hfields)

/-- Rows are written with a line feed behind each. -/
theorem rowsText_spec {rows : List (List (List Char))} (hne : ∀ row ∈ rows, row ≠ [])
    (h : ∀ row ∈ rows, ∀ cs ∈ row, '\r' ∉ cs) : RowsText rows (rows.flatMap rowText) := by
  induction rows with
  | nil => exact .nil
  | cons row rows ih =>
    obtain ⟨hrow, hrows⟩ := List.forall_mem_cons.mp hne
    obtain ⟨hreturn, hreturns⟩ := List.forall_mem_cons.mp h
    rw [List.flatMap_cons]
    unfold rowText
    rw [List.append_assoc]
    exact .cons (rowText_spec hrow hreturn) (Or.inl rfl) (ih hrows hreturns)

/-- The names of a frame are its first row. -/
theorem toList_text (f : Frame) :
    f.text.toList = (f.written.header :: f.written.rows).flatMap rowText := by
  unfold text
  rw [String.toList_ofList, List.flatMap_cons]
  unfold written Delimited.Grid.header
  dsimp only
  rw [List.map_map, List.flatMap_map]
  rfl

/-- **A frame is written as a text of its table.** -/
theorem isWrittenAs_text {f : Frame} (hne : f ≠ [])
    (hreturn : ∀ row ∈ f.written.header :: f.written.rows, ∀ cs ∈ row, '\r' ∉ cs)
    (hwidth : ∀ row ∈ f.written.rows, row.length = f.written.names.length) :
    f.written.IsWrittenAs f.text.toList where
  text := by
    have hnames : 0 < f.written.names.length := by
      rw [show f.written.names.length = f.length from List.length_map _]
      exact List.length_pos_iff.mpr hne
    rw [toList_text]
    refine rowsText_spec (List.forall_mem_cons.mpr ⟨fun hnil => ?_, fun row hrow hnil => ?_⟩)
      hreturn
    · have hlength : f.written.header.length = f.written.names.length := List.length_map _
      rw [hnil] at hlength
      exact absurd hlength hnames.ne
    · have hlength := hwidth row hrow
      rw [hnil] at hlength
      exact absurd hlength hnames.ne
  width := hwidth

/-! ## Reading -/

/-- A column is made from its name and its place, which is the first with that name. -/
theorem lookup_zipIdx {names : List String} {name : String} (hname : name ∈ names)
    (column : String → Nat → Column) (i : Nat) :
    ((names.zipIdx i).map fun c => (c.1, column c.1 c.2)).lookup name
      = some (column name (i + names.idxOf name)) := by
  induction names generalizing i with
  | nil => cases hname
  | cons n names ih =>
    rw [List.zipIdx_cons, List.map_cons, List.lookup_cons, List.idxOf_cons]
    by_cases heq : n = name
    · rw [heq, beq_self_eq_true]
      rfl
    · have hmem : name ∈ names := (List.mem_cons.mp hname).resolve_left (Ne.symm heq)
      rw [beq_eq_false_iff_ne.mpr (Ne.symm heq), beq_eq_false_iff_ne.mpr heq]
      show ((names.zipIdx (i + 1)).map _).lookup name
        = some (column name (i + (names.idxOf name + 1)))
      rw [ih hmem (i + 1), Nat.add_assoc, Nat.add_comm 1]

/-- The columns of a table have its names, and those that are to be kept as texts are. -/
theorem column?_ofGrid {g : Delimited.Grid} {name : String} (h : name ∈ g.names)
    (textNames : List String) :
    (ofGrid textNames g).column? name = some (if textNames.contains name
      then Column.keepTexts (g.cells name) else Column.ofTexts (g.cells name)) := by
  have hlookup := lookup_zipIdx h (fun n i => if textNames.contains n
    then Column.keepTexts (cells g.rows i) else Column.ofTexts (cells g.rows i)) 0
  rw [Nat.zero_add] at hlookup
  exact hlookup

/-- There are no other columns. -/
theorem column?_ofGrid_eq_none {g : Delimited.Grid} {name : String} (h : name ∉ g.names)
    (textNames : List String) : (ofGrid textNames g).column? name = none := by
  refine List.lookup_eq_none_iff.mpr fun c hc => ?_
  unfold ofGrid at hc
  obtain ⟨⟨n, i⟩, hn, rfl⟩ := List.mem_map.mp hc
  rw [bne_iff_ne]
  rintro rfl
  exact h (List.fst_mem_of_mem_zipIdx hn)

/-- **A table is read from the bytes of each of its texts.** -/
theorem ofBytes_eq {g : Delimited.Grid} {cs : List Char} (hg : g.IsNamed) (h : g.IsWrittenAs cs)
    (textNames : List String) :
    ofBytes textNames .null (cs.flatMap String.utf8EncodeChar) = .ok (ofGrid textNames g) := by
  have hread := Delimited.read_eq hg h
  obtain ⟨first, hfirst⟩ := Delimited.exists_read_head hread
  unfold ofBytes
  rw [Text.decodePieces_utf8 (by decide)]
  refine bind_eq_ok_iff.mpr ⟨first, hfirst, bind_eq_ok_iff.mpr ⟨none, rfl, ?_⟩⟩
  exact bind_eq_ok_iff.mpr ⟨g, hread, rfl⟩

end Frame

namespace TableLibrary

/-- **Columns of a table are read exactly**, if those that are to be texts have numbers and the
others are read exactly from their cells. -/
theorem standard_readsExactly {g : Delimited.Grid} {textNames names : List String} (hg : g.IsNamed)
    (htexts : ∀ name ∈ names, name ∈ textNames → ∀ cs ∈ g.cells name, Column.IsNumber cs)
    (hnumbers : ∀ name ∈ names, name ∉ textNames → name ∈ g.names →
      Column.Reads (g.cells name) (Column.ofTexts (g.cells name)).values) :
    @ReadsExactly .standard g textNames names := by
  intro cs hcs
  refine ⟨Frame.ofGrid textNames g, Frame.ofBytes_eq hg hcs textNames, fun name hname => ?_⟩
  constructor
  · intro hmem htext
    refine ⟨Column.keepTexts (g.cells name), ?_, Column.values_keepTexts (htexts name hname htext)⟩
    rw [Frame.column?_ofGrid hmem, List.contains_iff_mem.mpr htext, if_pos rfl]
  · intro hmem hother
    refine ⟨Column.ofTexts (g.cells name), ?_, hnumbers name hname hother hmem⟩
    rw [Frame.column?_ofGrid hmem, if_neg fun h => hother (List.contains_iff_mem.mp h)]
  · intro habsent
    exact Frame.column?_ofGrid_eq_none habsent textNames

end TableLibrary

end PoissonFactor
