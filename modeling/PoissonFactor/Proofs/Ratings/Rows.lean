import Mathlib.Data.List.Nodup
import PoissonFactor.Proofs.Ratings.Load
import PoissonFactor.Proofs.Value.Number

/-!
# Rows and the records they come from

Whatever file is loaded, its header says which column is which (`LoadedRating.IsColumnOf`, the last
one of a name), and a record is a row if its rating spells a number (`LoadedRating.row?`) and is
refused otherwise. Reading takes the records one by one:

> `LoadedRating.ofRecords_append`: below the limit, rows come before those of what follows,
> `LoadedRating.ofRecords_refused`: a refused record ends the reading with its refusal,
> `LoadedRating.ofRecords_reached`: at the limit the reading ends, whatever follows.

From these follows what the rows of a file say and when there are none
(`LoadedRating.load_rows`). Only the rating is looked at: a record that is long enough for it may
still be too short for an identifier (`LoadedRating.load_shortRow`).
-/

namespace PoissonFactor

namespace LoadedRating

/-! ## Columns -/

/-- The column of a name is the last one that bears it. -/
def IsColumnOf (name : String) (columns : List String) (i : Nat) : Prop :=
  columns[i]? = some name ∧ ∀ j, i < j → columns[j]? ≠ some name

theorem exists_isColumnOf {name : String} {columns : List String} (h : name ∈ columns) :
    ∃ i, IsColumnOf name columns i := by
  induction columns with
  | nil => exact absurd h List.not_mem_nil
  | cons c columns ih =>
    by_cases hrest : name ∈ columns
    · obtain ⟨i, hi, hlast⟩ := ih hrest
      refine ⟨i + 1, hi, fun j hj => ?_⟩
      cases j with
      | zero => omega
      | succ j => exact hlast j (by omega)
    · have hc : name = c := (List.mem_cons.mp h).resolve_right hrest
      refine ⟨0, by rw [hc]; rfl, fun j hj => ?_⟩
      cases j with
      | zero => omega
      | succ j => exact fun hat => hrest (List.mem_of_getElem? hat)

theorem IsColumnOf.unique {name : String} {columns : List String} {i j : Nat}
    (hi : IsColumnOf name columns i) (hj : IsColumnOf name columns j) : i = j := by
  rcases Nat.lt_trichotomy i j with h | h | h
  · exact absurd hj.1 (hi.2 j h)
  · exact h
  · exact absurd hi.1 (hj.2 i h)

theorem IsColumnOf.of_nodup {name : String} {columns : List String} {i : Nat}
    (h : columns.Nodup) (hi : columns[i]? = some name) : IsColumnOf name columns i := by
  refine ⟨hi, fun j hj hat => ?_⟩
  have hlength : j < columns.length := (List.getElem?_eq_some_iff.mp hat).1
  exact List.nodup_iff_getElem?_ne_getElem?.mp h i j hj hlength (hi.trans hat.symm)

theorem field_of_not_mem {name : String} {columns : List String} (h : name ∉ columns)
    (record : Records.Record) (found : Option String) :
    field name columns record found = found := by
  induction columns generalizing record with
  | nil => rfl
  | cons c columns ih =>
    obtain ⟨hc, hrest⟩ := not_or.mp (mt List.mem_cons.mpr h)
    cases record with
    | nil => rw [field, if_neg (Ne.symm hc), ih hrest]
    | cons f fs => rw [field, if_neg (Ne.symm hc), ih hrest]

/-- The field under a name is the one in its column, if the record reaches that far. -/
theorem field_eq {name : String} {columns : List String} {i : Nat}
    (h : IsColumnOf name columns i) (record : Records.Record) (found : Option String) :
    field name columns record found = record[i]?.map String.ofList := by
  induction columns generalizing i record found with
  | nil => exact absurd h.1 (by simp)
  | cons c columns ih =>
    cases i with
    | zero =>
      have hc : c = name := Option.some.inj h.1
      have hrest : name ∉ columns := fun hmem => by
        obtain ⟨j, hj⟩ := List.mem_iff_getElem?.mp hmem
        exact h.2 (j + 1) (by omega) hj
      cases record with
      | nil => rw [field, if_pos hc, field_of_not_mem hrest]; rfl
      | cons f fs => rw [field, if_pos hc, field_of_not_mem hrest]; rfl
    | succ i =>
      have htail : IsColumnOf name columns i := ⟨h.1, fun j hj => h.2 (j + 1) (by omega)⟩
      cases record with
      | nil => rw [field, ih htail]; rfl
      | cons f fs => rw [field, ih htail]; rfl

/-! ## One record -/

variable {columns : List String} {record : Records.Record} {row : LoadedRating}

/-- The number that the rating of a record spells, unless it spells none or one that is no
number. -/
def rating? (columns : List String) (record : Records.Record) : Option Float :=
  match (textValue (field "rating" columns record none)).toFloat with
  | .ok x => if Decimal.isNaN x then none else some x
  | .error _ => none

/-- The row of a record with a rating. -/
def row? (columns : List String) (record : Records.Record) : Option LoadedRating :=
  (rating? columns record).map fun x =>
    ⟨field "user_id" columns record none, field "item_id" columns record none, x⟩

/-- Why a record without a rating is refused. -/
def refusal (columns : List String) (line : Nat) (record : Records.Record) : Failure :=
  match (textValue (field "rating" columns record none)).toFloat with
  | .ok _ => .ratingIsNaN line
  | .error _ => .ratingNotANumber line (textValue (field "rating" columns record none)).shown

/-- A refusal is about the form of the data. -/
theorem family_refusal (columns : List String) (line : Nat) (record : Records.Record) :
    (refusal columns line record).family = .dataFormat := by
  unfold refusal
  split
  · rfl
  · rfl

/-- Only the form of a text keeps it from being a number. -/
theorem family_of_toFloat {text : Option String} {cause : Failure}
    (h : (textValue text).toFloat = .error cause) :
    cause.family = .value ∨ cause.family = .type := by
  cases text with
  | none =>
    cases h
    exact Or.inr rfl
  | some s =>
    have hdouble : Numeral.double (Value.str s).shown s.toList = .error cause := h
    unfold Numeral.double at hdouble
    split at hdouble
    · cases hdouble
    · cases hdouble
      exact Or.inl rfl

theorem parseRating_eq (line : Nat) (text : Option String) :
    parseRating (textValue text) line = match (textValue text).toFloat with
      | .ok x => if Decimal.isNaN x then .error (.ratingIsNaN line) else .ok x
      | .error _ => .error (.ratingNotANumber line (textValue text).shown) := by
  unfold parseRating
  cases htext : (textValue text).toFloat with
  | ok x => rfl
  | error cause =>
    dsimp only
    rcases family_of_toFloat htext with hfamily | hfamily
    · rw [hfamily]
    · rw [hfamily]

/-- A record is a row or is refused. -/
theorem ofRecord_eq (columns : List String) (line : Nat) (record : Records.Record) :
    ofRecord columns line record = match row? columns record with
      | some row => .ok row
      | none => .error (refusal columns line record) := by
  unfold ofRecord
  dsimp only
  rw [parseRating_eq]
  unfold row? rating? refusal
  cases (textValue (field "rating" columns record none)).toFloat with
  | error cause => rfl
  | ok x =>
    dsimp only
    by_cases hx : Decimal.isNaN x = true
    · rw [if_pos hx, if_pos hx]
      rfl
    · rw [if_neg hx, if_neg hx]
      rfl

/-! ## Many records -/

/-- The records with fields, which are the rows of a file. -/
def dataRecords (records : List Records.Record) : List Records.Record :=
  records.filter fun r => !r.isEmpty

variable {limit : Option Number} {failure : Option Failure} {line count : Nat}

theorem reaches_of_le {j k : Nat} (h : reaches limit k = false) (hjk : j ≤ k) :
    reaches limit j = false := by
  cases limit with
  | none => rfl
  | some n =>
    by_contra hj
    rw [Bool.not_eq_false] at hj
    have hk : reaches (some n) k = true := Number.le_int_of_le hj (Int.ofNat_le.mpr hjk)
    rw [h] at hk
    cases hk

theorem ofRecords_cons {record : Records.Record} (h : record ≠ []) (rest : List Records.Record) :
    ofRecords columns limit failure line count (record :: rest) = (do
      let row ← ofRecord columns line record
      if reaches limit (count + 1) then return [row]
      return row :: (← ofRecords columns limit failure (line + 1) (count + 1) rest)) := by
  cases record with
  | nil => exact absurd rfl h
  | cons f fs => rfl

/-- Records without fields are passed over. -/
theorem ofRecords_dataRecords (records : List Records.Record) :
    ofRecords columns limit failure line count records
      = ofRecords columns limit failure line count (dataRecords records) := by
  induction records generalizing line count with
  | nil => rfl
  | cons record rest ih =>
    cases record with
    | nil => exact ih
    | cons f fs =>
      have hcons : dataRecords ((f :: fs) :: rest) = (f :: fs) :: dataRecords rest := rfl
      rw [hcons, ofRecords_cons (List.cons_ne_nil f fs), ofRecords_cons (List.cons_ne_nil f fs)]
      simp only [ih]

/-- The rows of records that are all rows, one for each. -/
def RowsOf (columns : List String) (records : List Records.Record) (rows : List LoadedRating) :
    Prop :=
  (∀ r ∈ records, r ≠ []) ∧ rows.map some = records.map (row? columns)

theorem RowsOf.cons_iff {rest : List Records.Record} {rows : List LoadedRating} :
    RowsOf columns (record :: rest) (row :: rows)
      ↔ record ≠ [] ∧ row? columns record = some row ∧ RowsOf columns rest rows := by
  unfold RowsOf
  rw [List.forall_mem_cons, List.map_cons, List.map_cons, List.cons.injEq]
  tauto

theorem RowsOf.length_eq {records : List Records.Record} {rows : List LoadedRating}
    (h : RowsOf columns records rows) : rows.length = records.length := by
  have hlength := congrArg List.length h.2
  rwa [List.length_map, List.length_map] at hlength

/-- Below the limit the rows of records come before those of what follows. -/
theorem ofRecords_append {read rest : List Records.Record} {rows : List LoadedRating}
    (h : RowsOf columns read rows) (hlimit : reaches limit (count + read.length) = false) :
    ofRecords columns limit failure line count (read ++ rest)
      = (rows ++ ·) <$> ofRecords columns limit failure (line + read.length)
          (count + read.length) rest := by
  induction read generalizing rows line count with
  | nil =>
    cases rows with
    | nil => exact (id_map _).symm
    | cons row rows => exact absurd h.length_eq (by simp)
  | cons record read ih =>
    cases rows with
    | nil => exact absurd h.length_eq (by simp)
    | cons row rows =>
      obtain ⟨hrecord, hrow, hrest⟩ := RowsOf.cons_iff.mp h
      rw [List.length_cons] at hlimit ⊢
      have hfirst : reaches limit (count + 1) = false := reaches_of_le hlimit (by omega)
      have hlimit' : reaches limit (count + 1 + read.length) = false := by
        rw [Nat.add_right_comm, Nat.add_assoc]
        exact hlimit
      have htail : ofRecords columns limit failure (line + 1) (count + 1) (read ++ rest) = _ :=
        ih hrest hlimit'
      rw [List.cons_append, ofRecords_cons hrecord, ofRecord_eq, hrow]
      dsimp only [bind, Except.bind]
      rw [hfirst, htail, Nat.add_right_comm line, Nat.add_right_comm count, Nat.add_assoc line,
        Nat.add_assoc count]
      cases ofRecords columns limit failure (line + (read.length + 1))
          (count + (read.length + 1)) rest with
      | error cause => rfl
      | ok more => rfl

/-- A record that is refused ends the reading with its refusal. -/
theorem ofRecords_refused {read rest : List Records.Record} {rows : List LoadedRating}
    (h : RowsOf columns read rows) (hlimit : reaches limit (count + read.length) = false)
    (hrecord : record ≠ []) (hrow : row? columns record = none) :
    ofRecords columns limit failure line count (read ++ record :: rest)
      = .error (refusal columns (line + read.length) record) := by
  rw [ofRecords_append h hlimit, ofRecords_cons hrecord, ofRecord_eq, hrow]
  rfl

/-- At the limit the reading ends, whatever follows. -/
theorem ofRecords_reached {read rest : List Records.Record} {rows : List LoadedRating}
    (h : RowsOf columns read rows) (hread : read ≠ [])
    (hbelow : ∀ k < read.length, reaches limit (count + k) = false)
    (hlimit : reaches limit (count + read.length) = true) :
    ofRecords columns limit failure line count (read ++ rest) = .ok rows := by
  induction read generalizing rows line count with
  | nil => exact absurd rfl hread
  | cons record read ih =>
    cases rows with
    | nil => exact absurd h.length_eq (by simp)
    | cons row rows =>
      obtain ⟨hrecord, hrow, hrest⟩ := RowsOf.cons_iff.mp h
      rw [List.cons_append, ofRecords_cons hrecord, ofRecord_eq, hrow]
      dsimp only [bind, Except.bind]
      cases read with
      | nil =>
        have hrows : rows = [] := List.eq_nil_of_length_eq_zero hrest.length_eq
        have hfirst : reaches limit (count + 1) = true := hlimit
        rw [hfirst, hrows]
        rfl
      | cons next read =>
        have hfirst : reaches limit (count + 1) = false := by
          refine hbelow 1 ?_
          simp
        have htail : ofRecords columns limit failure (line + 1) (count + 1) (next :: read ++ rest)
            = .ok rows := by
          refine ih hrest (List.cons_ne_nil next read) (fun k hk => ?_) ?_
          · rw [Nat.add_assoc, Nat.add_comm 1]
            exact hbelow (k + 1) (Nat.succ_lt_succ hk)
          · rw [Nat.add_assoc, Nat.add_comm 1]
            exact hlimit
        rw [hfirst, htail]
        rfl

theorem ne_nil_of_mem_dataRecords {records : List Records.Record}
    (h : record ∈ dataRecords records) : record ≠ [] := by
  obtain ⟨-, hrecord⟩ := List.mem_filter.mp h
  rintro rfl
  cases hrecord

/-- Records none of which is refused are rows. -/
theorem exists_rowsOf {records : List Records.Record} (hrecords : ∀ r ∈ records, r ≠ [])
    (h : ∀ r ∈ records, row? columns r ≠ none) : ∃ rows, RowsOf columns records rows := by
  induction records with
  | nil => exact ⟨[], hrecords, rfl⟩
  | cons record rest ih =>
    obtain ⟨hrecord, hrest⟩ := List.forall_mem_cons.mp hrecords
    obtain ⟨hhead, htail⟩ := List.forall_mem_cons.mp h
    obtain ⟨row, hrow⟩ := Option.ne_none_iff_exists'.mp hhead
    obtain ⟨rows, hrows⟩ := ih hrest htail
    exact ⟨row :: rows, RowsOf.cons_iff.mpr ⟨hrecord, hrow, hrows⟩⟩

/-- A record that is refused, or an earlier one, is the first that is. -/
theorem exists_first_refused {records : List Records.Record} (hrecords : ∀ r ∈ records, r ≠ [])
    {k : Nat} (hk : records[k]? = some record) (hrow : row? columns record = none) :
    ∃ read bad later rows, records = read ++ bad :: later ∧ read.length ≤ k
      ∧ RowsOf columns read rows ∧ row? columns bad = none := by
  induction records generalizing k with
  | nil => cases hk
  | cons first rest ih =>
    obtain ⟨hfirst, hrest⟩ := List.forall_mem_cons.mp hrecords
    cases hbad : row? columns first with
    | none => exact ⟨[], first, rest, [], rfl, Nat.zero_le k, ⟨by simp, rfl⟩, hbad⟩
    | some row =>
      cases k with
      | zero =>
        cases hk
        rw [hrow] at hbad
        cases hbad
      | succ k =>
        obtain ⟨read, bad, later, rows, rfl, hle, hrows, hnone⟩ := ih hrest hk
        exact ⟨first :: read, bad, later, row :: rows, rfl, Nat.succ_le_succ hle,
          RowsOf.cons_iff.mpr ⟨hfirst, hbad, hrows⟩, hnone⟩

/-- Every row that is read is the row of the record in its place. -/
theorem row?_of_ofRecords {records : List Records.Record} {rows : List LoadedRating}
    (h : ofRecords columns limit failure line count records = .ok rows)
    (hrecords : ∀ r ∈ records, r ≠ []) {k : Nat} (hk : rows[k]? = some row) :
    ∃ record, records[k]? = some record ∧ row? columns record = some row := by
  induction records generalizing rows line count k with
  | nil =>
    cases failure with
    | some cause => cases h
    | none =>
      cases h
      cases hk
  | cons first rest ih =>
    obtain ⟨hfirst, hrest⟩ := List.forall_mem_cons.mp hrecords
    rw [ofRecords_cons hfirst, ofRecord_eq] at h
    cases hrow : row? columns first with
    | none =>
      rw [hrow] at h
      cases h
    | some found =>
      rw [hrow] at h
      obtain ⟨row', hrow', h⟩ := bind_eq_ok_iff.mp h
      cases hrow'
      have hhead : ∃ more : List LoadedRating, rows = found :: more ∧ ∀ k : Nat, more[k]? = some row →
          ∃ record, rest[k]? = some record ∧ row? columns record = some row := by
        by_cases hlimit : reaches limit (count + 1) = true
        · rw [if_pos hlimit] at h
          cases h
          exact ⟨[], rfl, fun k hk => by cases hk⟩
        · rw [if_neg hlimit] at h
          obtain ⟨more, hmore, h⟩ := bind_eq_ok_iff.mp h
          cases h
          exact ⟨more, rfl, fun k hk => ih hmore hrest hk⟩
      obtain ⟨more, rfl, hmore⟩ := hhead
      cases k with
      | zero =>
        cases hk
        exact ⟨first, rfl, hrow⟩
      | succ k => exact hmore k hk

/-! ## One file -/

/-- What a file gives, once its limit is a number and its columns are there. -/
theorem load_eq_ofRecords {files : FileTree} {path : String} {given : Option Value}
    {cs : List Char} {header : Records.Record} {rest : List Records.Record}
    (hpath : IsRatingPath path) (hlimit : checkLimit given = .ok limit)
    (hfile : files.read (Path.ofString path) = .ok (cs.flatMap String.utf8EncodeChar))
    (hread : Records.read cs = (header :: rest, failure))
    (hcolumns : ∀ c ∈ requiredColumns, c ∈ header.map String.ofList) :
    load files path given
      = ofRecords (header.map String.ofList) limit failure 2 0 (dataRecords rest) := by
  have hsuffix : ¬ (Path.ofString path).suffix.map Char.toLower ≠ extension := fun h => h hpath
  unfold load
  dsimp only
  rw [if_neg hsuffix, hlimit, hfile]
  dsimp only [bind, Except.bind, pure, Except.pure]
  unfold ofBytes
  rw [Records.readBytes_utf8, hread]
  dsimp only
  rw [checkColumns_eq_ok hcolumns, ← ofRecords_dataRecords]
  rfl

theorem mem_of_checkColumns {names : List String} (h : checkColumns names = .ok ()) :
    ∀ c ∈ requiredColumns, c ∈ names := by
  intro c hc
  unfold checkColumns at h
  split at h
  next hnone =>
    have hfound := List.filter_eq_nil_iff.mp hnone c hc
    rw [Bool.not_eq_true, Bool.not_eq_false'] at hfound
    exact List.contains_iff_mem.mp hfound
  next => cases h

/-- Rows come only of a rating file with a number for a limit and the columns that it has to
have. -/
theorem of_load_eq_ok {files : FileTree} {path : String} {given : Option Value} {cs : List Char}
    {rows : List LoadedRating} (h : load files path given = .ok rows)
    (hfile : files.read (Path.ofString path) = .ok (cs.flatMap String.utf8EncodeChar)) :
    IsRatingPath path ∧ (∃ limit, checkLimit given = .ok limit)
      ∧ ∃ header rest failure, Records.read cs = (header :: rest, failure)
        ∧ ∀ c ∈ requiredColumns, c ∈ header.map String.ofList := by
  unfold load at h
  dsimp only at h
  by_cases hpath : (Path.ofString path).suffix.map Char.toLower ≠ extension
  · rw [if_pos hpath] at h
    cases h
  rw [if_neg hpath, hfile] at h
  obtain ⟨-, -, h⟩ := bind_eq_ok_iff.mp h
  obtain ⟨limit, hlimit, h⟩ := bind_eq_ok_iff.mp h
  dsimp only [bind, Except.bind] at h
  unfold ofBytes at h
  rw [Records.readBytes_utf8] at h
  refine ⟨not_not.mp hpath, ⟨limit, hlimit⟩, ?_⟩
  obtain ⟨records, failure, hread⟩ : ∃ records failure, Records.read cs = (records, failure) :=
    ⟨_, _, rfl⟩
  rw [hread] at h ⊢
  dsimp only at h
  cases records with
  | nil =>
    cases failure with
    | none => cases h
    | some cause => cases h
  | cons header rest =>
    obtain ⟨_, hcolumns, -⟩ := bind_eq_ok_iff.mp h
    exact ⟨header, rest, failure, rfl, mem_of_checkColumns hcolumns⟩

/-! ## What rows say -/

/-- What a record says in a column: nothing when it does not reach that far. -/
def textAt (record : Records.Record) (i : Nat) : Option String :=
  record[i]?.map String.ofList

theorem textAt_eq_none_iff {i : Nat} : textAt record i = none ↔ record.length ≤ i := by
  unfold textAt
  rw [Option.map_eq_none_iff, List.getElem?_eq_none_iff]

/-- A rating is a number that the text in its column spells. -/
theorem rating?_eq_some_iff {r : Nat} (hr : IsColumnOf "rating" columns r) {x : Float} :
    rating? columns record = some x ↔ ∃ text, textAt record r = some text
      ∧ (Value.str text).toFloat = .ok x ∧ Decimal.isNaN x = false := by
  have hfield : field "rating" columns record none = textAt record r := field_eq hr record none
  unfold rating?
  rw [hfield]
  cases textAt record r with
  | none =>
    constructor
    · intro h
      cases h
    · rintro ⟨text, h, -⟩
      cases h
  | some text =>
    have hvalue : textValue (some text) = .str text := rfl
    rw [hvalue]
    cases htext : (Value.str text).toFloat with
    | error cause =>
      constructor
      · intro h
        cases h
      · rintro ⟨_, ⟨⟩, h, -⟩
        rw [htext] at h
        cases h
    | ok y =>
      dsimp only
      constructor
      · intro h
        by_cases hy : Decimal.isNaN y = true
        · rw [if_pos hy] at h
          cases h
        · rw [if_neg hy] at h
          cases h
          exact ⟨text, rfl, htext, Bool.eq_false_iff.mpr hy⟩
      · rintro ⟨_, ⟨⟩, h, hx⟩
        rw [htext] at h
        cases h
        rw [hx, if_neg Bool.false_ne_true]

theorem row?_eq_some_iff {u i r : Nat} (hu : IsColumnOf "user_id" columns u)
    (hi : IsColumnOf "item_id" columns i) (hr : IsColumnOf "rating" columns r) :
    row? columns record = some row ↔ row.user = textAt record u ∧ row.item = textAt record i
      ∧ ∃ text, textAt record r = some text ∧ (Value.str text).toFloat = .ok row.rating
        ∧ Decimal.isNaN row.rating = false := by
  have huser : field "user_id" columns record none = textAt record u := field_eq hu record none
  have hitem : field "item_id" columns record none = textAt record i := field_eq hi record none
  unfold row?
  rw [huser, hitem, Option.map_eq_some_iff]
  constructor
  · rintro ⟨x, hx, rfl⟩
    exact ⟨rfl, rfl, (rating?_eq_some_iff hr).mp hx⟩
  · rintro ⟨hrow, hrow', hx⟩
    refine ⟨row.rating, (rating?_eq_some_iff hr).mpr hx, ?_⟩
    rw [← hrow, ← hrow']

/-- **Rows say what their records say.** In the row of a record stand the texts of its identifier
columns and the number that its rating spells, and no record without a rating is passed over: it is
refused for its form. A record may be too short for an identifier, which is then missing; it cannot
be when the ratings stand behind the identifiers. -/
theorem load_rows {files : FileTree} {path : String} {given : Option Value} {cs : List Char}
    (hfile : files.read (Path.ofString path) = .ok (cs.flatMap String.utf8EncodeChar)) :
    (∀ rows, load files path given = .ok rows →
      ∃ header rest failure u i r, Records.read cs = (header :: rest, failure)
        ∧ IsColumnOf "user_id" (header.map String.ofList) u
        ∧ IsColumnOf "item_id" (header.map String.ofList) i
        ∧ IsColumnOf "rating" (header.map String.ofList) r
        ∧ (∀ (k : Nat) (row : LoadedRating), rows[k]? = some row →
          ∃ record text, (dataRecords rest)[k]? = some record
          ∧ row.user = textAt record u ∧ row.item = textAt record i
          ∧ textAt record r = some text ∧ (Value.str text).toFloat = .ok row.rating
          ∧ Decimal.isNaN row.rating = false)
        ∧ (u ≤ r → i ≤ r → ∀ row ∈ rows, row.user ≠ none ∧ row.item ≠ none))
    ∧ ∀ header rest failure limit r (k : Nat) record, IsRatingPath path → checkLimit given = .ok limit
      → Records.read cs = (header :: rest, failure)
      → (∀ c ∈ requiredColumns, c ∈ header.map String.ofList)
      → IsColumnOf "rating" (header.map String.ofList) r
      → (dataRecords rest)[k]? = some record → reaches limit k = false → record.length ≤ r
      → ∃ cause, load files path given = .error cause ∧ cause.family = .dataFormat := by
  constructor
  · intro rows hrows
    obtain ⟨hpath, ⟨limit, hlimit⟩, header, rest, failure, hread, hcolumns⟩ :=
      of_load_eq_ok hrows hfile
    obtain ⟨u, hu⟩ := exists_isColumnOf (hcolumns "user_id" (by decide))
    obtain ⟨i, hi⟩ := exists_isColumnOf (hcolumns "item_id" (by decide))
    obtain ⟨r, hr⟩ := exists_isColumnOf (hcolumns "rating" (by decide))
    rw [load_eq_ofRecords hpath hlimit hfile hread hcolumns] at hrows
    have hrecords : ∀ (k : Nat) (row : LoadedRating), rows[k]? = some row → ∃ record text,
        (dataRecords rest)[k]? = some record ∧ row.user = textAt record u
          ∧ row.item = textAt record i ∧ textAt record r = some text
          ∧ (Value.str text).toFloat = .ok row.rating ∧ Decimal.isNaN row.rating = false := by
      intro k row hk
      obtain ⟨record, hrecord, hrow⟩ :=
        row?_of_ofRecords hrows (fun _ => ne_nil_of_mem_dataRecords) hk
      obtain ⟨huser, hitem, text, htext, hnumber, hnan⟩ := (row?_eq_some_iff hu hi hr).mp hrow
      exact ⟨record, text, hrecord, huser, hitem, htext, hnumber, hnan⟩
    refine ⟨header, rest, failure, u, i, r, hread, hu, hi, hr, hrecords, fun hur hir row hmem => ?_⟩
    obtain ⟨k, hk⟩ := List.mem_iff_getElem?.mp hmem
    obtain ⟨record, text, -, huser, hitem, htext, -⟩ := hrecords k row hk
    have hlength : r < record.length := by
      by_contra hshort
      rw [textAt_eq_none_iff.mpr (Nat.le_of_not_lt hshort)] at htext
      cases htext
    rw [huser, hitem, Ne, Ne, textAt_eq_none_iff, textAt_eq_none_iff]
    omega
  · intro header rest failure limit r k record hpath hlimit hread hcolumns hr hk hreach hshort
    have hnone : row? (header.map String.ofList) record = none := by
      have hrating : rating? (header.map String.ofList) record = none := by
        by_contra hsome
        obtain ⟨x, hx⟩ := Option.ne_none_iff_exists'.mp hsome
        obtain ⟨text, htext, -⟩ := (rating?_eq_some_iff hr).mp hx
        rw [textAt_eq_none_iff.mpr hshort] at htext
        cases htext
      unfold row?
      rw [hrating]
      rfl
    obtain ⟨read, bad, later, rows, hsplit, hle, hrows, hbad⟩ :=
      exists_first_refused (fun _ => ne_nil_of_mem_dataRecords) hk hnone
    have hmem : bad ∈ dataRecords rest := by
      rw [hsplit]
      simp
    refine ⟨refusal (header.map String.ofList) (2 + read.length) bad, ?_, family_refusal _ _ _⟩
    rw [load_eq_ofRecords hpath hlimit hfile hread hcolumns, hsplit]
    refine ofRecords_refused hrows ?_ (ne_nil_of_mem_dataRecords hmem) hbad
    rw [Nat.zero_add]
    exact reaches_of_le hreach hle

/-- A whole row, and behind it one that ends before its rating. -/
theorem load_rows_cut :
    let text := "user_id,item_id,rating\nu,i,5\nu\n"
    let files := oneFile "r.csv" (text.toList.flatMap String.utf8EncodeChar)
    (∃ rows, load files "r.csv" (some (.int 1)) = .ok rows
        ∧ ∀ row ∈ rows, row.user ≠ none ∧ row.item ≠ none)
      ∧ ∃ cause, load files "r.csv" none = .error cause ∧ cause.family = .dataFormat := by
  intro text files
  have hpath : IsRatingPath "r.csv" := by rfl
  have hread : Records.read text.toList
      = ([["user_id".toList, "item_id".toList, "rating".toList],
        ["u".toList, "i".toList, "5".toList], ["u".toList]], none) := by
    decide
  have hcolumns : ∀ c ∈ requiredColumns, c ∈ ["user_id", "item_id", "rating"] := by decide
  have hnodup : ["user_id", "item_id", "rating"].Nodup := by decide
  constructor
  · have hrows : load files "r.csv" (some (.int 1)) = .ok [⟨some "u", some "i", 5⟩] := by
      rw [load_eq_ofRecords hpath rfl (read_oneFile _) hread hcolumns]
      rfl
    refine ⟨_, hrows, ?_⟩
    obtain ⟨header, rest, failure, u, i, r, hread', hu, hi, hr, -, hwhole⟩ :=
      (load_rows (read_oneFile _)).1 _ hrows
    rw [hread] at hread'
    cases hread'
    have hu' : u = 0 := hu.unique (.of_nodup hnodup rfl)
    have hi' : i = 1 := hi.unique (.of_nodup hnodup rfl)
    have hr' : r = 2 := hr.unique (.of_nodup hnodup rfl)
    exact hwhole (by omega) (by omega)
  · exact (load_rows (read_oneFile _)).2 _ _ none none 2 1 ["u".toList] hpath rfl hread hcolumns
      (.of_nodup hnodup rfl) rfl rfl (by decide)

/-- With the rating in front, a row may end before its item. -/
theorem load_shortRow :
    let text := "rating,user_id,item_id\n5,u\n"
    let files := oneFile "r.csv" (text.toList.flatMap String.utf8EncodeChar)
    load files "r.csv" none = .ok [⟨some "u", none, 5⟩] := by
  intro text files
  have hread : Records.read text.toList
      = ([["rating".toList, "user_id".toList, "item_id".toList], ["5".toList, "u".toList]], none) := by
    decide
  have hpath : IsRatingPath "r.csv" := by rfl
  rw [load_eq_ofRecords hpath rfl (read_oneFile _) hread (by decide)]
  rfl

end LoadedRating

end PoissonFactor
