import PoissonFactor.Proofs.Ratings.Rows

/-!
# Loading with a limit

Records count as they are read, so a limit can only cut the rows of a file short: what stands
behind it is not looked at, and what stands before it is treated as without one. The first record
that is refused (`LoadedRating.firstRefused`) decides the rest.

> `LoadedRating.load_limited`: below it a limit gives a prefix of the rows, and beyond it the
> very refusal that comes without a limit.
-/

namespace PoissonFactor

namespace LoadedRating

variable {columns : List String} {records : List Records.Record}

/-- The position of the first record without a number for a rating. -/
def firstRefused (columns : List String) (records : List Records.Record) : Option Nat :=
  records.findIdx? fun r => (rating? columns r).isNone

/-- A record is refused for its rating only. -/
theorem row?_eq_none_iff {record : Records.Record} :
    row? columns record = none ↔ rating? columns record = none := by
  unfold row?
  rw [Option.map_eq_none_iff]

/-- Where no record is refused there is a row for each. -/
theorem exists_rowsOf_of_firstRefused (hrecords : ∀ r ∈ records, r ≠ [])
    (h : firstRefused columns records = none) : ∃ rows, RowsOf columns records rows := by
  refine exists_rowsOf hrecords fun r hr hnone => ?_
  have hnumber := List.findIdx?_eq_none_iff.mp h r hr
  rw [row?_eq_none_iff.mp hnone] at hnumber
  cases hnumber

/-- The records before the first that is refused are rows. -/
theorem exists_of_firstRefused (hrecords : ∀ r ∈ records, r ≠ []) {b : Nat}
    (h : firstRefused columns records = some b) :
    ∃ read bad later rows, records = read ++ bad :: later ∧ read.length = b
      ∧ RowsOf columns read rows ∧ row? columns bad = none := by
  obtain ⟨hb, hnone, hbefore⟩ := List.findIdx?_eq_some_iff_getElem.mp h
  have hbad : row? columns records[b] = none :=
    row?_eq_none_iff.mpr (Option.isNone_iff_eq_none.mp hnone)
  have hrows : ∃ rows, RowsOf columns (records.take b) rows := by
    refine exists_rowsOf (fun r hr => hrecords r (List.mem_of_mem_take hr)) fun r hr hrow => ?_
    obtain ⟨i, hi, rfl⟩ := List.mem_take_iff_getElem.mp hr
    refine hbefore i (by omega) (Option.isNone_iff_eq_none.mpr (row?_eq_none_iff.mp ?_))
    exact hrow
  obtain ⟨rows, hrows⟩ := hrows
  have hsplit : records = records.take b ++ records[b] :: records.drop (b + 1) := by
    rw [List.getElem_cons_drop, List.take_append_drop]
  exact ⟨_, _, _, rows, hsplit, List.length_take_of_le (Nat.le_of_lt hb), hrows, hbad⟩

/-- The first records give the first rows. -/
theorem RowsOf.take {rows : List LoadedRating} (h : RowsOf columns records rows) (n : Nat) :
    RowsOf columns (records.take n) (rows.take n) := by
  refine ⟨fun r hr => h.1 r (List.mem_of_mem_take hr), ?_⟩
  rw [List.map_take, List.map_take, h.2]

/-! ## Limits -/

variable {limit : Nat}

theorem checkLimit_int (h : 1 ≤ limit) :
    checkLimit (some (.int limit)) = .ok (some (.int limit)) := by
  have habove : (Number.int limit).le (.int 0) = false := by
    rw [Bool.eq_false_iff, Ne, Number.int_le_int]
    omega
  have hnumber : (Value.int limit).comparable = .ok (.int limit) :=
    Value.comparable_of_number rfl
  unfold checkLimit
  dsimp only
  rw [hnumber]
  dsimp only [bind, Except.bind]
  rw [habove]
  rfl

/-- A limit is reached by as many rows as it says. -/
theorem reaches_int_iff {k : Nat} : reaches (some (.int limit)) k = true ↔ limit ≤ k := by
  show (Number.int limit).le (.int k) = true ↔ limit ≤ k
  rw [Number.int_le_int, Int.ofNat_le]

theorem not_reaches_int {k : Nat} (h : k < limit) : reaches (some (.int limit)) k = false := by
  rw [Bool.eq_false_iff, Ne, reaches_int_iff]
  omega

variable {failure : Option Failure} {line : Nat}

/-- When the first records are rows, a limit of as many gives those. -/
theorem ofRecords_take {rows : List LoadedRating} (h : RowsOf columns (records.take limit) rows)
    (hpositive : 1 ≤ limit) (hlimit : limit ≤ records.length) :
    ofRecords columns (some (.int limit)) failure line 0 records = .ok rows := by
  have hlength : (records.take limit).length = limit := List.length_take_of_le hlimit
  have hread : records.take limit ≠ [] := by
    rw [Ne, List.eq_nil_iff_length_eq_zero]
    omega
  rw [← List.take_append_drop limit records]
  refine ofRecords_reached h hread (fun k hk => not_reaches_int ?_) (reaches_int_iff.mpr ?_)
  · omega
  · omega

/-- A limit beyond all the records changes nothing. -/
theorem ofRecords_all {read : List Records.Record} {rows : List LoadedRating}
    {limit : Option Number} (h : RowsOf columns read rows)
    (hlimit : reaches limit read.length = false) :
    ofRecords columns limit none line 0 read = .ok rows := by
  have happend : ofRecords columns limit none line 0 (read ++ []) = _ :=
    ofRecords_append h (by rwa [Nat.zero_add])
  rw [List.append_nil] at happend
  rw [happend]
  show Except.ok (rows ++ []) = _
  rw [List.append_nil]

/-- A refusal says which row it is about. -/
theorem message_refusal (columns : List String) (line : Nat) (record : Records.Record) :
    ∃ said, (refusal columns line record).message
      = "Row " ++ toString line ++ ": rating " ++ said := by
  unfold refusal
  split
  · have hsaid : ": rating is NaN." = ": rating " ++ "is NaN." := by decide
    refine ⟨"is NaN.", ?_⟩
    rw [String.append_assoc, ← hsaid]
    rfl
  · exact ⟨_, String.append_assoc⟩

/-- **A limit reads a prefix.** When no record is refused, all are rows, and a limit keeps the
first of them, as many as it says. Otherwise the first record that is refused, in position `b`,
is refused as row `b + 2` without a limit and with any that lies beyond it; with a limit of at
most `b` the first records are rows, whatever stands behind them. -/
theorem load_limited {files : FileTree} {path : String} {cs : List Char}
    {header : Records.Record} {rest : List Records.Record} (hpath : IsRatingPath path)
    (hfile : files.read (Path.ofString path) = .ok (cs.flatMap String.utf8EncodeChar))
    (hread : Records.read cs = (header :: rest, none))
    (hcolumns : ∀ c ∈ requiredColumns, c ∈ header.map String.ofList) :
    match firstRefused (header.map String.ofList) (dataRecords rest) with
    | none => ∃ rows, RowsOf (header.map String.ofList) (dataRecords rest) rows
        ∧ load files path none = .ok rows
        ∧ ∀ limit : Nat, 1 ≤ limit → load files path (some (.int limit)) = .ok (rows.take limit)
    | some b => ∃ cause said, cause.family = .dataFormat
        ∧ cause.message = "Row " ++ toString (b + 2) ++ ": rating " ++ said
        ∧ load files path none = .error cause
        ∧ ∀ limit : Nat, 1 ≤ limit →
          (limit ≤ b → ∃ rows,
            RowsOf (header.map String.ofList) ((dataRecords rest).take limit) rows
              ∧ load files path (some (.int limit)) = .ok rows)
          ∧ (b < limit → load files path (some (.int limit)) = .error cause) := by
  have hrecords : ∀ r ∈ dataRecords rest, r ≠ [] := fun _ => ne_nil_of_mem_dataRecords
  have hfree : load files path none = _ := load_eq_ofRecords hpath rfl hfile hread hcolumns
  have hlimited {limit : Nat} (h : 1 ≤ limit) : load files path (some (.int limit)) = _ :=
    load_eq_ofRecords hpath (checkLimit_int h) hfile hread hcolumns
  cases hfirst : firstRefused (header.map String.ofList) (dataRecords rest) with
  | none =>
    obtain ⟨rows, hrows⟩ := exists_rowsOf_of_firstRefused hrecords hfirst
    refine ⟨rows, hrows, hfree.trans (ofRecords_all hrows rfl), fun limit hpositive => ?_⟩
    rw [hlimited hpositive]
    by_cases hlimit : limit ≤ (dataRecords rest).length
    · exact ofRecords_take (hrows.take limit) hpositive hlimit
    · rw [ofRecords_all hrows (not_reaches_int (by omega)),
        List.take_of_length_le (by rw [hrows.length_eq]; omega)]
  | some b =>
    obtain ⟨read, bad, later, rows, hsplit, hlength, hrows, hbad⟩ :=
      exists_of_firstRefused hrecords hfirst
    have hfields : bad ≠ [] := hrecords bad (by rw [hsplit]; simp)
    have hrefused {limit : Option Number} (h : reaches limit read.length = false) :
        ofRecords (header.map String.ofList) limit none 2 0 (dataRecords rest)
          = .error (refusal (header.map String.ofList) (b + 2) bad) := by
      rw [hsplit, ← hlength, Nat.add_comm read.length]
      exact ofRecords_refused hrows (by rwa [Nat.zero_add]) hfields hbad
    obtain ⟨said, hsaid⟩ := message_refusal (header.map String.ofList) (b + 2) bad
    refine ⟨_, said, family_refusal _ _ _, hsaid, hfree.trans (hrefused rfl),
      fun limit hpositive => ⟨fun hlimit => ?_, fun hlimit => ?_⟩⟩
    · have htake : (dataRecords rest).take limit = read.take limit := by
        rw [hsplit, List.take_append_of_le_length (by omega)]
      have hshort : limit ≤ (dataRecords rest).length := by
        rw [hsplit, List.length_append]
        omega
      rw [hlimited hpositive, htake]
      exact ⟨_, hrows.take limit, ofRecords_take (htake ▸ hrows.take limit) hpositive hshort⟩
    · exact (hlimited hpositive).trans (hrefused (not_reaches_int (by omega)))

/-- Two rows and a third that is refused. -/
theorem load_limited_refused :
    let text := "item_id,rating,user_id\ni,5,u\n\nj,4,u\ni,x,v\n"
    let files := oneFile "r.csv" (text.toList.flatMap String.utf8EncodeChar)
    ∃ cause said, cause.message = "Row " ++ toString 4 ++ ": rating " ++ said
      ∧ load files "r.csv" none = .error cause ∧ load files "r.csv" (some (.int 3)) = .error cause
      ∧ ∃ rows, load files "r.csv" (some (.int 2)) = .ok rows := by
  intro text files
  have hread : Records.read text.toList = (["item_id".toList, "rating".toList, "user_id".toList]
      :: [["i".toList, "5".toList, "u".toList], [], ["j".toList, "4".toList, "u".toList],
        ["i".toList, "x".toList, "v".toList]], none) := by
    decide
  have hpath : IsRatingPath "r.csv" := by rfl
  have hcolumns : ∀ c ∈ requiredColumns, c ∈ ["item_id", "rating", "user_id"] := by decide
  obtain ⟨cause, said, -, hsaid, hfree, hlimited⟩ :=
    load_limited hpath (read_oneFile _) hread hcolumns
  obtain ⟨rows, -, hrows⟩ := (hlimited 2 (by decide)).1 (by decide)
  exact ⟨cause, said, hsaid, hfree, (hlimited 3 (by decide)).2 (by decide), rows, hrows⟩

end LoadedRating

end PoissonFactor
