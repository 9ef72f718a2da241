import PoissonFactor.MovieLens.Download
import PoissonFactor.Proofs.Table.Exact

/-!
# The ratings of a published table

Of a table with columns of identifiers and ratings, whatever other columns it has, three columns
are kept. They hold the entries that the table stands for (`MovieLens.Gives`), and they still do
when they were written and read again:

> `MovieLens.exists_fetch`: a table that is published is downloaded as its entries,
> `MovieLens.exists_reread`: and what is read from the file of such a table gives the same rows.

That the library of tables is exact on these columns, and on these only, is assumed
(`MovieLens.IsExactOn`).
-/

namespace PoissonFactor

/-- A table with plain identifiers and ratings under the names they are published with. The other
columns may hold anything, but have other names than those that are given to the three. -/
structure Delimited.Grid.HasRatings (g : Delimited.Grid) : Prop where
  distinct : g.names.Nodup
  user : "userId" ∈ g.names
  item : "movieId" ∈ g.names
  rating : "rating" ∈ g.names
  noUser : "user_id" ∉ g.names
  noItem : "item_id" ∉ g.names
  users : ∀ cs ∈ g.cells "userId", ∃ i, Column.IsInteger cs i
  items : ∀ cs ∈ g.cells "movieId", ∃ i, Column.IsInteger cs i
  ratings : ∀ cs ∈ g.cells "rating", Column.IsDecimal cs

namespace MovieLens

/-! ## Entries -/

/-- A rating of an item by a user. -/
structure Entry where
  user : Int
  item : Int
  rating : Float

/-- The entries that a published table stands for. -/
structure Gives (g : Delimited.Grid) (zs : List Entry) : Prop where
  users : List.Forall₂ Column.IsInteger (g.cells "userId") (zs.map Entry.user)
  items : List.Forall₂ Column.IsInteger (g.cells "movieId") (zs.map Entry.item)
  ratings : ∃ vs, Column.Reads (g.cells "rating") vs ∧ vs.map Column.double = zs.map Entry.rating

/-- The table that is kept of entries. -/
def kept (zs : List Entry) : Delimited.Grid where
  names := ["user_id", "item_id", "rating"]
  rows := zs.map fun z =>
    [(toString z.user).toList, (toString z.item).toList, (Decimal.plain z.rating).toList]

/-- A frame has entries in its three columns: identifiers as texts, and ratings as doubles. -/
structure HoldsEntries (f : Frame) (zs : List Entry) : Prop where
  users : ∃ c, f.column? "user_id" = some c ∧ c.values = zs.map fun z => .str (toString z.user)
  items : ∃ c, f.column? "item_id" = some c ∧ c.values = zs.map fun z => .str (toString z.item)
  ratings : ∃ c, f.column? "rating" = some c ∧ c.values = zs.map fun z => .float z.rating

/-- The columns that are kept hold the texts of the entries. -/
theorem cells_kept_user (zs : List Entry) :
    (kept zs).cells "user_id" = zs.map fun z => (toString z.user).toList := by
  unfold Delimited.Grid.cells kept
  rw [List.map_map]
  rfl

theorem cells_kept_item (zs : List Entry) :
    (kept zs).cells "item_id" = zs.map fun z => (toString z.item).toList := by
  unfold Delimited.Grid.cells kept
  rw [List.map_map]
  rfl

theorem cells_kept_rating (zs : List Entry) :
    (kept zs).cells "rating"
      = (zs.map Entry.rating).map fun x => (Decimal.plain x).toList := by
  unfold Delimited.Grid.cells kept
  rw [List.map_map, List.map_map]
  rfl

/-- Entries as rows of ratings. -/
def Entry.row (z : Entry) : RatingRow where
  user := some (.str (toString z.user))
  item := some (.str (toString z.item))
  rating := some (.float z.rating)

/-- What a run on a published table relies on: the library of tables reads the table exactly,
converts identifiers and ratings exactly, writes the entries exactly and reads what it has written
exactly. -/
structure IsExactOn [TableLibrary] (g : Delimited.Grid) : Prop where
  reads : TableLibrary.ReadsExactly g [] ["userId", "movieId", "rating", "user_id", "item_id"]
  converts : TableLibrary.ConvertsExactly
  writes : ∀ f zs, Gives g zs → f.map Prod.fst = (kept zs).names → HoldsEntries f zs →
    TableLibrary.WritesExactly f (kept zs)
  rereads : ∀ zs, Gives g zs →
    TableLibrary.ReadsExactly (kept zs) ["user_id", "item_id"] (kept zs).names

/-- Lists of one length are those of entries. -/
theorem exists_entries {us is : List Int} {xs : List Float} (hu : us.length = xs.length)
    (hi : is.length = xs.length) :
    ∃ zs : List Entry,
      zs.map Entry.user = us ∧ zs.map Entry.item = is ∧ zs.map Entry.rating = xs := by
  induction xs generalizing us is with
  | nil =>
    rw [List.length_eq_zero_iff.mp hu, List.length_eq_zero_iff.mp hi]
    exact ⟨[], rfl, rfl, rfl⟩
  | cons x xs ih =>
    obtain ⟨u, us, rfl⟩ := List.exists_cons_of_length_eq_add_one hu
    obtain ⟨i, is, rfl⟩ := List.exists_cons_of_length_eq_add_one hi
    obtain ⟨zs, rfl, rfl, rfl⟩ := ih (Nat.succ.inj hu) (Nat.succ.inj hi)
    exact ⟨⟨u, i, x⟩ :: zs, rfl, rfl, rfl⟩

/-- The ratings of a table of decimals are finite. -/
theorem Gives.isFinite {g : Delimited.Grid} {zs : List Entry} (h : Gives g zs) (hg : g.HasRatings) :
    ∀ z ∈ zs, Decimal.isFinite z.rating = true := by
  intro z hz
  obtain ⟨vs, hvs, hzs⟩ := h.ratings
  apply hvs.isFinite hg.ratings
  rw [hzs]
  exact List.mem_map_of_mem hz

/-! ## Rows of ratings -/

/-- A column that is found has a name of the frame. -/
theorem mem_names_of_column? {f : Frame} {name : String} {c : Column}
    (h : f.column? name = some c) : name ∈ f.map Prod.fst := by
  obtain ⟨before, after, rfl, -⟩ := List.lookup_eq_some_iff.mp h
  rw [List.map_append]
  exact List.mem_append_right _ List.mem_cons_self

/-- One that is not found has none. -/
theorem not_mem_names_of_column? {f : Frame} {name : String} (h : f.column? name = none) :
    name ∉ f.map Prod.fst := by
  intro hmem
  obtain ⟨c, hc, rfl⟩ := List.mem_map.mp hmem
  have hdiffers := List.lookup_eq_none_iff.mp h c hc
  rw [bne_self_eq_false] at hdiffers
  cases hdiffers

/-- A frame with entries has all the columns it needs. -/
theorem HoldsEntries.checkColumns_eq {f : Frame} {zs : List Entry} (h : HoldsEntries f zs) :
    LoadedRating.checkColumns (f.map Prod.fst) = .ok () := by
  obtain ⟨us, hus, -⟩ := h.users
  obtain ⟨is, his, -⟩ := h.items
  obtain ⟨xs, hxs, -⟩ := h.ratings
  have hnone : LoadedRating.requiredColumns.filter (fun c => !(f.map Prod.fst).contains c)
      = [] := by
    rw [List.filter_eq_nil_iff]
    intro name hname
    have hmem : name ∈ f.map Prod.fst := by
      simp only [LoadedRating.requiredColumns, List.mem_cons, List.not_mem_nil, or_false] at hname
      rcases hname with rfl | rfl | rfl
      · exact mem_names_of_column? hus
      · exact mem_names_of_column? his
      · exact mem_names_of_column? hxs
    rw [List.contains_iff_mem.mpr hmem]
    exact Bool.false_ne_true
  unfold LoadedRating.checkColumns
  rw [hnone]

/-- **The rows of a frame with entries are those of the entries**, if the ratings are numbers. -/
theorem HoldsEntries.ratings_eq {f : Frame} {zs : List Entry} (h : HoldsEntries f zs)
    (hfinite : ∀ z ∈ zs, Decimal.isFinite z.rating = true) :
    f.ratings = .ok (zs.map Entry.row) := by
  obtain ⟨us, hus, husers⟩ := h.users
  obtain ⟨is, his, hitems⟩ := h.items
  obtain ⟨xs, hxs, hratings⟩ := h.ratings
  have hpresent : (zs.map fun z => Value.float z.rating).any Column.isMissing = false := by
    rw [List.any_eq_false]
    intro v hv
    obtain ⟨z, hz, rfl⟩ := List.mem_map.mp hv
    exact ne_true_of_eq_false (Column.isMissing_float (hfinite z hz))
  have hvalues : (zs.map fun z => Value.float z.rating).mapM (fun v => v.toFloat)
      = .ok (zs.map Entry.rating) := by
    rw [List.mapM_map]
    exact mapM_eq_map fun z _ => rfl
  unfold Frame.ratings
  refine bind_eq_ok_iff.mpr ⟨(), h.checkColumns_eq, ?_⟩
  simp only [hus, his, hxs, husers, hitems, hratings, hpresent, Option.map_some, Option.getD_some,
    Bool.false_eq_true, if_false]
  refine bind_eq_ok_iff.mpr ⟨_, hvalues, ?_⟩
  rw [List.zip_map', List.zip_map', List.map_map]
  rfl

/-! ## Columns by their new names -/

/-- Only the users get the name of users. -/
theorem columnName_eq_user {n : String} (h : n ≠ "user_id") :
    columnName n = "user_id" ↔ n = "userId" := by
  unfold columnName
  split_ifs with huser hitem
  · exact iff_of_true rfl huser
  · exact iff_of_false (by decide) huser
  · exact iff_of_false h huser

/-- Only the movies get the name of items. -/
theorem columnName_eq_item {n : String} (h : n ≠ "item_id") :
    columnName n = "item_id" ↔ n = "movieId" := by
  unfold columnName
  split_ifs with huser hitem
  · rw [huser]
    decide
  · exact iff_of_true rfl hitem
  · exact iff_of_false h hitem

/-- The ratings keep their name. -/
theorem columnName_eq_rating {n : String} : columnName n = "rating" ↔ n = "rating" := by
  unfold columnName
  split_ifs with huser hitem
  · rw [huser]
    decide
  · rw [hitem]
    decide
  · rfl

/-- A column under its new name is the one there was under its old name, if no other column has got
the new one. -/
theorem column_rename {f : Frame} {key name : String} {c : Column}
    (hrename : ∀ n ∈ f.map Prod.fst, columnName n = key ↔ n = name)
    (hc : f.column? name = some c) :
    column (f.map fun c => (columnName c.1, c.2)) key = .ok c := by
  have hlookup : Frame.column? (f.map fun c => (columnName c.1, c.2)) key = some c := by
    unfold Frame.column? at hc ⊢
    induction f with
    | nil => cases hc
    | cons first f ih =>
      rw [List.map_cons] at hrename
      obtain ⟨hfirst, hrest⟩ := List.forall_mem_cons.mp hrename
      rw [List.lookup_cons] at hc
      rw [List.map_cons, List.lookup_cons]
      by_cases heq : first.1 = name
      · rw [heq, beq_self_eq_true] at hc
        rw [hfirst.mpr heq, beq_self_eq_true]
        exact hc
      · have hother : columnName first.1 ≠ key := fun h => heq (hfirst.mp h)
        rw [beq_eq_false_iff_ne.mpr (Ne.symm heq)] at hc
        rw [beq_eq_false_iff_ne.mpr hother.symm]
        exact ih hrest hc
  unfold column
  rw [hlookup]

/-! ## Downloading -/

section

variable [TableLibrary] {f : Frame} {g : Delimited.Grid}

/-- **What is kept of a published table** are its entries. -/
theorem exists_ratingColumns (hg : g.HasRatings) (hconverts : TableLibrary.ConvertsExactly)
    (hf : ∀ name ∈ ["userId", "movieId", "rating", "user_id", "item_id"],
      f.HoldsExactly g [] name) :
    ∃ table zs, ratingColumns f = .ok table ∧ Gives g zs
      ∧ table.map Prod.fst = (kept zs).names ∧ HoldsEntries table zs := by
  obtain ⟨us, hus, huserCells⟩ := (hf "userId" (by decide)).numbers hg.user List.not_mem_nil
  obtain ⟨is, his, hitemCells⟩ := (hf "movieId" (by decide)).numbers hg.item List.not_mem_nil
  obtain ⟨xs, hxs, hratingCells⟩ := (hf "rating" (by decide)).numbers hg.rating List.not_mem_nil
  have hnoUser : "user_id" ∉ f.map Prod.fst :=
    not_mem_names_of_column? ((hf "user_id" (by decide)).absent hg.noUser)
  have hnoItem : "item_id" ∉ f.map Prod.fst :=
    not_mem_names_of_column? ((hf "item_id" (by decide)).absent hg.noItem)
  -- The three columns have an entry for every row of the table.
  obtain ⟨users, huserValues, husers⟩ := huserCells.of_integers hg.users
  obtain ⟨items, hitemValues, hitems⟩ := hitemCells.of_integers hg.items
  obtain ⟨ratings, hratings, hratingValues⟩ := hconverts.doubles xs _ hratingCells
  obtain ⟨zs, rfl, rfl, hzs⟩ : ∃ zs : List Entry, zs.map Entry.user = users
      ∧ zs.map Entry.item = items ∧ zs.map Entry.rating = xs.values.map Column.double := by
    refine exists_entries ?_ ?_
    · rw [← husers.length_eq, List.length_map, hratingCells.length_eq]
      rw [Delimited.Grid.length_cells, Delimited.Grid.length_cells]
    · rw [← hitems.length_eq, List.length_map, hratingCells.length_eq]
      rw [Delimited.Grid.length_cells, Delimited.Grid.length_cells]
  have hnewUser := column_rename (fun n hn => columnName_eq_user fun heq => hnoUser (heq ▸ hn)) hus
  have hnewItem := column_rename (fun n hn => columnName_eq_item fun heq => hnoItem (heq ▸ hn)) his
  have hnewRating := column_rename (fun n _ => columnName_eq_rating) hxs
  refine ⟨[("user_id", TableLibrary.toTexts us), ("item_id", TableLibrary.toTexts is),
    ("rating", ratings)], zs, ?_, ⟨husers, hitems, _, hratingCells, hzs.symm⟩, rfl, ?_⟩
  · unfold ratingColumns
    refine bind_eq_ok_iff.mpr ⟨us, hnewUser, bind_eq_ok_iff.mpr ⟨is, hnewItem, ?_⟩⟩
    refine bind_eq_ok_iff.mpr ⟨xs, hnewRating, bind_eq_ok_iff.mpr ⟨ratings, hratings, rfl⟩⟩
  · refine ⟨⟨_, rfl, ?_⟩, ⟨_, rfl, ?_⟩, ⟨_, rfl, ?_⟩⟩
    · rw [hconverts.texts us _ huserValues, List.map_map]
      rfl
    · rw [hconverts.texts is _ hitemValues, List.map_map]
      rfl
    · rw [hratingValues, ← Function.comp_def Value.float Column.double, ← List.map_map, ← hzs,
        List.map_map]
      rfl

/-- **What is read from the file of entries has the entries again.** -/
theorem exists_reread {zs : List Entry} {table : Frame} (hexact : IsExactOn g)
    (hgives : Gives g zs) (hfinite : ∀ z ∈ zs, Decimal.isFinite z.rating = true)
    (hnames : table.map Prod.fst = (kept zs).names) (htable : HoldsEntries table zs) :
    ∃ back, TableLibrary.read ["user_id", "item_id"] .null (TableLibrary.write table) = .ok back
      ∧ HoldsEntries back zs := by
  obtain ⟨cs, hcs, hwrite⟩ := hexact.writes table zs hgives hnames htable
  obtain ⟨back, hread, hback⟩ := hexact.rereads zs hgives cs hcs
  have huser : "user_id" ∈ (kept zs).names := List.mem_cons_self
  have hitem : "item_id" ∈ (kept zs).names := List.mem_cons_of_mem _ List.mem_cons_self
  have hrating : "rating" ∈ (kept zs).names :=
    List.mem_cons_of_mem _ (List.mem_cons_of_mem _ List.mem_cons_self)
  obtain ⟨us, hus, husers⟩ := (hback _ huser).texts huser (by decide)
  obtain ⟨is, his, hitems⟩ := (hback _ hitem).texts hitem (by decide)
  obtain ⟨xs, hxs, hratings⟩ := (hback _ hrating).numbers hrating (by decide)
  refine ⟨back, hwrite ▸ hread, ⟨us, hus, ?_⟩, ⟨is, his, ?_⟩, ⟨xs, hxs, ?_⟩⟩
  · rw [husers, cells_kept_user, List.map_map]
    exact List.map_congr_left fun z _ => congrArg Value.str String.ofList_toList
  · rw [hitems, cells_kept_item, List.map_map]
    exact List.map_congr_left fun z _ => congrArg Value.str String.ofList_toList
  · rw [cells_kept_rating] at hratings
    rw [hratings.eq_of_plain fun x hx => ?_, List.map_map]
    · rfl
    · obtain ⟨z, hz, rfl⟩ := List.mem_map.mp hx
      exact hfinite z hz

variable [WebClient]

/-- The server's answer is accepted, and it holds a text of a table in the place of the ratings. -/
structure Publishes (server : Server) (g : Delimited.Grid) : Prop where
  accepted : WebClient.check (server Edition.small.request) Edition.small.request.url = .ok ()
  table : ∃ cs, g.IsWrittenAs cs ∧ (server Edition.small.request).file Edition.small.member
    = .ok (cs.flatMap String.utf8EncodeChar)

/-- **A table of ratings that is published is downloaded as its entries.** -/
theorem exists_fetch {server : Server} (h : Publishes server g) (hg : g.HasRatings)
    (hexact : IsExactOn g) :
    ∃ table zs, fetch server .small .null = .ok table ∧ Gives g zs
      ∧ table.map Prod.fst = (kept zs).names ∧ HoldsEntries table zs := by
  obtain ⟨cs, hcs, hfile⟩ := h.table
  obtain ⟨f, hread, hf⟩ := hexact.reads cs hcs
  obtain ⟨table, zs, htable, hentries⟩ := exists_ratingColumns hg hexact.converts hf
  refine ⟨table, zs, ?_, hentries⟩
  unfold fetch
  refine bind_eq_ok_iff.mpr ⟨(), h.accepted, bind_eq_ok_iff.mpr ⟨_, hfile, ?_⟩⟩
  exact bind_eq_ok_iff.mpr ⟨f, hread, htable⟩

end

end MovieLens

end PoissonFactor
