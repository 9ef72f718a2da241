import PoissonFactor.Proofs.MovieLens.Download
import PoissonFactor.Proofs.Table.Frame

/-!
# The functions for frames are exact on short ratings

What a run relies on (`MovieLens.IsExactOn`) holds of the functions for frames that are defined
here, on every table of ratings with at most fifteen digits and few zeros in front of them:

> `MovieLens.standard_isExactOn`: such a table is read, converted, written and read again exactly.
-/

namespace PoissonFactor.MovieLens

variable {f : Frame} {g : Delimited.Grid} {zs : List Entry}

/-- Ratings of which a reader takes up all digits. -/
def HasShortRatings (g : Delimited.Grid) : Prop :=
  ∀ cs ∈ g.cells "rating", ∃ t : NumberText, t.text = cs ∧ t.IsShort

/-- The entries of such a table have short doubles. -/
theorem Gives.isShort (h : Gives g zs) (hshort : HasShortRatings g) :
    ∀ z ∈ zs, Decimal.IsShort z.rating := by
  intro z hz
  obtain ⟨vs, hvs, hzs⟩ := h.ratings
  apply hvs.isShort hshort
  rw [hzs]
  exact List.mem_map_of_mem hz

/-! ## Writing entries -/

/-- A frame of entries is made of three columns. -/
theorem exists_columns (hnames : f.map Prod.fst = (kept zs).names) (h : HoldsEntries f zs) :
    ∃ us is xs, f = [("user_id", us), ("item_id", is), ("rating", xs)]
      ∧ us.values = zs.map (fun z => .str (toString z.user))
      ∧ is.values = zs.map (fun z => .str (toString z.item))
      ∧ xs.values = zs.map fun z => .float z.rating := by
  obtain ⟨us, hus, husers⟩ := h.users
  obtain ⟨is, his, hitems⟩ := h.items
  obtain ⟨xs, hxs, hratings⟩ := h.ratings
  obtain ⟨⟨n, c⟩, f, rfl, hn, hrest⟩ := List.map_eq_cons_iff.mp hnames
  obtain ⟨⟨n', c'⟩, f, rfl, hn', hrest⟩ := List.map_eq_cons_iff.mp hrest
  obtain ⟨⟨n'', c''⟩, f, rfl, hn'', hrest⟩ := List.map_eq_cons_iff.mp hrest
  obtain rfl := List.map_eq_nil_iff.mp hrest
  cases hn
  cases hn'
  cases hn''
  cases hus
  cases his
  cases hxs
  exact ⟨us, is, xs, rfl, husers, hitems, hratings⟩

/-- Its rows are the entries, one after the other. -/
theorem rows_eq {us is xs : Column} (husers : us.values = zs.map fun z => .str (toString z.user))
    (hitems : is.values = zs.map fun z => .str (toString z.item))
    (hratings : xs.values = zs.map fun z => .float z.rating) :
    Frame.rows [("user_id", us), ("item_id", is), ("rating", xs)]
      = zs.map fun z => [.str (toString z.user), .str (toString z.item), .float z.rating] := by
  unfold Frame.rows Frame.height
  simp only [List.map_cons, List.map_nil, List.head?_cons, Option.map_some, Option.getD_some,
    husers, hitems, hratings, List.length_map, List.foldr_cons, List.foldr_nil]
  clear husers hitems hratings
  induction zs with
  | nil => rfl
  | cons z zs ih =>
    simp only [List.length_cons, List.replicate_succ, List.map_cons, List.zipWith_cons_cons, ih]

/-- A finite double is written by its shortest digits. -/
theorem entryText_float {x : Float} (h : Decimal.isFinite x = true) :
    Column.entryText (.float x) = some (Decimal.plain x) := by
  unfold Column.entryText
  rw [Column.isMissing_float h, if_neg Bool.false_ne_true]
  show some (String.ofList (Decimal.plain x).toList) = _
  rw [String.ofList_toList]

/-- **A frame of entries is written as the table that is kept of them.** -/
theorem written_eq (hnames : f.map Prod.fst = (kept zs).names) (h : HoldsEntries f zs)
    (hfinite : ∀ z ∈ zs, Decimal.isFinite z.rating = true) : f.written = kept zs := by
  obtain ⟨us, is, xs, rfl, husers, hitems, hratings⟩ := exists_columns hnames h
  unfold Frame.written kept
  rw [rows_eq husers hitems hratings, List.map_map]
  congr 1
  refine List.map_congr_left fun z hz => ?_
  show [(toString z.user).toList, (toString z.item).toList,
    ((Column.entryText (.float z.rating)).getD "").toList] = _
  rw [entryText_float (hfinite z hz)]
  rfl

/-- No number holds a carriage return. -/
theorem not_mem_of_isNumber {cs : List Char} (h : Column.IsNumber cs) : '\r' ∉ cs := by
  obtain ⟨t, rfl⟩ := h
  intro hreturn
  exact absurd (t.allNumeric_text _ hreturn) (by decide)

/-- The fields of a table that is kept need no quotes. -/
theorem not_mem_kept (hfinite : ∀ z ∈ zs, Decimal.isFinite z.rating = true) :
    ∀ row ∈ (kept zs).header :: (kept zs).rows, ∀ cs ∈ row, '\r' ∉ cs := by
  refine List.forall_mem_cons.mpr ⟨?_, fun row hrow cs hcs => ?_⟩
  · show ∀ cs ∈ ["user_id".toList, "item_id".toList, "rating".toList], '\r' ∉ cs
    decide
  · obtain ⟨z, hz, rfl⟩ := List.mem_map.mp hrow
    obtain ⟨t, ht, -⟩ := exists_text_plain (hfinite z hz)
    apply not_mem_of_isNumber
    simp only [List.mem_cons, List.not_mem_nil, or_false] at hcs
    rcases hcs with rfl | rfl | rfl
    · exact Column.isNumber_toString _
    · exact Column.isNumber_toString _
    · exact ⟨t, ht⟩

theorem isNamed_kept (zs : List Entry) : (kept zs).IsNamed where
  wide := by
    show 2 ≤ ["user_id", "item_id", "rating"].length
    decide
  names := by
    show ∀ n ∈ ["user_id", "item_id", "rating"], n ≠ "" ∧ n.toList.head? ≠ some '\ufeff'
    decide

/-! ## All of it -/

/-- **On short ratings the functions for frames are exact.** -/
theorem standard_isExactOn (hg : g.HasRatings) (hnamed : g.IsNamed) (hshort : HasShortRatings g) :
    @IsExactOn .standard g := by
  refine @IsExactOn.mk .standard g ?_ TableLibrary.standard_convertsExactly ?_ ?_
  · refine TableLibrary.standard_readsExactly hnamed (fun _ _ h => absurd h List.not_mem_nil) ?_
    intro name hname _ hmem
    simp only [List.mem_cons, List.not_mem_nil, or_false] at hname
    rcases hname with rfl | rfl | rfl | rfl | rfl
    · exact Column.reads_integers hg.users
    · exact Column.reads_integers hg.items
    · refine Column.reads_ofTexts fun cs hcs => ?_
      obtain ⟨t, rfl, ht⟩ := hshort cs hcs
      exact ht.isExact
    · exact absurd hmem hg.noUser
    · exact absurd hmem hg.noItem
  · intro f zs hgives hnames hentries
    have hfinite := hgives.isFinite hg
    have hwritten := written_eq hnames hentries hfinite
    have hne : f ≠ [] := by
      rintro rfl
      cases hnames
    have hbytes := Text.toList_toUTF8 f.text.toList
    rw [String.ofList_toList] at hbytes
    refine ⟨f.text.toList, ?_, hbytes⟩
    have htext := Frame.isWrittenAs_text hne
    rw [hwritten] at htext
    refine htext (not_mem_kept hfinite) fun row hrow => ?_
    obtain ⟨z, -, rfl⟩ := List.mem_map.mp hrow
    rfl
  · intro zs hgives
    refine TableLibrary.standard_readsExactly (isNamed_kept zs) ?_ ?_
    · intro name _ htext
      simp only [List.mem_cons, List.not_mem_nil, or_false] at htext
      rcases htext with rfl | rfl
      · rw [cells_kept_user]
        exact List.forall_mem_map.mpr fun z _ => Column.isNumber_toString _
      · rw [cells_kept_item]
        exact List.forall_mem_map.mpr fun z _ => Column.isNumber_toString _
    · intro name hname hother _
      have hrating : name = "rating" := by
        simp only [kept, List.mem_cons, List.not_mem_nil, or_false, not_or] at hname hother
        exact (hname.resolve_left hother.1).resolve_left hother.2
      rw [hrating, cells_kept_rating, List.map_map]
      refine Column.reads_ofTexts (List.forall_mem_map.mpr fun z hz => ?_)
      exact Column.isExact_plain (hgives.isShort hshort z hz)

end PoissonFactor.MovieLens
