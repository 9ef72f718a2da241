import PoissonFactor.MovieLens.Run
import PoissonFactor.Proofs.Files.Tree
import PoissonFactor.Proofs.MovieLens.Standard
import PoissonFactor.Proofs.Pipeline.Reporting

/-!
# A second run

A run keeps what it downloads, and the next one reads it instead:

> `MovieLens.run_again`: both end the same way, with the same model or the same failure, whatever
> the settings are, and the second asks for nothing and changes no file. A download that fails
> keeps nothing, so that the next run asks again.

What is fitted depends on a table only by its rows of ratings, and these are the same for the table
that was downloaded and for the one that is read, for both have the same entries
(`MovieLens.HoldsEntries.ratings_eq`).
-/

namespace PoissonFactor.MovieLens

variable {server : Server} {files made left : FileTree}

/-! ## Where the table is kept -/

/-- The table is kept below the folder of the program. -/
theorem isBelow_tablePath : (Path.ofString tablePath).IsBelow where
  noSlash := rfl
  noUp := by
    show ∀ n ∈ ["poissonrec".toList, "data".toList, "movielens_latest_small.csv".toList], _
    decide
  noNul := by
    show ∀ n ∈ ["poissonrec".toList, "data".toList, "movielens_latest_small.csv".toList], _
    decide
  short := by
    show ∀ n ∈ ["poissonrec".toList, "data".toList, "movielens_latest_small.csv".toList], _
    decide

theorem names_tablePath_ne_nil : (Path.ofString tablePath).names ≠ [] :=
  List.cons_ne_nil "poissonrec".toList _

section

variable [TableLibrary] [WebClient]

/-! ## What a run leaves behind -/

/-- A download that succeeds is kept. -/
theorem exists_kept {table : Frame} (hnew : isKept files = false)
    (hmade : files.makeParents (Path.ofString tablePath) = .ok made)
    (hfetch : fetch server .small .null = .ok table) :
    ∃ left,
      keepTable server files
        = (.ok table, { files := left, requests := [Edition.small.request] })
      ∧ isKept left = true
      ∧ left.read (Path.ofString tablePath) = .ok (TableLibrary.write table) := by
  obtain ⟨hreach, hmissing⟩ :=
    FileTree.makeParents_spec isBelow_tablePath names_tablePath_ne_nil hnew hmade
  obtain ⟨left, hwrite, hkept, hread⟩ :=
    FileTree.exists_write isBelow_tablePath hreach hmissing (TableLibrary.write table)
  refine ⟨left, ?_, hkept, hread⟩
  unfold keepTable
  dsimp only
  rw [hmade]
  dsimp only
  rw [hfetch]
  dsimp only
  rw [hwrite]

/-- A download that fails leaves the folder behind, and nothing in it. -/
theorem keepTable_error {cause : Failure}
    (hmade : files.makeParents (Path.ofString tablePath) = .ok made)
    (hfetch : fetch server .small .null = .error cause) :
    keepTable server files
      = (.error cause, { files := made, requests := [Edition.small.request] }) := by
  unfold keepTable
  dsimp only
  rw [hmade]
  dsimp only
  rw [hfetch]

/-- Whoever looks for a table in a folder that is there asks for it once. -/
theorem requests_keepTable (server : Server)
    (hmade : files.makeParents (Path.ofString tablePath) = .ok made) :
    (keepTable server files).2.requests = [Edition.small.request] := by
  unfold keepTable
  dsimp only
  rw [hmade]
  dsimp only
  cases fetch server .small .null with
  | error cause => rfl
  | ok table =>
    dsimp only
    cases made.write (Path.ofString tablePath) (TableLibrary.write table)
    all_goals rfl

/-- Where a table is kept, nothing is asked for and nothing changes. -/
theorem trail_of_isKept (server : Server) (h : isKept files = true) :
    trail server files = { files, requests := [] } := by
  unfold trail
  rw [h, if_pos rfl]

/-- Where none is kept, it is downloaded. -/
theorem trail_of_not_isKept (server : Server) (h : isKept files = false) :
    trail server files = (keepTable server files).2 := by
  unfold trail
  rw [h, if_neg Bool.false_ne_true]

/-! ## How the ratings are obtained -/

/-- A table that is kept is read. -/
theorem outcome_obtain_of_isKept (server : Server) (h : isKept files = true) :
    (obtain server files).outcome = (readTable files, ["Small dataset already downloaded."]) := by
  unfold obtain
  rw [if_pos h]
  cases readTable files
  all_goals rfl

/-- One that is downloaded is used as it came. -/
theorem outcome_obtain_of_fetch {table : Frame} (hnew : isKept files = false)
    (hkept : (keepTable server files).1 = .ok table) :
    (obtain server files).outcome = (.ok table,
      ["Downloading MovieLens small dataset...", "Saved small dataset to " ++ tablePath]) := by
  unfold obtain
  rw [if_neg (ne_true_of_eq_false hnew), hkept]
  rfl

/-- A download that fails leaves no table to use. -/
theorem outcome_obtain_of_error {cause : Failure} (hnew : isKept files = false)
    (hfailed : (keepTable server files).1 = .error cause) :
    (obtain server files).outcome = (.error cause, ["Downloading MovieLens small dataset..."]) := by
  unfold obtain
  rw [if_neg (ne_true_of_eq_false hnew), hfailed]
  rfl

end

section

variable [Text.CharacterNames]

/-! ## How a run ends -/

/-- A fit on ratings depends on their rows only. -/
theorem fit_congr {table table' : Frame} (h : table.ratings = table'.ratings) :
    fit files table = fit files table' := by
  unfold fit
  rw [h]

/-- A fit only appends to the lines there are. -/
theorem appends_fit (files : FileTree) (table : Frame) : (fit files table).Appends :=
  .silent_bind fun _ => .silent_bind fun _ => .silent_bind fun _ => Plan.appends_evaluateOver _ _ _

variable [TableLibrary] [WebClient]

/-- A run that has a table ends as the fit on it, behind the lines of getting it. -/
theorem outcome_run {table : Frame} {lines : List String}
    (h : (obtain server files).outcome = (.ok table, lines)) :
    (run server files).outcome
      = ((fit (trail server files).files table).outcome.1.map
          ({ trail server files with fitted := · }),
        lines ++ (fit (trail server files).files table).outcome.2) := by
  show (run server files).after [] = _
  unfold run
  rw [Reporting.after_bind, show (obtain server files).after [] = _ from h]
  dsimp only
  rw [Reporting.after_bind_pure, appends_fit]

/-- A run that has no table ends with what kept it from getting one. -/
theorem outcome_run_error {cause : Failure} {lines : List String}
    (h : (obtain server files).outcome = (.error cause, lines)) :
    (run server files).outcome = (.error cause, lines) := by
  show (run server files).after [] = _
  unfold run
  rw [Reporting.after_bind, show (obtain server files).after [] = _ from h]

/-! ## Two runs -/

/-- **A second run ends as the first one did**, whatever the settings are: the first one asks once
and keeps the table, and the second asks for nothing and leaves all files as they are. A download
that fails keeps nothing, and the next run asks again. -/
theorem run_again (server : Server) (hnew : isKept files = false)
    (hmade : files.makeParents (Path.ofString tablePath) = .ok made) :
    (∀ g, Publishes server g → g.HasRatings → IsExactOn g → ∃ table left,
      fetch server .small .null = .ok table
      ∧ trail server files = { files := left, requests := [Edition.small.request] }
      ∧ left.read (Path.ofString tablePath) = .ok (TableLibrary.write table)
      ∧ ∀ again : Server, trail again left = { files := left, requests := [] }
        ∧ ∃ (ending : Except Failure (Fitted Float)) (lines : List String),
          (run server files).outcome = (ending.map ({ trail server files with fitted := · }),
            ["Downloading MovieLens small dataset...", "Saved small dataset to " ++ tablePath]
              ++ lines)
          ∧ (run again left).outcome = (ending.map ({ trail again left with fitted := · }),
            ["Small dataset already downloaded."] ++ lines))
    ∧ ∀ cause, fetch server .small .null = .error cause →
      (run server files).outcome.1 = .error cause
      ∧ isKept (trail server files).files = false
      ∧ ∀ again : Server,
        (trail again (trail server files).files).requests = [Edition.small.request] := by
  constructor
  · intro g hpublished hg hexact
    obtain ⟨table, zs, hfetch, hgives, hnames, htable⟩ := exists_fetch hpublished hg hexact
    obtain ⟨left, hkeep, hkept, hread⟩ := exists_kept hnew hmade hfetch
    have htrail : trail server files = { files := left, requests := [Edition.small.request] } := by
      rw [trail_of_not_isKept server hnew, hkeep]
    refine ⟨table, left, hfetch, htrail, hread, fun again => ?_⟩
    have hagain := trail_of_isKept again hkept
    -- The table that is read has the entries of the one that was written, and so its rows.
    have hfinite := hgives.isFinite hg
    obtain ⟨back, hback, hentries⟩ := exists_reread hexact hgives hfinite hnames htable
    have hrows : back.ratings = table.ratings :=
      (hentries.ratings_eq hfinite).trans (htable.ratings_eq hfinite).symm
    have hreadTable : readTable left = .ok back := bind_eq_ok_iff.mpr ⟨_, hread, hback⟩
    have hfirst := outcome_run (outcome_obtain_of_fetch hnew (congrArg Prod.fst hkeep))
    have hsecond := outcome_run ((outcome_obtain_of_isKept again hkept).trans
      (congrArg (Prod.mk · _) hreadTable))
    rw [htrail] at hfirst
    rw [hagain, fit_congr hrows] at hsecond
    rw [htrail, hagain]
    exact ⟨rfl, _, _, hfirst, hsecond⟩
  · intro cause hfetch
    have hkeep := keepTable_error hmade hfetch
    have htrail : (trail server files).files = made := by
      rw [trail_of_not_isKept server hnew, hkeep]
    obtain ⟨hreach, hmissing⟩ :=
      FileTree.makeParents_spec isBelow_tablePath names_tablePath_ne_nil hnew hmade
    have hkept : isKept made = false := FileTree.contains_of_missing isBelow_tablePath hmissing
    rw [htrail]
    refine ⟨?_, hkept, fun again => ?_⟩
    · rw [outcome_run_error (outcome_obtain_of_error hnew (congrArg Prod.fst hkeep))]
    · rw [trail_of_not_isKept again hkept]
      exact requests_keepTable again
        (FileTree.makeParents_of_reaches isBelow_tablePath names_tablePath_ne_nil hreach)

end

/-- A server that sends an archive with a text in the place of the ratings. -/
def sends (cs : List Char) : Server := fun _ =>
  { status := 200
    reason := "OK"
    archive := some [(Edition.small.member, cs.flatMap String.utf8EncodeChar)] }

/-- Such a server publishes the table of the text. -/
theorem publishes_sends {cs : List Char} {g : Delimited.Grid} (h : g.IsWrittenAs cs) :
    @Publishes .standard (sends cs) g := by
  refine @Publishes.mk .standard _ _ rfl ⟨cs, h, ?_⟩
  unfold Response.file sends
  dsimp only
  rw [List.lookup_cons, beq_self_eq_true]

/-- Two ratings beside a column of other things, with zeros in front of a user. -/
def twoRatings : Delimited.Grid where
  names := ["userId", "movieId", "rating", "timestamp"]
  rows := [["007".toList, "42".toList, "3.5".toList, "964982703".toList],
    ["-1".toList, "42".toList, "4".toList, []]]

theorem isWrittenAs_twoRatings : twoRatings.IsWrittenAs
    "userId,movieId,rating,timestamp\n007,42,3.5,964982703\n-1,42,4,\n".toList where
  text := by
    have htext : (twoRatings.header :: twoRatings.rows).flatMap Frame.rowText
        = "userId,movieId,rating,timestamp\n007,42,3.5,964982703\n-1,42,4,\n".toList := by
      decide
    rw [← htext]
    exact Frame.rowsText_spec (by decide) (by decide)
  width := by decide

theorem hasShortRatings_twoRatings : HasShortRatings twoRatings := by
  have hhalf : ∃ t : NumberText, t.text = "3.5".toList ∧ t.IsShort :=
    ⟨⟨.none, "3".toList, some "5".toList, none, by decide, by decide⟩, rfl,
      ⟨rfl, by decide, by decide, by decide⟩⟩
  have hwhole : ∃ t : NumberText, t.text = "4".toList ∧ t.IsShort :=
    ⟨⟨.none, "4".toList, none, none, by decide, by decide⟩, rfl,
      ⟨rfl, by decide, by decide, by decide⟩⟩
  exact List.forall_mem_cons.mpr ⟨hhalf, List.forall_mem_singleton.mpr hwhole⟩

theorem hasRatings_twoRatings : twoRatings.HasRatings where
  distinct := by decide
  user := by decide
  item := by decide
  rating := by decide
  noUser := by decide
  noItem := by decide
  users := by
    have hseven : Column.IsInteger "007".toList 7 :=
      ⟨⟨.none, "007".toList, none, none, by decide, by decide⟩, rfl, ⟨rfl, rfl⟩, rfl, by decide⟩
    have hminus : Column.IsInteger "-1".toList (-1) :=
      ⟨⟨.minus, "1".toList, none, none, by decide, by decide⟩, rfl, ⟨rfl, rfl⟩, rfl, by decide⟩
    exact List.forall_mem_cons.mpr ⟨⟨7, hseven⟩, List.forall_mem_singleton.mpr ⟨-1, hminus⟩⟩
  items := by
    have hitem : Column.IsInteger "42".toList 42 :=
      ⟨⟨.none, "42".toList, none, none, by decide, by decide⟩, rfl, ⟨rfl, rfl⟩, rfl, by decide⟩
    exact List.forall_mem_cons.mpr ⟨⟨42, hitem⟩, List.forall_mem_singleton.mpr ⟨42, hitem⟩⟩
  ratings := by
    intro cs hcs
    obtain ⟨t, rfl, ht⟩ := hasShortRatings_twoRatings cs hcs
    exact ⟨t, rfl, ht.plain, _, 0, (Nat.mul_one _).symm, ht.few, Nat.zero_le _⟩

theorem isNamed_twoRatings : twoRatings.IsNamed where
  wide := by decide
  names := by decide

/-- Two runs where there were no files yet, and one that the server refuses. -/
theorem run_again_twoRatings :
    let _ : Text.CharacterNames := .tabulated
    let _ : TableLibrary := .standard
    let _ : WebClient := .standard
    let files : FileTree := { files := [], folders := [] }
    let server := sends "userId,movieId,rating,timestamp\n007,42,3.5,964982703\n-1,42,4,\n".toList
    let refuses : Server := fun _ => { status := 503, reason := "Unavailable", archive := none }
    (∃ left, trail server files = { files := left, requests := [Edition.small.request] }
      ∧ ∀ again : Server, trail again left = { files := left, requests := [] }
        ∧ (run again left).outcome.1.map (·.fitted) = (run server files).outcome.1.map (·.fitted))
    ∧ (run refuses files).outcome.1
      = .error (.httpStatus 503 "Unavailable" Edition.small.request.url) := by
  intro _ _ _ files server refuses
  have hnew : isKept files = false := by decide
  have hmade : files.makeParents (Path.ofString tablePath)
      = .ok { files := []
              folders := [["poissonrec".toList, "data".toList], ["poissonrec".toList]] } := rfl
  have hpublished := publishes_sends isWrittenAs_twoRatings
  have hexact :=
    standard_isExactOn hasRatings_twoRatings isNamed_twoRatings hasShortRatings_twoRatings
  constructor
  · obtain ⟨table, left, -, htrail, -, hagain⟩ :=
      (run_again server hnew hmade).1 _ hpublished hasRatings_twoRatings hexact
    refine ⟨left, htrail, fun again => ?_⟩
    obtain ⟨hsame, ending, lines, hfirst, hsecond⟩ := hagain again
    refine ⟨hsame, ?_⟩
    rw [hfirst, hsecond]
    cases ending
    all_goals rfl
  · exact ((run_again refuses hnew hmade).2 _ rfl).1

end PoissonFactor.MovieLens
