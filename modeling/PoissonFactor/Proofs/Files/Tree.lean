import PoissonFactor.Proofs.Outcome
import PoissonFactor.Files.Tree
import Mathlib.Data.List.Infix

/-!
# Folders that are made and files that are written

For paths from the current folder down:

> `FileTree.makeFolders_spec`: a folder that was made is there with all above it, and where
> something stood before, it stands unchanged.
> `FileTree.exists_write`: a place in such a folder where nothing stands can be written to, and
> what is written is read there.

Nothing can be said of names that lead up: above the current folder there are no files at all.
-/

namespace PoissonFactor

/-- A path from the current folder down, by names that files can have. -/
structure Path.IsBelow (p : Path) : Prop where
  noSlash : p.slashes = 0
  noUp : ∀ n ∈ p.names, n ≠ Path.upName
  noNul : ∀ n ∈ p.names, '\x00' ∉ n
  short : ∀ n ∈ p.names, (String.ofList n).utf8ByteSize ≤ FileTree.nameLimit

theorem Path.IsBelow.parent {p : Path} (h : p.IsBelow) : p.parent.IsBelow where
  noSlash := h.noSlash
  noUp n hn := h.noUp n (List.mem_of_mem_dropLast hn)
  noNul n hn := h.noNul n (List.mem_of_mem_dropLast hn)
  short n hn := h.short n (List.mem_of_mem_dropLast hn)

namespace FileTree

variable {t made : FileTree} {names q : List (List Char)} {p : Path}

/-! ## What stands at a place -/

/-- Starting with a path means having it as a prefix. -/
theorem startsWith_iff : ∀ {as bs : List (List Char)}, startsWith as bs = true ↔ bs <+: as
  | _, [] => by simp [startsWith]
  | [], _ :: _ => by simp [startsWith]
  | a :: as, b :: bs => by
    rw [startsWith, Bool.and_eq_true, beq_iff_eq, startsWith_iff, List.cons_prefix_cons, eq_comm]

/-- Something stands at a place: a folder that is always there, or something that was made. -/
def Stands (t : FileTree) (names : List (List Char)) : Prop :=
  (names.all (· = Path.upName) = true ∨ names = [Path.rootName])
    ∨ (∃ f ∈ t.folders, names <+: f) ∨ ∃ f ∈ t.files, names <+: f.1

/-- The tests for a folder find whatever stands at a place. -/
theorem isFolder_iff : (names.all (· = Path.upName) || decide (names = [Path.rootName])
      || t.folders.any (startsWith · names) || t.files.any fun f => startsWith f.1 names) = true
    ↔ t.Stands names := by
  unfold Stands
  simp only [Bool.or_eq_true, decide_eq_true_iff, List.any_eq_true, startsWith_iff, or_assoc]

/-- Where a file is found there is that file. -/
theorem entry_of_find? {f : List (List Char) × List UInt8}
    (h : (t.files.find? fun f => f.1 == names) = some f) : t.entry names = .file f.2 := by
  unfold entry
  rw [h]

/-- Where no file is found but something stands there is a folder. -/
theorem entry_of_stands (hfind : (t.files.find? fun f => f.1 == names) = none)
    (h : t.Stands names) : t.entry names = .folder := by
  unfold entry
  rw [hfind]
  dsimp only
  rw [isFolder_iff.mpr h, if_pos rfl]

/-- **Something is at a place exactly when something stands there.** -/
theorem entry_ne_missing_iff : t.entry names ≠ .missing ↔ t.Stands names := by
  cases hfind : t.files.find? fun f => f.1 == names with
  | some f =>
    rw [entry_of_find? hfind]
    have hname : f.1 = names := by
      have hfound := List.find?_some hfind
      rwa [beq_iff_eq] at hfound
    refine ⟨fun _ => Or.inr (Or.inr ⟨f, List.mem_of_find?_eq_some hfind, ?_⟩), fun _ => nofun⟩
    rw [hname]
  | none =>
    constructor
    · intro hentry
      by_contra hstands
      refine hentry ?_
      unfold entry
      rw [hfind]
      dsimp only
      rw [if_neg fun h => hstands (isFolder_iff.mp h)]
    · intro hstands
      rw [entry_of_stands hfind hstands]
      nofun

/-- Above anything that stands, something stands. -/
theorem Stands.of_prefix (h : t.Stands names) (hq : q <+: names) : t.Stands q := by
  rcases h with (hup | hroot) | ⟨f, hf, hnames⟩ | ⟨f, hf, hnames⟩
  · refine Or.inl (Or.inl (List.all_eq_true.mpr fun n hn => ?_))
    exact List.all_eq_true.mp hup n (hq.subset hn)
  · rw [hroot, List.prefix_cons_iff] at hq
    rcases hq with hnil | ⟨rest, hcons, hrest⟩
    · exact Or.inl (Or.inl (by rw [hnil]; rfl))
    · rw [List.prefix_nil.mp hrest] at hcons
      exact Or.inl (Or.inr hcons)
  · exact Or.inr (Or.inl ⟨f, hf, hq.trans hnames⟩)
  · exact Or.inr (Or.inr ⟨f, hf, hq.trans hnames⟩)

/-! ## Where a path leads -/

/-- All folders above a place are there. -/
def Reaches (t : FileTree) (names : List (List Char)) : Prop :=
  ∀ q, q <+: names → q ≠ names → t.entry q = .folder

/-- A path is walked as long as every place before its end is a folder. -/
theorem walk_eq_ok_iff {shown : String} {here found : List (List Char)}
    (hup : ∀ n ∈ names, n ≠ Path.upName)
    (hshort : ∀ n ∈ names, (String.ofList n).utf8ByteSize ≤ nameLimit) :
    t.walk shown here names = .ok found
      ↔ found = here ++ names
        ∧ ∀ q, q <+: names → q ≠ names → t.entry (here ++ q) = .folder := by
  induction names generalizing here with
  | nil =>
    rw [walk, List.append_nil, Except.ok.injEq]
    constructor
    · intro hfound
      exact ⟨hfound.symm, fun q hq hne => absurd (List.prefix_nil.mp hq) hne⟩
    · intro hfound
      exact hfound.1.symm
  | cons n rest ih =>
    obtain ⟨hnUp, hrestUp⟩ := List.forall_mem_cons.mp hup
    obtain ⟨hnShort, hrestShort⟩ := List.forall_mem_cons.mp hshort
    -- The folder where the walk begins is the first of those above the place.
    have hfirst : (∀ q, q <+: n :: rest → q ≠ n :: rest → t.entry (here ++ q) = .folder)
        ↔ t.entry here = .folder
          ∧ ∀ q, q <+: rest → q ≠ rest → t.entry (here ++ [n] ++ q) = .folder := by
      constructor
      · intro h
        refine ⟨?_, fun q hq hne => ?_⟩
        · have hhere := h [] (List.nil_prefix) nofun
          rwa [List.append_nil] at hhere
        · have hnext := h (n :: q) (List.cons_prefix_cons.mpr ⟨rfl, hq⟩)
            fun heq => hne (List.cons_eq_cons.mp heq).2
          rwa [List.append_assoc]
      · intro h q hq hne
        obtain ⟨hhere, h⟩ := h
        rcases List.prefix_cons_iff.mp hq with rfl | ⟨q', rfl, hq'⟩
        · rwa [List.append_nil]
        · have hnext := h q' hq' fun heq => hne (by rw [heq])
          rwa [List.append_assoc] at hnext
    have hstep : Path.step here n = here ++ [n] := by
      unfold Path.step
      rw [if_pos hnUp]
    rw [hfirst, walk]
    cases hentry : t.entry here with
    | folder =>
      dsimp only
      rw [if_neg (not_lt.mpr hnShort), hstep, ih hrestUp hrestShort, List.append_assoc]
      simp only [List.singleton_append, true_and]
    | missing => simp
    | file bytes => simp

/-- So a path below the folder of the program is found exactly when it is reached. -/
theorem resolve_eq_ok_iff (hp : p.IsBelow) {found : List (List Char)} :
    t.resolve p = .ok found ↔ found = p.names ∧ t.Reaches p.names := by
  have hplace : p.place = p.names := by
    unfold Path.place
    rw [hp.noSlash, if_neg (lt_irrefl 0)]
  have hnul : ¬ p.names.any (·.contains '\x00') = true := by
    rw [List.any_eq_true]
    intro ⟨n, hn, hcontains⟩
    exact hp.noNul n hn (List.contains_iff_mem.mp hcontains)
  unfold resolve
  rw [if_neg hnul, hplace, walk_eq_ok_iff hp.noUp hp.short]
  simp only [List.nil_append, Reaches]

/-- There is something at a path if it is reached and something stands there. -/
theorem contains_iff (hp : p.IsBelow) :
    t.contains p = true ↔ t.Reaches p.names ∧ t.Stands p.names := by
  rw [← entry_ne_missing_iff]
  unfold contains
  constructor
  · intro h
    cases hresolve : t.resolve p with
    | error cause =>
      rw [hresolve] at h
      cases h
    | ok found =>
      rw [hresolve] at h
      obtain ⟨rfl, hreach⟩ := (resolve_eq_ok_iff hp).mp hresolve
      refine ⟨hreach, fun hmissing => ?_⟩
      dsimp only at h
      rw [hmissing] at h
      cases h
  · intro h
    obtain ⟨hreach, hentry⟩ := h
    rw [(resolve_eq_ok_iff hp).mpr ⟨rfl, hreach⟩]
    dsimp only
    cases he : t.entry p.names with
    | missing => exact absurd he hentry
    | folder => rfl
    | file bytes => rfl

/-! ## Making folders -/

/-- One tree is another in which folders on the way to a place were made. -/
def IsGrown (t made : FileTree) (names : List (List Char)) : Prop :=
  ∀ q, made.entry q = t.entry q
    ∨ (t.entry q = .missing ∧ q <+: names ∧ made.entry q = .folder)

theorem IsGrown.refl (t : FileTree) (names : List (List Char)) : t.IsGrown t names :=
  fun _ => Or.inl rfl

/-- Making a folder and then those below it makes them all. -/
theorem IsGrown.trans {between : FileTree} (h : t.IsGrown between q) (hq : q <+: names)
    (h' : between.IsGrown made names) : t.IsGrown made names := by
  intro place
  rcases h' place with hsame' | ⟨hmissing', hbelow', hfolder'⟩
  · rcases h place with hsame | ⟨hmissing, hbelow, hfolder⟩
    · exact Or.inl (hsame'.trans hsame)
    · exact Or.inr ⟨hmissing, hbelow.trans hq, hsame'.trans hfolder⟩
  · rcases h place with hsame | ⟨-, -, hfolder⟩
    · exact Or.inr ⟨hsame.symm.trans hmissing', hbelow', hfolder'⟩
    · rw [hfolder] at hmissing'
      cases hmissing'

/-- A tree with one more folder. -/
def addFolder (t : FileTree) (names : List (List Char)) : FileTree :=
  { t with folders := names :: t.folders }

/-- A new folder stands with all folders on the way to it, and nothing else does. -/
theorem stands_addFolder : (t.addFolder names).Stands q ↔ t.Stands q ∨ q <+: names := by
  unfold Stands addFolder
  simp only [List.mem_cons, exists_eq_or_imp]
  rw [or_assoc (a := q <+: names), or_left_comm (b := q <+: names), or_comm]

/-- Adding a folder makes the folders on the way and changes nothing else. -/
theorem isGrown_addFolder (t : FileTree) (names : List (List Char)) :
    t.IsGrown (t.addFolder names) names := by
  intro q
  cases hfind : t.files.find? fun f => f.1 == q with
  | some f =>
    left
    rw [entry_of_find? hfind]
    exact entry_of_find? (t := t.addFolder names) hfind
  | none =>
    by_cases hstands : t.Stands q
    · left
      rw [entry_of_stands hfind hstands]
      exact entry_of_stands (t := t.addFolder names) hfind (stands_addFolder.mpr (Or.inl hstands))
    · have hmissing : t.entry q = .missing := by
        by_contra hentry
        exact hstands (entry_ne_missing_iff.mp hentry)
      by_cases hq : q <+: names
      · right
        refine ⟨hmissing, hq, ?_⟩
        exact entry_of_stands (t := t.addFolder names) hfind (stands_addFolder.mpr (Or.inr hq))
      · left
        rw [hmissing]
        by_contra hentry
        exact (stands_addFolder.mp (entry_ne_missing_iff.mp hentry)).elim hstands hq

/-- A folder was made: it is there with all above it, and what stood before stands unchanged. -/
structure HasMade (t made : FileTree) (names : List (List Char)) : Prop where
  reaches : made.Reaches names
  folder : made.entry names = .folder
  grown : t.IsGrown made names

/-- Making one folder in another that is there. -/
theorem hasMade_of_resolve (hp : p.IsBelow) {found : List (List Char)}
    (hresolve : t.resolve p = .ok found)
    (h : (match t.entry found with
      | .folder => .ok t
      | .file _ => .error (.fileExists p.shown)
      | .missing => .ok { t with folders := found :: t.folders }) = Except.ok (ε := Failure) made) :
    t.HasMade made p.names := by
  obtain ⟨rfl, hreach⟩ := (resolve_eq_ok_iff hp).mp hresolve
  cases hentry : t.entry p.names with
  | folder =>
    rw [hentry] at h
    cases h
    exact ⟨hreach, hentry, .refl t _⟩
  | file bytes =>
    rw [hentry] at h
    cases h
  | missing =>
    rw [hentry] at h
    cases h
    have hgrown := isGrown_addFolder t p.names
    refine ⟨fun q hq hne => ?_, ?_, hgrown⟩
    · rcases hgrown q with hsame | ⟨-, -, hfolder⟩
      · exact hsame.trans (hreach q hq hne)
      · exact hfolder
    · rcases hgrown p.names with hsame | ⟨-, -, hfolder⟩
      · have hstands : (t.addFolder p.names).Stands p.names :=
          stands_addFolder.mpr (Or.inr (List.prefix_refl _))
        exact absurd (hsame.trans hentry) (entry_ne_missing_iff.mpr hstands)
      · exact hfolder

/-- **Folders that are made are there**, by induction on how far up they had to be made. -/
theorem makeFolders_spec {above : Nat} (hp : p.IsBelow) (h : t.makeFolders above p = .ok made) :
    t.HasMade made p.names := by
  induction above generalizing p made with
  | zero =>
    rw [makeFolders] at h
    cases hresolve : t.resolve p with
    | ok found =>
      rw [hresolve] at h
      exact hasMade_of_resolve hp hresolve h
    | error cause =>
      rw [hresolve] at h
      cases cause
      all_goals cases h
  | succ above ih =>
    rw [makeFolders] at h
    cases hresolve : t.resolve p with
    | ok found =>
      rw [hresolve] at h
      exact hasMade_of_resolve hp hresolve h
    | error cause =>
      rw [hresolve] at h
      cases cause
      case fileMissing shown =>
        dsimp only at h
        split_ifs at h
        cases hparent : t.makeFolders above p.parent with
        | error cause =>
          rw [hparent] at h
          cases h
        | ok between =>
          rw [hparent] at h
          dsimp only at h
          have hbetween := ih hp.parent hparent
          cases hagain : between.resolve p with
          | error cause =>
            rw [hagain] at h
            cases h
          | ok found =>
            rw [hagain] at h
            have hmade := hasMade_of_resolve hp hagain h
            exact ⟨hmade.reaches, hmade.folder,
              hbetween.grown.trans (List.dropLast_prefix _) hmade.grown⟩
      all_goals cases h

/-- What is before the end of a path is on the way to its last folder. -/
theorem prefix_dropLast (hq : q <+: names) (hne : q ≠ names) : q <+: names.dropLast := by
  obtain ⟨rest, rfl⟩ := hq
  have hrest : rest ≠ [] := fun hnil => hne (by rw [hnil, List.append_nil])
  rw [List.dropLast_append_of_ne_nil hrest]
  exact List.prefix_append q _

theorem not_prefix_dropLast (hne : names ≠ []) : ¬ names <+: names.dropLast := by
  intro h
  have hlength := h.length_le
  have hpos := List.length_pos_iff.mpr hne
  rw [List.length_dropLast] at hlength
  omega

/-- Once the folder of a path is made, nothing stands there yet if nothing was found before. -/
theorem makeParents_spec (hp : p.IsBelow) (hne : p.names ≠ []) (hnew : t.contains p = false)
    (h : t.makeParents p = .ok made) : made.Reaches p.names ∧ made.entry p.names = .missing := by
  have hmade := makeFolders_spec hp.parent h
  have hreach : made.Reaches p.names := by
    intro q hq hproper
    by_cases hparent : q = p.names.dropLast
    · rw [hparent]
      exact hmade.folder
    · exact hmade.reaches q (prefix_dropLast hq hproper) hparent
  refine ⟨hreach, ?_⟩
  by_contra hentry
  -- A folder was made on the way only, so what stands at the place has always stood there, and
  -- with it all folders above.
  have hsame : made.entry p.names = t.entry p.names :=
    (hmade.grown p.names).resolve_right fun hnew => not_prefix_dropLast hne hnew.2.1
  have hstands : t.Stands p.names := entry_ne_missing_iff.mp (hsame ▸ hentry)
  have hreachOld : t.Reaches p.names := by
    intro q hq hproper
    rcases hmade.grown q with hsame | ⟨hmissing, -, -⟩
    · exact hsame.symm.trans (hreach q hq hproper)
    · exact absurd hmissing (entry_ne_missing_iff.mpr (hstands.of_prefix hq))
  rw [(contains_iff hp).mpr ⟨hreachOld, hstands⟩] at hnew
  cases hnew

/-- Where nothing is, nothing is found. -/
theorem contains_of_missing (hp : p.IsBelow) (h : t.entry p.names = .missing) :
    t.contains p = false := by
  by_contra hcontains
  rw [Bool.not_eq_false] at hcontains
  exact entry_ne_missing_iff.mpr ((contains_iff hp).mp hcontains).2 h

/-- A folder that is there needs not be made again. -/
theorem makeParents_of_reaches (hp : p.IsBelow) (hne : p.names ≠ []) (h : t.Reaches p.names) :
    t.makeParents p = .ok t := by
  have hproper : p.names.dropLast ≠ p.names := by
    intro heq
    refine not_prefix_dropLast hne ?_
    rw [heq]
  have hparent : t.entry p.names.dropLast = .folder := h _ (List.dropLast_prefix _) hproper
  have hreach : t.Reaches p.names.dropLast := by
    intro q hq hnot
    refine h q (hq.trans (List.dropLast_prefix _)) ?_
    intro heq
    rw [heq] at hq
    exact not_prefix_dropLast hne hq
  have hresolve : t.resolve p.parent = .ok p.names.dropLast :=
    (resolve_eq_ok_iff hp.parent).mpr ⟨rfl, hreach⟩
  unfold makeParents
  rw [makeFolders.eq_def, hresolve]
  dsimp only
  rw [hparent]

/-! ## Writing a file -/

/-- **What is written where nothing stands is read there.** -/
theorem exists_write (hp : p.IsBelow) (hreach : t.Reaches p.names)
    (hmissing : t.entry p.names = .missing) (bytes : List UInt8) :
    ∃ left, t.write p bytes = .ok left ∧ left.contains p = true ∧ left.read p = .ok bytes := by
  obtain ⟨left, hleft⟩ : ∃ left : FileTree, left
      = { t with files := (p.names, bytes) :: t.files.filter fun f => f.1 != p.names } := ⟨_, rfl⟩
  have hwrite : t.write p bytes = .ok left := by
    refine bind_eq_ok_iff.mpr ⟨p.names, (resolve_eq_ok_iff hp).mpr ⟨rfl, hreach⟩, ?_⟩
    rw [hmissing, hleft]
    rfl
  have hentry : left.entry p.names = .file bytes := by
    refine entry_of_find? (f := (p.names, bytes)) ?_
    rw [hleft]
    exact List.find?_cons_of_pos (beq_self_eq_true _)
  have hreach' : left.Reaches p.names := by
    intro q hq hproper
    -- The new file alone would make it a folder, and no file has its name.
    refine entry_of_stands ?_ (Or.inr (Or.inr ⟨(p.names, bytes), ?_, hq⟩))
    · have hnone : (t.files.find? fun f => f.1 == q) = none := by
        cases hfind : t.files.find? fun f => f.1 == q with
        | none => rfl
        | some f =>
          have hfolder := hreach q hq hproper
          rw [entry_of_find? hfind] at hfolder
          cases hfolder
      rw [List.find?_eq_none] at hnone
      rw [hleft, List.find?_eq_none]
      intro f hf
      rcases List.mem_cons.mp hf with rfl | hmem
      · rw [beq_iff_eq]
        exact Ne.symm hproper
      · exact hnone f (List.mem_filter.mp hmem).1
    · rw [hleft]
      exact List.mem_cons_self
  have hstands : left.Stands p.names := by
    rw [← entry_ne_missing_iff, hentry]
    nofun
  refine ⟨left, hwrite, (contains_iff hp).mpr ⟨hreach', hstands⟩, ?_⟩
  refine bind_eq_ok_iff.mpr ⟨p.names, (resolve_eq_ok_iff hp).mpr ⟨rfl, hreach'⟩, ?_⟩
  rw [hentry]
  rfl

end FileTree

end PoissonFactor
