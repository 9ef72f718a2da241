import PoissonFactor.Proofs.Table.Format
import PoissonFactor.Table.Delimited

/-!
# Tables are read from all their texts

However a table is written (`Delimited.Grid.IsWrittenAs`), the reader finds the same names and rows:

> `Delimited.read_eq`: a text of a table is read as the table.

The reader goes from one character to the next, and what it does with a piece of the text does not
depend on what follows it (`Delimited.Leads`). So a field leads from where it begins to where it may
end, a row leads from the first of its fields to the last, and a line end behind that gives the row.
Two things of a table are not kept and have to be excluded: a line of one empty field is no row, and
a name that is left out is made up.
-/

namespace PoissonFactor.Delimited

open Records (isBreak doubled quoted)

variable {mode mode' mode'' : Mode} {r r' r'' : OpenRow} {c : Char} {cs text rest : List Char}

/-! ## Pieces of a text -/

/-- A piece of text takes the reader from one place to another, whatever follows it. -/
def Leads (mode : Mode) (r : OpenRow) (text : List Char) (mode' : Mode) (r' : OpenRow) : Prop :=
  ∀ rest, readFrom mode r (text ++ rest) = readFrom mode' r' rest

theorem Leads.refl (mode : Mode) (r : OpenRow) : Leads mode r [] mode r :=
  fun _ => rfl

/-- Pieces that lead from one place to the next can be put together. -/
theorem Leads.append {more : List Char} (h : Leads mode r text mode' r')
    (hmore : Leads mode' r' more mode'' r'') : Leads mode r (text ++ more) mode'' r'' := by
  intro rest
  rw [List.append_assoc, h, hmore]

theorem Leads.cons (h : Leads mode r [c] mode' r') (hcs : Leads mode' r' cs mode'' r'') :
    Leads mode r (c :: cs) mode'' r'' :=
  h.append hcs

/-- Line breaks count as characters only between quotes. -/
theorem leads_char (hc : isBreak c = false ∨ mode = .inQuotes) :
    Leads mode r [c] (readChar mode r c).1 (readChar mode r c).2 := by
  have hin : (isBreak c && mode != .inQuotes) = false := by
    rcases hc with hc | rfl
    · rw [hc, Bool.false_and]
    · rw [bne_self_eq_false, Bool.and_false]
  intro rest
  show readFrom mode r (c :: rest) = _
  rw [readFrom.eq_def]
  dsimp only
  rw [hin, if_neg Bool.false_ne_true]

/-! ## One field -/

/-- The places where nothing but characters without a meaning of their own came before. -/
def Mode.IsPlain (mode : Mode) : Prop :=
  mode ∉ [.inQuotes, .afterQuote]

/-- The places where the end of a line ends a row. -/
def Mode.InRow (mode : Mode) : Prop :=
  mode ∉ [.startRow, .margin, .inQuotes]

instance (mode : Mode) : Decidable mode.IsPlain :=
  inferInstanceAs (Decidable (mode ∉ _))

instance (mode : Mode) : Decidable mode.InRow :=
  inferInstanceAs (Decidable (mode ∉ _))

/-- A plain character is taken as it is, and a row that was begun is not left. -/
theorem readChar_plain (hmode : mode.IsPlain) (hc : c ∉ [',', '"', '\n', '\r']) :
    ∃ mode', readChar mode r c = (mode', r.add c) ∧ mode'.IsPlain
      ∧ (mode.InRow → mode'.InRow) := by
  simp only [List.mem_cons, List.not_mem_nil, or_false, not_or] at hc
  obtain ⟨hcomma, hquote, -, -⟩ := hc
  -- At the start of a row blanks are told from other characters.
  by_cases hblank : c = ' ' ∨ c = '\t'
  all_goals
    cases mode
    all_goals simp_all [readChar, Mode.IsPlain, Mode.InRow]

/-- A field without quotes is taken as it is. -/
theorem leads_plain (hmode : mode.IsPlain) (hcs : ∀ c ∈ cs, c ∉ [',', '"', '\n', '\r']) :
    ∃ mode', Leads mode r cs mode' { r with field := cs.reverse ++ r.field } ∧ mode'.IsPlain
      ∧ (mode.InRow → mode'.InRow) := by
  induction cs generalizing mode r with
  | nil => exact ⟨mode, Leads.refl mode r, hmode, id⟩
  | cons c cs ih =>
    obtain ⟨hc, hcs⟩ := List.forall_mem_cons.mp hcs
    have hbreak : isBreak c = false := by
      simp only [List.mem_cons, List.not_mem_nil, or_false, not_or] at hc
      unfold isBreak
      simp [hc]
    obtain ⟨mode', hread, hmode', hrow⟩ := readChar_plain (r := r) hmode hc
    obtain ⟨mode'', hleads, hmode'', hrow'⟩ := ih (r := r.add c) hmode' hcs
    have hfirst : Leads mode r [c] mode' (r.add c) := by
      have hchar : Leads mode r [c] (readChar mode r c).1 (readChar mode r c).2 :=
        leads_char (Or.inl hbreak)
      rwa [hread] at hchar
    refine ⟨mode'', ?_, hmode'', fun h => hrow' (hrow h)⟩
    rw [List.reverse_cons, List.append_assoc]
    exact hfirst.cons hleads

/-- Between quotes every character is taken as it is, and a quote that is written twice once. -/
theorem leads_doubled (cs : List Char) (r : OpenRow) :
    Leads .inQuotes r (doubled cs) .inQuotes { r with field := cs.reverse ++ r.field } := by
  induction cs generalizing r with
  | nil => exact Leads.refl _ r
  | cons c cs ih =>
    have hfirst : Leads .inQuotes r (if c = '"' then ['"', '"'] else [c]) .inQuotes (r.add c) := by
      by_cases hquote : c = '"'
      · rw [if_pos hquote, hquote]
        exact (leads_char (Or.inr rfl)).cons (leads_char (Or.inl rfl))
      · have hchar := leads_char (r := r) (c := c) (Or.inr (rfl : Mode.inQuotes = .inQuotes))
        rw [if_neg hquote]
        rwa [show readChar .inQuotes r c = (.inQuotes, r.add c) from if_neg hquote] at hchar
    rw [Records.doubled_cons, List.reverse_cons, List.append_assoc]
    exact hfirst.append (ih (r.add c))

/-- A field in quotes is read up to its last quote. -/
theorem leads_quoted (hmode : mode = .startRow ∨ mode = .startField) (cs : List Char) :
    Leads mode r (quoted cs) .afterQuote { r with field := cs.reverse ++ r.field } := by
  have hopen : Leads mode r ['"'] .inQuotes r := by
    rcases hmode with rfl | rfl
    all_goals exact leads_char (Or.inl rfl)
  exact (hopen.cons (leads_doubled cs r)).append (leads_char (Or.inr rfl))

/-- **A field is read from each of its texts.** -/
theorem leads_field (hmode : mode = .startRow ∨ mode = .startField) (hr : r.field = [])
    (h : FieldText cs text) :
    ∃ mode', Leads mode r text mode' { r with field := cs.reverse } ∧ mode' ≠ .inQuotes
      ∧ (mode = .startField → mode'.InRow) := by
  have hfield : cs.reverse ++ r.field = cs.reverse := by
    rw [hr, List.append_nil]
  rw [← hfield]
  cases h with
  | plain hcs =>
    have hplain : mode.IsPlain := by
      rcases hmode with rfl | rfl
      all_goals decide
    obtain ⟨mode', hleads, hmode', hrow⟩ := leads_plain (r := r) hplain hcs
    refine ⟨mode', hleads, fun heq => hmode' (heq ▸ List.mem_cons_self), fun heq => hrow ?_⟩
    rw [heq]
    decide
  | quoted => exact ⟨.afterQuote, leads_quoted hmode cs, by decide, fun _ => by decide⟩

/-- A comma ends a field, unless it stands between quotes. -/
theorem leads_comma (hmode : mode ≠ .inQuotes) : Leads mode r [','] .startField r.save := by
  have hchar : Leads mode r [','] (readChar mode r ',').1 (readChar mode r ',').2 :=
    leads_char (Or.inl rfl)
  cases mode with
  | inQuotes => exact absurd rfl hmode
  | _ => exact hchar

/-! ## One row -/

/-- **A row is read up to its end.** At the start of a line it needs two fields, for without a comma
there may be nothing but blanks. -/
theorem leads_row {fields : List (List Char)} (h : RowText fields text)
    (hmode : mode = .startField ∨ mode = .startRow ∧ 2 ≤ fields.length) (hr : r.field = []) :
    ∃ mode' r', Leads mode r text mode' r' ∧ mode'.InRow ∧ r'.line = r.line
      ∧ r'.finish = { line := r.line + 1, fields := r.fields.reverse ++ fields } := by
  induction h generalizing mode r with
  | @last cs text h =>
    obtain rfl : mode = .startField := hmode.resolve_right fun hfew => Nat.not_succ_le_self 1 hfew.2
    obtain ⟨mode', hleads, -, hrow⟩ := leads_field (Or.inr rfl) hr h
    refine ⟨mode', _, hleads, hrow rfl, rfl, ?_⟩
    dsimp only [OpenRow.finish, OpenRow.save]
    rw [List.reverse_reverse, List.reverse_cons]
  | @cons cs text fields rest h _ ih =>
    have hstart : mode = .startRow ∨ mode = .startField := by
      rcases hmode with hmode | hmode
      · exact Or.inr hmode
      · exact Or.inl hmode.1
    obtain ⟨mode', hfield, hopen, -⟩ := leads_field hstart hr h
    obtain ⟨mode'', r'', hrest, hrow, hline, hfinish⟩ :=
      ih (r := OpenRow.save { r with field := cs.reverse }) (Or.inl rfl) rfl
    refine ⟨mode'', r'', hfield.append ((leads_comma hopen).cons hrest), hrow, hline, ?_⟩
    rw [hfinish]
    dsimp only [OpenRow.save]
    rw [List.reverse_reverse, List.reverse_cons, List.append_assoc]
    rfl

/-- A line end gives the row that stands before it. -/
theorem readFrom_lineEnd {lineEnd : List Char} (hmode : mode.InRow)
    (hend : Records.IsLineEnd lineEnd) :
    readFrom mode r (lineEnd ++ rest)
      = (r.finish :: (readFrom .startRow (.next (r.line + 1)) rest).1,
        (readFrom .startRow (.next (r.line + 1)) rest).2) := by
  have hout : (mode != .inQuotes) = true := by
    rw [bne_iff_ne]
    rintro rfl
    exact hmode (by decide)
  have hfeed : readFrom mode r ('\n' :: rest)
      = (r.finish :: (readFrom .startRow (.next (r.line + 1)) rest).1,
        (readFrom .startRow (.next (r.line + 1)) rest).2) := by
    have hbreak : (isBreak '\n' && mode != .inQuotes) = true := by
      rw [hout]
      rfl
    have hends : Records.endsLine '\n' rest = true := rfl
    rw [readFrom.eq_def]
    dsimp only
    rw [if_pos hbreak, if_pos hends]
    cases mode with
    | startRow => exact absurd List.mem_cons_self hmode
    | margin => exact absurd (List.mem_cons_of_mem _ List.mem_cons_self) hmode
    | _ => rfl
  rcases hend with rfl | rfl
  · exact hfeed
  · -- The carriage return is passed over, for a line feed follows it.
    have hbreak : (isBreak '\r' && mode != .inQuotes) = true := by
      rw [hout]
      rfl
    have hgoes : ¬ Records.endsLine '\r' ('\n' :: rest) = true := by
      unfold Records.endsLine
      simp
    show readFrom mode r ('\r' :: '\n' :: rest) = _
    rw [readFrom.eq_def]
    dsimp only
    rw [if_pos hbreak, if_neg hgoes]
    exact hfeed

/-- The end of the text gives the row that stands before it. -/
theorem readFrom_nil (hmode : mode.InRow) : readFrom mode r [] = ([r.finish], none) := by
  cases mode with
  | startRow => exact absurd List.mem_cons_self hmode
  | margin => exact absurd (List.mem_cons_of_mem _ List.mem_cons_self) hmode
  | inQuotes => exact absurd (by decide) hmode
  | _ => rfl

/-! ## All rows -/

/-- Rows with the numbers of their lines. -/
def numbered (line : Nat) : List (List (List Char)) → List Row
  | [] => []
  | fields :: rows => { line := line + 1, fields } :: numbered (line + 1) rows

/-- **Rows are read one by one.** -/
theorem readFrom_rows {rows : List (List (List Char))} (h : RowsText rows text)
    (hwide : ∀ row ∈ rows, 2 ≤ row.length) (line : Nat) :
    readFrom .startRow (.next line) text = (numbered line rows, none) := by
  induction h generalizing line with
  | nil => rfl
  | @last row text h =>
    obtain ⟨mode, r, hleads, hmode, -, hfinish⟩ := leads_row (r := .next line) h
      (Or.inr ⟨rfl, hwide row List.mem_cons_self⟩) rfl
    have hread := hleads []
    rw [List.append_nil, readFrom_nil hmode, hfinish] at hread
    exact hread
  | @cons row text lineEnd rows rest h hend _ ih =>
    obtain ⟨hrow, hrows⟩ := List.forall_mem_cons.mp hwide
    obtain ⟨mode, r, hleads, hmode, hline, hfinish⟩ :=
      leads_row (r := .next line) h (Or.inr ⟨rfl, hrow⟩) rfl
    rw [hleads, readFrom_lineEnd hmode hend, hfinish, hline]
    show ({ line := line + 1, fields := row } :: (readFrom .startRow (.next (line + 1)) rest).1,
      (readFrom .startRow (.next (line + 1)) rest).2) = _
    rw [ih hrows (line + 1)]
    rfl

/-- Rows of one width stay as they are. -/
theorem level_numbered {rows : List (List (List Char))} {width : Nat}
    (hwidth : ∀ row ∈ rows, row.length = width) (line : Nat) :
    level width none (numbered line rows) = (rows, none) := by
  induction rows generalizing line with
  | nil => rfl
  | cons row rows ih =>
    obtain ⟨hrow, hrows⟩ := List.forall_mem_cons.mp hwidth
    have hfill : fill width row = row := by
      unfold fill
      rw [hrow, Nat.sub_self, List.replicate_zero, List.append_nil]
    unfold numbered level
    dsimp only
    rw [if_neg (by omega), ih hrows (line + 1), hfill]

/-- Names that are not left out. -/
theorem headerNames_eq {fields : List (List Char)} (h : ∀ f ∈ fields, f ≠ []) :
    headerNames fields = fields.map String.ofList := by
  have hnames : ∀ (fs : List (List Char)) (i : Nat), (∀ f ∈ fs, f ≠ []) →
      (fs.zipIdx i).map (fun f =>
        if f.1.isEmpty then "Unnamed: " ++ toString f.2 else String.ofList f.1)
        = fs.map String.ofList := by
    intro fs
    induction fs with
    | nil => intro _ _; rfl
    | cons f fs ih =>
      intro i hne
      obtain ⟨hf, hfs⟩ := List.forall_mem_cons.mp hne
      rw [List.zipIdx_cons, List.map_cons, ih (i + 1) hfs, List.map_cons]
      dsimp only
      rw [List.isEmpty_eq_false_iff.mpr hf, if_neg Bool.false_ne_true]
  exact hnames fields 0 h

/-- A table with two columns or more, whose names are neither left out nor taken for a mark of the
text. -/
structure Grid.IsNamed (g : Grid) : Prop where
  wide : 2 ≤ g.names.length
  names : ∀ n ∈ g.names, n ≠ "" ∧ n.toList.head? ≠ some '\ufeff'

/-- A text begins with a quote or with its first field. -/
theorem head?_rowText {fields : List (List Char)} (h : RowText (cs :: fields) text)
    (hcs : cs ≠ []) (rest : List Char) :
    (text ++ rest).head? = some '"' ∨ (text ++ rest).head? = cs.head? := by
  obtain ⟨c, cs, rfl⟩ := List.exists_cons_of_ne_nil hcs
  have hfield : ∀ {text}, FieldText (c :: cs) text → ∀ more : List Char,
      (text ++ more).head? = some '"' ∨ (text ++ more).head? = some c := by
    intro text h more
    cases h with
    | plain => exact Or.inr rfl
    | quoted => exact Or.inl rfl
  cases h with
  | last h => exact hfield h rest
  | cons h _ =>
    rw [List.append_assoc]
    exact hfield h _

/-- No text of a table begins with a mark. -/
theorem Grid.IsWrittenAs.head?_ne {g : Grid} (h : g.IsWrittenAs cs) (hg : g.IsNamed) :
    cs.head? ≠ some '\ufeff' := by
  have htext := h.text
  obtain ⟨n, ns, hnames⟩ :=
    List.exists_cons_of_length_pos (Nat.lt_of_lt_of_le Nat.two_pos hg.wide)
  obtain ⟨hne, hfirst⟩ := hg.names n (hnames ▸ List.mem_cons_self)
  have hn : n.toList ≠ [] := fun hempty => hne (String.toList_eq_nil_iff.mp hempty)
  have hhead : ∀ rest text, RowText (n.toList :: ns.map String.toList) text →
      (text ++ rest).head? ≠ some '\ufeff' := by
    intro rest text hrow
    rcases head?_rowText hrow hn rest with hquote | hname
    · rw [hquote]
      decide
    · rw [hname]
      exact hfirst
  unfold Grid.header at htext
  rw [hnames, List.map_cons] at htext
  generalize g.rows = rows at htext
  cases htext with
  | last hrow =>
    rw [← List.append_nil cs]
    exact hhead [] cs hrow
  | cons hrow _ _ => exact hhead _ _ hrow

theorem dropMark_eq (h : cs.head? ≠ some '\ufeff') : dropMark cs = cs := by
  cases cs with
  | nil => rfl
  | cons c cs =>
    unfold dropMark
    split
    next heq =>
      cases heq
      exact absurd rfl h
    next => rfl

/-- **A table is read from each of its texts.** -/
theorem read_eq {g : Grid} (hg : g.IsNamed) (h : g.IsWrittenAs cs) : read none cs = .ok g := by
  have hlength : g.header.length = g.names.length := List.length_map _
  have hne : ∀ f ∈ g.header, f ≠ [] := by
    intro f hf hempty
    obtain ⟨n, hn, rfl⟩ := List.mem_map.mp hf
    exact (hg.names n hn).1 (String.toList_eq_nil_iff.mp hempty)
  have hwide : ∀ row ∈ g.header :: g.rows, 2 ≤ row.length := by
    refine List.forall_mem_cons.mpr ⟨hlength ▸ hg.wide, fun row hrow => ?_⟩
    rw [h.width row hrow]
    exact hg.wide
  have hread : readFrom .startRow (.next 0) (dropMark cs)
      = ({ line := 1, fields := g.header } :: numbered 1 g.rows, none) := by
    rw [dropMark_eq (h.head?_ne hg)]
    exact readFrom_rows h.text hwide 0
  have hnames : headerNames g.header = g.names := by
    rw [headerNames_eq hne]
    unfold Grid.header
    rw [List.map_map]
    exact (List.map_congr_left fun n _ => String.ofList_toList).trans (List.map_id' _)
  have hfirst : ((numbered 1 g.rows).head?.map fun row => row.fields.length).getD 0
      ≤ g.names.length := by
    have hwidth := h.width
    cases hrows : g.rows with
    | nil => exact Nat.zero_le _
    | cons row rows =>
      rw [hrows] at hwidth
      exact Nat.le_of_eq (hwidth row List.mem_cons_self)
  have hgrid : g.rows.map (fun row => row.drop (g.names.length - g.names.length)) = g.rows := by
    rw [Nat.sub_self]
    exact List.map_id' g.rows
  unfold read
  rw [hread]
  dsimp only
  rw [hnames, Nat.max_eq_left hfirst, level_numbered h.width 1]
  dsimp only
  rw [Option.getD_none, List.take_of_length_le (Nat.le_succ _)]
  unfold read.grid
  rw [hgrid]

/-- What a whole table is read from, its head is read from as well. -/
theorem exists_read_head {cs : List Char} {g : Grid} (h : read none cs = .ok g) :
    ∃ g', read (some 0) cs = .ok g' := by
  unfold read at h ⊢
  generalize readFrom .startRow (.next 0) (dropMark cs) = found at h ⊢
  obtain ⟨all, failure⟩ := found
  cases all with
  | nil => cases h
  | cons header rest =>
    dsimp only at h ⊢
    generalize level (max (headerNames header.fields).length
      ((rest.head?.map fun row => row.fields.length).getD 0)) failure rest = leveled at h ⊢
    obtain ⟨rows, fault⟩ := leveled
    cases fault with
    | none => exact ⟨_, rfl⟩
    | some cause =>
      -- With all rows wanted, no failure is behind them.
      dsimp only at h
      rw [Option.getD_none, if_pos (by omega)] at h
      cases h

end PoissonFactor.Delimited
