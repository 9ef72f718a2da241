import PoissonFactor.Proofs.Outcome
import PoissonFactor.Proofs.Settings.Sections
import PoissonFactor.Proofs.Settings.Spelling
import PoissonFactor.Proofs.Text.Utf8
import PoissonFactor.Settings.Load

/-!
# Settings files in every layout

Sections and settings that are written to a file are read back from it
(`Settings.load_layout`): every section, every key and every value, in their order. It does not
matter how the lines are laid out. Blanks in front of a text do not count even where they break a
line (`Settings.readLines_blanks`), so a text is read as if it had nothing but the lines that say
something (`Settings.readLines_laidOut`); of those, each opens a section behind the ones before or
puts a setting behind the ones before (`Settings.readLines_sections`).
-/

namespace PoissonFactor.Settings

open Text (isBlank isLineBreak AllBlank)

/-! ## Lines of a text -/

/-- A text without the characters that end a line. -/
def Unbroken (cs : List Char) : Prop :=
  ∀ c ∈ cs, isLineBreak c = false

instance (cs : List Char) : Decidable (Unbroken cs) :=
  List.decidableBAll _ cs

/-- What follows a whole line: nothing, or a break. -/
def EndsLine (cs : List Char) : Prop :=
  ∀ c, cs.head? = some c → isLineBreak c = true

/-- The first line of a text. -/
def firstLine (cs : List Char) : List Char :=
  (Text.lines cs).headD []

/-- A character that breaks no line belongs to the first one. -/
theorem lines_cons {c : Char} (hc : isLineBreak c = false) (cs : List Char) :
    Text.lines (c :: cs) = (c :: firstLine cs) :: (Text.lines cs).tail := by
  have hreturn : c ≠ '\r' := by
    rintro rfl
    cases hc
  unfold firstLine
  rw [Text.lines, hc, if_neg Bool.false_ne_true]
  · cases Text.lines cs with
    | nil => rfl
    | cons l ls => rfl
  · exact fun _ h => absurd h hreturn

/-- So does a whole text without breaks. -/
theorem lines_append {cs : List Char} (hne : cs ≠ []) (hcs : Unbroken cs) (rest : List Char) :
    Text.lines (cs ++ rest) = (cs ++ firstLine rest) :: (Text.lines rest).tail := by
  induction cs with
  | nil => exact absurd rfl hne
  | cons c cs ih =>
    obtain ⟨hc, hcs⟩ := List.forall_mem_cons.mp hcs
    rw [List.cons_append, lines_cons hc]
    cases cs with
    | nil => rfl
    | cons d cs =>
      unfold firstLine
      rw [ih (List.cons_ne_nil d cs) hcs]
      rfl

/-- A carriage return and a line feed behind it are one break. -/
theorem lines_break {c : Char} (hc : isLineBreak c = true) (rest : List Char) :
    ∃ after, Text.lines (c :: rest) = [] :: Text.lines after
      ∧ (after = rest ∨ rest = '\n' :: after) := by
  by_cases hpair : c = '\r' ∧ ∃ after, rest = '\n' :: after
  · obtain ⟨rfl, after, rfl⟩ := hpair
    exact ⟨after, by rw [Text.lines], .inr rfl⟩
  · refine ⟨rest, ?_, .inl rfl⟩
    rw [Text.lines, if_pos hc]
    exact fun after hreturn hfeed => hpair ⟨hreturn, after, hfeed⟩

/-- Behind the end of a line its rest is empty. -/
theorem firstLine_of_endsLine {cs : List Char} (h : EndsLine cs) : firstLine cs = [] := by
  cases cs with
  | nil => rfl
  | cons c cs =>
    obtain ⟨after, hlines, -⟩ := lines_break (h c rfl) cs
    unfold firstLine
    rw [hlines]
    rfl

theorem firstLine_break {c : Char} (hc : isLineBreak c = true) (rest : List Char) :
    firstLine (c :: rest) = [] := by
  refine firstLine_of_endsLine ?_
  rintro d ⟨⟩
  exact hc

theorem firstLine_cons {c : Char} (hc : isLineBreak c = false) (rest : List Char) :
    firstLine (c :: rest) = c :: firstLine rest := by
  rw [firstLine, lines_cons hc]
  rfl

/-- Behind blanks a line ends, or a comment begins. -/
theorem saysNothing_firstLine {lead rest : List Char} (hlead : AllBlank lead)
    (hrest : EndsLine rest ∨ rest.head? = some '#') : SaysNothing (firstLine (lead ++ rest)) := by
  induction lead with
  | nil =>
    rcases hrest with hrest | hrest
    · rw [List.nil_append, firstLine_of_endsLine hrest]
      exact .blank allBlank_nil
    · obtain ⟨comment, rfl⟩ := List.head?_eq_some_iff.mp hrest
      rw [List.nil_append, firstLine_cons rfl]
      exact .comment allBlank_nil (firstLine comment)
  | cons b lead ih =>
    obtain ⟨hb, hlead⟩ := List.forall_mem_cons.mp hlead
    rw [List.cons_append]
    cases hbreak : isLineBreak b with
    | true =>
      rw [firstLine_break hbreak]
      exact .blank allBlank_nil
    | false =>
      rw [firstLine_cons hbreak]
      exact ((ih hlead).isTail_cons hb).nothing

/-- What follows on the same line is blank or a comment. -/
theorem isTail_firstLine {lead rest : List Char} (hlead : AllBlank lead)
    (hrest : EndsLine rest ∨ lead ≠ [] ∧ rest.head? = some '#') :
    IsTail (firstLine (lead ++ rest)) := by
  cases lead with
  | nil =>
    have hends := hrest.resolve_right fun h => h.1 rfl
    rw [List.nil_append, firstLine_of_endsLine hends]
    exact isTail_nil
  | cons b lead =>
    obtain ⟨hb, hlead⟩ := List.forall_mem_cons.mp hlead
    rw [List.cons_append]
    cases hbreak : isLineBreak b with
    | true =>
      rw [firstLine_break hbreak]
      exact isTail_nil
    | false =>
      rw [firstLine_cons hbreak]
      exact (saysNothing_firstLine hlead (hrest.imp_right And.right)).isTail_cons hb

/-! ## Lines that do not count -/

/-- A blank in front of a line does not count. -/
theorem readLine_blank_cons {b : Char} (hb : isBlank b = true) (cs : List Char) :
    readLine (b :: cs) = readLine cs := by
  have htrim : Text.trim (b :: cs) = Text.trim cs := by
    rw [Text.trim_eq_trimEnd, List.dropWhile_cons_of_pos hb]
    rfl
  unfold readLine
  rw [htrim]

section

variable [Text.CharacterNames] (current : Option String) (d : Document)

/-- A line that says nothing changes nothing. -/
theorem readLines_nothing {l : List Char} (h : readLine l = .nothing) (ls : List (List Char)) :
    readLines current d (l :: ls) = readLines current d ls := by
  rw [readLines, h]

/-- What is read depends on what each line says. -/
theorem readLines_congr {l l' : List Char} {ls ls' : List (List Char)}
    (h : readLine l = readLine l')
    (hs : ∀ current d, readLines current d ls = readLines current d ls') :
    readLines current d (l :: ls) = readLines current d (l' :: ls') := by
  rw [readLines, readLines, h]
  simp only [hs]

/-- So the first line can be left out if it says nothing. -/
theorem readLines_tail {cs : List Char} (h : readLine (firstLine cs) = .nothing) :
    readLines current d (Text.lines cs).tail = readLines current d (Text.lines cs) := by
  unfold firstLine at h
  cases hls : Text.lines cs with
  | nil => rfl
  | cons l ls =>
    rw [hls] at h
    exact (readLines_nothing current d h ls).symm

/-- A break in front of a text does not count. -/
theorem readLines_break {c : Char} (hc : isLineBreak c = true) (rest : List Char) :
    readLines current d (Text.lines (c :: rest)) = readLines current d (Text.lines rest) := by
  obtain ⟨after, hlines, hafter⟩ := lines_break hc rest
  rw [hlines, readLines_nothing current d rfl]
  rcases hafter with rfl | rfl
  · rfl
  · exact (readLines_nothing current d rfl (Text.lines after)).symm

/-- Nor does any other blank, whether it breaks the line or not. -/
theorem readLines_blank {b : Char} (hb : isBlank b = true) (rest : List Char) :
    readLines current d (Text.lines (b :: rest)) = readLines current d (Text.lines rest) := by
  cases hbreak : isLineBreak b with
  | true => exact readLines_break current d hbreak rest
  | false =>
    rw [lines_cons hbreak]
    unfold firstLine
    cases Text.lines rest with
    | nil => exact readLines_nothing current d (readLine_blank_cons hb []) []
    | cons l ls => exact readLines_congr current d (readLine_blank_cons hb l) fun _ _ => rfl

/-- Blanks in front of a text do not count. -/
theorem readLines_blanks {lead : List Char} (h : AllBlank lead) (rest : List Char) :
    readLines current d (Text.lines (lead ++ rest)) = readLines current d (Text.lines rest) := by
  induction lead with
  | nil => rfl
  | cons b lead ih =>
    obtain ⟨hb, hlead⟩ := List.forall_mem_cons.mp h
    rw [List.cons_append, readLines_blank current d hb, ih hlead]

/-- Neither does a comment up to the end of its line. -/
theorem readLines_comment {comment rest : List Char} (h : Unbroken comment)
    (hrest : EndsLine rest) : readLines current d (Text.lines ('#' :: (comment ++ rest)))
      = readLines current d (Text.lines rest) := by
  have hcomment : Unbroken ('#' :: comment) := List.forall_mem_cons.mpr ⟨rfl, h⟩
  have hfirst := firstLine_of_endsLine hrest
  have hnothing : readLine ('#' :: comment) = .nothing :=
    readLine_comment allBlank_nil comment
  rw [← List.cons_append, lines_append (List.cons_ne_nil _ _) hcomment, hfirst, List.append_nil,
    readLines_nothing current d hnothing]
  exact readLines_tail current d (hfirst ▸ rfl)

/-- A line says the same without what stands behind its text, which says nothing by itself. -/
theorem readLines_oneLine {core lead rest : List Char} (h : OneLine core) (hlead : AllBlank lead)
    (hrest : EndsLine rest ∨ lead ≠ [] ∧ rest.head? = some '#') :
    readLines current d (Text.lines (core ++ (lead ++ rest)))
      = readLines current d (core :: Text.lines (lead ++ rest)) := by
  have htail := isTail_firstLine hlead hrest
  rw [lines_append h.ne_nil h.unbroken]
  exact readLines_congr current d (h.readLine_append htail) fun current d =>
    readLines_tail current d htail.nothing.readLine_eq

end

/-! ## Layouts -/

/-- A line without content: blanks, or a comment behind blanks. -/
inductive IsIdle : List Char → Prop
  | blank {line : List Char} (h : AllBlank line) : IsIdle line
  | comment {lead comment : List Char} (hlead : AllBlank lead) (hcomment : Unbroken comment) :
      IsIdle (lead ++ '#' :: comment)

/-- How a line is laid out around what it says: blanks on both sides, and perhaps a comment, which
has at least one blank in front of it. -/
inductive Surrounds (core : List Char) : List Char → Prop
  | bare {lead trail : List Char} (hlead : AllBlank lead) (htrail : AllBlank trail) :
      Surrounds core (lead ++ (core ++ trail))
  | commented {lead gap comment : List Char} (hlead : AllBlank lead) (hgap : AllBlank gap)
      (hne : gap ≠ []) (hcomment : Unbroken comment) :
      Surrounds core (lead ++ (core ++ (gap ++ '#' :: comment)))

theorem Surrounds.self (core : List Char) : Surrounds core core := by
  have hline := @Surrounds.bare core [] [] allBlank_nil allBlank_nil
  rwa [List.nil_append, List.append_nil] at hline

/-- The lines of a file that say certain lines in their order, with idle lines anywhere. -/
inductive LaidOut : List (List Char) → List (List Char) → Prop
  | nil : LaidOut [] []
  | idle {cores lines : List (List Char)} {line : List Char} (h : IsIdle line)
      (hrest : LaidOut cores lines) : LaidOut cores (line :: lines)
  | content {cores lines : List (List Char)} {core line : List Char} (h : Surrounds core line)
      (hrest : LaidOut cores lines) : LaidOut (core :: cores) (line :: lines)

/-- The two breaks between the lines of a file. -/
def IsBreak (eol : List Char) : Prop :=
  eol = ['\n'] ∨ eol = ['\r', '\n']

/-- A text of lines with breaks between them. -/
inductive Joined : List (List Char) → List Char → Prop
  | nil : Joined [] []
  | last (line : List Char) : Joined [line] line
  | cons (line : List Char) {lines : List (List Char)} {eol text : List Char} (heol : IsBreak eol)
      (hrest : Joined lines text) : Joined (line :: lines) (line ++ (eol ++ text))

/-- Lines with one kind of break between them are joined. -/
theorem joined_intercalate {eol : List Char} (heol : IsBreak eol) (lines : List (List Char)) :
    Joined lines (eol.intercalate lines) := by
  induction lines with
  | nil => exact .nil
  | cons line lines ih =>
    cases lines with
    | nil =>
      rw [List.intercalate_singleton]
      exact .last line
    | cons next lines =>
      rw [List.intercalate_cons_cons, List.append_assoc]
      exact .cons line heol ih

theorem IsBreak.allBlank {eol : List Char} (h : IsBreak eol) : AllBlank eol := by
  rcases h with rfl | rfl
  all_goals decide

/-- Behind a break a line has ended. -/
theorem IsBreak.endsLine {eol : List Char} (h : IsBreak eol) (text : List Char) :
    EndsLine (eol ++ text) := by
  rcases h with rfl | rfl
  all_goals
    rintro c ⟨⟩
    rfl

/-- Behind its first line a text says what its further lines say. -/
theorem Joined.exists_rest [Text.CharacterNames] {line text : List Char}
    {lines : List (List Char)} (h : Joined (line :: lines) text) :
    ∃ rest further, text = line ++ rest ∧ EndsLine rest ∧ Joined lines further
      ∧ ∀ current d, readLines current d (Text.lines rest)
          = readLines current d (Text.lines further) := by
  cases h with
  | last =>
    refine ⟨[], [], (List.append_nil line).symm, fun c hc => ?_, .nil, fun _ _ => rfl⟩
    cases hc
  | @cons _ _ eol further heol hrest =>
    exact ⟨eol ++ further, further, rfl, heol.endsLine further, hrest, fun current d =>
      readLines_blanks current d heol.allBlank further⟩

/-- **A text is read as if it had only the lines that say something**, each without the blanks and
the comment around it. -/
theorem readLines_laidOut [Text.CharacterNames] {cores lines : List (List Char)}
    (h : LaidOut cores lines) (hcores : ∀ core ∈ cores, OneLine core) {text : List Char}
    (ht : Joined lines text) (current : Option String) (d : Document) :
    readLines current d (Text.lines text) = readLines current d cores := by
  induction h generalizing text current d with
  | nil =>
    cases ht
    rfl
  | @idle cores lines line hidle _ ih =>
    obtain ⟨rest, further, rfl, hends, hjoined, hsame⟩ := ht.exists_rest
    rw [← ih hcores hjoined, ← hsame]
    cases hidle with
    | blank hblank => exact readLines_blanks current d hblank rest
    | comment hlead hcomment =>
      rw [List.append_assoc, readLines_blanks current d hlead]
      exact readLines_comment current d hcomment hends
  | @content cores lines core line hline _ ih =>
    obtain ⟨rest, further, rfl, hends, hjoined, hsame⟩ := ht.exists_rest
    obtain ⟨hcore, hcores⟩ := List.forall_mem_cons.mp hcores
    -- What stands between the text of the line and the next line says nothing.
    have hskip : ∀ trail, (∀ current d, readLines current d (Text.lines (trail ++ rest))
        = readLines current d (Text.lines rest)) →
        readLines current d (core :: Text.lines (trail ++ rest))
          = readLines current d (core :: cores) := by
      intro trail htrail
      refine readLines_congr current d rfl fun current d => ?_
      rw [htrail, hsame, ih hcores hjoined]
    cases hline with
    | @bare lead trail hlead htrail =>
      rw [List.append_assoc, List.append_assoc, readLines_blanks current d hlead,
        readLines_oneLine current d hcore htrail (.inl hends)]
      exact hskip trail fun current d => readLines_blanks current d htrail rest
    | @commented lead gap comment hlead hgap hne hcomment =>
      rw [List.append_assoc, List.append_assoc, readLines_blanks current d hlead,
        List.append_assoc, readLines_oneLine current d hcore hgap (.inr ⟨hne, rfl⟩)]
      rw [← List.append_assoc]
      refine hskip (gap ++ '#' :: comment) fun current d => ?_
      rw [List.append_assoc, readLines_blanks current d hgap]
      exact readLines_comment current d hcomment hends

/-! ## Written settings -/

/-- A section whose keys are names, all different. -/
structure IsPlainSection (s : Section) : Prop where
  names : ∀ e ∈ s, IsName e.1
  nodup : (s.map Prod.fst).Nodup

/-- A document whose sections have names, all different, and hold settings with such keys. -/
structure IsPlainDocument (d : Document) : Prop where
  names : ∀ s ∈ d, IsName s.1
  nodup : (d.map Prod.fst).Nodup
  sections : ∀ s ∈ d, IsPlainSection s.2

/-- A line that says what a setting is. -/
def IsEntryLine (e : String × Value) (core : List Char) : Prop :=
  ∃ text, Spells e.2 text ∧ core = setting e.1 text

/-- The lines that say what a section is: its header, and a line for each of its settings. -/
def IsSectionLines (s : String × Section) (cores : List (List Char)) : Prop :=
  ∃ entries, List.Forall₂ IsEntryLine s.2 entries ∧ cores = header s.1 :: entries

/-- Is the document written in the text, in some layout? -/
def IsWrittenIn (d : Document) (text : List Char) : Prop :=
  ∃ parts lines, List.Forall₂ IsSectionLines d parts ∧ LaidOut parts.flatten lines
    ∧ Joined lines text

/-- The section that was opened last is found under its name. -/
theorem section_concat {name : String} {d : Document} (h : name ∉ d.map Prod.fst) (s : Section) :
    Document.section (d ++ [(name, s)]) name = s := by
  unfold Document.section
  rw [← put_of_not_mem h, lookup_put, if_pos rfl]
  rfl

/-- A line with a setting puts it behind the settings of the open section, which is the last. -/
theorem readLines_entry [Text.CharacterNames] {name : String} {d : Document}
    (hname : name ∉ d.map Prod.fst) {e : String × Value} {core : List Char}
    (hcore : IsEntryLine e core) (he : IsName e.1) {s : Section}
    (hkey : e.1 ∉ s.map Prod.fst) (rest : List (List Char)) :
    readLines (some name) (d ++ [(name, s)]) (core :: rest)
      = readLines (some name) (d ++ [(name, s ++ [e])]) rest := by
  obtain ⟨text, hspells, rfl⟩ := hcore
  rw [readLines, he.readLine_setting hspells.isSpelling]
  show (readValue text >>= fun v => readLines (some name)
    (put name (put e.1 v (Document.section (d ++ [(name, s)]) name)) (d ++ [(name, s)])) rest) = _
  rw [readValue_of_spells hspells, section_concat hname]
  show readLines (some name) (put name (put e.1 e.2 s) (d ++ [(name, s)])) rest = _
  rw [put_of_not_mem hkey, put_concat hname]

/-- **Settings go behind those of their section**, one line after the other. -/
theorem readLines_entries [Text.CharacterNames] {name : String} {d : Document}
    (hname : name ∉ d.map Prod.fst)
    {entries : Section} {cores : List (List Char)} (h : List.Forall₂ IsEntryLine entries cores)
    (hnames : ∀ e ∈ entries, IsName e.1) (s : Section)
    (hkeys : ((s ++ entries).map Prod.fst).Nodup) (rest : List (List Char)) :
    readLines (some name) (d ++ [(name, s)]) (cores ++ rest)
      = readLines (some name) (d ++ [(name, s ++ entries)]) rest := by
  induction h generalizing s with
  | nil => rw [List.append_nil, List.nil_append]
  | @cons e core entries cores hcore _ ih =>
    obtain ⟨he, hnames⟩ := List.forall_mem_cons.mp hnames
    have hkey : e.1 ∉ s.map Prod.fst := by
      rw [List.map_append, List.map_cons] at hkeys
      exact fun hmem => (List.nodup_append.mp hkeys).2.2 _ hmem _ List.mem_cons_self rfl
    have hsplit : s ++ e :: entries = s ++ [e] ++ entries := by
      rw [List.append_assoc, List.singleton_append]
    rw [hsplit] at hkeys ⊢
    rw [List.cons_append, readLines_entry hname hcore he hkey]
    exact ih hnames (s ++ [e]) hkeys

/-- **Lines that say what the sections are put them behind those that are there.** -/
theorem readLines_sections [Text.CharacterNames] {d : Document} {parts : List (List (List Char))}
    (h : List.Forall₂ IsSectionLines d parts) (hnames : ∀ s ∈ d, IsName s.1)
    (hsections : ∀ s ∈ d, IsPlainSection s.2) (before : Document)
    (hnodup : ((before ++ d).map Prod.fst).Nodup) (current : Option String) :
    readLines current before parts.flatten = .ok (before ++ d) := by
  induction h generalizing before current with
  | nil =>
    rw [List.append_nil]
    rfl
  | @cons s part d parts hpart _ ih =>
    obtain ⟨entries, hentries, rfl⟩ := hpart
    obtain ⟨hname, hnames⟩ := List.forall_mem_cons.mp hnames
    obtain ⟨hsection, hsections⟩ := List.forall_mem_cons.mp hsections
    have hnew : s.1 ∉ before.map Prod.fst := by
      rw [List.map_append, List.map_cons] at hnodup
      exact fun hmem => (List.nodup_append.mp hnodup).2.2 _ hmem _ List.mem_cons_self rfl
    have hsplit : before ++ s :: d = before ++ [s] ++ d := by
      rw [List.append_assoc, List.singleton_append]
    rw [hsplit] at hnodup ⊢
    rw [List.flatten_cons, List.cons_append, readLines, hname.readLine_header]
    dsimp only
    rw [put_of_not_mem hnew, readLines_entries hnew hentries hsection.names [] hsection.nodup]
    exact ih hnames hsections (before ++ [s]) hnodup (some s.1)

/-- Every header and every setting stands on one line. -/
theorem oneLine_of_mem_parts [Text.CharacterNames] {d : Document}
    {parts : List (List (List Char))} (h : List.Forall₂ IsSectionLines d parts)
    (hd : IsPlainDocument d) :
    ∀ core ∈ parts.flatten, OneLine core := by
  intro core hcore
  obtain ⟨part, hpart, hcore⟩ := List.mem_flatten.mp hcore
  obtain ⟨s, hs, entries, hentries, rfl⟩ := exists_of_forall₂ h hpart
  rcases List.mem_cons.mp hcore with rfl | hcore
  · exact (hd.names s hs).oneLine_header
  · obtain ⟨e, he, text, hspells, rfl⟩ := exists_of_forall₂ hentries hcore
    exact ((hd.sections s hs).names e he).oneLine_setting hspells.isSpelling

/-- **A document is read from each of its layouts.** -/
theorem read_layout [Text.CharacterNames] {d : Document} (hd : IsPlainDocument d)
    {text : List Char} (ht : IsWrittenIn d text) : read text = .ok d := by
  obtain ⟨parts, lines, hparts, hlaid, hjoined⟩ := ht
  unfold read
  rw [readLines_laidOut hlaid (oneLine_of_mem_parts hparts hd) hjoined]
  exact readLines_sections hparts hd.names hd.sections [] hd.nodup none

/-- **What is written to a settings file is read back from it**, in whatever layout it is written:
every section, every key and every value, in their order. -/
theorem load_layout [Text.CharacterNames] {files : FileTree} {path : String} {text : List Char}
    (hfile : files.read (Path.ofString path) = .ok (text.flatMap String.utf8EncodeChar))
    {d : Document} (hd : IsPlainDocument d) (ht : IsWrittenIn d text) :
    load files path = .ok d := by
  unfold load
  rw [bind_eq_ok_iff]
  refine ⟨_, hfile, ?_⟩
  rw [Text.map_toNat_utf8, Text.decode_encode]
  exact read_layout hd ht

/-- Blanks and comments around sections with values of every kind, a text that holds a colon, a
`#`, a quote and a break, and a text of two surrogates. -/
theorem load_layout_comments :
    let note := Value.str "a:#b it's\n"
    let pair := Value.illformed ⟨[0xd83d, 0xde00], rfl⟩
    let lines := ["# settings".toList, [], "\thpf: # the model's".toList, "  a: 0.5  ".toList,
      " k-1: -12\t# one: more".toList, "note: ".toList ++ note.showChars, "   # between".toList,
      "off: false".toList, "rest_2: ~ #".toList, "empty:".toList, " \t".toList, "last:".toList,
      "pair: '\\ud83d\\ude00'".toList]
    let text := List.intercalate ['\r', '\n'] lines
    let files : FileTree :=
      { files := [(["s.yaml".toList], text.flatMap String.utf8EncodeChar)], folders := [] }
    let d : Document := [("hpf", [("a", .float 0.5), ("k-1", .int (-12)), ("note", note),
      ("off", .bool false), ("rest_2", .null)]), ("empty", []), ("last", [("pair", pair)])]
    files.read (Path.ofString "s.yaml") = .ok (text.flatMap String.utf8EncodeChar)
      ∧ IsPlainDocument d ∧ IsWrittenIn d text ∧ @load .tabulated files "s.yaml" = .ok d := by
  intro note pair lines text files d
  have hfile : files.read (Path.ofString "s.yaml") = .ok (text.flatMap String.utf8EncodeChar) := rfl
  have hd : IsPlainDocument d := by
    refine ⟨by decide, by decide, ?_⟩
    exact List.forall_mem_cons.mpr ⟨⟨by decide, by decide⟩, List.forall_mem_cons.mpr
      ⟨⟨by decide, by decide⟩, List.forall_mem_singleton.mpr ⟨by decide, by decide⟩⟩⟩
  have hfloat : Spells (.float 0.5) "0.5".toList := by
    have hshown : "0.5".toList = (Value.float 0.5).showChars := by decide +kernel
    exact hshown ▸ .float rfl
  have hint : Spells (.int (-12)) "-12".toList := .int (i := -12) (by decide)
  have hnote : Spells note note.showChars := .text rfl (by unfold IsUncommented; decide)
  have hpair : Spells pair "'\\ud83d\\ude00'".toList := by
    have hshown : "'\\ud83d\\ude00'".toList = pair.showChars := by decide
    exact hshown ▸ .text rfl (by unfold IsUncommented; decide)
  have hsections : List.Forall₂ IsSectionLines d
      [[header "hpf", setting "a" "0.5".toList, setting "k-1" "-12".toList,
        setting "note" note.showChars, setting "off" "false".toList,
        setting "rest_2" "~".toList], [header "empty"],
        [header "last", setting "pair" "'\\ud83d\\ude00'".toList]] := by
    refine .cons ⟨_, ?_, rfl⟩ (.cons ⟨[], .nil, rfl⟩ (.cons ⟨_, ?_, rfl⟩ .nil))
    · exact .cons ⟨_, hfloat, rfl⟩ (.cons ⟨_, hint, rfl⟩ (.cons ⟨_, hnote, rfl⟩
        (.cons ⟨_, .false, rfl⟩ (.cons ⟨_, .tilde, rfl⟩ .nil))))
    · exact .cons ⟨_, hpair, rfl⟩ .nil
  have hcomment : IsIdle "# settings".toList :=
    @IsIdle.comment [] " settings".toList (by decide) (by decide)
  have hcomment' : IsIdle "   # between".toList :=
    @IsIdle.comment "   ".toList " between".toList (by decide) (by decide)
  have hhpf : Surrounds (header "hpf") "\thpf: # the model's".toList :=
    @Surrounds.commented _ ['\t'] [' '] " the model's".toList (by decide) (by decide) (by decide)
      (by decide)
  have ha : Surrounds (setting "a" "0.5".toList) "  a: 0.5  ".toList :=
    @Surrounds.bare _ "  ".toList "  ".toList (by decide) (by decide)
  have hk : Surrounds (setting "k-1" "-12".toList) " k-1: -12\t# one: more".toList :=
    @Surrounds.commented _ [' '] ['\t'] " one: more".toList (by decide) (by decide) (by decide)
      (by decide)
  have hrest : Surrounds (setting "rest_2" "~".toList) "rest_2: ~ #".toList :=
    @Surrounds.commented _ [] [' '] [] (by decide) (by decide) (by decide) (by decide)
  have hlast : LaidOut [header "last", setting "pair" "'\\ud83d\\ude00'".toList]
      ["last:".toList, "pair: '\\ud83d\\ude00'".toList] :=
    .content (.self _) (.content (.self _) .nil)
  have hlaid : LaidOut [header "hpf", setting "a" "0.5".toList, setting "k-1" "-12".toList,
      setting "note" note.showChars, setting "off" "false".toList, setting "rest_2" "~".toList,
      header "empty", header "last", setting "pair" "'\\ud83d\\ude00'".toList] lines :=
    .idle hcomment (.idle (.blank allBlank_nil) (.content hhpf (.content ha (.content hk
      (.content (.self _) (.idle hcomment' (.content (.self _) (.content hrest (.content (.self _)
        (.idle (.blank (by decide)) hlast))))))))))
  exact ⟨hfile, hd, ⟨_, _, hsections, hlaid, joined_intercalate (.inr rfl) _⟩,
    @load_layout .tabulated _ _ _ hfile _ hd
      ⟨_, _, hsections, hlaid, joined_intercalate (.inr rfl) _⟩⟩

end PoissonFactor.Settings
