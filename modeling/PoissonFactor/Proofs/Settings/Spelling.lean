import PoissonFactor.Proofs.Literal.ReadBack
import PoissonFactor.Proofs.Text.Blank
import PoissonFactor.Settings.Sections

/-!
# What one line of a settings file says

A section is opened by its name with a colon, and a setting is its key, a colon and a spelling of
its value. Both stand on one line in which no comment begins (`Settings.OneLine`), so whatever
blanks and comment follow them, the line says the same (`Settings.readLine_append`): which section
(`Settings.readLine_header`), or which key and which spelling (`Settings.readLine_setting`). The
spelling says which value (`Settings.readValue_of_spells`).
-/

namespace PoissonFactor.Settings

open Text (Point isBlank isLineBreak AllBlank Trimmed quoted)
open Literal (AllPlain IsPlain IsQuote Stands reserved)

/-! ## Texts in which no comment begins -/

/-- No blank of the text has `#` behind it. -/
def Uncommented (cs : List Char) : Prop :=
  cs.IsChain fun a b => isBlank a = true → b ≠ '#'

/-- No number sign follows a blank, at the first character and at those behind it. -/
theorem uncommented_cons {c : Char} {cs : List Char} :
    Uncommented (c :: cs) ↔ (isBlank c = true → cs.head? ≠ some '#') ∧ Uncommented cs := by
  unfold Uncommented
  rw [List.isChain_cons]
  refine and_congr_left fun _ => ⟨fun h hblank hhead => h _ hhead hblank rfl, ?_⟩
  rintro h b hb hblank rfl
  exact h hblank hb

/-- Characters that are not blank can be put in front. -/
theorem Uncommented.nonblank_append {cs ds : List Char} (hcs : ∀ c ∈ cs, isBlank c = false)
    (hds : Uncommented ds) : Uncommented (cs ++ ds) := by
  induction cs with
  | nil => exact hds
  | cons c cs ih =>
    obtain ⟨hc, hcs⟩ := List.forall_mem_cons.mp hcs
    rw [List.cons_append, uncommented_cons, hc]
    exact ⟨fun h => absurd h Bool.false_ne_true, ih hcs⟩

/-- Without a blank nothing starts a comment. -/
theorem uncommented_of_nonblank {cs : List Char} (h : ∀ c ∈ cs, isBlank c = false) :
    Uncommented cs := by
  have hall : Uncommented (cs ++ []) := .nonblank_append h .nil
  rwa [List.append_nil] at hall

/-- Blanks behind a text start no comment. -/
theorem Uncommented.append_blank {cs ds : List Char} (hcs : Uncommented cs) (hds : AllBlank ds) :
    Uncommented (cs ++ ds) := by
  have hne : ∀ c ∈ ds, c ≠ '#' := by
    rintro c hc rfl
    cases hds _ hc
  refine List.isChain_append.mpr ⟨hcs, ?_, fun _ _ b hb _ => hne b (List.mem_of_mem_head? hb)⟩
  refine List.isChain_iff_forall_rel_of_append_cons_cons.mpr fun a b before after heq _ => ?_
  exact hne b (heq ▸ by simp)

/-! ## Quoted texts -/

/-- Is the code point a blank? A surrogate is none. -/
def isBlankPoint (p : Point) : Bool :=
  p.char?.any isBlank

/-- No blank of a text of code points has `#` behind it. -/
def IsUncommented (ps : List Point) : Prop :=
  ps.IsChain fun a b => isBlankPoint a = true → b ≠ .ofChar '#'

/-- The same for code points, which need not be characters. -/
theorem isUncommented_cons {p : Point} {ps : List Point} : IsUncommented (p :: ps) ↔
    (isBlankPoint p = true → ps.head? ≠ some (.ofChar '#')) ∧ IsUncommented ps := by
  unfold IsUncommented
  rw [List.isChain_cons]
  refine and_congr_left fun _ => ⟨fun h hblank hhead => h _ hhead hblank rfl, ?_⟩
  intro h b hb hblank heq
  subst heq
  exact h hblank hb

theorem isBlankPoint_ofChar (c : Char) : isBlankPoint (.ofChar c) = isBlank c := by
  unfold isBlankPoint
  rw [Point.char?_ofChar]
  rfl

/-- Quotes are not among the characters that mean something to a line. -/
theorem quote_ne_mark {quote : Char} (h : IsQuote quote) :
    isBlank quote = false ∧ quote ≠ '#' ∧ quote ≠ ':' := by
  rcases h with rfl | rfl
  all_goals decide

section

variable [Text.CharacterNames]

/-- A piece of a quoted text may be put before a text in which no comment begins. -/
theorem uncommented_piece {quote : Char} {p : Point} {piece ds : List Char}
    (h : Stands quote p piece) (hnext : isBlankPoint p = true → ds.head? ≠ some '#')
    (hds : Uncommented ds) : Uncommented (piece ++ ds) := by
  cases h with
  | itself hpoint _ _ _ =>
    subst hpoint
    rw [isBlankPoint_ofChar] at hnext
    exact uncommented_cons.mpr ⟨hnext, hds⟩
  | escaped hblank _ htail _ =>
    refine .nonblank_append (List.forall_mem_cons.mpr ⟨rfl, ?_⟩) hds
    exact List.forall_mem_cons.mpr ⟨hblank, fun d hd => (htail d hd).1⟩

/-- What stands for anything else than `#` does not begin with it. -/
theorem head?_piece_ne {quote : Char} {p : Point} {piece : List Char} (h : Stands quote p piece)
    (hp : p ≠ .ofChar '#') (ds : List Char) : (piece ++ ds).head? ≠ some '#' := by
  cases h with
  | itself hpoint _ _ _ =>
    intro heq
    rw [hpoint, Option.some.inj heq] at hp
    exact hp rfl
  | escaped _ _ _ _ => exact fun heq => absurd (Option.some.inj heq) (by decide)

/-- Between quotes a comment would begin where one begins in the text itself. -/
theorem uncommented_quoted {ps : List Point} (h : IsUncommented ps) : Uncommented (quoted ps) := by
  have hquote := Literal.isQuote_quoteFor ps
  unfold quoted
  generalize Text.quoteFor ps = quote at hquote ⊢
  obtain ⟨hblank, hmark, -⟩ := quote_ne_mark hquote
  refine uncommented_cons.mpr ⟨fun hq => absurd (hblank.symm.trans hq) Bool.false_ne_true, ?_⟩
  induction ps with
  | nil => exact uncommented_of_nonblank (List.forall_mem_singleton.mpr hblank)
  | cons p ps ih =>
    obtain ⟨hp, hps⟩ := isUncommented_cons.mp h
    rw [List.flatMap_cons, List.append_assoc]
    refine uncommented_piece (Literal.stands_quotePoint hquote p) (fun hb => ?_) (ih hps)
    cases ps with
    | nil => exact fun heq => hmark (Option.some.inj heq)
    | cons q ps =>
      rw [List.flatMap_cons, List.append_assoc]
      exact head?_piece_ne (Literal.stands_quotePoint hquote q)
        (fun hq => hp hb (congrArg some hq)) _

end

/-! ## Texts that stand on one line -/

/-- Every character that breaks a line is blank. -/
theorem isBlank_of_isLineBreak {c : Char} (h : isLineBreak c = true) : isBlank c = true := by
  simp [isLineBreak] at h
  simp [isBlank]
  omega

/-- A text on one line: it begins and ends with something else than a blank, and neither is it a
comment nor does one begin in it. -/
structure OneLine (cs : List Char) : Prop where
  trimmed : Trimmed cs
  ne_nil : cs ≠ []
  first_ne : cs.head? ≠ some '#'
  unbroken : ∀ c ∈ cs, isLineBreak c = false
  uncommented : Uncommented cs

/-- A text without blanks stands on a line as it is. -/
theorem OneLine.of_nonblank {cs : List Char} (hne : cs ≠ []) (hfirst : cs.head? ≠ some '#')
    (h : ∀ c ∈ cs, isBlank c = false) : OneLine cs where
  trimmed := ⟨fun c hc => h c (List.mem_of_mem_head? hc), fun c hc => h c (List.mem_of_getLast? hc)⟩
  ne_nil := hne
  first_ne := hfirst
  unbroken c hc := Bool.eq_false_iff.mpr fun hbreak =>
    Bool.false_ne_true ((h c hc).symm.trans (isBlank_of_isLineBreak hbreak))
  uncommented := uncommented_of_nonblank h

/-- So does a quoted text, whatever it holds: breaks of lines are escaped in it. -/
theorem oneLine_quoted [Text.CharacterNames] {ps : List Point} (h : IsUncommented ps) :
    OneLine (quoted ps) where
  trimmed := by
    have hquote := (quote_ne_mark (Literal.isQuote_quoteFor ps)).1
    refine ⟨fun c hc => Option.some.inj hc ▸ hquote, fun c hc => ?_⟩
    unfold quoted at hc
    rw [← List.cons_append, List.getLast?_concat] at hc
    exact Option.some.inj hc ▸ hquote
  ne_nil := List.cons_ne_nil _ _
  first_ne heq := (quote_ne_mark (Literal.isQuote_quoteFor ps)).2.1 (Option.some.inj heq)
  unbroken c hc := by
    refine Bool.eq_false_iff.mpr fun hbreak => ?_
    have hspace := Literal.eq_space_of_mem_quoted c hc (isBlank_of_isLineBreak hbreak)
    rw [hspace] at hbreak
    cases hbreak
  uncommented := uncommented_quoted h

/-- The last character of a spelling is no colon, so a setting is not taken for a section. -/
structure IsSpelling (cs : List Char) : Prop extends OneLine cs where
  last_ne : cs.getLast? ≠ some ':'

/-- A text of plain characters spells a value. -/
theorem isSpelling_of_allPlain {cs : List Char} (h : AllPlain cs) (hne : cs ≠ []) :
    IsSpelling cs where
  toOneLine := .of_nonblank hne
    (fun heq => (h _ (List.mem_of_mem_head? heq)).ne (by decide) rfl) fun c hc => (h c hc).1
  last_ne heq := (h _ (List.mem_of_getLast? heq)).ne (by decide) rfl

/-- So does a quoted text. -/
theorem isSpelling_quoted [Text.CharacterNames] {ps : List Point} (h : IsUncommented ps) :
    IsSpelling (quoted ps) where
  toOneLine := oneLine_quoted h
  last_ne heq := by
    unfold quoted at heq
    rw [← List.cons_append, List.getLast?_concat] at heq
    exact (quote_ne_mark (Literal.isQuote_quoteFor ps)).2.2 (Option.some.inj heq)

/-! ## Spellings of values -/

/-- How the values of settings are spelled: four words, and all else as it is shown. -/
inductive Spells : Value → List Char → Prop
  | null : Spells .null "null".toList
  | tilde : Spells .null "~".toList
  | true : Spells (.bool true) "true".toList
  | false : Spells (.bool false) "false".toList
  | int {i : Int} (h : (Nat.toDigits 10 i.natAbs).length ≤ Numeral.digitLimit) :
      Spells (.int i) (Value.int i).showChars
  | float {x : Float} (h : Decimal.isFinite x = true) : Spells (.float x) (Value.float x).showChars
  | text {v : Value} {ps : List Point} (hv : v.points? = some ps) (h : IsUncommented ps) :
      Spells v v.showChars

/-- The spellings of numbers and texts have a digit or a quote, and the four words have none. -/
theorem readValue_literal [Text.CharacterNames] {cs : List Char} {v : Value}
    (h : Literal.read cs = .ok (some v)) {c : Char} (hc : c ∈ cs)
    (hmark : c.isDigit = true ∨ IsQuote c) : readValue cs = .ok v := by
  have hwords : ∀ w ∈ ["true", "false", "null", "~"],
      w.toList.all (fun c => !(c.isDigit || c = '\'' || c = '"')) = true := by
    decide
  have hother : ∀ w ∈ ["true", "false", "null", "~"], String.ofList cs ≠ w := by
    rintro w hw rfl
    have hall := List.all_eq_true.mp (hwords _ hw) c (String.toList_ofList ▸ hc)
    rcases hmark with hdigit | rfl | rfl
    · rw [hdigit] at hall
      cases hall
    · cases hall
    · cases hall
  simp [readValue, hother, h]

/-- A sign in front takes no digit away. -/
theorem exists_digit_signed {cs : List Char} (h : ∃ c rest, cs = c :: rest ∧ c.isDigit = true)
    (negative : Bool) : ∃ c ∈ Decimal.signed negative cs, c.isDigit = true := by
  obtain ⟨c, rest, rfl, hc⟩ := h
  refine ⟨c, ?_, hc⟩
  cases negative with
  | false => exact List.mem_cons_self
  | true => exact List.mem_cons_of_mem _ List.mem_cons_self

/-- A double is written with a digit, so that it is no word. -/
theorem exists_digit_float {x : Float} (h : Decimal.isFinite x = true) :
    ∃ c ∈ (Decimal.plain x).toList, c.isDigit = true := by
  obtain ⟨negative, m, q, hparts⟩ := Literal.exists_parts h
  rw [Literal.toList_plain hparts]
  exact exists_digit_signed (Literal.isDecimal_plain _).1 negative

theorem exists_digit_int (i : Int) : ∃ c ∈ (toString i).toList, c.isDigit = true := by
  rw [Literal.toList_toString_int]
  exact exists_digit_signed (Literal.exists_digit_toDigits _) _

/-- **A spelling says which value.** -/
theorem readValue_of_spells [Text.CharacterNames] {v : Value} {cs : List Char} (h : Spells v cs) :
    readValue cs = .ok v := by
  cases h with
  | null => rfl
  | tilde => rfl
  | true => rfl
  | false => rfl
  | @int i h =>
    obtain ⟨c, hc, hdigit⟩ := exists_digit_int i
    exact readValue_literal (Literal.read_int h) hc (.inl hdigit)
  | @float x h =>
    obtain ⟨c, hc, hdigit⟩ := exists_digit_float h
    exact readValue_literal (Literal.read_float h) hc (.inl hdigit)
  | @text v ps hv h =>
    have hfirst : Text.quoteFor ps ∈ v.showChars := by
      rw [Literal.showChars_of_points? hv]
      exact List.mem_cons_self
    exact readValue_literal (Literal.read_showChars hv) hfirst (.inr (Literal.isQuote_quoteFor ps))

/-- **Whatever spells a value can stand on a line.** -/
theorem Spells.isSpelling [Text.CharacterNames] {v : Value} {cs : List Char}
    (h : Spells v cs) : IsSpelling cs := by
  cases h with
  | null => exact isSpelling_of_allPlain (by decide) (by decide)
  | tilde => exact isSpelling_of_allPlain (by decide) (by decide)
  | true => exact isSpelling_of_allPlain (by decide) (by decide)
  | false => exact isSpelling_of_allPlain (by decide) (by decide)
  | @int i h =>
    obtain ⟨c, hc, -⟩ := exists_digit_int i
    exact isSpelling_of_allPlain (Literal.allPlain_int i) (List.ne_nil_of_mem hc)
  | @float x h =>
    obtain ⟨c, hc, -⟩ := exists_digit_float h
    exact isSpelling_of_allPlain (Literal.allPlain_float h) (List.ne_nil_of_mem hc)
  | text hv h =>
    rw [Literal.showChars_of_points? hv]
    exact isSpelling_quoted h

/-! ## Lines -/

/-- A line that says nothing: blanks, or a comment. -/
inductive SaysNothing : List Char → Prop
  | blank {cs : List Char} (h : AllBlank cs) : SaysNothing cs
  | comment {lead : List Char} (h : AllBlank lead) (rest : List Char) :
      SaysNothing (lead ++ '#' :: rest)

/-- What may stand behind the text of a line: a comment has at least one blank in front of it. -/
structure IsTail (cs : List Char) : Prop where
  nothing : SaysNothing cs
  first : ∀ c, cs.head? = some c → isBlank c = true

theorem allBlank_nil : AllBlank [] :=
  fun _ hc => absurd hc List.not_mem_nil

theorem isTail_nil : IsTail [] where
  nothing := .blank allBlank_nil
  first c hc := by cases hc

/-- What says nothing can follow a line, behind a blank. -/
theorem SaysNothing.isTail_cons {b : Char} {cs : List Char} (hb : isBlank b = true)
    (h : SaysNothing cs) : IsTail (b :: cs) where
  nothing := by
    cases h with
    | blank h => exact .blank (List.forall_mem_cons.mpr ⟨hb, h⟩)
    | @comment lead h rest =>
      exact @SaysNothing.comment (b :: lead) (List.forall_mem_cons.mpr ⟨hb, h⟩) rest
  first c hc := Option.some.inj hc ▸ hb

/-- Nothing is left of blanks. -/
theorem trimEnd_of_allBlank {cs : List Char} (h : AllBlank cs) : Text.trimEnd cs = [] :=
  Text.trimEnd_append h []

theorem readLine_of_allBlank {cs : List Char} (h : AllBlank cs) : readLine cs = .nothing := by
  have htrim : Text.trim cs = [] := by
    rw [Text.trim_eq_trimEnd, List.dropWhile_eq_nil_iff.mpr h]
    rfl
  unfold readLine
  rw [htrim]
  rfl

/-- A line that begins with a number sign is a comment. -/
theorem readLine_comment {lead : List Char} (h : AllBlank lead) (rest : List Char) :
    readLine (lead ++ '#' :: rest) = .nothing := by
  have htrim : Text.trim (lead ++ '#' :: rest) = '#' :: Text.trimEnd rest := by
    rw [Text.trim_eq_trimEnd, Text.dropWhile_isBlank_append h,
      List.dropWhile_cons_of_neg Bool.false_ne_true]
    exact Text.trimEnd_append_cons rfl [] rest
  unfold readLine
  rw [htrim]
  rfl

/-- A line that says nothing is passed over. -/
theorem SaysNothing.readLine_eq {cs : List Char} (h : SaysNothing cs) : readLine cs = .nothing := by
  cases h with
  | blank h => exact readLine_of_allBlank h
  | comment h rest => exact readLine_comment h rest

/-- Where no comment starts, nothing is cut off. -/
theorem cutComment_eq_self {cs : List Char} (h : Uncommented cs) : cutComment cs = cs := by
  induction cs with
  | nil => rfl
  | cons c cs ih =>
    obtain ⟨hc, hcs⟩ := uncommented_cons.mp h
    unfold cutComment
    rw [if_neg (by simpa using hc), ih hcs]

/-- A comment is cut off with the blank in front of it. -/
theorem cutComment_append {cs : List Char} {b : Char} (hb : isBlank b = true)
    (h : Uncommented (cs ++ [b])) (rest : List Char) :
    cutComment (cs ++ b :: '#' :: rest) = cs := by
  induction cs with
  | nil =>
    rw [List.nil_append, cutComment, if_pos (by simp [hb])]
  | cons c cs ih =>
    obtain ⟨hc, hcs⟩ := uncommented_cons.mp h
    have hnext : (cs ++ b :: '#' :: rest).head? = (cs ++ [b]).head? := by
      cases cs with
      | nil => rfl
      | cons d cs => rfl
    rw [List.cons_append, cutComment, hnext, if_neg (by simpa using hc), ih hcs]

section

variable {core : List Char} (h : OneLine core)
include h

/-- The blanks around a line are taken away, and none of its own. -/
theorem OneLine.trim_append (tail : List Char) :
    Text.trim (core ++ tail) = core ++ Text.trimEnd tail := by
  have hfirst : ∀ c, (core ++ tail).head? = some c → isBlank c = false := by
    intro c hc
    rw [List.head?_append_of_ne_nil _ h.ne_nil] at hc
    exact h.trimmed.first c hc
  have hlast : isBlank (core.getLast h.ne_nil) = false :=
    h.trimmed.last _ (List.getLast?_eq_some_getLast h.ne_nil)
  rw [Text.trim_eq_trimEnd, Text.dropWhile_isBlank hfirst]
  obtain ⟨init, last, rfl⟩ : ∃ init last, core = init ++ [last] :=
    ⟨_, _, (List.dropLast_append_getLast h.ne_nil).symm⟩
  rw [List.getLast_append_singleton] at hlast
  rw [List.append_assoc, List.singleton_append, Text.trimEnd_append_cons hlast, List.append_assoc,
    List.singleton_append]

/-- **A line is found again whatever follows it**, blanks or a comment. -/
theorem OneLine.cutComment_trim {tail : List Char} (htail : IsTail tail) :
    Text.trimEnd (cutComment (Text.trim (core ++ tail))) = core := by
  obtain ⟨hnothing, hfirst⟩ := htail
  rw [h.trim_append]
  cases hnothing with
  | blank htail =>
    rw [trimEnd_of_allBlank htail, List.append_nil, cutComment_eq_self h.uncommented,
      Text.trimEnd_eq_self h.trimmed.last]
  | @comment gap hgap rest =>
    have hne : gap ≠ [] := by
      rintro rfl
      cases hfirst '#' rfl
    rw [Text.trimEnd_append_cons rfl]
    obtain ⟨init, b, rfl⟩ : ∃ init b, gap = init ++ [b] :=
      ⟨_, _, (List.dropLast_append_getLast hne).symm⟩
    obtain ⟨hinit, hb⟩ := List.forall_mem_append.mp hgap
    have hkept : Uncommented (core ++ init ++ [b]) :=
      (h.uncommented.append_blank hinit).append_blank hb
    rw [List.append_assoc, List.singleton_append, ← List.append_assoc,
      cutComment_append (hb b List.mem_cons_self) hkept, Text.trimEnd_append hinit,
      Text.trimEnd_eq_self h.trimmed.last]

/-- What a line says is what the text before its comment says. -/
theorem OneLine.readLine_eq {tail : List Char} (htail : IsTail tail) : readLine (core ++ tail)
    = if core.getLast? = some ':' then .opens (String.ofList core.dropLast)
      else if core.contains ':' then
        .sets (String.ofList (Text.trim (core.takeWhile (· != ':'))))
          (Text.trim ((core.dropWhile (· != ':')).drop 1))
      else .nothing := by
  have hsome : ¬ ((Text.trim (core ++ tail)).isEmpty
      || decide ((Text.trim (core ++ tail)).head? = some '#')) = true := by
    rw [h.trim_append, List.head?_append_of_ne_nil _ h.ne_nil]
    simp [h.ne_nil, h.first_ne]
  unfold readLine
  dsimp only
  rw [if_neg hsome, h.cutComment_trim htail]

/-- What follows a line does not change what it says. -/
theorem OneLine.readLine_append {tail : List Char} (htail : IsTail tail) :
    readLine (core ++ tail) = readLine core := by
  have hnone := h.readLine_eq isTail_nil
  rw [List.append_nil] at hnone
  rw [h.readLine_eq htail, hnone]

end

/-! ## Names and keys -/

/-- The name of a section or the key of a setting: letters, digits, underscores and hyphens. -/
structure IsName (name : String) : Prop where
  ne_nil : name.toList ≠ []
  chars : ∀ c ∈ name.toList, c.isAlphanum = true ∨ c = '_' ∨ c = '-'

instance (name : String) : Decidable (IsName name) :=
  have := List.decidableBAll (fun c => c.isAlphanum = true ∨ c = '_' ∨ c = '-') name.toList
  decidable_of_iff
    (name.toList ≠ [] ∧ ∀ c ∈ name.toList, c.isAlphanum = true ∨ c = '_' ∨ c = '-')
    ⟨fun h => ⟨h.1, h.2⟩, fun h => ⟨h.1, h.2⟩⟩

theorem isPlain_of_isAlphanum {c : Char} (h : c.isAlphanum = true) : IsPlain c := by
  constructor
  · have hrange : 48 ≤ c.toNat ∧ c.toNat ≤ 122 := by
      simp [Char.isAlphanum, Char.isAlpha, Char.isUpper, Char.isLower, Char.isDigit,
        UInt32.le_iff_toNat_le] at h
      omega
    simp [isBlank]
    omega
  · intro hmem
    simp only [reserved, List.mem_cons, List.not_mem_nil, or_false] at hmem
    rcases hmem with rfl | rfl | rfl | rfl | rfl | rfl
    all_goals cases h

/-- A name has plain characters only. -/
theorem IsName.allPlain {name : String} (h : IsName name) : AllPlain name.toList := by
  intro c hc
  rcases h.chars c hc with hc | rfl | rfl
  · exact isPlain_of_isAlphanum hc
  · decide
  · decide

/-- The line that opens a section. -/
def header (name : String) : List Char :=
  name.toList ++ [':']

/-- The line of a setting. -/
def setting (key : String) (text : List Char) : List Char :=
  key.toList ++ ':' :: ' ' :: text

/-- A setting ends with what spells its value. -/
theorem getLast?_setting (key : String) {text : List Char} (ht : text ≠ []) :
    (setting key text).getLast? = text.getLast? := by
  have hsplit : setting key text = key.toList ++ [':', ' '] ++ text := by
    unfold setting
    rw [List.append_assoc]
    rfl
  rw [hsplit, List.getLast?_append_of_ne_nil _ ht]

section

variable {name : String} (h : IsName name)
include h

/-- Nothing that begins with a name is a comment. -/
theorem IsName.head?_append_ne (cs : List Char) : (name.toList ++ cs).head? ≠ some '#' := by
  rw [List.head?_append_of_ne_nil _ h.ne_nil]
  exact fun heq => (h.allPlain _ (List.mem_of_mem_head? heq)).ne (by decide) rfl

theorem IsName.oneLine_header : OneLine (header name) := by
  refine .of_nonblank (List.append_ne_nil_of_left_ne_nil h.ne_nil _) (h.head?_append_ne _) ?_
  exact List.forall_mem_append.mpr ⟨fun c hc => (h.allPlain c hc).1,
    List.forall_mem_singleton.mpr rfl⟩

/-- **A name with a colon opens a section.** -/
theorem IsName.readLine_header : readLine (header name) = .opens name := by
  have hline := h.oneLine_header.readLine_eq isTail_nil
  rw [List.append_nil] at hline
  rw [hline]
  unfold header
  rw [List.getLast?_concat, if_pos rfl, List.dropLast_concat, String.ofList_toList]

/-- A setting stands on one line. -/
theorem IsName.oneLine_setting {text : List Char} (ht : IsSpelling text) :
    OneLine (setting name text) where
  trimmed := by
    refine ⟨fun c hc => ?_, fun c hc => ?_⟩
    · unfold setting at hc
      rw [List.head?_append_of_ne_nil _ h.ne_nil] at hc
      exact (h.allPlain c (List.mem_of_mem_head? hc)).1
    · rw [getLast?_setting name ht.ne_nil] at hc
      exact ht.trimmed.last c hc
  ne_nil := List.append_ne_nil_of_left_ne_nil h.ne_nil _
  first_ne := h.head?_append_ne _
  unbroken := by
    unfold setting
    rw [List.forall_mem_append, List.forall_mem_cons, List.forall_mem_cons]
    refine ⟨fun c hc => Bool.eq_false_iff.mpr fun hbreak => ?_, rfl, rfl, ht.unbroken⟩
    exact Bool.false_ne_true ((h.allPlain c hc).1.symm.trans (isBlank_of_isLineBreak hbreak))
  uncommented := by
    refine .nonblank_append (fun c hc => (h.allPlain c hc).1) (uncommented_cons.mpr ⟨?_, ?_⟩)
    · exact fun hblank => absurd hblank Bool.false_ne_true
    · exact uncommented_cons.mpr ⟨fun _ => ht.first_ne, ht.uncommented⟩

/-- **A key, a colon and a spelling are a setting.** -/
theorem IsName.readLine_setting {text : List Char} (ht : IsSpelling text) :
    readLine (setting name text) = .sets name text := by
  have hline := (h.oneLine_setting ht).readLine_eq
    isTail_nil
  have hcolon : ∀ c ∈ name.toList, (c != ':') = true := fun c hc =>
    bne_iff_ne.mpr ((h.allPlain c hc).ne (by decide))
  have hspace : AllBlank [' '] := by decide
  have hkey : Trimmed name.toList :=
    ⟨fun c hc => (h.allPlain c (List.mem_of_mem_head? hc)).1,
      fun c hc => (h.allPlain c (List.mem_of_getLast? hc)).1⟩
  have hbefore : (setting name text).takeWhile (· != ':') = name.toList := by
    unfold setting
    rw [List.takeWhile_append_of_pos hcolon, List.takeWhile_cons_of_neg (by decide),
      List.append_nil]
  have hafter : (setting name text).dropWhile (· != ':') = ':' :: ' ' :: text := by
    unfold setting
    rw [List.dropWhile_append_of_pos hcolon, List.dropWhile_cons_of_neg (by decide)]
  have htrim := Text.trim_between allBlank_nil allBlank_nil hkey
  have htrim' := Text.trim_between hspace allBlank_nil ht.trimmed
  rw [List.nil_append, List.append_nil] at htrim
  rw [List.append_nil, List.singleton_append] at htrim'
  rw [List.append_nil, if_neg (getLast?_setting name ht.ne_nil ▸ ht.last_ne), hbefore, hafter,
    List.drop_one, List.tail_cons, htrim, htrim', String.ofList_toList, if_pos] at hline
  · exact hline
  · unfold setting
    simp

end

end PoissonFactor.Settings
