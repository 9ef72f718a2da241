import Mathlib.Data.List.Chain
import PoissonFactor.Proofs.Literal.Number
import PoissonFactor.Proofs.Text.Printable
import PoissonFactor.Text.Quoted

/-!
# Quoted texts as words

A quoted text is read back as the text (`Literal.tokens_quoted`). Each of its code points stands
between the quotes as itself or as an escape (`Literal.Stands`), and no escape looks like the end
of the text. A surrogate is always an escape, one of its own, so two of them are never taken for
the one character that they would be as a pair. Nor does the quoted text have any blank but the
spaces of the text itself, so that it stands on one line (`Literal.eq_space_of_mem_quoted`).
-/

namespace PoissonFactor.Literal

open Text (Point isBlank isPrintable hex quoteChar quotePoint quoteFor quoted escapeSurrogate)

/-! ## Hexadecimal digits -/

/-- A digit to the base of sixteen is read as it was written. -/
theorem hexValue?_digitChar : ∀ k < 16, hexValue? (Nat.digitChar k) = some k := by
  decide

/-- One more digit is taken up from the right. -/
theorem hexNumber?_append {cs : List Char} {n k : Nat} {c : Char} (hcs : hexNumber? cs = some n)
    (hc : hexValue? c = some k) : hexNumber? (cs ++ [c]) = some (n * 16 + k) := by
  unfold hexNumber? at hcs ⊢
  rw [List.foldlM_append, hcs]
  simp [hc]

/-- So a number is read from its digits. -/
theorem hexNumber?_toDigits (n : Nat) : hexNumber? (Nat.toDigits 16 n) = some n := by
  induction n using Nat.strongRecOn with
  | ind n ih =>
    by_cases hsmall : n < 16
    · have hc : hexNumber? ([] ++ [n.digitChar]) = some (0 * 16 + n) :=
        hexNumber?_append rfl (hexValue?_digitChar n hsmall)
      rw [Nat.toDigits_of_lt_base hsmall]
      rwa [Nat.zero_mul, Nat.zero_add] at hc
    · rw [Nat.toDigits_of_base_le (by decide) (by omega),
        hexNumber?_append (ih (n / 16) (by omega))
          (hexValue?_digitChar _ (Nat.mod_lt n (by decide)))]
      congr 1
      omega

/-- Zeros in front do not count. -/
theorem hexNumber?_hex (width n : Nat) : hexNumber? (hex width n) = some n := by
  unfold hex
  dsimp only
  induction width - (Nat.toDigits 16 n).length with
  | zero => exact hexNumber?_toDigits n
  | succ k ih =>
    rw [List.replicate_succ, List.cons_append, ← ih]
    rfl

/-- A code that fits its width takes all of it. -/
theorem length_hex {width n : Nat} (hwidth : 0 < width) (h : n < 16 ^ width) :
    (hex width n).length = width := by
  have hlength := (Nat.length_toDigits_le_iff (b := 16) (by decide) hwidth).mpr h
  unfold hex
  rw [List.length_append, List.length_replicate]
  omega

/-- Digits of the width that an escape asks for are its number. -/
theorem hexEscape?_hex {width n : Nat} (hwidth : 0 < width) (h : n < 16 ^ width)
    (rest : List Char) : hexEscape? width (hex width n ++ rest) = some (n, rest) := by
  have hlength := length_hex hwidth h
  unfold hexEscape?
  rw [if_neg (by rw [List.length_append]; omega), List.take_left' hlength, List.drop_left' hlength,
    hexNumber?_hex]
  rfl

/-! ## Plain characters -/

/-- The characters, besides the blanks, that say more than themselves somewhere in a settings
file. -/
def reserved : List Char :=
  ['\x00', '\'', '"', '\\', '#', ':']

/-- A character that numbers, words and escapes are made of. -/
def IsPlain (c : Char) : Prop :=
  isBlank c = false ∧ c ∉ reserved

instance (c : Char) : Decidable (IsPlain c) :=
  inferInstanceAs (Decidable (_ ∧ _))

/-- A plain character is none of the reserved ones. -/
theorem IsPlain.ne {c d : Char} (h : IsPlain c) (hd : d ∈ reserved) : c ≠ d :=
  fun heq => h.2 (heq ▸ hd)

theorem isPlain_digitChar : ∀ k < 16, IsPlain (Nat.digitChar k) := by
  decide

theorem isPlain_of_mem_toDigits {n : Nat} : ∀ c ∈ Nat.toDigits 16 n, IsPlain c := by
  induction n using Nat.strongRecOn with
  | ind n ih =>
    by_cases hsmall : n < 16
    · rw [Nat.toDigits_of_lt_base hsmall]
      exact List.forall_mem_singleton.mpr (isPlain_digitChar n hsmall)
    · rw [Nat.toDigits_of_base_le (by decide) (by omega), List.forall_mem_append]
      exact ⟨ih (n / 16) (by omega),
        List.forall_mem_singleton.mpr (isPlain_digitChar _ (Nat.mod_lt n (by decide)))⟩

/-- Codes are written in plain characters. -/
theorem isPlain_of_mem_hex {width n : Nat} : ∀ c ∈ hex width n, IsPlain c := by
  unfold hex
  rw [List.forall_mem_append]
  refine ⟨fun c hc => ?_, isPlain_of_mem_toDigits⟩
  rw [List.eq_of_mem_replicate hc]
  decide

/-- The quotes that go around a text. -/
def IsQuote (quote : Char) : Prop :=
  quote = '\'' ∨ quote = '"'

/-! ## Where a quoted text ends -/

/-- Up to its quote a text goes on character by character. -/
theorem shortBody_cons {quote c : Char} (hslash : c ≠ '\\') (rest : List Char) :
    shortBody quote (c :: rest) = if c = quote then some ([], rest)
      else (shortBody quote rest).map fun (body, after) => (c :: body, after) := by
  rw [shortBody]
  exact fun _ _ h => absurd h hslash

/-- A backslash takes the next character with it, be it a quote. -/
theorem shortBody_slash (quote c : Char) (rest : List Char) : shortBody quote ('\\' :: c :: rest)
    = (shortBody quote rest).map fun (body, after) => ('\\' :: c :: body, after) := by
  rw [shortBody]

theorem IsPlain.ne_quote {quote : Char} (hquote : IsQuote quote) {c : Char} (h : IsPlain c) :
    c ≠ quote := by
  rcases hquote with rfl | rfl
  all_goals exact h.ne (by decide)

/-- Characters that are no quote and no backslash do not end the text. -/
theorem shortBody_plain {quote : Char} (hquote : IsQuote quote) {cs : List Char}
    (hcs : ∀ c ∈ cs, IsPlain c) (rest : List Char) : shortBody quote (cs ++ rest)
      = (shortBody quote rest).map fun (body, after) => (cs ++ body, after) := by
  induction cs with
  | nil => exact Option.map_id'.symm
  | cons c cs ih =>
    obtain ⟨hc, hcs⟩ := List.forall_mem_cons.mp hcs
    rw [List.cons_append, shortBody_cons (hc.ne (by decide)), if_neg (hc.ne_quote hquote), ih hcs,
      Option.map_map]
    rfl

/-- The quote that is chosen is one of the two. -/
theorem isQuote_quoteFor (ps : List Point) : IsQuote (quoteFor ps) := by
  unfold quoteFor
  split_ifs
  · exact .inr rfl
  · exact .inl rfl

/-! ## Code points between quotes -/

/-- The numbers of code points say which they are. -/
theorem points?_map_val (ps : List Point) : points? (ps.map Fin.val) = some ps := by
  unfold points?
  induction ps with
  | nil => rfl
  | cons p ps ih =>
    rw [List.map_cons, List.mapM_cons, Point.ofNat?_val, ih]
    rfl

section

variable [Text.CharacterNames]

/-- How a code point stands between quotes: a character as itself, and anything as a backslash with
another character and with digits that say which it is. -/
inductive Stands (quote : Char) (p : Point) : List Char → Prop
  | itself {c : Char} (hpoint : p = .ofChar c) (hquote : c ≠ quote) (hslash : c ≠ '\\')
      (hprint : isPrintable c = true) : Stands quote p [c]
  | escaped {e : Char} {tail : List Char} (hblank : isBlank e = false) (hnul : e ≠ '\x00')
      (htail : ∀ t ∈ tail, IsPlain t)
      (hread : ∀ rest, escape? (e :: (tail ++ rest)) = some ([p.val], rest)) :
      Stands quote p ('\\' :: e :: tail)

/-- The three escapes of codes differ in their width only. -/
theorem escape?_x (cs : List Char) :
    escape? ('x' :: cs) = (hexEscape? 2 cs).map fun (code, r) => ([code], r) := rfl

theorem escape?_u (cs : List Char) :
    escape? ('u' :: cs) = (hexEscape? 4 cs).map fun (code, r) => ([code], r) := rfl

theorem escape?_U (cs : List Char) :
    escape? ('U' :: cs) = match hexEscape? 8 cs with
      | some (code, r) => if code < 0x110000 then some ([code], r) else none
      | none => none := rfl

/-- A quote or a backslash stands for itself behind a backslash. -/
theorem stands_backslash {quote c : Char} (h : IsQuote c ∨ c = '\\') :
    Stands quote (.ofChar c) ['\\', c] := by
  rcases h with (rfl | rfl) | rfl
  all_goals
    exact .escaped (by decide) (by decide) (fun _ ht => absurd ht List.not_mem_nil) fun _ => rfl

/-- Four digits are enough for a small code point. -/
theorem stands_u {quote : Char} {p : Point} (h : p.val < 0x10000) :
    Stands quote p ('\\' :: 'u' :: hex 4 p.val) := by
  refine .escaped (by decide) (by decide) isPlain_of_mem_hex fun rest => ?_
  rw [escape?_u, hexEscape?_hex (by decide) h]
  rfl

/-- A character stands in the text as itself or as its escape. -/
theorem stands_quoteChar {quote : Char} (hquote : IsQuote quote) (c : Char) :
    Stands quote (.ofChar c) (quoteChar quote c) := by
  have hvalid : c.toNat < 0x110000 := (Point.ofChar c).isLt
  unfold quoteChar
  split_ifs with hself htab hfeed hreturn hprint hbyte hshort
  · refine stands_backslash ?_
    simp only [Bool.or_eq_true, decide_eq_true_eq] at hself
    rcases hself with rfl | hslash
    · exact .inl hquote
    · exact .inr hslash
  · subst htab
    exact .escaped (by decide) (by decide) (fun _ ht => absurd ht List.not_mem_nil) fun _ => rfl
  · subst hfeed
    exact .escaped (by decide) (by decide) (fun _ ht => absurd ht List.not_mem_nil) fun _ => rfl
  · subst hreturn
    exact .escaped (by decide) (by decide) (fun _ ht => absurd ht List.not_mem_nil) fun _ => rfl
  · simp only [Bool.or_eq_true, decide_eq_true_eq, not_or] at hself
    exact .itself rfl hself.1 hself.2 hprint
  · refine .escaped (by decide) (by decide) isPlain_of_mem_hex fun rest => ?_
    rw [escape?_x, hexEscape?_hex (by decide) hbyte]
    rfl
  · exact stands_u hshort
  · refine .escaped (by decide) (by decide) isPlain_of_mem_hex fun rest => ?_
    rw [escape?_U, hexEscape?_hex (by decide) (lt_trans hvalid (by decide))]
    exact if_pos hvalid

/-- A character stands between quotes as itself or as an escape, a surrogate as an escape. -/
theorem stands_quotePoint {quote : Char} (hquote : IsQuote quote) (p : Point) :
    Stands quote p (quotePoint quote p) := by
  unfold quotePoint
  split
  next c hc =>
    rw [Point.eq_ofChar hc]
    exact stands_quoteChar hquote c
  next hnone => exact stands_u (Point.lt_of_char?_eq_none hnone)

/-! ## Reading a quoted text -/

theorem unescape_nil : unescape [] = some [] := by
  rw [unescape]

/-- A character that escapes nothing stands for itself. -/
theorem unescape_cons {c : Char} (hslash : c ≠ '\\') (rest : List Char) :
    unescape (c :: rest) = (unescape rest).map (c.toNat :: ·) := by
  rw [unescape, if_neg hslash]

/-- An escape stands for its codes. -/
theorem unescape_slash {rest after : List Char} {codes : List Nat}
    (h : escape? rest = some (codes, after)) (hlength : after.length ≤ rest.length) :
    unescape ('\\' :: rest) = (unescape after).map (codes ++ ·) := by
  rw [unescape, if_pos rfl, h]
  exact dif_pos hlength

/-- What stands for a code point is read as that code point. -/
theorem unescape_piece {quote : Char} {p : Point} {piece : List Char} (h : Stands quote p piece)
    (rest : List Char) : unescape (piece ++ rest) = (unescape rest).map (p.val :: ·) := by
  cases h with
  | itself hpoint _ hslash _ =>
    subst hpoint
    exact unescape_cons hslash rest
  | escaped _ _ _ hread =>
    refine unescape_slash (hread rest) ?_
    rw [List.length_cons, List.length_append]
    omega

section

variable {quote : Char} (hquote : IsQuote quote)
include hquote

/-- What stands for a code point does not end the text. -/
theorem shortBody_piece {p : Point} {piece : List Char} (h : Stands quote p piece)
    (rest : List Char) : shortBody quote (piece ++ rest)
      = (shortBody quote rest).map fun (body, after) => (piece ++ body, after) := by
  cases h with
  | itself _ hne hslash _ =>
    rw [List.singleton_append, shortBody_cons hslash, if_neg hne]
    rfl
  | escaped _ _ htail _ =>
    rw [List.cons_append, List.cons_append, shortBody_slash, shortBody_plain hquote htail,
      Option.map_map]
    rfl

/-- The first quote that no backslash precedes is the last character of a quoted text. -/
theorem shortBody_flatMap (ps : List Point) :
    shortBody quote (ps.flatMap (quotePoint quote) ++ [quote])
      = some (ps.flatMap (quotePoint quote), []) := by
  induction ps with
  | nil =>
    rcases hquote with rfl | rfl
    all_goals rfl
  | cons p ps ih =>
    rw [List.flatMap_cons, List.append_assoc, shortBody_piece hquote (stands_quotePoint hquote p),
      ih]
    rfl

/-- **The pieces of a quoted text stand for its code points**, one after the other. -/
theorem unescape_flatMap (ps : List Point) :
    unescape (ps.flatMap (quotePoint quote)) = some (ps.map Fin.val) := by
  induction ps with
  | nil => exact unescape_nil
  | cons p ps ih =>
    rw [List.flatMap_cons, unescape_piece (stands_quotePoint hquote p), ih]
    rfl

/-- The quotes of a text are not three in a row. -/
theorem take_two_flatMap (ps : List Point) :
    ((ps.flatMap (quotePoint quote) ++ [quote]).take 2 == [quote, quote]) = false := by
  rw [beq_eq_false_iff_ne]
  intro heq
  cases ps with
  | nil => cases heq
  | cons p ps =>
    rw [List.flatMap_cons, List.append_assoc] at heq
    have hstands := stands_quotePoint hquote p
    generalize quotePoint quote p = piece at heq hstands
    cases hstands with
    | itself _ hne _ _ => exact hne (List.cons.inj heq).1
    | escaped _ _ _ _ =>
      have hslash : '\\' = quote := (List.cons.inj heq).1
      subst hslash
      rcases hquote with h | h
      all_goals cases h

end

/-- A quote begins a text. -/
theorem next?_quote {quote : Char} (hquote : IsQuote quote) (rest : List Char) :
    next? (quote :: rest) = match quotedBody (quote :: rest) with
      | some (body, after) =>
        (((unescape body).bind points?).map Token.text).map fun t => (t, after)
      | none => none := by
  have hmarks : marks? [] = some ⟨false, false, false⟩ := rfl
  have hword : next? (quote :: rest) = word (quote :: rest) := by
    rcases hquote with rfl | rfl
    all_goals rfl
  have hletters : insideName quote = false := by
    rcases hquote with rfl | rfl
    all_goals rfl
  rw [hword, word, List.takeWhile_cons_of_neg (by simp [hletters]),
    List.dropWhile_cons_of_neg (by simp [hletters]), hmarks]
  dsimp only
  rw [if_pos (by rcases hquote with rfl | rfl <;> rfl)]
  cases quotedBody (quote :: rest) with
  | none => rfl
  | some p => rfl

/-- **A quoted text is read as one word, the text**, whatever its code points are. -/
theorem tokens_quoted (ps : List Point) : tokens (quoted ps) = some [.text ps] := by
  have hquote := isQuote_quoteFor ps
  have hnext : next? (quoted ps) = some (.text ps, []) := by
    unfold quoted
    rw [next?_quote hquote, quotedBody, take_two_flatMap hquote, if_neg Bool.false_ne_true,
      shortBody_flatMap hquote]
    dsimp only
    rw [unescape_flatMap hquote, Option.bind_some, points?_map_val]
    rfl
  have hfirst : quoteFor ps ≠ ' ' ∧ quoteFor ps ≠ '\t' ∧ quoteFor ps ≠ '#' := by
    generalize quoteFor ps = quote at hquote
    rcases hquote with rfl | rfl
    all_goals decide
  unfold quoted at hnext ⊢
  rw [tokens_cons hfirst hnext (Nat.zero_le _), tokens_nil]
  rfl

/-! ## What stands between quotes -/

/-- What holds of the quote and of the characters of every piece holds of the whole text. -/
theorem forall_mem_quoted {P : Char → Prop} {ps : List Point} (hquote : ∀ q, IsQuote q → P q)
    (hpiece : ∀ quote p piece, Stands quote p piece → ∀ d ∈ piece, P d) :
    ∀ d ∈ quoted ps, P d := by
  have hq := isQuote_quoteFor ps
  unfold quoted
  intro d hd
  rw [List.mem_cons, List.mem_append, List.mem_singleton, List.mem_flatMap] at hd
  rcases hd with rfl | ⟨p, -, hd⟩ | rfl
  · exact hquote _ hq
  · exact hpiece _ p _ (stands_quotePoint hq p) d hd
  · exact hquote _ hq

/-- The character that ends texts elsewhere is escaped. -/
theorem not_mem_nul_quoted (ps : List Point) : '\x00' ∉ quoted ps := by
  have hall : ∀ d ∈ quoted ps, d ≠ '\x00' := by
    refine forall_mem_quoted ?quote ?piece
    case quote =>
      intro q hq
      rcases hq with rfl | rfl
      all_goals decide
    case piece =>
      intro quote p piece hstands d hd
      cases hstands with
      | itself _ _ _ hprint =>
        exact List.mem_singleton.mp hd ▸ Text.ne_nul_of_isPrintable hprint
      | escaped _ hnul htail _ =>
        rcases List.mem_cons.mp hd with rfl | hd
        · decide
        · rcases List.mem_cons.mp hd with rfl | hd
          · exact hnul
          · exact (htail d hd).ne (by decide)
  exact fun hmem => hall _ hmem rfl

/-- The only blanks of a quoted text are the spaces of the text. -/
theorem eq_space_of_mem_quoted {ps : List Point} :
    ∀ d ∈ quoted ps, isBlank d = true → d = ' ' := by
  refine forall_mem_quoted ?quote ?piece
  case quote =>
    intro q hq hblank
    rcases hq with rfl | rfl
    all_goals cases hblank
  case piece =>
    intro quote p piece hstands d hd hblank
    cases hstands with
    | itself _ _ _ hprint =>
      rw [List.mem_singleton.mp hd] at hblank ⊢
      exact Text.eq_space_of_isPrintable hprint hblank
    | escaped he _ htail _ =>
      rcases List.mem_cons.mp hd with rfl | hd
      · cases hblank
      · rcases List.mem_cons.mp hd with rfl | hd
        · rw [he] at hblank
          cases hblank
        · rw [(htail d hd).1] at hblank
          cases hblank

end

end PoissonFactor.Literal
