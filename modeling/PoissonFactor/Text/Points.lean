/-!
# Texts of code points

A text read from a literal is a row of code points. Most of them are characters, but an
escape may also name one of the surrogates `U+D800` to `U+DFFF`, which is no character and
stays in the text as it was named. Such a text is no `String` and is kept by its points
(`Illformed`).
-/

namespace PoissonFactor.Text

/-- A code point: a character or a surrogate. -/
abbrev Point := Fin 0x110000

namespace Point

/-- The code point of a character. -/
def ofChar (c : Char) : Point :=
  ⟨c.toNat, by
    rcases c.valid with h | ⟨-, h⟩
    · exact Nat.lt_trans h (by decide)
    · exact h⟩

/-- The character of a code point; a surrogate is none. -/
def char? (p : Point) : Option Char :=
  if p.val.isValidChar then some (Char.ofNat p.val) else none

/-- The code point of this number. -/
def ofNat? (n : Nat) : Option Point :=
  if h : n < 0x110000 then some ⟨n, h⟩ else none

theorem char?_ofChar (c : Char) : (ofChar c).char? = some c := by
  have hvalid : c.toNat.isValidChar := c.valid
  show (if c.toNat.isValidChar then some (Char.ofNat c.toNat) else none) = some c
  rw [if_pos hvalid, Char.ofNat_toNat]

theorem eq_ofChar {p : Point} {c : Char} (h : p.char? = some c) : p = ofChar c := by
  unfold char? at h
  split at h
  next hvalid =>
    apply Fin.ext
    rw [← Option.some.inj h]
    show p.val = (Char.ofNat p.val).toNat
    unfold Char.ofNat
    rw [dif_pos hvalid]
    rfl
  next => cases h

/-- The surrogates have small numbers. -/
theorem lt_of_char?_eq_none {p : Point} (h : p.char? = none) : p.val < 0x10000 := by
  unfold char? at h
  split at h
  next => cases h
  next hinvalid =>
    have hlt := p.isLt
    unfold Nat.isValidChar at hinvalid
    omega

/-- The number of a code point says which it is. -/
theorem ofNat?_val (p : Point) : ofNat? p.val = some p :=
  dif_pos p.isLt

end Point

/-- The code points of some characters. -/
def pointsOf (cs : List Char) : List Point :=
  cs.map Point.ofChar

/-- The characters of some code points, if there is no surrogate among them. -/
def characters? (ps : List Point) : Option (List Char) :=
  ps.mapM Point.char?

/-- Characters are read back from their code points. -/
theorem characters?_pointsOf (cs : List Char) : characters? (pointsOf cs) = some cs := by
  unfold characters? pointsOf
  induction cs with
  | nil => rfl
  | cons c cs ih =>
    rw [List.map_cons, List.mapM_cons, Point.char?_ofChar, ih]
    rfl

/-- A text with a surrogate in it. -/
structure Illformed where
  points : List Point
  surrogate : characters? points = none
deriving DecidableEq

/-- Code points that have no encoding: where a run of them begins, how many there are, and the
number of the first. -/
structure SurrogateRun where
  start : Nat
  length : Nat
  first : Nat
deriving DecidableEq, Repr

/-- The first surrogates in a text that stand together. -/
def Illformed.surrogates (t : Illformed) : SurrogateRun :=
  let behind := t.points.dropWhile fun p => p.char?.isSome
  { start := t.points.length - behind.length
    length := (behind.takeWhile fun p => p.char?.isNone).length
    first := (behind.headD 0).val }

end PoissonFactor.Text
