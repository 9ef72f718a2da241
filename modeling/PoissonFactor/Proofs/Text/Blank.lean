import Mathlib.Data.List.TakeWhile
import PoissonFactor.Text.Blank

/-!
# What trimming leaves

A text that begins and ends with something else is what is left of it between blanks
(`Text.trim_between`). Behind a character that is no blank only the end of a text is trimmed
(`Text.trimEnd_append_cons`).
-/

namespace PoissonFactor.Text

/-- A text of blanks. -/
def AllBlank (cs : List Char) : Prop :=
  ∀ c ∈ cs, isBlank c = true

instance (cs : List Char) : Decidable (AllBlank cs) :=
  List.decidableBAll _ cs

/-- A text that neither begins nor ends with a blank. -/
structure Trimmed (cs : List Char) : Prop where
  first : ∀ c, cs.head? = some c → isBlank c = false
  last : ∀ c, cs.getLast? = some c → isBlank c = false

/-- Blanks in front do not count. -/
theorem dropWhile_isBlank_append {before : List Char} (h : AllBlank before) (cs : List Char) :
    (before ++ cs).dropWhile isBlank = cs.dropWhile isBlank :=
  List.dropWhile_append_of_pos h

/-- Where there are none in front, nothing is dropped. -/
theorem dropWhile_isBlank {cs : List Char} (h : ∀ c, cs.head? = some c → isBlank c = false) :
    cs.dropWhile isBlank = cs := by
  cases cs with
  | nil => rfl
  | cons c cs => exact List.dropWhile_cons_of_neg (by rw [h c rfl]; exact Bool.false_ne_true)

/-- Trimming is dropping in front and then behind. -/
theorem trim_eq_trimEnd (cs : List Char) : trim cs = trimEnd (cs.dropWhile isBlank) := rfl

/-- Blanks behind do not count. -/
theorem trimEnd_append {after : List Char} (h : AllBlank after) (cs : List Char) :
    trimEnd (cs ++ after) = trimEnd cs := by
  have hreverse : AllBlank after.reverse := fun c hc => h c (List.mem_reverse.mp hc)
  unfold trimEnd
  rw [List.reverse_append, dropWhile_isBlank_append hreverse]

theorem trimEnd_eq_self {cs : List Char} (h : ∀ c, cs.getLast? = some c → isBlank c = false) :
    trimEnd cs = cs := by
  have hfirst : ∀ c, cs.reverse.head? = some c → isBlank c = false := by
    intro c hc
    exact h c (List.head?_reverse ▸ hc)
  unfold trimEnd
  rw [dropWhile_isBlank hfirst, List.reverse_reverse]

/-- What stands up to a character that is no blank stays. -/
theorem trimEnd_append_cons {c : Char} (hc : isBlank c = false) (before rest : List Char) :
    trimEnd (before ++ c :: rest) = before ++ c :: trimEnd rest := by
  have hsplit : (before ++ c :: rest).reverse = rest.reverse ++ (c :: before.reverse) := by
    rw [List.reverse_append, List.reverse_cons, List.append_assoc, List.singleton_append]
  have hstop : (c :: before.reverse).dropWhile isBlank = c :: before.reverse :=
    dropWhile_isBlank fun _ h => (Option.some.inj h) ▸ hc
  unfold trimEnd
  rw [hsplit, List.dropWhile_append]
  split
  next hempty =>
    rw [List.isEmpty_iff.mp hempty, hstop, List.reverse_cons, List.reverse_reverse,
      List.reverse_nil]
  next =>
    rw [List.reverse_append, List.reverse_cons, List.reverse_reverse, List.append_assoc,
      List.singleton_append]

/-- A text is what is left of it between blanks. -/
theorem trim_between {before cs after : List Char} (hbefore : AllBlank before)
    (hafter : AllBlank after) (h : Trimmed cs) : trim (before ++ (cs ++ after)) = cs := by
  rw [trim_eq_trimEnd, dropWhile_isBlank_append hbefore]
  cases cs with
  | nil =>
    rw [List.nil_append, List.dropWhile_eq_nil_iff.mpr hafter]
    rfl
  | cons c cs =>
    rw [dropWhile_isBlank, trimEnd_append hafter, trimEnd_eq_self h.last]
    exact fun d hd => h.first d hd

end PoissonFactor.Text
