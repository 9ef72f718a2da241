import PoissonFactor.Proofs.Outcome
import PoissonFactor.Proofs.Settings.Sections
import PoissonFactor.Proofs.Text.Blank
import PoissonFactor.Training.Settings
import PoissonFactor.Training.Stopping

/-!
# Ways to say that a setting is not set

A setting is not set when it is left out, is absent, is blank, or is one of two words, in any
letter case and with any blanks around it. Wherever a number is read these ways are one:

> `Settings.unset_alike`: a value that says *not set* can be left out of a section, and the same
> priors, the same settings of a run or the same rule come of it, or the same failure.

Two settings are read in another way, and the statement says what becomes of them. A flag takes
the two words for texts like any other, which count as true; it shows where the default is false
(`RunSettings.ofSection_put_verbose`). And a threshold is looked for before it is read: any text in
its place asks for a threshold, though only a number of iterations may be given
(`StoppingRule.ofSection_put_threshold`).
-/

namespace PoissonFactor

namespace Setting

/-! ## What is not set -/

/-- A text that spells a word, in any letter case. -/
def Spells (word : String) (cs : List Char) : Prop :=
  Numeral.lower cs = word.toList

instance (word : String) (cs : List Char) : Decidable (Spells word cs) :=
  inferInstanceAs (Decidable (Numeral.lower cs = word.toList))

/-- A text that is one of the two words for what is not set, with any blanks around it. -/
def Named (s : String) : Prop :=
  ∃ before letters after, s.toList = before ++ (letters ++ after) ∧ Text.AllBlank before
    ∧ Text.AllBlank after ∧ (Spells "none" letters ∨ Spells "null" letters)

/-- A value by which a setting says that it is not set. -/
inductive NotSet : Value → Prop
  | absent : NotSet .null
  | blank (s : String) (h : Text.AllBlank s.toList) : NotSet (.str s)
  | named (s : String) (h : Named s) : NotSet (.str s)

/-- Blanks have no lower case. -/
theorem toLower_of_isBlank {c : Char} (h : Text.isBlank c = true) : c.toLower = c := by
  have hletter : ¬ ('A'.val ≤ c.val ∧ c.val ≤ 'Z'.val) := by
    rintro ⟨hlow, hhigh⟩
    have hlow : 65 ≤ c.toNat := hlow
    have hhigh : c.toNat ≤ 90 := hhigh
    simp [Text.isBlank] at h
    omega
  unfold Char.toLower
  exact dif_neg hletter

theorem trimmed_of_lower {cs : List Char} (h : Text.Trimmed (Numeral.lower cs)) :
    Text.Trimmed cs := by
  have hchar {c : Char} (hc : Text.isBlank c.toLower = false) : Text.isBlank c = false := by
    by_contra hblank
    rw [Bool.not_eq_false] at hblank
    rw [toLower_of_isBlank hblank, hblank] at hc
    cases hc
  constructor
  · intro c hc
    refine hchar (h.first _ ?_)
    rw [Numeral.lower, List.head?_map, hc]
    rfl
  · intro c hc
    refine hchar (h.last _ ?_)
    rw [Numeral.lower, List.getLast?_map, hc]
    rfl

/-- A word is found between blanks, in whatever case. -/
theorem word_of_spells {s w : String} {before letters after : List Char}
    (hs : s.toList = before ++ (letters ++ after)) (hbefore : Text.AllBlank before)
    (hafter : Text.AllBlank after) (hw : Text.Trimmed w.toList) (h : Spells w letters) :
    word s = w := by
  have hletters : Text.Trimmed letters := trimmed_of_lower (h ▸ hw)
  unfold word
  rw [hs, Text.trim_between hbefore hafter hletters, h, String.ofList_toList]

/-- The words for nothing are found. -/
theorem word_of_named {s : String} (h : Named s) : word s = "none" ∨ word s = "null" := by
  obtain ⟨before, letters, after, hs, hbefore, hafter, hletters | hletters⟩ := h
  · exact Or.inl (word_of_spells hs hbefore hafter ⟨by simp; decide, by simp; decide⟩ hletters)
  · exact Or.inr (word_of_spells hs hbefore hafter ⟨by simp; decide, by simp; decide⟩ hletters)

/-- A blank text has the empty word. -/
theorem word_of_allBlank {s : String} (h : Text.AllBlank s.toList) : word s = "" := by
  have htrim : Text.trim s.toList = [] := by
    have hbetween : Text.trim (s.toList ++ ([] ++ [])) = [] :=
      Text.trim_between h (fun c hc => absurd hc List.not_mem_nil) ⟨by simp, by simp⟩
    rwa [List.nil_append, List.append_nil] at hbetween
  unfold word
  rw [htrim]
  rfl

/-- **Whatever says nothing counts as not set.** -/
theorem NotSet.isUnset {v : Value} (h : NotSet v) : isUnset v = true := by
  cases h with
  | absent => rfl
  | blank s h => simp [Setting.isUnset, word_of_allBlank h]
  | named s h =>
    rcases word_of_named h with hword | hword
    · simp [Setting.isUnset, hword]
    · simp [Setting.isUnset, hword]

/-! ## What is read -/

section

variable {v : Value}

/-- An optional integer is then left out, and so is an optional decimal. -/
theorem integer?_of_notSet (h : NotSet v) : integer? v = .ok none := by
  unfold integer?
  rw [if_pos h.isUnset]
  rfl

theorem decimal?_of_notSet (h : NotSet v) : decimal? v = .ok none := by
  unfold decimal?
  rw [if_pos h.isUnset]
  rfl

/-- A required one takes its default. -/
theorem integer_of_notSet (h : NotSet v) (fallback : Int) : integer v fallback = .ok fallback := by
  unfold integer
  rw [integer?_of_notSet h]
  rfl

/-- So does a decimal. -/
theorem decimal_of_notSet (h : NotSet v) (fallback : Float) :
    decimal v fallback = .ok fallback := by
  unfold decimal
  rw [decimal?_of_notSet h]
  rfl

end

/-- A blank flag takes its default, too. -/
theorem flag_of_allBlank {s : String} (h : Text.AllBlank s.toList) (fallback : Bool) :
    flag (.str s) fallback = fallback := by
  simp [flag, flag?, word_of_allBlank h]

/-- To a flag the words for what is not set are words like any other. -/
theorem flag_of_named {s : String} (h : Named s) (fallback : Bool) :
    flag (.str s) fallback = true := by
  rcases word_of_named h with hword | hword
  · simp [flag, flag?, hword]
  · simp [flag, flag?, hword]

end Setting

/-! ## One setting of a section -/

namespace Settings

/-- What reads a value as it reads an absent one does not tell whether the value is there. -/
theorem Section.read_put {β : Type} (read : Value → β) {v : Value} (h : read v = read .null)
    (s : Section) (key name : String) :
    read (Section.get (put key v s) name) = read ((s.without key).get name) := by
  rw [Section.get_put, Section.get_without]
  by_cases hname : name = key
  · rw [if_pos hname, if_pos hname, h]
  · rw [if_neg hname, if_neg hname]

/-- Other settings do not see the difference. -/
theorem Section.get_put_eq_get_without {key name : String} (h : name ≠ key) (v : Value)
    (s : Section) : Section.get (put key v s) name = (s.without key).get name := by
  rw [Section.get_put, Section.get_without, if_neg h, if_neg h]

section

variable {v : Value} (h : Setting.NotSet v) (s : Section) (key name : String)
include h

/-- Under every name an integer is the one without the setting. -/
theorem integer?_get_put :
    Setting.integer? (Section.get (put key v s) name)
      = Setting.integer? ((s.without key).get name) :=
  Section.read_put Setting.integer? (Setting.integer?_of_notSet h) s key name

theorem integer_get_put (fallback : Int) :
    Setting.integer (Section.get (put key v s) name) fallback
      = Setting.integer ((s.without key).get name) fallback :=
  Section.read_put (Setting.integer · fallback) (Setting.integer_of_notSet h fallback) s key name

theorem decimal_get_put (fallback : Float) :
    Setting.decimal (Section.get (put key v s) name) fallback
      = Setting.decimal ((s.without key).get name) fallback :=
  Section.read_put (Setting.decimal · fallback) (Setting.decimal_of_notSet h fallback) s key name

/-- A flag that is true by default is true in every way of not setting it. -/
theorem flag_true_get_put :
    Setting.flag (Section.get (put key v s) name) true
      = Setting.flag ((s.without key).get name) true := by
  have hflag : Setting.flag v true = true := by
    cases h with
    | absent => rfl
    | blank t ht => exact Setting.flag_of_allBlank ht true
    | named t ht => exact Setting.flag_of_named ht true
  exact Section.read_put (Setting.flag · true) hflag s key name

end

end Settings

open Settings (put Section)

/-! ## Priors, runs and rules -/

/-- The settings of the model are those without the setting. -/
theorem HyperSettings.ofSection_put {v : Value} (h : Setting.NotSet v) (s : Section)
    (key : String) : ofSection (put key v s) = ofSection (s.without key) := by
  unfold ofSection
  simp only [Settings.decimal_get_put h, Settings.integer_get_put h]

/-- Two sections give the same settings of a run when they set the flag for messages alike and
differ at most in a setting that is not set. -/
theorem RunSettings.ofSection_put {v : Value} (h : Setting.NotSet v) (s : Section)
    {key : String} (hflag : Setting.flag (Section.get (put key v s) "verbose") false
      = Setting.flag ((s.without key).get "verbose") false) :
    ofSection (put key v s) = ofSection (s.without key) := by
  unfold ofSection
  simp only [Settings.decimal_get_put h, Settings.integer_get_put h, Settings.flag_true_get_put h,
    hflag]

/-- To the flag for messages a word for what is not set is as good as true. -/
theorem RunSettings.ofSection_put_verbose {t : String} (ht : Setting.Named t) (s : Section) :
    ofSection (put "verbose" (.str t) s) = ofSection (put "verbose" (.bool true) s) := by
  have hflag : Setting.flag (.str t) false = Setting.flag (.bool true) false :=
    Setting.flag_of_named ht false
  unfold ofSection
  simp only [Section.get_put, String.reduceEq, if_true, if_false, hflag]

namespace StoppingRule

variable {χ : Type} {v : Value}

/-- So is the stopping rule, if its threshold is. -/
theorem ofSection_put (h : Setting.NotSet v) (s : Section) {key : String}
    (hthreshold : Section.get (put key v s) "threshold" = (s.without key).get "threshold") :
    (ofSection (put key v s) : Except Failure (StoppingRule χ)) = ofSection (s.without key) := by
  unfold ofSection
  rw [Settings.integer?_get_put h, Settings.integer_get_put h, hthreshold]

/-- The rule of a section that has something in the place of a threshold. -/
theorem ofSection_eq_ofThreshold {s : Section} (h : s.get "threshold" ≠ .null) :
    (ofSection s : Except Failure (StoppingRule χ)) = (do
      let maximum ← Setting.integer? (s.get "max_iterations")
      let t ← Setting.decimal (s.get "threshold") 1e-4
      let minimum ← Setting.integer (s.get "min_iterations") 0
      ofThreshold (.float t) (.int minimum) (some (.int (maximum.getD 100)))) := by
  unfold ofSection
  refine congrArg (Except.bind _) (funext fun maximum => ?_)
  split
  next h' => exact absurd h' h
  next => rfl

/-- A text that says *not set* in the place of a threshold asks for the default threshold. -/
theorem ofSection_put_threshold (h : Setting.NotSet v) (hv : v ≠ .null) (s : Section) :
    (ofSection (put "threshold" v s) : Except Failure (StoppingRule χ))
      = ofSection (put "threshold" (.float 1e-4) s) := by
  have hget (x : Value) : Section.get (put "threshold" x s) "threshold" = x := by
    rw [Section.get_put, if_pos rfl]
  have hother {name : String} (hname : name ≠ "threshold") (x : Value) :
      Section.get (put "threshold" x s) name = s.get name := by
    rw [Section.get_put, if_neg hname]
  have hdecimal : Setting.decimal v 1e-4 = Setting.decimal (.float 1e-4) 1e-4 :=
    Setting.decimal_of_notSet h 1e-4
  rw [ofSection_eq_ofThreshold ((hget v).symm ▸ hv),
    ofSection_eq_ofThreshold (by rw [hget]; exact Value.noConfusion)]
  rw [hget, hget, hother (by decide), hother (by decide), hother (by decide), hother (by decide),
    hdecimal]

/-- Without a number of iterations there is a threshold, whether one was found or not. -/
theorem ofSection_put_of_no_iterations (h : Setting.NotSet v) (s : Section)
    (hmaximum : ∀ n, Setting.integer? (s.get "max_iterations") ≠ .ok (some n)) :
    (ofSection (put "threshold" v s) : Except Failure (StoppingRule χ))
      = ofSection (s.without "threshold") := by
  by_cases hv : v = .null
  · refine ofSection_put h s ?_
    rw [Section.get_put, Section.get_without, if_pos rfl, if_pos rfl, hv]
  · have hsame : Setting.integer? (Section.get (put "threshold" v s) "max_iterations")
        = Setting.integer? (s.get "max_iterations") := by
      rw [Section.get_put, if_neg (by decide)]
    have hfound : Section.get (put "threshold" v s) "threshold" = v := by
      rw [Section.get_put, if_pos rfl]
    have hleft : (s.without "threshold").get "threshold" = .null := by
      rw [Section.get_without, if_pos rfl]
    rw [ofSection_eq_ofThreshold (hfound.symm ▸ hv), hfound]
    unfold ofSection
    rw [← Settings.integer?_get_put h, ← Settings.integer_get_put h, hsame, hleft]
    -- Both rules look for a number of iterations first, and there is none.
    cases hread : Setting.integer? (s.get "max_iterations") with
    | error cause => rfl
    | ok maximum =>
      cases maximum with
      | some n => exact absurd hread (hmaximum n)
      | none =>
        dsimp only [bind, Except.bind]
        rw [Setting.decimal_of_notSet h, Setting.decimal_of_notSet .absent]

/-- Is the rule a number of iterations? -/
def isCount : StoppingRule χ → Bool
  | .iterations _ => true
  | _ => false

end StoppingRule

namespace Settings

variable {χ : Type}

/-- **The ways not to set a setting are one**, for every number that is read from a section. The
flag for messages takes the two words for true; any text in the place of a threshold asks for the
default one, which is what comes anyway unless a number of iterations is given. -/
theorem unset_alike (s : Section) (key : String) {v : Value} (h : Setting.NotSet v) :
    HyperSettings.ofSection (put key v s) = HyperSettings.ofSection (s.without key)
      ∧ (key ≠ "verbose" →
        RunSettings.ofSection (put key v s) = RunSettings.ofSection (s.without key))
      ∧ ((∀ t, v = .str t → ¬ Setting.Named t) →
        RunSettings.ofSection (put "verbose" v s) = RunSettings.ofSection (s.without "verbose"))
      ∧ (∀ t, v = .str t → Setting.Named t →
        RunSettings.ofSection (put "verbose" v s)
          = RunSettings.ofSection (put "verbose" (.bool true) s))
      ∧ (key ≠ "threshold" → (StoppingRule.ofSection (put key v s) : Except Failure (StoppingRule χ))
          = StoppingRule.ofSection (s.without key))
      ∧ ((v = .null ∨ ∀ n, Setting.integer? (s.get "max_iterations") ≠ .ok (some n)) →
        (StoppingRule.ofSection (put "threshold" v s) : Except Failure (StoppingRule χ))
          = StoppingRule.ofSection (s.without "threshold"))
      ∧ (v ≠ .null →
        (StoppingRule.ofSection (put "threshold" v s) : Except Failure (StoppingRule χ))
          = StoppingRule.ofSection (put "threshold" (.float 1e-4) s)) := by
  refine ⟨HyperSettings.ofSection_put h s key, fun hkey => ?_, fun hnamed => ?_,
    fun t hv hnamed => ?_, fun hkey => ?_, fun hnone => ?_,
    fun hv => StoppingRule.ofSection_put_threshold h hv s⟩
  · refine RunSettings.ofSection_put h s ?_
    rw [Section.get_put_eq_get_without (Ne.symm hkey)]
  · refine RunSettings.ofSection_put h s ?_
    cases h with
    | absent => exact Section.read_put (Setting.flag · false) rfl s "verbose" "verbose"
    | blank t ht =>
      exact Section.read_put (Setting.flag · false) (Setting.flag_of_allBlank ht false) s _ _
    | named t ht => exact absurd ht (hnamed t rfl)
  · subst hv
    exact RunSettings.ofSection_put_verbose hnamed s
  · refine StoppingRule.ofSection_put h s ?_
    exact Section.get_put_eq_get_without (Ne.symm hkey) v s
  · rcases hnone with rfl | hnone
    · refine StoppingRule.ofSection_put h s ?_
      rw [Section.get_put, Section.get_without, if_pos rfl]
    · exact StoppingRule.ofSection_put_of_no_iterations h s hnone

/-- One of the words, in mixed case and between blanks, for a prior, for the flag and for a
threshold with a number of iterations beside it. -/
theorem unset_alike_mixedCase :
    let v := Value.str " NuLL\t"
    let s : Section := [("a", .float 2), ("verbose", .bool false), ("max_iterations", .int 5)]
    Setting.NotSet v ∧ Setting.Named " NuLL\t" ∧ "a" ≠ "verbose" ∧ "a" ≠ "threshold" ∧ v ≠ .null
      ∧ HyperSettings.ofSection (put "a" v s) = HyperSettings.ofSection (s.without "a")
      ∧ RunSettings.ofSection (put "a" v s) = RunSettings.ofSection (s.without "a")
      ∧ RunSettings.ofSection (put "verbose" v s)
          = RunSettings.ofSection (put "verbose" (.bool true) s)
      ∧ (StoppingRule.ofSection (put "a" v s) : Except Failure (StoppingRule Float))
          = StoppingRule.ofSection (s.without "a")
      ∧ (StoppingRule.ofSection (put "threshold" v s) : Except Failure (StoppingRule Float))
          = StoppingRule.ofSection (put "threshold" (.float 1e-4) s) := by
  intro v s
  have hnamed : Setting.Named " NuLL\t" :=
    ⟨[' '], "NuLL".toList, ['\t'], by decide, by decide, by decide, Or.inr (by decide)⟩
  have h : Setting.NotSet v := .named _ hnamed
  obtain ⟨hprior, hrun, -, hverbose, hrule, -, hthreshold⟩ := @unset_alike Float s "a" v h
  exact ⟨h, hnamed, by decide, by decide, Value.noConfusion, hprior, hrun (by decide),
    hverbose _ rfl hnamed, hrule (by decide), hthreshold Value.noConfusion⟩

/-- A word for what is not set turns the flag for messages on, and a blank threshold keeps a number
of iterations from being all that counts; leaving them out does neither. -/
theorem unset_told_apart :
    Setting.NotSet (.str "none") ∧ Setting.NotSet (.str "")
      ∧ RunSettings.ofSection (put "verbose" (.str "none") [])
          ≠ RunSettings.ofSection (Section.without "verbose" [])
      ∧ (StoppingRule.ofSection (put "threshold" (.str "") [("max_iterations", .int 5)]) :
          Except Failure (StoppingRule Float))
          ≠ StoppingRule.ofSection (Section.without "threshold" [("max_iterations", .int 5)]) := by
  refine ⟨.named _ ⟨[], "none".toList, [], by decide, by decide, by decide, Or.inl (by decide)⟩,
    .blank _ (by decide), ?_, ?_⟩
  · intro h
    have hflags := congrArg (Except.map fun r => r.verbose.isTrue) h
    exact absurd hflags (by decide)
  · intro h
    have hrules := congrArg (Except.map StoppingRule.isCount) h
    exact absurd hrules (by decide)

end Settings

end PoissonFactor
