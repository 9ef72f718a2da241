import PoissonFactor.Table.Records

/-!
# Written records

Here records are written: every field in double quotes, the quotes it holds twice, commas between
the fields and a line break behind the last. Reading undoes that, whatever the fields hold:

> `Records.read_write`: records that are written are read as they were.

> `Records.read_write_tooLong`: of a record with a field beyond the limit nothing is read, nor of
> what follows it.

Inside quotes the reader is in a mode of its own, so that commas and line breaks stay what they
are (`Records.readFrom_doubled`).
-/

namespace PoissonFactor

namespace Records

/-! ## Writing -/

/-- A text with its double quotes written twice. -/
def doubled (cs : List Char) : List Char :=
  cs.flatMap fun c => if c = '"' then ['"', '"'] else [c]

/-- A field in double quotes. -/
def quoted (cs : List Char) : List Char :=
  '"' :: doubled cs ++ ['"']

/-- The fields of a record with commas between them. -/
def writeFields : Record → List Char
  | [] => []
  | [f] => quoted f
  | f :: fs => quoted f ++ ',' :: writeFields fs

/-- Records, each on a line of its own. -/
def write (lineEnd : List Char) (records : List Record) : List Char :=
  records.flatMap fun r => writeFields r ++ lineEnd

/-- A line ends with a line feed or with a carriage return and a line feed. -/
def IsLineEnd (lineEnd : List Char) : Prop :=
  lineEnd = ['\n'] ∨ lineEnd = ['\r', '\n']

theorem doubled_cons (c : Char) (cs : List Char) :
    doubled (c :: cs) = (if c = '"' then ['"', '"'] else [c]) ++ doubled cs := rfl

theorem quoted_append (cs rest : List Char) :
    quoted cs ++ rest = '"' :: (doubled cs ++ '"' :: rest) := by
  unfold quoted
  simp

theorem write_cons (lineEnd : List Char) (r : Record) (records : List Record) :
    write lineEnd (r :: records) = writeFields r ++ (lineEnd ++ write lineEnd records) := by
  unfold write
  rw [List.flatMap_cons, List.append_assoc]

/-! ## One character -/

section

variable {atEnd : Mode → OpenRecord → List Record} {mode mode' : Mode} {p p' : OpenRecord}
  {c : Char}

/-- Within a line the reader goes on. -/
theorem readFrom_cons {rest : List Char} (h : readChar mode p c = .ok (mode', p'))
    (hend : (endsLine c rest && mode' != .inQuotes) = false) :
    readFrom atEnd mode p (c :: rest) = readFrom atEnd mode' p' rest := by
  rw [readFrom, h]
  dsimp only
  rw [hend]
  rfl

/-- At the end of a line there is a record. -/
theorem readFrom_cons_end {rest : List Char} (h : readChar mode p c = .ok (mode', p'))
    (hend : (endsLine c rest && mode' != .inQuotes) = true) :
    readFrom atEnd mode p (c :: rest)
      = (p'.fields.reverse :: (readFrom atEnd .startRecord .empty rest).1,
          (readFrom atEnd .startRecord .empty rest).2) := by
  rw [readFrom, h]
  dsimp only
  rw [hend]
  rfl

theorem readFrom_cons_error {rest : List Char} {cause : Failure}
    (h : readChar mode p c = .error cause) :
    readFrom atEnd mode p (c :: rest) = ([], some cause) := by
  rw [readFrom, h]

end

/-- What has been read once more characters have been added to the field. -/
def OpenRecord.extend (p : OpenRecord) (cs : List Char) : OpenRecord :=
  { p with field := cs.reverse ++ p.field, length := p.length + cs.length }

theorem OpenRecord.add_eq_ok {p : OpenRecord} (h : p.length < fieldLimit) (c : Char) :
    p.add c = .ok { p with field := c :: p.field, length := p.length + 1 } :=
  if_neg (Nat.not_le_of_lt h)

theorem OpenRecord.add_eq_error {p : OpenRecord} (h : fieldLimit ≤ p.length) (c : Char) :
    p.add c = .error (.fieldTooLarge fieldLimit) :=
  if_pos h

theorem OpenRecord.extend_cons (p : OpenRecord) (c : Char) (cs : List Char) :
    p.extend (c :: cs)
      = OpenRecord.extend { p with field := c :: p.field, length := p.length + 1 } cs := by
  unfold extend
  dsimp only
  rw [List.reverse_cons, List.append_assoc, List.length_cons, Nat.add_assoc, Nat.add_comm 1]
  rfl

/-! ## One field -/

section

variable {atEnd : Mode → OpenRecord → List Record} {p : OpenRecord}

/-- Inside quotes a character is added, whatever it is. -/
theorem readFrom_inQuotes_cons (h : p.length < fieldLimit) (c : Char) (cs rest : List Char) :
    readFrom atEnd .inQuotes p (doubled (c :: cs) ++ rest)
      = readFrom atEnd .inQuotes { p with field := c :: p.field, length := p.length + 1 }
          (doubled cs ++ rest) := by
  have hadd := p.add_eq_ok h c
  rw [doubled_cons]
  by_cases hc : c = '"'
  · -- A double quote comes as two, and only the second is added.
    subst hc
    rw [if_pos rfl]
    have hfirst : readChar .inQuotes p '"' = .ok (.afterQuote, p) := rfl
    have hsecond : readChar .afterQuote p '"'
        = .ok (.inQuotes, { p with field := '"' :: p.field, length := p.length + 1 }) := by
      unfold readChar
      rw [if_pos rfl, hadd]
      rfl
    exact (readFrom_cons hfirst rfl).trans (readFrom_cons hsecond rfl)
  · rw [if_neg hc]
    have hchar : readChar .inQuotes p c
        = .ok (.inQuotes, { p with field := c :: p.field, length := p.length + 1 }) := by
      unfold readChar
      rw [if_neg hc, hadd]
      rfl
    exact readFrom_cons hchar (Bool.and_false _)

/-- The rest of a field within the limit is read up to its closing quote. -/
theorem readFrom_doubled {cs : List Char} (h : p.length + cs.length ≤ fieldLimit)
    (rest : List Char) :
    readFrom atEnd .inQuotes p (doubled cs ++ '"' :: rest)
      = readFrom atEnd .afterQuote (p.extend cs) rest := by
  induction cs generalizing p with
  | nil => exact readFrom_cons rfl rfl
  | cons c cs ih =>
    rw [List.length_cons] at h
    rw [readFrom_inQuotes_cons (by omega), OpenRecord.extend_cons]
    exact ih (by dsimp only; omega)

/-- A field beyond the limit is not read to its end. -/
theorem readFrom_doubled_tooLong {cs : List Char} (hp : p.length ≤ fieldLimit)
    (h : fieldLimit < p.length + cs.length) (rest : List Char) :
    readFrom atEnd .inQuotes p (doubled cs ++ rest)
      = ([], some (.fieldTooLarge fieldLimit)) := by
  induction cs generalizing p with
  | nil =>
    rw [List.length_nil] at h
    omega
  | cons c cs ih =>
    rw [List.length_cons] at h
    by_cases hlt : p.length < fieldLimit
    · rw [readFrom_inQuotes_cons hlt]
      exact ih (by dsimp only; omega) (by dsimp only; omega)
    · -- The field is full, and the next character is one too many.
      have hadd := OpenRecord.add_eq_error (Nat.le_of_not_lt hlt) c
      rw [doubled_cons]
      by_cases hc : c = '"'
      · subst hc
        rw [if_pos rfl]
        have hsecond : readChar .afterQuote p '"' = .error (.fieldTooLarge fieldLimit) := by
          unfold readChar
          rw [if_pos rfl, hadd]
          rfl
        exact (readFrom_cons rfl rfl).trans (readFrom_cons_error hsecond)
      · rw [if_neg hc]
        have hchar : readChar .inQuotes p c = .error (.fieldTooLarge fieldLimit) := by
          unfold readChar
          rw [if_neg hc, hadd]
          rfl
        exact readFrom_cons_error hchar

end

/-- The reader stands in front of a field. -/
def Mode.IsStart (mode : Mode) : Prop :=
  mode = .startRecord ∨ mode = .startField

section

variable {atEnd : Mode → OpenRecord → List Record} {mode : Mode} {before : Record}

theorem readFrom_openQuote (hmode : mode.IsStart) (rest : List Char) :
    readFrom atEnd mode ⟨[], 0, before⟩ ('"' :: rest)
      = readFrom atEnd .inQuotes ⟨[], 0, before⟩ rest := by
  rcases hmode with rfl | rfl
  · exact readFrom_cons rfl rfl
  · exact readFrom_cons rfl rfl

/-- A quoted field is read up to behind its closing quote. -/
theorem readFrom_quoted (hmode : mode.IsStart) {cs : List Char} (h : cs.length ≤ fieldLimit)
    (rest : List Char) :
    readFrom atEnd mode ⟨[], 0, before⟩ (quoted cs ++ rest)
      = readFrom atEnd .afterQuote ⟨cs.reverse, cs.length, before⟩ rest := by
  have hp : (⟨[], 0, before⟩ : OpenRecord).extend cs = ⟨cs.reverse, cs.length, before⟩ := by
    unfold OpenRecord.extend
    dsimp only
    rw [List.append_nil, Nat.zero_add]
  rw [quoted_append, readFrom_openQuote hmode, ← hp]
  exact readFrom_doubled (by dsimp only; omega) rest

/-- A field that a comma follows. -/
theorem readFrom_quoted_comma (hmode : mode.IsStart) {cs : List Char} (h : cs.length ≤ fieldLimit)
    (rest : List Char) :
    readFrom atEnd mode ⟨[], 0, before⟩ (quoted cs ++ ',' :: rest)
      = readFrom atEnd .startField ⟨[], 0, cs :: before⟩ rest := by
  rw [readFrom_quoted hmode h]
  refine (readFrom_cons rfl rfl).trans ?_
  unfold OpenRecord.save
  rw [List.reverse_reverse]

/-- A field that ends its line. -/
theorem readFrom_quoted_lineEnd (hmode : mode.IsStart) {cs lineEnd : List Char}
    (h : cs.length ≤ fieldLimit) (hend : IsLineEnd lineEnd) (rest : List Char) :
    readFrom atEnd mode ⟨[], 0, before⟩ (quoted cs ++ (lineEnd ++ rest))
      = ((cs :: before).reverse :: (readFrom atEnd .startRecord .empty rest).1,
          (readFrom atEnd .startRecord .empty rest).2) := by
  rw [readFrom_quoted hmode h]
  have hsave : (OpenRecord.save ⟨cs.reverse, cs.length, before⟩).fields = cs :: before := by
    unfold OpenRecord.save
    rw [List.reverse_reverse]
  rw [← hsave]
  rcases hend with rfl | rfl
  · exact readFrom_cons_end rfl rfl
  · exact (readFrom_cons rfl rfl).trans (readFrom_cons_end rfl rfl)

/-! ## One record -/

/-- The fields of a line are read one after the other. -/
theorem readFrom_writeFields (hmode : mode.IsStart) {lineEnd : List Char} (hend : IsLineEnd lineEnd)
    {fs : Record} (hfs : fs ≠ []) (h : ∀ f ∈ fs, f.length ≤ fieldLimit) (rest : List Char) :
    readFrom atEnd mode ⟨[], 0, before⟩ (writeFields fs ++ (lineEnd ++ rest))
      = ((before.reverse ++ fs) :: (readFrom atEnd .startRecord .empty rest).1,
          (readFrom atEnd .startRecord .empty rest).2) := by
  induction fs generalizing mode before with
  | nil => exact absurd rfl hfs
  | cons f fs ih =>
    have hf := h f List.mem_cons_self
    cases fs with
    | nil =>
      unfold writeFields
      rw [readFrom_quoted_lineEnd hmode hf hend, List.reverse_cons]
    | cons g gs =>
      unfold writeFields
      rw [List.append_assoc, List.cons_append, readFrom_quoted_comma hmode hf,
        ih (Or.inr rfl) (List.cons_ne_nil g gs) fun x hx => h x (List.mem_cons_of_mem f hx),
        List.reverse_cons, List.append_assoc]
      rfl

/-- A line with a field beyond the limit is not read to its end. -/
theorem readFrom_writeFields_tooLong (hmode : mode.IsStart) {fs : Record}
    (h : ∃ f ∈ fs, fieldLimit < f.length) (rest : List Char) :
    readFrom atEnd mode ⟨[], 0, before⟩ (writeFields fs ++ rest)
      = ([], some (.fieldTooLarge fieldLimit)) := by
  induction fs generalizing mode before with
  | nil =>
    obtain ⟨f, hf, -⟩ := h
    exact absurd hf List.not_mem_nil
  | cons f fs ih =>
    by_cases hf : f.length ≤ fieldLimit
    · -- The field is another one, and this one is not the last.
      obtain ⟨x, hx, hlong⟩ := h
      rcases List.mem_cons.mp hx with rfl | hx
      · omega
      cases fs with
      | nil => exact absurd hx List.not_mem_nil
      | cons g gs =>
        unfold writeFields
        rw [List.append_assoc, List.cons_append, readFrom_quoted_comma hmode hf]
        exact ih (Or.inr rfl) ⟨x, hx, hlong⟩
    · obtain ⟨tail, htail⟩ : ∃ tail, writeFields (f :: fs) ++ rest = quoted f ++ tail := by
        cases fs with
        | nil => exact ⟨rest, rfl⟩
        | cons g gs => exact ⟨_, List.append_assoc _ _ rest⟩
      rw [htail, quoted_append, readFrom_openQuote hmode]
      exact readFrom_doubled_tooLong (Nat.zero_le _) (by dsimp only; omega) _

end

/-! ## Many records -/

/-- **Records that are written are read as they were**, whatever the fields hold. -/
theorem read_write {lineEnd : List Char} (hend : IsLineEnd lineEnd) {records : List Record}
    (hrecords : ∀ r ∈ records, r ≠ []) (hlimit : ∀ r ∈ records, ∀ f ∈ r, f.length ≤ fieldLimit) :
    read (write lineEnd records) = (records, none) := by
  induction records with
  | nil => rfl
  | cons r records ih =>
    have hrest := ih (fun x hx => hrecords x (List.mem_cons_of_mem r hx))
      fun x hx => hlimit x (List.mem_cons_of_mem r hx)
    unfold read at hrest ⊢
    rw [write_cons]
    refine (readFrom_writeFields (Or.inl rfl) hend (hrecords r List.mem_cons_self)
      (hlimit r List.mem_cons_self) _).trans ?_
    rw [hrest]
    rfl

/-- Nothing is read of a table whose first record has a field beyond the limit. -/
theorem read_write_tooLong (lineEnd : List Char) {r : Record} (h : ∃ f ∈ r, fieldLimit < f.length)
    (records : List Record) :
    read (write lineEnd (r :: records)) = ([], some (.fieldTooLarge fieldLimit)) := by
  unfold read
  rw [write_cons]
  exact readFrom_writeFields_tooLong (Or.inl rfl) h _

end Records

end PoissonFactor
