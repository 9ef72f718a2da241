import Mathlib.Logic.Equiv.Fin.Basic
import PoissonFactor.Proofs.Model.Columns

/-!
# The order of the draws

`State.start` names the place of every draw outright. This file says the same of two
other ways to the same start, both with a generator at hand that counts the draws it
has given:

* `State.inTurn` draws one number at a time, in the order the start is documented:
  for every user in turn a shape and a rate for each feature and then the activity
  shape, and after the users the items likewise;
* `State.inBlocks` draws all numbers of a side at once, cuts the block into rows and
  takes slices of two steps out of them.

A row takes `rowDraws k` draws in turn (`drawRow_run`), so a side takes as many times
that as it has rows, and the row with the number `i` begins behind the `i` rows before
it. Main result:

> `State.start_takes_stream`: both ways lead to `State.start`, and leave the generator
> behind the same draw; each draw until there belongs to exactly one entry, and no
> other draw to any.
-/

namespace PoissonFactor

/-! ## A generator -/

section

variable {α β : Type} {m n : Nat}

/-- The next draw. What is kept is how many draws were taken. -/
def nextDraw (draw : Nat → α) : StateM Nat α := do
  let taken ← get
  set (taken + 1)
  return draw taken

/-- The next `n` draws. -/
def drawBlock (draw : Nat → α) (n : Nat) : StateM Nat (Vector α n) :=
  Vector.ofFnM fun _ => nextDraw draw

/-- What is done for all `i` in turn, if each takes `width` draws. -/
theorem run_ofFnM (f : Fin n → StateM Nat β) (g : Fin n → β) (base width : Nat)
    (h : ∀ i : Fin n, (f i).run (base + i * width) = (g i, base + (i + 1) * width)) :
    (Vector.ofFnM f).run base = (Vector.ofFn g, base + n * width) := by
  induction n with
  | zero =>
    rw [Vector.ofFnM_zero, Nat.zero_mul]
    rfl
  | succ n ih =>
    have hinit := ih (fun i => f i.castSucc) (fun i => g i.castSucc) fun i => h i.castSucc
    have hlast := h (Fin.last n)
    rw [Fin.val_last] at hlast
    rw [Vector.ofFnM_succ, Vector.ofFn_succ, StateT.run_bind, hinit]
    -- What is left is the last one, pushed behind the others.
    show (fun r : β × Nat => ((Vector.ofFn fun i : Fin n => g i.castSucc).push r.1, r.2))
      ((f (Fin.last n)).run (base + n * width)) = _
    rw [hlast]
    rfl

/-- A block of draws takes as many as it is long. -/
theorem drawBlock_run (draw : Nat → α) (base : Nat) :
    (drawBlock draw n).run base = (Vector.ofFn fun j => draw (base + j), base + n) := by
  have hturn := run_ofFnM (fun _ : Fin n => nextDraw draw) (fun j => draw (base + j)) base 1
    fun j => by
      rw [Nat.mul_one, Nat.mul_one]
      rfl
  rw [Nat.mul_one] at hturn
  exact hturn

/-! ## Rows and slices of a block -/

/-- A block cut into `m` rows. -/
def Table.ofBlock (block : Vector α (m * n)) : Table α m n :=
  Table.ofFn fun i j => block[finProdFinEquiv (i, j)]

/-- How many of `start`, `start + step`, … lie before `stop`. -/
def sliceSize (start stop step : Nat) : Nat :=
  (stop - start + (step - 1)) / step

/-- Every place of a slice is in the row. -/
theorem lt_of_lt_sliceSize {start stop step i : Nat}
    (hi : i < sliceSize start (min stop n) step) : start + i * step < n := by
  unfold sliceSize at hi
  -- Steps of no length would make an empty slice.
  have hstep : 0 < step := by
    by_contra h
    rw [Nat.eq_zero_of_not_pos h, Nat.div_zero] at hi
    exact Nat.not_lt_zero i hi
  have hmul : (i + 1) * step ≤ min stop n - start + (step - 1) :=
    (Nat.le_div_iff_mul_le hstep).mp hi
  rw [Nat.succ_mul] at hmul
  omega

/-- The entries at `start`, `start + step`, … before `stop`. -/
def Row.slice (row : Vector α n) (start stop step : Nat) :
    Vector α (sliceSize start (min stop n) step) :=
  Vector.ofFn fun i => row[(⟨start + i * step, lt_of_lt_sliceSize i.isLt⟩ : Fin n)]

end

/-! ## What is drawn of a row -/

/-- An entry of a row that is drawn. -/
inductive Drawn (k : Nat) where
  | shape (j : Fin k)
  | rate (j : Fin k)
  | activity

namespace Drawn

variable {α : Type} {n k : Nat}

/-- The place of the draw among those of the row. -/
@[simp] def place : Drawn k → Fin (rowDraws k)
  | .shape j => ⟨2 * j, by unfold rowDraws; omega⟩
  | .rate j => ⟨2 * j + 1, by unfold rowDraws; omega⟩
  | .activity => ⟨2 * k, Nat.lt_succ_self (2 * k)⟩

/-- What the draw is added to. -/
@[simp] def least (prior : SidePrior α) : Drawn k → α
  | .shape _ => prior.shape
  | .rate _ => prior.activityShape
  | .activity => prior.activityShape

/-- What the draw is multiplied by. -/
@[simp] def reach (offsetShape offsetRate : α) : Drawn k → α
  | .shape _ => offsetShape
  | .rate _ => offsetRate
  | .activity => offsetShape

/-- The entry that a side has for it. -/
@[simp] def entry (f : Factor α n k) (i : Fin n) : Drawn k → α
  | .shape j => f.shape[i][j]
  | .rate j => f.rate[i][j]
  | .activity => f.activityShape[i]

/-- No two parameters take the same draw of a row. -/
theorem place_injective : Function.Injective (place : Drawn k → Fin (rowDraws k)) := by
  intro e e' h
  have hval : (place e).val = (place e').val := congrArg Fin.val h
  -- Odd places are rates, even ones shapes, and only the last is behind all of them.
  cases e <;> cases e' <;> simp only [place, shape.injEq, rate.injEq, Fin.ext_iff] at hval ⊢ <;>
    omega

/-- And every draw of a row is taken. -/
theorem place_surjective : Function.Surjective (place : Drawn k → Fin (rowDraws k)) := by
  intro x
  have hx : x < 2 * k + 1 := x.isLt
  rcases Nat.lt_or_ge x (2 * k) with hlt | hge
  · rcases Nat.mod_two_eq_zero_or_one x with heven | hodd
    · exact ⟨.shape ⟨x / 2, by omega⟩, Fin.ext (show 2 * (x / 2) = x.val by omega)⟩
    · exact ⟨.rate ⟨x / 2, by omega⟩, Fin.ext (show 2 * (x / 2) + 1 = x.val by omega)⟩
  · exact ⟨.activity, Fin.ext (show 2 * k = x.val by omega)⟩

end Drawn

/-- A side is told by what is drawn of its rows and the two arrays that are not drawn. -/
theorem Factor.eq_of_entries {α : Type} {n k : Nat} {f g : Factor α n k}
    (h : ∀ (i : Fin n) (e : Drawn k), e.entry f i = e.entry g i)
    (hrate : f.activityRate = g.activityRate) (hcounted : f.counted = g.counted) : f = g :=
  Factor.eq_of_arrays (Table.ext fun i j => h i (.shape j)) (Table.ext fun i j => h i (.rate j))
    (Row.ext fun i => h i .activity) hrate hcounted

/-! ## Two ways to a start -/

section

variable {α : Type} [Scalar α] {users items n k : Nat}

/-- Every other draw before the last is one for each feature, from the first on or the second. -/
theorem everyOther_size (k : Nat) {start : Nat} (h : start < 2) :
    sliceSize start (min (2 * k) (rowDraws k)) 2 = k := by
  unfold sliceSize rowDraws
  omega

/-- The start of one side from a table of its draws. -/
def Factor.ofDraws (prior : SidePrior α) (offsetShape offsetRate : α)
    (draws : Table α n (rowDraws k)) : Factor α n k where
  shape := draws.map fun row =>
    ((Row.slice row 0 (2 * k) 2).map (prior.shape + offsetShape * ·)).cast
      (everyOther_size k Nat.zero_lt_two)
  rate := draws.map fun row =>
    ((Row.slice row 1 (2 * k) 2).map (prior.activityShape + offsetRate * ·)).cast
      (everyOther_size k Nat.one_lt_two)
  activityShape := draws.map fun row =>
    prior.activityShape + offsetShape * row[(⟨2 * k, Nat.lt_succ_self (2 * k)⟩ : Fin (rowDraws k))]
  activityRate := Vector.replicate n (prior.activityShape + Scalar.ofNat k)
  counted := Table.constant prior.shape

/-- The start from one block of draws for each side. -/
def State.inBlocks (p : Problem α users items) (k : Nat) (draw : Nat → α) :
    StateM Nat (State α users items k) := do
  let userDraws ← drawBlock draw (users * rowDraws k)
  let itemDraws ← drawBlock draw (items * rowDraws k)
  return {
    users := .ofDraws p.userPrior p.offsetShape p.offsetRate (.ofBlock userDraws)
    items := .ofDraws p.itemPrior p.offsetShape p.offsetRate (.ofBlock itemDraws) }

/-- What is drawn of a row: for each feature its shape and its rate, then the activity shape. -/
def drawRow (prior : SidePrior α) (offsetShape offsetRate : α) (k : Nat) (draw : Nat → α) :
    StateM Nat (Vector (α × α) k × α) := do
  let features ← Vector.ofFnM fun _ => do
    let shape ← nextDraw draw
    let rate ← nextDraw draw
    return (prior.shape + offsetShape * shape, prior.activityShape + offsetRate * rate)
  let activity ← nextDraw draw
  return (features, prior.activityShape + offsetShape * activity)

/-- The start of one side from what was drawn of its rows. -/
def Factor.ofRows (prior : SidePrior α) (rows : Vector (Vector (α × α) k × α) n) :
    Factor α n k where
  shape := rows.map fun row => row.1.map Prod.fst
  rate := rows.map fun row => row.1.map Prod.snd
  activityShape := rows.map Prod.snd
  activityRate := Vector.replicate n (prior.activityShape + Scalar.ofNat k)
  counted := Table.constant prior.shape

/-- The start of one side, row by row. -/
def Factor.inTurn (prior : SidePrior α) (offsetShape offsetRate : α) (n k : Nat)
    (draw : Nat → α) : StateM Nat (Factor α n k) := do
  let rows ← Vector.ofFnM fun _ => drawRow prior offsetShape offsetRate k draw
  return .ofRows prior rows

/-- The start, the users first. -/
def State.inTurn (p : Problem α users items) (k : Nat) (draw : Nat → α) :
    StateM Nat (State α users items k) := do
  let users ← Factor.inTurn p.userPrior p.offsetShape p.offsetRate users k draw
  let items ← Factor.inTurn p.itemPrior p.offsetShape p.offsetRate items k draw
  return { users, items }

/-! ## Both lead to the same start -/

variable (prior : SidePrior α) (offsetShape offsetRate : α) (draw : Nat → α) (base : Nat)

/-- An entry of the start is its prior and its reach times the draw in its place. -/
theorem Factor.entry_start (i : Fin n) (e : Drawn k) :
    e.entry (.start prior offsetShape offsetRate draw base n k) i
      = e.least prior
        + e.reach offsetShape offsetRate * draw (base + i * rowDraws k + e.place) := by
  cases e with
  | shape j => exact Table.getElem_ofFn _ i j
  | rate j => exact Table.getElem_ofFn _ i j
  | activity => exact Row.getElem_ofFn _ i

/-- A parameter is its least value and its draw, scaled by its offset. -/
theorem Factor.entry_ofDraws (draws : Table α n (rowDraws k)) (i : Fin n) (e : Drawn k) :
    e.entry (.ofDraws prior offsetShape offsetRate draws) i
      = e.least prior + e.reach offsetShape offsetRate * draws[i][e.place] := by
  unfold Factor.ofDraws Row.slice
  cases e with
  | shape j => simp [Nat.mul_comm j.val 2]
  | rate j => simp [Nat.mul_comm j.val 2, Nat.add_comm 1]
  | activity => simp

/-- A block of the draws from `base` on, cut into rows. -/
theorem Factor.ofDraws_ofBlock :
    Factor.ofDraws prior offsetShape offsetRate
        (Table.ofBlock (Vector.ofFn fun j : Fin (n * rowDraws k) => draw (base + j)))
      = .start prior offsetShape offsetRate draw base n k := by
  apply Factor.eq_of_entries
  · intro i e
    rw [Factor.entry_ofDraws, Factor.entry_start]
    unfold Table.ofBlock
    rw [Table.getElem_ofFn, Row.getElem_ofFn, finProdFinEquiv_apply_val]
    congr 3
    ring
  · exact Row.ext fun i => by simp [Factor.ofDraws, Factor.start]
  · rfl

/-- What `drawRow` gives, `base` draws having been taken before. -/
def drawnRow (k : Nat) : Vector (α × α) k × α :=
  (Vector.ofFn fun j => (prior.shape + offsetShape * draw (base + 2 * j),
      prior.activityShape + offsetRate * draw (base + (2 * j + 1))),
    prior.activityShape + offsetShape * draw (base + 2 * k))

/-- A row takes its draws in turn. -/
theorem drawRow_run :
    (drawRow prior offsetShape offsetRate k draw).run base =
      (drawnRow prior offsetShape offsetRate draw base k, base + rowDraws k) := by
  have hfeatures := run_ofFnM
    (fun _ : Fin k => do
      let shape ← nextDraw draw
      let rate ← nextDraw draw
      return (prior.shape + offsetShape * shape, prior.activityShape + offsetRate * rate))
    (fun j => (prior.shape + offsetShape * draw (base + 2 * j),
      prior.activityShape + offsetRate * draw (base + (2 * j + 1)))) base 2 fun j => by
      rw [Nat.mul_comm j.val, Nat.mul_comm (j.val + 1)]
      rfl
  rw [Nat.mul_comm] at hfeatures
  unfold drawRow
  rw [StateT.run_bind, hfeatures]
  rfl

theorem Factor.entry_ofRows (i : Fin n) (e : Drawn k) :
    e.entry (.ofRows prior (Vector.ofFn fun i : Fin n =>
        drawnRow prior offsetShape offsetRate draw (base + i * rowDraws k) k)) i
      = e.least prior
        + e.reach offsetShape offsetRate * draw (base + i * rowDraws k + e.place) := by
  unfold Factor.ofRows drawnRow
  cases e with
  | shape j => simp
  | rate j => simp
  | activity => simp

/-- A side takes its rows in turn. -/
theorem Factor.inTurn_run :
    (Factor.inTurn prior offsetShape offsetRate n k draw).run base =
      (.start prior offsetShape offsetRate draw base n k, base + n * rowDraws k) := by
  have hrows := run_ofFnM (fun _ : Fin n => drawRow prior offsetShape offsetRate k draw)
    (fun i => drawnRow prior offsetShape offsetRate draw (base + i * rowDraws k) k)
    base (rowDraws k) fun i => by rw [drawRow_run, Nat.succ_mul, Nat.add_assoc]
  have hstart : Factor.ofRows prior (Vector.ofFn fun i : Fin n =>
      drawnRow prior offsetShape offsetRate draw (base + i * rowDraws k) k)
      = .start prior offsetShape offsetRate draw base n k := by
    apply Factor.eq_of_entries
    · intro i e
      rw [Factor.entry_ofRows, Factor.entry_start]
    · exact Row.ext fun i => by simp [Factor.ofRows, Factor.start]
    · rfl
  unfold Factor.inTurn
  rw [StateT.run_bind, hrows, ← hstart]
  rfl

/-- Row by row the start takes the draws that the closed form names. -/
theorem State.inTurn_run (p : Problem α users items) :
    (State.inTurn p k draw).run 0 = (.start p draw k, (users + items) * rowDraws k) := by
  unfold State.inTurn
  rw [StateT.run_bind, Factor.inTurn_run, Nat.zero_add, Nat.add_mul]
  show (fun r : Factor α items k × Nat => (State.mk _ r.1, r.2))
    ((Factor.inTurn p.itemPrior p.offsetShape p.offsetRate items k draw).run
      (users * rowDraws k)) = _
  rw [Factor.inTurn_run]
  rfl

/-- So it does block by block. -/
theorem State.inBlocks_run (p : Problem α users items) :
    (State.inBlocks p k draw).run 0 = (.start p draw k, (users + items) * rowDraws k) := by
  unfold State.inBlocks
  rw [StateT.run_bind, drawBlock_run, Nat.zero_add, Nat.add_mul]
  show (fun r : Vector α (items * rowDraws k) × Nat => (State.mk _ (Factor.ofDraws _ _ _
      (.ofBlock r.1)), r.2)) ((drawBlock draw (items * rowDraws k)).run (users * rowDraws k)) = _
  rw [drawBlock_run]
  dsimp only
  rw [Factor.ofDraws_ofBlock, Factor.ofDraws_ofBlock]
  rfl

/-! ## Which draw goes where -/

/-- A row's draws lie behind those of the rows before it. -/
theorem Drawn.place_lt (e : Drawn k) {i n : Nat} (hi : i < n) :
    i * rowDraws k + e.place < n * rowDraws k := by
  have hrows : (i + 1) * rowDraws k ≤ n * rowDraws k := Nat.mul_le_mul_right _ hi
  have hplace := e.place.isLt
  rw [Nat.succ_mul] at hrows
  omega

/-- A side reads no draw but its own. -/
theorem Factor.start_congr {draw draw' : Nat → α}
    (h : ∀ x, base ≤ x → x < base + n * rowDraws k → draw' x = draw x) :
    Factor.start prior offsetShape offsetRate draw' base n k
      = .start prior offsetShape offsetRate draw base n k := by
  refine Factor.eq_of_entries (fun i e => ?_) rfl rfl
  have hplace := e.place_lt i.isLt
  rw [Factor.entry_start, Factor.entry_start, h _ (by omega) (by omega)]

/-- The side that has one row of a side alone. -/
def Factor.only (f : Factor α n k) (i : Fin n) : Factor α 1 k where
  shape := Vector.replicate 1 f.shape[i]
  rate := Vector.replicate 1 f.rate[i]
  activityShape := Vector.replicate 1 f.activityShape[i]
  activityRate := Vector.replicate 1 f.activityRate[i]
  counted := Vector.replicate 1 f.counted[i]

/-- A row starts as it would alone, from the draws behind those of the rows before it. -/
theorem Factor.only_start (i : Fin n) :
    (Factor.start prior offsetShape offsetRate draw base n k).only i
      = .start prior offsetShape offsetRate draw (base + i * rowDraws k) 1 k := by
  refine Factor.eq_of_entries (fun x e => ?_) ?_ ?_
  · have hentry : e.entry ((Factor.start prior offsetShape offsetRate draw base n k).only i) x
        = e.entry (.start prior offsetShape offsetRate draw base n k) i := by
      cases e <;> simp [Factor.only]
    -- The side on the right has no row but the first.
    have hx : x.val = 0 := by omega
    rw [hentry, Factor.entry_start, Factor.entry_start, hx, Nat.zero_mul, Nat.add_zero]
  · exact Row.ext fun x => by simp [Factor.only, Factor.start]
  · exact Table.ext fun x j => by simp [Factor.only, Factor.start, Table.constant, Table.ofFn]

/-- The arrays of a side that are not drawn stand as the prior says. -/
structure Factor.Undrawn (f : Factor α n k) (prior : SidePrior α) : Prop where
  activityRate : ∀ i : Fin n, f.activityRate[i] = prior.activityShape + Scalar.ofNat k
  counted : ∀ (i : Fin n) (j : Fin k), f.counted[i][j] = prior.shape

theorem Factor.undrawn_start :
    (Factor.start prior offsetShape offsetRate draw base n k).Undrawn prior where
  activityRate i := Row.getElem_ofFn _ i
  counted i j := Table.getElem_constant _ i j

end

/-- A drawn entry of a start: the row it stands in, of either side, and what it is of the row. -/
abbrev DrawnEntry (users items k : Nat) : Type := (Fin users ⊕ Fin items) × Drawn k

namespace DrawnEntry

variable {α : Type} {users items k : Nat}

/-- The place of its draw. The items' rows come behind all of the users'. -/
def place : DrawnEntry users items k → Nat
  | (.inl u, e) => u * rowDraws k + e.place
  | (.inr i, e) => (users + i) * rowDraws k + e.place

/-- The entry itself. -/
def read (s : State α users items k) : DrawnEntry users items k → α
  | (.inl u, e) => e.entry s.users u
  | (.inr i, e) => e.entry s.items i

/-- What its draw is added to. -/
def least (p : Problem α users items) : DrawnEntry users items k → α
  | (.inl _, e) => e.least p.userPrior
  | (.inr _, e) => e.least p.itemPrior

/-- The place, as one of those that a start has. -/
def slot (c : DrawnEntry users items k) : Fin ((users + items) * rowDraws k) :=
  finProdFinEquiv (finSumFinEquiv c.1, c.2.place)

theorem slot_val (c : DrawnEntry users items k) : (slot c).val = place c := by
  obtain ⟨u | i, e⟩ := c
  · show e.place.val + rowDraws k * u.val = u.val * rowDraws k + e.place.val
    ring
  · show e.place.val + rowDraws k * (users + i.val) = (users + i.val) * rowDraws k + e.place.val
    ring

/-- **Every draw is used exactly once**, as rows and places are numbered one to one. -/
theorem slot_bijective :
    Function.Bijective (slot : DrawnEntry users items k → Fin ((users + items) * rowDraws k)) :=
  finProdFinEquiv.bijective.comp
    (finSumFinEquiv.bijective.prodMap ⟨Drawn.place_injective, Drawn.place_surjective⟩)

/-- No draw beyond the last is used. -/
theorem place_lt (c : DrawnEntry users items k) : place c < (users + items) * rowDraws k := by
  rw [← slot_val]
  exact (slot c).isLt

/-- Each draw of a start belongs to exactly one entry. -/
theorem existsUnique_place {x : Nat} (hx : x < (users + items) * rowDraws k) :
    ∃! c : DrawnEntry users items k, place c = x := by
  obtain ⟨c, hc, hunique⟩ := slot_bijective.existsUnique (⟨x, hx⟩ : Fin _)
  refine ⟨c, ?_, fun c' hc' => hunique c' (Fin.ext ?_)⟩
  · show place c = x
    rw [← slot_val, hc]
  · rw [slot_val, hc']

end DrawnEntry

namespace State

variable {α : Type} [Scalar α] {users items k : Nat}

/-- An entry of a start is its prior and its reach times the draw in its place. -/
theorem read_start (p : Problem α users items) (draw : Nat → α) (c : DrawnEntry users items k) :
    c.read (.start p draw k)
      = c.least p + c.2.reach p.offsetShape p.offsetRate * draw c.place := by
  obtain ⟨u | i, e⟩ := c
  · have h := Factor.entry_start p.userPrior p.offsetShape p.offsetRate draw 0 u e
    rw [Nat.zero_add] at h
    exact h
  · have h := Factor.entry_start p.itemPrior p.offsetShape p.offsetRate draw
      (users * rowDraws k) i e
    rw [← Nat.add_mul] at h
    exact h

/-- A start reads no draw behind those of its rows. -/
theorem start_congr (p : Problem α users items) {draw draw' : Nat → α}
    (h : ∀ x < (users + items) * rowDraws k, draw' x = draw x) :
    State.start p draw' k = State.start p draw k := by
  have husers : users * rowDraws k ≤ (users + items) * rowDraws k :=
    Nat.mul_le_mul_right _ (Nat.le_add_right users items)
  have hitems : (users + items) * rowDraws k = users * rowDraws k + items * rowDraws k :=
    Nat.add_mul _ _ _
  unfold State.start
  rw [Factor.start_congr _ _ _ _ fun x _ hx => h x (by omega),
    Factor.start_congr _ _ _ _ fun x _ hx => h x (by omega)]

/-- **A start takes the stream in the documented order.** Drawn one by one in turn, or in two
blocks that are cut up, it is the same start, and as many draws have been taken. An entry that is
drawn is its prior and its reach times the draw in its place; each of these draws has exactly one
such entry, and the start reads no other draw. What is not drawn stands as the prior says. The row
of a user is the same for any number of items and of users after it, and whatever is drawn
behind it. -/
theorem start_takes_stream (p : Problem α users items) (k : Nat) (draw : Nat → α) :
    let s : State α users items k := .start p draw k
    let size := (users + items) * rowDraws k
    ((State.inTurn p k draw).run 0 = (s, size) ∧ (State.inBlocks p k draw).run 0 = (s, size))
      ∧ (∀ c : DrawnEntry users items k,
        c.read s = c.least p + c.2.reach p.offsetShape p.offsetRate * draw c.place)
      ∧ ((∀ c : DrawnEntry users items k, c.place < size)
        ∧ ∀ x < size, ∃! c : DrawnEntry users items k, c.place = x)
      ∧ (s.users.Undrawn p.userPrior ∧ s.items.Undrawn p.itemPrior)
      ∧ (∀ draw' : Nat → α, (∀ x < size, draw' x = draw x) → State.start p draw' k = s)
      ∧ ∀ (users' items' : Nat) (p' : Problem α users' items') (draw' : Nat → α),
          p'.userPrior = p.userPrior → p'.offsetShape = p.offsetShape →
          p'.offsetRate = p.offsetRate →
          ∀ (u : Fin users) (u' : Fin users'), u'.val = u.val →
            (∀ x < (u + 1) * rowDraws k, draw' x = draw x) →
              (State.start p' draw' k).users.only u' = s.users.only u := by
  refine ⟨⟨inTurn_run draw p, inBlocks_run draw p⟩, read_start p draw,
    ⟨DrawnEntry.place_lt, fun x => DrawnEntry.existsUnique_place⟩,
    ⟨Factor.undrawn_start _ _ _ _ _, Factor.undrawn_start _ _ _ _ _⟩,
    fun draw' => start_congr p, ?_⟩
  intro users' items' p' draw' hprior hshape hrate u u' hu hdraw
  show (Factor.start p'.userPrior p'.offsetShape p'.offsetRate draw' 0 users' k).only u'
    = (Factor.start p.userPrior p.offsetShape p.offsetRate draw 0 users k).only u
  rw [Factor.only_start, Factor.only_start, hprior, hshape, hrate, hu]
  refine Factor.start_congr _ _ _ _ fun x _ hx => hdraw x ?_
  rw [Nat.succ_mul]
  omega

/-- A problem without ratings. -/
noncomputable def unrated (users items : Nat) : Problem ℝ users items where
  userPrior := { shape := 1, activityShape := 1, activityRate := 1 }
  itemPrior := { shape := 1, activityShape := 1, activityRate := 1 }
  offsetShape := 1
  offsetRate := 1
  train := []
  validation := []
  hits := true

theorem start_takes_stream_unrated :
    letI : SpecialFunctions := .gamma
    let upTo (m : Nat) : Nat → ℝ := fun x => if x < m then x else 0
    (∀ x < (2 + 1) * rowDraws 2, upTo 16 x = upTo 15 x)
      ∧ State.start (unrated 2 1) (upTo 16) 2 = State.start (unrated 2 1) (upTo 15) 2
      ∧ (∀ x < (0 + 1) * rowDraws 2, upTo 5 x = upTo 15 x)
      ∧ (State.start (unrated 1 0) (upTo 5) 2).users.only 0
        = (State.start (unrated 2 1) (upTo 15) 2).users.only 0 := by
  let _ : SpecialFunctions := .gamma
  intro upTo
  obtain ⟨-, -, -, -, hall, hrow⟩ := start_takes_stream (unrated 2 1) 2 (upTo 15)
  have hstart : ∀ x < (2 + 1) * rowDraws 2, upTo 16 x = upTo 15 x := by
    intro x hx
    have hlt : x < 15 := hx
    exact (if_pos (by omega)).trans (if_pos hlt).symm
  have hfirst : ∀ x < (0 + 1) * rowDraws 2, upTo 5 x = upTo 15 x := by
    intro x hx
    have hlt : x < 5 := hx
    exact (if_pos hlt).trans (if_pos (by omega)).symm
  exact ⟨hstart, hall _ hstart, hfirst, hrow 1 0 (unrated 1 0) _ rfl rfl rfl 0 0 rfl hfirst⟩

end State

end PoissonFactor
