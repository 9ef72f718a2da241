import PoissonFactor.Proofs.Outcome
import PoissonFactor.Training.Session

/-!
# Rows found by number

A checked rating holds its rows, an unchecked one only their numbers. Here the two phases that
look into the tables, counting and evaluating, are carried out on unchecked ratings, and each
table is asked for its row by number. How it answers is an `Addressing`: tables may take a
number as it stands or let a negative one count from the end.

> `Rows.countBy_eq` and `Rows.averageLogLikelihoodBy_eq`: on the numbers of checked ratings
> every table has the row, whichever way it is asked, and the phases are those of the checked
> ratings.
-/

namespace PoissonFactor

/-- How a table of `n` rows finds the row of a number. -/
abbrev Addressing := (n : Nat) → Int → Except Failure (Fin n)

namespace Addressing

/-- A number is taken as it stands: there is no row below zero. -/
def plain : Addressing := fun n i =>
  if h : 0 ≤ i ∧ i < n then .ok ⟨i.toNat, by omega⟩ else .error (.axisOutOfBounds i 0 n)

/-- A negative number counts from the end. -/
def wrapping : Addressing := State.position 0

/-- Every row is found by its own number. -/
def FindsRows (address : Addressing) : Prop :=
  ∀ n (i : Fin n), address n i.val = .ok i

/-- Plain addressing finds a row that is there. -/
theorem plain_findsRows : plain.FindsRows := by
  intro n i
  have hi : (0 : Int) ≤ i.val ∧ (i.val : Int) < n := by
    have hlt := i.isLt
    omega
  unfold plain
  rw [dif_pos hi]
  rfl

/-- So does addressing that counts from the end. -/
theorem wrapping_findsRows : wrapping.FindsRows := by
  intro n i
  have hlt := i.isLt
  have hneg : ¬ (i.val : Int) < 0 := by omega
  have hi : (0 : Int) ≤ i.val ∧ (i.val : Int) < n := by omega
  unfold wrapping State.position
  simp only [if_neg hneg]
  rw [dif_pos hi]
  rfl

end Addressing

/-! ## Ratings by number -/

/-- A checked rating by the numbers of its rows. -/
def Observation.numbered {users items : Nat} (o : Observation Float users items) : Rating :=
  ⟨o.user.val, o.item.val, o.value⟩

/-- Ratings that were located are the numbers of what was found. -/
theorem Split.numbered_of_locate {part : Part} {users items : Nat} {ratings : List Rating}
    {observations : List (Observation Float users items)}
    (h : locate part users items ratings = .ok observations) :
    ratings = observations.map Observation.numbered := by
  induction ratings generalizing observations with
  | nil =>
    cases h
    rfl
  | cons r rest ih =>
    unfold locate at h
    by_cases hu : 0 ≤ r.user ∧ r.user < users
    · rw [dif_pos hu] at h
      by_cases hi : 0 ≤ r.item ∧ r.item < items
      · rw [dif_pos hi] at h
        obtain ⟨tail, htail, h⟩ := bind_eq_ok_iff.mp h
        cases h
        have hr : r = ⟨(r.user.toNat : Int), (r.item.toNat : Int), r.value⟩ := by
          rw [Int.toNat_of_nonneg hu.1, Int.toNat_of_nonneg hi.1]
        rw [List.map_cons, ← ih htail]
        exact congrArg (· :: rest) hr
      · rw [dif_neg hi] at h
        cases h
    · rw [dif_neg hu] at h
      cases h

/-! ## Phases by number -/

namespace Rows

variable {users items k : Nat}

/-- The shares of a rating, from the rows of its numbers. -/
def sharesBy (address : Addressing) (s : State Float users items k) (r : Rating) :
    Except Failure (Vector Float k) := do
  let user ← address users r.user
  let item ← address items r.item
  return shares s ⟨user, item, r.value⟩

/-- Adds a row of shares to the row of a number. -/
def addRowBy {n : Nat} (address : Addressing) (t : Table Float n k) (i : Int)
    (row : Vector Float k) : Except Failure (Table Float n k) := do
  return addRow t (← address n i) row

/-- Counts ratings by the numbers of their rows. All shares are taken before any is added. -/
def countBy (address : Addressing) (ratings : List Rating) (s : State Float users items k) :
    Except Failure (State Float users items k) := do
  let observed := ratings.filter fun r => Scalar.below Scalar.zero r.value
  let shared ← observed.mapM fun r => do return (r, ← sharesBy address s r)
  let countedUsers ← shared.foldlM (fun t (r, row) => addRowBy address t r.user row) s.users.counted
  let countedItems ← shared.foldlM (fun t (r, row) => addRowBy address t r.item row) s.items.counted
  return { users := { s.users with counted := countedUsers }
           items := { s.items with counted := countedItems } }

/-- The log-likelihood of a held-out rating, from the rows of its numbers. -/
def logLikelihoodBy (address : Addressing) (hits : Bool) (s : State Float users items k)
    (r : Rating) : Except Failure Float := do
  let user ← address users r.user
  let item ← address items r.item
  return logLikelihood hits r.value (pairRate s user item)

/-- The mean log-likelihood of held-out ratings by the numbers of their rows. -/
def averageLogLikelihoodBy (address : Addressing) (hits : Bool) (ratings : List Rating)
    (s : State Float users items k) : Except Failure Float := do
  let terms ← ratings.mapM (logLikelihoodBy address hits s)
  return Scalar.sum terms / Scalar.ofNat ratings.length

variable {address : Addressing}

/-- Shares are those of the rows that the numbers stand for. -/
theorem sharesBy_numbered (haddress : address.FindsRows) (s : State Float users items k)
    (o : Observation Float users items) : sharesBy address s o.numbered = .ok (shares s o) := by
  unfold sharesBy Observation.numbered
  dsimp only
  rw [haddress users o.user, haddress items o.item]
  rfl

/-- So are likelihoods. -/
theorem logLikelihoodBy_numbered (haddress : address.FindsRows) (hits : Bool)
    (s : State Float users items k) (o : Observation Float users items) :
    logLikelihoodBy address hits s o.numbered
      = .ok (logLikelihood hits o.value (pairRate s o.user o.item)) := by
  unfold logLikelihoodBy Observation.numbered
  dsimp only
  rw [haddress users o.user, haddress items o.item]
  rfl

/-- Adding rows one after the other, each to the row of its number. -/
theorem foldlM_addRowBy (haddress : address.FindsRows) {n : Nat}
    (side : Observation Float users items → Fin n) (number : Rating → Int)
    (hside : ∀ o : Observation Float users items, number o.numbered = (side o).val)
    (shared : List (Observation Float users items × Vector Float k)) (t : Table Float n k) :
    (shared.map fun e => (e.1.numbered, e.2)).foldlM
        (fun t (e : Rating × Vector Float k) => addRowBy address t (number e.1) e.2) t
      = .ok (shared.foldl (fun t e => addRow t (side e.1) e.2) t) := by
  induction shared generalizing t with
  | nil => rfl
  | cons e rest ih =>
    have hrow : addRowBy address t (number e.1.numbered) e.2 = .ok (addRow t (side e.1) e.2) := by
      unfold addRowBy
      rw [hside, haddress n (side e.1)]
      rfl
    rw [List.map_cons, List.foldlM_cons, List.foldl_cons, hrow]
    exact ih _

/-- Counting by number is counting. -/
theorem countBy_eq (haddress : address.FindsRows) (p : Problem Float users items)
    (s : State Float users items k) :
    countBy address (p.train.map Observation.numbered) s = .ok (count p s) := by
  -- Three passes over the same ratings: what counts, its shares, and the sums of either side.
  have hobserved : (p.train.map Observation.numbered).filter
        (fun r => Scalar.below Scalar.zero r.value)
      = (p.train.filter counts).map Observation.numbered := List.filter_map
  have hshared : ((p.train.filter counts).map Observation.numbered).mapM
        (fun r => do return (r, ← sharesBy address s r))
      = (.ok (((p.train.filter counts).map fun o => (o, shares s o)).map
          fun e => (e.1.numbered, e.2)) : Except Failure (List (Rating × Vector Float k))) := by
    rw [List.mapM_map, List.map_map]
    refine Eq.trans ?_ List.mapM_pure
    refine congrArg (fun f => List.mapM f _) (funext fun o => ?_)
    rw [Function.comp_apply, sharesBy_numbered haddress]
    rfl
  have husers := foldlM_addRowBy haddress Observation.user Rating.user (fun _ => rfl)
    ((p.train.filter counts).map fun o => (o, shares s o)) s.users.counted
  have hitems := foldlM_addRowBy haddress Observation.item Rating.item (fun _ => rfl)
    ((p.train.filter counts).map fun o => (o, shares s o)) s.items.counted
  unfold countBy
  rw [hobserved]
  exact bind_eq_ok_iff.mpr ⟨_, hshared, bind_eq_ok_iff.mpr ⟨_, husers,
    bind_eq_ok_iff.mpr ⟨_, hitems, rfl⟩⟩⟩

/-- Evaluating by number is evaluating. -/
theorem averageLogLikelihoodBy_eq (haddress : address.FindsRows) (p : Problem Float users items)
    (s : State Float users items k) :
    averageLogLikelihoodBy address p.hits (p.validation.map Observation.numbered) s
      = .ok (averageLogLikelihood p s) := by
  have hterms : (p.validation.map Observation.numbered).mapM (logLikelihoodBy address p.hits s)
      = .ok (p.validation.map fun o =>
          logLikelihood p.hits o.value (pairRate s o.user o.item)) := by
    rw [List.mapM_map]
    refine Eq.trans ?_ List.mapM_pure
    refine congrArg (fun f => List.mapM f _) (funext fun o => ?_)
    rw [Function.comp_apply, logLikelihoodBy_numbered haddress]
    rfl
  unfold averageLogLikelihoodBy
  rw [hterms, List.length_map]
  rfl

end Rows

end PoissonFactor
