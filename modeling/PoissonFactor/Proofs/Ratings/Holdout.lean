import Mathlib.Data.Fin.VecNotation
import Mathlib.Data.Fintype.Card
import PoissonFactor.Proofs.Ratings.KeyIndex
import PoissonFactor.Ratings.Holdout

/-!
# A split loses nothing

Holding out is a choice of positions, made before any row is looked at. The rows at these
positions are the validation ratings and the others the training ratings, in their order
and with their repetitions:

> `Split.holdOut_partitions`: for rows with comparable identifiers the split exists, every
> row is in the part its position belongs to and can be read back from its rating, and the
> indexes number the identifiers of the rows and no others.

What it takes for a split to exist is said once (`Split.holdOut_eq_ok_iff`), for rows given by
their positions.
-/

namespace PoissonFactor

/-- The shuffled order has every number below `n` once. -/
theorem Random.order_perm (seed n : Nat) : (order seed n).Perm (List.range n) := by
  have h := (shuffle_perm seed (Array.range n)).toList
  rwa [Array.toList_range] at h

namespace Split

/-! ## The positions held out -/

/-- Not all ratings are held out. -/
theorem heldOutCount_lt {n : Nat} (hn : 0 < n) (share : Float) : heldOutCount n share < n := by
  unfold heldOutCount
  omega

/-- No rating is held out twice, as a shuffle repeats none. -/
theorem nodup_heldOut (seed n : Nat) (share : Float) : (heldOut seed n share).Nodup :=
  ((Random.order_perm seed n).nodup_iff.mpr List.nodup_range).sublist (List.take_sublist _ _)

theorem lt_of_mem_heldOut {seed n : Nat} {share : Float} {i : Nat}
    (h : i ∈ heldOut seed n share) : i < n :=
  List.mem_range.mp ((Random.order_perm seed n).mem_iff.mp (List.mem_of_mem_take h))

/-- As many are held out as the share says. -/
theorem length_heldOut (seed : Nat) {n : Nat} (hn : 0 < n) (share : Float) :
    (heldOut seed n share).length = heldOutCount n share := by
  unfold heldOut
  rw [List.length_take, (Random.order_perm seed n).length_eq, List.length_range]
  exact min_eq_left (heldOutCount_lt hn share).le

/-- The positions held out, among those of `n` rows. -/
def heldOutAt (seed n : Nat) (share : Float) : Finset (Fin n) :=
  Finset.univ.filter fun i => i.val ∈ heldOut seed n share

@[simp] theorem mem_heldOutAt {seed n : Nat} {share : Float} {i : Fin n} :
    i ∈ heldOutAt seed n share ↔ i.val ∈ heldOut seed n share := by
  simp [heldOutAt]

/-- So the set of positions has this size. -/
theorem card_heldOutAt (seed : Nat) {n : Nat} (hn : 0 < n) (share : Float) :
    (heldOutAt seed n share).card = heldOutCount n share := by
  have himage : (heldOutAt seed n share).map Fin.valEmbedding
      = (heldOut seed n share).toFinset := by
    ext i
    simp only [Finset.mem_map, mem_heldOutAt, Fin.valEmbedding_apply, List.mem_toFinset]
    constructor
    · rintro ⟨j, hj, rfl⟩
      exact hj
    · intro hi
      exact ⟨⟨i, lt_of_mem_heldOut hi⟩, hi, rfl⟩
  rw [← Finset.card_map, himage, List.toFinset_card_of_nodup (nodup_heldOut seed n share),
    length_heldOut seed hn share]

/-- The entries at the positions of a class are those positions, in order, with what is there. -/
theorem atPositions_ofFn {α : Type} {n : Nat} (p : Nat → Bool) (f : Fin n → α) :
    atPositions p (List.ofFn f) = ((List.finRange n).filter fun i => p i.val).map f := by
  have hzip : (List.ofFn f).zipIdx = (List.finRange n).map fun i => (f i, i.val) := by
    apply List.ext_getElem
    · simp
    · intro i _ _
      simp
  unfold atPositions
  rw [hzip, List.filter_map, List.map_map]
  rfl

/-- One part of a split holds the ratings at the positions held out and the other part the rest, in
the order of the positions. -/
structure IsPartition (s : Split) {n : Nat} (out : Finset (Fin n)) (code : Fin n → Rating) :
    Prop where
  train : s.train = ((List.finRange n).filter fun i => i ∉ out).map code
  validation : s.validation = ((List.finRange n).filter fun i => i ∈ out).map code

/-- The positions that are held out and the others make up the split. -/
theorem isPartition_heldOut (k n : Nat) (x : Float) (code : Fin n → Rating)
    (users items : KeyIndex) :
    IsPartition
      { train := atPositions (fun i => !(heldOut k n x).contains i) (List.ofFn code),
        validation := atPositions (fun i => (heldOut k n x).contains i) (List.ofFn code),
        users, items }
      (heldOutAt k n x) code where
  train := by
    dsimp only
    rw [atPositions_ofFn]
    refine congrArg (List.map code) (List.filter_congr fun i _ => ?_)
    rw [Bool.eq_iff_iff]
    simp
  validation := by
    dsimp only
    rw [atPositions_ofFn]
    refine congrArg (List.map code) (List.filter_congr fun i _ => ?_)
    rw [Bool.eq_iff_iff]
    simp

/-- A split is what its positions and ratings make it. -/
theorem IsPartition.eq {s t : Split} {n : Nat} {out : Finset (Fin n)} {code : Fin n → Rating}
    (hs : s.IsPartition out code) (ht : t.IsPartition out code) (husers : s.users = t.users)
    (hitems : s.items = t.items) : s = t := by
  cases s
  cases t
  cases husers
  cases hitems
  rw [Split.mk.injEq]
  exact ⟨hs.train.trans ht.train.symm, hs.validation.trans ht.validation.symm, rfl, rfl⟩

end Split

/-! ## Rows and their ratings -/

namespace RatingRow

/-- The identifiers of one side are those of the rows, each a possible key. -/
theorem keys_eq_mapM (name : String) (get : RatingRow → Option Value) (rows : List RatingRow) :
    keys name get rows = (rows.map get).mapM fun v => field name v >>= Value.asKey := by
  induction rows with
  | nil => rfl
  | cons row rest ih =>
    rw [List.map_cons, List.mapM_cons, ← ih, bind_assoc]
    rfl

end RatingRow

namespace Split

/-- Ratings inside the tables are located. -/
theorem locate_eq_ok (part : Part) {users items : Nat} {ratings : List Rating}
    (h : ∀ r ∈ ratings, (0 ≤ r.user ∧ r.user < users) ∧ (0 ≤ r.item ∧ r.item < items)) :
    ∃ observations, locate part users items ratings = .ok observations := by
  induction ratings with
  | nil => exact ⟨[], rfl⟩
  | cons r rest ih =>
    obtain ⟨hu, hi⟩ := h r List.mem_cons_self
    obtain ⟨observations, hrest⟩ := ih fun r hr => h r (List.mem_cons_of_mem _ hr)
    unfold locate
    rw [dif_pos hu, dif_pos hi, hrest]
    exact ⟨_, rfl⟩

/-- **What it takes to hold out a part of the rows.** The share and the seed are read, each side
has an index of its identifiers, and every row has a rating in these indexes. -/
theorem holdOut_eq_ok_iff {n : Nat} (hn : 0 < n) {rows : Fin n → RatingRow} {share seed : Value}
    {s : Split} :
    holdOut (List.ofFn rows) share seed = .ok s ↔
      ∃ x k code, checkShare share = .ok x ∧ shuffleSeed seed = .ok k
        ∧ (RatingRow.keys "user_id" RatingRow.user (List.ofFn rows) >>= KeyIndex.fromKeys)
            = .ok s.users
        ∧ (RatingRow.keys "item_id" RatingRow.item (List.ofFn rows) >>= KeyIndex.fromKeys)
            = .ok s.items
        ∧ (∀ i, RatingRow.encode s.users s.items (rows i) = .ok (code i))
        ∧ s.IsPartition (heldOutAt k n x) code := by
  have hrows : ¬ (List.ofFn rows).isEmpty = true := by
    rw [List.isEmpty_iff, List.ofFn_eq_nil_iff]
    exact hn.ne'
  unfold holdOut
  constructor
  · intro h
    obtain ⟨x, hx, h⟩ := bind_eq_ok_iff.mp h
    rw [if_neg hrows] at h
    obtain ⟨us, hus, h⟩ := bind_eq_ok_iff.mp h
    obtain ⟨users, husers, h⟩ := bind_eq_ok_iff.mp h
    obtain ⟨is, his, h⟩ := bind_eq_ok_iff.mp h
    obtain ⟨items, hitems, h⟩ := bind_eq_ok_iff.mp h
    obtain ⟨ratings, hratings, h⟩ := bind_eq_ok_iff.mp h
    obtain ⟨k, hk, h⟩ := bind_eq_ok_iff.mp h
    obtain ⟨code, rfl, hcode⟩ := mapM_ofFn_eq_ok_iff.mp hratings
    rw [List.length_ofFn] at h
    cases h
    exact ⟨x, k, code, hx, hk, bind_eq_ok_iff.mpr ⟨us, hus, husers⟩,
      bind_eq_ok_iff.mpr ⟨is, his, hitems⟩, hcode, isPartition_heldOut k n x code users items⟩
  · rintro ⟨x, k, code, hx, hk, husers, hitems, hcode, hpart⟩
    obtain ⟨us, hus, husers⟩ := bind_eq_ok_iff.mp husers
    obtain ⟨is, his, hitems⟩ := bind_eq_ok_iff.mp hitems
    have hratings : (List.ofFn rows).mapM (RatingRow.encode s.users s.items)
        = .ok (List.ofFn code) := mapM_ofFn_eq_ok_iff.mpr ⟨code, rfl, hcode⟩
    refine bind_eq_ok_iff.mpr ⟨x, hx, ?_⟩
    rw [if_neg hrows]
    refine bind_eq_ok_iff.mpr ⟨us, hus, bind_eq_ok_iff.mpr ⟨s.users, husers, ?_⟩⟩
    refine bind_eq_ok_iff.mpr ⟨is, his, bind_eq_ok_iff.mpr ⟨s.items, hitems, ?_⟩⟩
    refine bind_eq_ok_iff.mpr ⟨List.ofFn code, hratings, bind_eq_ok_iff.mpr ⟨k, hk, ?_⟩⟩
    rw [List.length_ofFn]
    exact congrArg Except.ok ((isPartition_heldOut k n x code s.users s.items).eq hpart rfl rfl)

end Split

/-! ## Comparable rows -/

/-- Does the double lie strictly between zero and one? -/
def Split.IsShare (x : Float) : Prop :=
  (Number.int 0).lt (.float x) = true ∧ (Number.float x).lt (.int 1) = true

/-- Can the value seed a shuffle: is it a number, a flag, a text or a run of bytes? -/
def Value.IsSeed (v : Value) : Prop :=
  (∃ n, v.number? = some n) ∨ (∃ s, v = .str s) ∨ ∃ b, v = .bytes b

namespace Split

theorem checkShare_eq_ok {x : Float} (h : IsShare x) : checkShare (.float x) = .ok x := by
  have hboth : ((Number.int 0).lt (.float x) && (Number.float x).lt (.int 1)) = true :=
    Bool.and_eq_true_iff.mpr h
  exact bind_eq_ok_iff.mpr ⟨.float x, rfl, if_pos hboth⟩

/-- Every seed gives a shuffle. -/
theorem exists_shuffleSeed_eq_ok {seed : Value} (h : seed.IsSeed) :
    ∃ k, shuffleSeed seed = .ok k := by
  rcases h with ⟨n, hn⟩ | ⟨s, rfl⟩ | ⟨b, rfl⟩
  · cases seed with
    | int i => exact ⟨_, rfl⟩
    | bool b => exact ⟨_, rfl⟩
    | float x =>
      unfold shuffleSeed
      dsimp only
      cases Decimal.parts x <;> exact ⟨_, rfl⟩
    | _ => cases hn
  · exact ⟨_, rfl⟩
  · exact ⟨_, rfl⟩

end Split

/-- A rating stands for a row: its row numbers are those of the row's identifiers. -/
structure Rating.StandsFor (r : Rating) (users items : KeyIndex) (user item : Value)
    (value : Float) : Prop where
  user : ∃ key, users.keyOf r.user = .ok key ∧ key.same user = true
  item : ∃ key, items.keyOf r.item = .ok key ∧ key.same item = true
  value : r.value = value
  inside : (0 ≤ r.user ∧ r.user < users.size) ∧ (0 ≤ r.item ∧ r.item < items.size)

namespace RatingRow

/-- The identifiers of one side, when no row lacks its own. -/
theorem keys_ofFn {n : Nat} {rows : Fin n → RatingRow} {name : String}
    {get : RatingRow → Option Value} {key : Fin n → Value}
    (hget : ∀ i, get (rows i) = some (key i)) (hkey : ∀ i, (key i).asKey = .ok (key i)) :
    keys name get (List.ofFn rows) = .ok (List.ofFn key) := by
  rw [keys_eq_mapM, List.map_ofFn, funext (f := get ∘ rows) hget]
  exact mapM_ofFn_eq_ok_iff.mpr ⟨key, rfl, fun i => bind_eq_ok_iff.mpr ⟨key i, rfl, hkey i⟩⟩

/-- A row whose identifiers are numbered has a rating that stands for it. -/
theorem exists_encode_eq_ok {users items : KeyIndex} {us is : List Value}
    (husers : users.Numbers us) (hitems : items.Numbers is) {u i r : Value} {x : Float}
    (hu : u ∈ us) (hi : i ∈ is) (hr : r.toFloat = .ok x) :
    ∃ c, encode users items ⟨some u, some i, some r⟩ = .ok c ∧ c.StandsFor users items u i x := by
  obtain ⟨p, hp, hpu⟩ := husers.row u hu
  obtain ⟨q, hq, hqi⟩ := hitems.row i hi
  refine ⟨⟨p.val, q.val, x⟩, ?_, ?_⟩
  · refine bind_eq_ok_iff.mpr ⟨u, rfl, bind_eq_ok_iff.mpr ⟨p, hp, ?_⟩⟩
    refine bind_eq_ok_iff.mpr ⟨i, rfl, bind_eq_ok_iff.mpr ⟨q, hq, ?_⟩⟩
    exact bind_eq_ok_iff.mpr ⟨r, rfl, bind_eq_ok_iff.mpr ⟨x, hr, rfl⟩⟩
  · have hpsize := p.isLt
    have hqsize := q.isLt
    exact {
      user := ⟨_, users.keyOf_val p, (hpu p).mpr rfl⟩
      item := ⟨_, items.keyOf_val q, (hqi q).mpr rfl⟩
      value := rfl
      inside := by
        dsimp only
        omega }

end RatingRow

namespace Split

/-- Ratings that stand for rows lie inside the indexes. -/
theorem IsPartition.check_eq_ok {s : Split} {n : Nat} {out : Finset (Fin n)} {code : Fin n → Rating}
    (hpart : s.IsPartition out code) {user item : Fin n → Value} {value : Fin n → Float}
    (hcode : ∀ i, (code i).StandsFor s.users s.items (user i) (item i) (value i)) :
    s.check = .ok () := by
  have htrain : ∀ r ∈ s.train,
      (0 ≤ r.user ∧ r.user < s.users.size) ∧ (0 ≤ r.item ∧ r.item < s.items.size) := by
    rw [hpart.train]
    intro r hr
    obtain ⟨i, -, rfl⟩ := List.mem_map.mp hr
    exact (hcode i).inside
  have hvalidation : ∀ r ∈ s.validation,
      (0 ≤ r.user ∧ r.user < s.users.size) ∧ (0 ≤ r.item ∧ r.item < s.items.size) := by
    rw [hpart.validation]
    intro r hr
    obtain ⟨i, -, rfl⟩ := List.mem_map.mp hr
    exact (hcode i).inside
  obtain ⟨train, htrain⟩ := locate_eq_ok .train htrain
  obtain ⟨validation, hvalidation⟩ := locate_eq_ok .validation hvalidation
  exact bind_eq_ok_iff.mpr ⟨train, htrain, bind_eq_ok_iff.mpr ⟨validation, hvalidation, rfl⟩⟩

/-- The positions of a class, counted. -/
theorem length_filter_finRange {n : Nat} (p : Fin n → Prop) [DecidablePred p] :
    ((List.finRange n).filter fun i => p i).length = (Finset.univ.filter p).card := by
  rw [← List.toFinset_card_of_nodup ((List.nodup_finRange n).filter _), List.toFinset_filter,
    List.toFinset_finRange]
  simp

/-- The parts are as large as the set of positions and the rest. -/
theorem IsPartition.length_validation {s : Split} {n : Nat} {out : Finset (Fin n)}
    {code : Fin n → Rating} (h : s.IsPartition out code) : s.validation.length = out.card := by
  rw [h.validation, List.length_map, length_filter_finRange, Finset.filter_univ_mem]

theorem IsPartition.length_train {s : Split} {n : Nat} {out : Finset (Fin n)}
    {code : Fin n → Rating} (h : s.IsPartition out code) : s.train.length = n - out.card := by
  rw [h.train, List.length_map, length_filter_finRange, ← Finset.compl_filter,
    Finset.filter_univ_mem, Finset.card_compl, Fintype.card_fin]

/-- When nothing is held out, all ratings are to train on. -/
theorem IsPartition.all_train {s : Split} {n : Nat} {code : Fin n → Rating}
    (h : s.IsPartition ∅ code) : s.train = List.ofFn code ∧ s.validation = [] := by
  rw [h.train, h.validation, List.ofFn_eq_map]
  simp

/-- **A split is a lossless, trainable partition.** Which of `n` positions are held out is a matter
of `n`, the share and the seed: the rounded share of them, but one at least and all but one at
most. Whatever comparable identifiers and readable ratings the rows hold, the rows at these
positions are the validation ratings and the others the training ratings, in their order. Each
rating leads back to its row, the indexes number the identifiers of the rows and no others, and
the split passes its own check. Both parts have a rating when there are two rows or more; a
single row stays. -/
theorem holdOut_partitions {n : Nat} (hn : 0 < n) {share : Float} (hshare : IsShare share)
    {seed : Value} (hseed : seed.IsSeed) :
    ∃ out : Finset (Fin n), out.card = min (max 1 (roundedShare n share)) (n - 1)
      ∧ ∀ (user item rating : Fin n → Value) (value : Fin n → Float),
        Value.Orderable (List.ofFn user) → Value.Orderable (List.ofFn item) →
        (∀ i, (rating i).toFloat = .ok (value i)) →
        ∃ s code,
          holdOut (List.ofFn fun i => ⟨some (user i), some (item i), some (rating i)⟩)
              (.float share) seed = .ok s
          ∧ s.IsPartition out code
          ∧ (∀ i, (code i).StandsFor s.users s.items (user i) (item i) (value i))
          ∧ s.users.Numbers (List.ofFn user) ∧ s.items.Numbers (List.ofFn item)
          ∧ s.check = .ok ()
          ∧ (2 ≤ n → s.train ≠ [] ∧ s.validation ≠ [])
          ∧ (n = 1 → s.train = List.ofFn code ∧ s.validation = []) := by
  obtain ⟨k, hk⟩ := exists_shuffleSeed_eq_ok hseed
  have hcard := card_heldOutAt k hn share
  refine ⟨heldOutAt k n share, hcard, ?_⟩
  intro user item rating value huser hitem hrating
  obtain ⟨users, husers, hnumbered⟩ := KeyIndex.fromKeys_eq_ok huser
  obtain ⟨items, hitems, hnumbered'⟩ := KeyIndex.fromKeys_eq_ok hitem
  have hmem (key : Fin n → Value) (i : Fin n) : key i ∈ List.ofFn key := List.mem_ofFn.mpr ⟨i, rfl⟩
  have hcode : ∀ i, ∃ c, RatingRow.encode users items
        ⟨some (user i), some (item i), some (rating i)⟩ = .ok c
      ∧ c.StandsFor users items (user i) (item i) (value i) := fun i =>
    RatingRow.exists_encode_eq_ok hnumbered hnumbered' (hmem user i) (hmem item i) (hrating i)
  choose code hcode hstands using hcode
  have hpart := isPartition_heldOut k n share code users items
  refine ⟨_, code, (holdOut_eq_ok_iff hn).mpr ⟨share, k, code, checkShare_eq_ok hshare, hk, ?_, ?_,
    hcode, hpart⟩, hpart, hstands, hnumbered, hnumbered', hpart.check_eq_ok hstands, ?_, ?_⟩
  · refine bind_eq_ok_iff.mpr ⟨_, RatingRow.keys_ofFn (fun _ => rfl) ?_, husers⟩
    exact fun i => huser.asKey_eq (hmem user i)
  · refine bind_eq_ok_iff.mpr ⟨_, RatingRow.keys_ofFn (fun _ => rfl) ?_, hitems⟩
    exact fun i => hitem.asKey_eq (hmem item i)
  · intro hn2
    rw [← List.length_pos_iff, ← List.length_pos_iff, hpart.length_train, hpart.length_validation,
      hcard]
    unfold heldOutCount
    omega
  · rintro rfl
    have hnone : heldOutAt k 1 share = ∅ := by
      rw [← Finset.card_eq_zero, hcard]
      exact Nat.min_zero _
    rw [hnone] at hpart
    exact hpart.all_train

/-- Three ratings of two users for two items. -/
theorem holdOut_partitions_three :
    0 < 3 ∧ IsShare 0.5 ∧ Value.IsSeed (.int 42)
      ∧ Value.Orderable [.str "b", .str "a", .str "b"]
      ∧ Value.Orderable [.int 2, .bool true, .int 1]
      ∧ ∃ s : Split,
          holdOut
              [⟨some (.str "b"), some (.int 2), some (.int 1)⟩,
                ⟨some (.str "a"), some (.bool true), some (.float 0.5)⟩,
                ⟨some (.str "b"), some (.int 1), some (.str "4")⟩]
              (.float 0.5) (.int 42) = .ok s
            ∧ s.users.Numbers [.str "b", .str "a", .str "b"]
            ∧ s.check = .ok () ∧ s.train ≠ [] ∧ s.validation ≠ [] := by
  have hshare : IsShare 0.5 := by
    unfold IsShare
    decide +kernel
  have hseed : Value.IsSeed (.int 42) := Or.inl ⟨.int 42, rfl⟩
  have husers : Value.Orderable [.str "b", .str "a", .str "b"] := by decide +kernel
  have hitems : Value.Orderable [.int 2, .bool true, .int 1] := by decide +kernel
  obtain ⟨out, -, hout⟩ := holdOut_partitions (n := 3) (by decide) hshare hseed
  obtain ⟨s, code, hs, -, -, hnumbers, -, hcheck, htwo, -⟩ := hout
    ![.str "b", .str "a", .str "b"] ![.int 2, .bool true, .int 1]
    ![.int 1, .float 0.5, .str "4"] ![1.0, 0.5, 4.0] husers hitems (by decide +kernel)
  exact ⟨by decide, hshare, hseed, husers, hitems, s, hs, hnumbers, hcheck, htwo (by decide)⟩

end Split

end PoissonFactor
