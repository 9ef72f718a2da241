import Mathlib.Data.List.Forall2
import PoissonFactor.Proofs.Ratings.Rank
import PoissonFactor.Proofs.Value.Same

/-!
# Identifiers and rows, one to one

An index made from a list of identifiers gives each of them its rank as a row, and each row
its identifier back:

> `KeyIndex.rank_bijection`: what has a row is just what the list holds, going there and back
> changes nothing, and no row depends on order, repetition or spelling, only on how many
> identifiers come before.

An index made from identifiers in a given order refuses a repetition and nothing else.
-/

namespace PoissonFactor

namespace Value

theorem asKey_of_key {v : Value} (h : v.mutablePart? = none) : v.asKey = .ok v := by
  unfold asKey
  rw [h]

theorem asKey_of_mutable {v : Value} {kind : String} (h : v.mutablePart? = some kind) :
    v.asKey = .error (.unhashable kind) := by
  unfold asKey
  rw [h]

theorem Orderable.same_self {vs : List Value} (h : Orderable vs) {v : Value} (hv : v ∈ vs) :
    v.same v = true :=
  (h.same_iff hv hv).mpr rfl

/-! ## Lists of the same keys -/

/-- Every key of one list is a key of the other, however often and in whatever order. -/
def SameKeys (vs ws : List Value) : Prop :=
  (∀ v ∈ vs, ∃ w ∈ ws, v.same w = true) ∧ ∀ w ∈ ws, ∃ v ∈ vs, w.same v = true

instance (vs ws : List Value) : Decidable (SameKeys vs ws) :=
  inferInstanceAs (Decidable (_ ∧ _))

theorem SameKeys.mem_marks_iff {vs ws : List Value} (h : SameKeys vs ws) (m : List Mark) :
    m ∈ vs.map marks ↔ m ∈ ws.map marks := by
  constructor
  · intro hm
    obtain ⟨v, hv, rfl⟩ := List.mem_map.mp hm
    obtain ⟨w, hw, hsame⟩ := h.1 v hv
    exact List.mem_map.mpr ⟨w, hw, (marks_eq_of_same hsame).symm⟩
  · intro hm
    obtain ⟨w, hw, rfl⟩ := List.mem_map.mp hm
    obtain ⟨v, hv, hsame⟩ := h.2 w hw
    exact List.mem_map.mpr ⟨v, hv, (marks_eq_of_same hsame).symm⟩

/-- Lists of the same keys have the same sorted keys. -/
theorem SameKeys.sortedKeys_same {vs ws keys keys' : List Value} (h : SameKeys vs ws)
    (horder : Orderable (vs ++ ws)) (hkeys : sortedKeys vs = .ok keys)
    (hkeys' : sortedKeys ws = .ok keys') :
    List.Forall₂ (fun a b => a.same b = true) keys keys' := by
  have hvs := horder.of_subset (List.subset_append_left vs ws)
  have hws := horder.of_subset (List.subset_append_right vs ws)
  obtain ⟨hlt, hmem⟩ := hvs.marks_sortedKeys hkeys
  obtain ⟨hlt', hmem'⟩ := hws.marks_sortedKeys hkeys'
  -- An ascending list is determined by its entries.
  have hmarks : keys.map marks = keys'.map marks := by
    have hperm : (keys.map marks).Perm (keys'.map marks) := by
      refine (List.perm_ext_iff_of_nodup (hlt.imp ne_of_lt) (hlt'.imp ne_of_lt)).mpr fun m => ?_
      rw [hmem, hmem', h.mem_marks_iff]
    exact hperm.eq_of_pairwise (fun _ _ _ _ hab hba => absurd hab hba.asymm) hlt hlt'
  obtain ⟨_, hsorted, hsub, -, -⟩ := hvs.sortedKeys_eq_ok
  cases hkeys.symm.trans hsorted
  obtain ⟨_, hsorted, hsub', -, -⟩ := hws.sortedKeys_eq_ok
  cases hkeys'.symm.trans hsorted
  have hlength : keys.length = keys'.length := by
    rw [← List.length_map marks, hmarks, List.length_map]
  refine List.forall₂_iff_get.mpr ⟨hlength, fun i hi hi' => ?_⟩
  refine (horder.same_iff (List.mem_append_left ws (hsub (List.get_mem keys _)))
    (List.mem_append_right vs (hsub' (List.get_mem keys' _)))).mpr ?_
  have hentry : (keys.map marks)[i]? = (keys'.map marks)[i]? := by rw [hmarks]
  rw [List.getElem?_map, List.getElem?_map, List.getElem?_eq_getElem hi,
    List.getElem?_eq_getElem hi'] at hentry
  exact Option.some.inj hentry

/-! ## Renaming -/

/-- A renaming of the keys of a list that keeps their order. -/
structure Renames (f : Value → Value) (vs : List Value) : Prop where
  key : ∀ a ∈ vs, (f a).mutablePart? = none
  same : ∀ a ∈ vs, ∀ b ∈ vs, a.same b = true → (f a).same (f b) = true
  before : ∀ a ∈ vs, ∀ b ∈ vs, a.before b = true → (f a).before (f b) = true

namespace Renames

variable {f : Value → Value} {vs : List Value}

theorem of_subset {ws : List Value} (h : Renames f vs) (hsub : ws ⊆ vs) : Renames f ws :=
  ⟨fun a ha => h.key a (hsub ha), fun a ha b hb => h.same a (hsub ha) b (hsub hb),
    fun a ha b hb => h.before a (hsub ha) b (hsub hb)⟩

theorem orderable (h : Renames f vs) (horder : Orderable vs) : Orderable (vs.map f) := by
  constructor
  · intro x hx
    obtain ⟨a, ha, rfl⟩ := List.mem_map.mp hx
    exact h.key a ha
  · intro x hx y hy
    obtain ⟨a, ha, rfl⟩ := List.mem_map.mp hx
    obtain ⟨b, hb, rfl⟩ := List.mem_map.mp hy
    rcases horder.2 a ha b hb with hab | hab | hab
    · exact Or.inl (h.same a ha b hb hab)
    · exact Or.inr (Or.inl (h.before a ha b hb hab))
    · exact Or.inr (Or.inr (h.before b hb a ha hab))

/-- Renamed keys are the same key only if they were. -/
theorem same_eq (h : Renames f vs) (horder : Orderable vs) {a b : Value} (ha : a ∈ vs)
    (hb : b ∈ vs) : (f a).same (f b) = a.same b := by
  rw [Bool.eq_iff_iff]
  refine ⟨fun hfab => ?_, h.same a ha b hb⟩
  -- Keys with an order would keep it, and then their marks differ.
  have hmarks := marks_eq_of_same hfab
  rcases horder.2 a ha b hb with hab | hab | hab
  · exact hab
  · exact absurd hmarks (marks_lt_of_before (h.before a ha b hb hab)).ne
  · exact absurd hmarks (marks_lt_of_before (h.before b hb a ha hab)).ne'

/-- Renamed keys come one before the other only if they did. -/
theorem before_eq (h : Renames f vs) (horder : Orderable vs) {a b : Value} (ha : a ∈ vs)
    (hb : b ∈ vs) : (f a).before (f b) = a.before b := by
  rw [Bool.eq_iff_iff]
  refine ⟨fun hfab => ?_, h.before a ha b hb⟩
  have hmarks := marks_lt_of_before hfab
  rcases horder.2 a ha b hb with hab | hab | hab
  · exact absurd (marks_eq_of_same (h.same a ha b hb hab)) hmarks.ne
  · exact hab
  · exact absurd (marks_lt_of_before (h.before b hb a ha hab)) hmarks.asymm

theorem insertMember_map (h : Renames f vs) (horder : Orderable vs) {v : Value} (hv : v ∈ vs)
    {ms : List Value} (hms : ms ⊆ vs) :
    insertMember (f v) (ms.map f) = (insertMember v ms).map f := by
  induction ms with
  | nil => rfl
  | cons w rest ih =>
    rw [List.map_cons]
    unfold insertMember
    rw [h.same_eq horder (hms List.mem_cons_self) hv]
    by_cases hsame : w.same v = true
    · rw [if_pos hsame, if_pos hsame]
      rfl
    · rw [if_neg hsame, if_neg hsame, ih fun x hx => hms (List.mem_cons_of_mem w hx)]
      rfl

/-- Renaming the keys of a list renames its members. -/
theorem members_map (h : Renames f vs) (horder : Orderable vs) :
    members (vs.map f) = (members vs).map f := by
  -- Members are inserted from the left, so the last key is the one inserted last.
  induction vs using List.reverseRecOn with
  | nil => rfl
  | append_singleton vs v ih =>
    have hsub := List.subset_append_left vs [v]
    have hmem : v ∈ vs ++ [v] := List.mem_append_right vs List.mem_cons_self
    have hmembers : members vs ⊆ vs ++ [v] := fun x hx => hsub (members_subset vs hx)
    rw [List.map_append, List.map_singleton, members_concat, members_concat,
      ih (h.of_subset hsub) (horder.of_subset hsub), h.insertMember_map horder hmem hmembers]

/-- Renaming keeps ranks. -/
theorem rank_map (h : Renames f vs) (horder : Orderable vs) {v : Value} (hv : v ∈ vs) :
    rank (vs.map f) (f v) = rank vs v := by
  unfold rank
  rw [h.members_map horder, List.countP_map]
  refine List.countP_congr fun w hw => ?_
  rw [Function.comp_apply, h.before_eq horder (members_subset vs hw) hv]

end Renames

end Value

namespace KeyIndex

/-! ## Rows -/

/-- At most one row answers to a key. -/
theorem row_unique (index : KeyIndex) {v : Value} {i j : Fin index.size}
    (hi : index.keys[i].same v = true) (hj : index.keys[j].same v = true) : i = j := by
  have hdistinct := List.pairwise_iff_getElem.mp index.distinct
  have hij := Value.same_trans hi (Value.same_symm hj)
  have hji := Value.same_symm hij
  rcases lt_trichotomy i.val j.val with hlt | heq | hlt
  · exact absurd hij (Bool.eq_false_iff.mp (hdistinct _ _ i.isLt j.isLt hlt))
  · exact Fin.ext heq
  · exact absurd hji (Bool.eq_false_iff.mp (hdistinct _ _ j.isLt i.isLt hlt))

/-- The row of a key is the one that answers to it. -/
theorem indexOf_eq_ok_iff {index : KeyIndex} {v : Value} (hkey : v.mutablePart? = none)
    {i : Fin index.size} : index.indexOf v = .ok i ↔ index.keys[i].same v = true := by
  have hasKey := Value.asKey_of_key hkey
  constructor
  · intro h
    obtain ⟨_, hv, h⟩ := bind_eq_ok_iff.mp h
    cases hasKey.symm.trans hv
    cases hfind : index.find? v with
    | none =>
      rw [hfind] at h
      cases h
    | some j =>
      rw [hfind] at h
      cases h
      exact (List.findFinIdx?_eq_some_iff.mp hfind).1
  · intro hi
    refine indexOf_eq_ok hasKey hi fun j hj hjv => ?_
    exact hj.ne (index.row_unique hjv hi)

/-- What answers to a key also has the row of that key. -/
theorem indexOf_congr {index : KeyIndex} {v w : Value} (hv : v.mutablePart? = none)
    (hw : w.mutablePart? = none) (hsame : v.same w = true) {i : Fin index.size}
    (h : index.indexOf v = .ok i) : index.indexOf w = .ok i :=
  (indexOf_eq_ok_iff hw).mpr (Value.same_trans ((indexOf_eq_ok_iff hv).mp h) hsame)

/-- A key has a row or is unknown, and the index tells which. -/
theorem contains_iff (index : KeyIndex) {v : Value} (hkey : v.mutablePart? = none) :
    (index.contains v = .ok true ↔ ∃ i, index.indexOf v = .ok i)
      ∧ (index.contains v = .ok false ↔ index.indexOf v = .error (.unknownKey v.shown)) := by
  unfold contains indexOf
  rw [Value.asKey_of_key hkey]
  dsimp only [bind, Except.bind]
  cases hfind : index.find? v with
  | none =>
    refine ⟨⟨?_, ?_⟩, ⟨fun _ => rfl, fun _ => rfl⟩⟩
    · intro h
      cases h
    · rintro ⟨i, h⟩
      cases h
  | some i =>
    refine ⟨⟨fun _ => ⟨i, rfl⟩, fun _ => rfl⟩, ⟨?_, ?_⟩⟩ <;>
      · intro h
        cases h

theorem findIdx?_congr {keys keys' : List Value}
    (h : List.Forall₂ (fun a b => a.same b = true) keys keys') (v : Value) :
    keys.findIdx? (fun k => k.same v) = keys'.findIdx? fun k => k.same v := by
  induction h with
  | nil => rfl
  | cons hab _ ih =>
    rw [List.findIdx?_cons, List.findIdx?_cons, Value.same_congr_left hab v, ih]

/-- Two indexes with the same identifiers row by row find a key in the same row. -/
theorem indexOf_eq_of_sameRows {index index' : KeyIndex}
    (h : List.Forall₂ (fun a b => a.same b = true) index.keys index'.keys) (v : Value) :
    (index.indexOf v).map Fin.val = (index'.indexOf v).map Fin.val := by
  have hfind := findIdx?_congr h v
  rw [List.findIdx?_eq_map_findFinIdx?_val, List.findIdx?_eq_map_findFinIdx?_val] at hfind
  unfold indexOf
  cases hkey : v.mutablePart? with
  | some kind =>
    rw [Value.asKey_of_mutable hkey]
    rfl
  | none =>
    rw [Value.asKey_of_key hkey]
    dsimp only [bind, Except.bind]
    unfold find?
    cases hi : index.keys.findFinIdx? fun k => k.same v with
    | none =>
      rw [hi] at hfind
      rw [Option.map_eq_none_iff.mp hfind.symm]
      rfl
    | some i =>
      rw [hi] at hfind
      obtain ⟨j, hj, hji⟩ := Option.map_eq_some_iff.mp hfind.symm
      rw [hj]
      exact congrArg Except.ok hji.symm

/-- The index ranks the identifiers of a list: each has its rank as its row, every row leads to
an identifier that leads back, and nothing else has a row. -/
structure Ranks (index : KeyIndex) (vs : List Value) : Prop where
  size : index.size = (Value.members vs).length
  row : ∀ v ∈ vs, ∃ i, index.indexOf v = .ok i ∧ i.val = Value.rank vs v
    ∧ ∃ key, index.keyOf i = .ok key ∧ key.same v = true
  key : ∀ i : Fin index.size, ∃ key ∈ vs, index.keyOf i = .ok key ∧ index.indexOf key = .ok i
  mem : ∀ v : Value, v.mutablePart? = none →
    (index.contains v = .ok true ↔ ∃ w ∈ vs, w.same v = true)
      ∧ (index.contains v = .ok true ↔ ∃ i, index.indexOf v = .ok i)
      ∧ (index.contains v = .ok false ↔ index.indexOf v = .error (.unknownKey v.shown))

/-- An index made from identifiers that have an order ranks them. -/
theorem ranks_of_fromKeys {vs : List Value} (h : Value.Orderable vs) {index : KeyIndex}
    (hindex : fromKeys vs = .ok index) : index.Ranks vs := by
  obtain ⟨_, hnumbers, hsub, hrow⟩ := fromKeys_eq_ok h
  cases hindex.symm.trans hnumbers
  refine ⟨fromKeys_size h hindex, fun v hv => ?_, fun i => ?_, fun v hkey => ⟨?_, ?_⟩⟩
  · obtain ⟨i, hi, hsame⟩ := hrow v hv
    have hiv := (hsame i).mpr rfl
    exact ⟨i, hi, val_eq_rank h hindex hv hiv, index.keys[i], keyOf_val index i, hiv⟩
  · have hmem : index.keys[i] ∈ vs := hsub (List.getElem_mem i.isLt)
    exact ⟨index.keys[i], hmem, keyOf_val index i,
      (indexOf_eq_ok_iff (h.1 _ hmem)).mpr (h.same_self hmem)⟩
  · rw [(index.contains_iff hkey).1]
    constructor
    · rintro ⟨i, hi⟩
      exact ⟨_, hsub (List.getElem_mem i.isLt), (indexOf_eq_ok_iff hkey).mp hi⟩
    · rintro ⟨w, hw, hwv⟩
      obtain ⟨i, hi, -⟩ := hrow w hw
      exact ⟨i, indexOf_congr (h.1 w hw) hkey hwv hi⟩
  · exact index.contains_iff hkey

/-- The identifiers themselves in the given order: each row leads to its identifier, which leads
back if it is the same key as itself, and no row leads elsewhere. -/
structure Lists (index : KeyIndex) (keys : List Value) : Prop where
  keys_eq : index.keys = keys
  key : ∀ i : Fin index.size, index.keyOf i = .ok index.keys[i]
  row : ∀ i : Fin index.size, index.keys[i].same index.keys[i] = true →
    index.indexOf index.keys[i] = .ok i
  back : ∀ v i, index.indexOf v = .ok i → ∃ key, index.keyOf i = .ok key ∧ key.same v = true

/-- Distinct identifiers in a given order are numbered, repeated ones refused. -/
theorem ofKeys_eq (keys : List Value) (hkeys : ∀ k ∈ keys, k.mutablePart? = none) :
    (ofKeys keys = .error .duplicateKeys
        ↔ ∃ i j, ∃ h : i < j, ∃ hj : j < keys.length, keys[i].same keys[j] = true)
      ∧ (ofKeys keys ≠ .error .duplicateKeys → ∃ index, ofKeys keys = .ok index
        ∧ index.Lists keys) := by
  have hmap : keys.mapM Value.asKey = .ok keys :=
    mapM_eq_self fun k hk => Value.asKey_of_key (hkeys k hk)
  have hrepeated : (¬ keys.Pairwise fun a b => a.same b = false)
      ↔ ∃ i j, ∃ h : i < j, ∃ hj : j < keys.length, keys[i].same keys[j] = true := by
    rw [List.pairwise_iff_getElem]
    constructor
    · intro h
      by_contra hnone
      refine h fun i j hi hj hij => Bool.eq_false_iff.mpr fun hsame => ?_
      exact hnone ⟨i, j, hij, hj, hsame⟩
    · rintro ⟨i, j, hij, hj, hsame⟩ h
      exact Bool.eq_false_iff.mp (h i j (hij.trans hj) hj hij) hsame
  unfold ofKeys
  rw [hmap, ← hrepeated]
  dsimp only [bind, Except.bind]
  by_cases hdistinct : keys.Pairwise fun a b => a.same b = false
  · rw [dif_pos hdistinct]
    refine ⟨⟨?_, fun h => absurd hdistinct h⟩, fun _ => ⟨_, rfl, rfl, ?_, ?_, ?_⟩⟩
    · intro h
      cases h
    · exact keyOf_val _
    · intro i hself
      exact (indexOf_eq_ok_iff (hkeys _ (List.getElem_mem i.isLt))).mpr hself
    · intro v i hi
      obtain ⟨w, hw, -⟩ := bind_eq_ok_iff.mp hi
      cases hkey : v.mutablePart? with
      | some kind =>
        rw [Value.asKey_of_mutable hkey] at hw
        cases hw
      | none => exact ⟨_, keyOf_val _ i, (indexOf_eq_ok_iff hkey).mp hi⟩
  · rw [dif_neg hdistinct]
    exact ⟨⟨fun _ => hdistinct, fun _ => rfl⟩, fun h => absurd rfl h⟩

/-- Renaming identifiers in order leaves every row where it is. -/
theorem indexOf_rename {vs : List Value} (h : Value.Orderable vs) {f : Value → Value}
    (hf : Value.Renames f vs) {index index' : KeyIndex} (hindex : fromKeys vs = .ok index)
    (hindex' : fromKeys (vs.map f) = .ok index') :
    index.size = index'.size
      ∧ ∀ v ∈ vs, (index'.indexOf (f v)).map Fin.val = (index.indexOf v).map Fin.val := by
  have hranks := ranks_of_fromKeys h hindex
  have hranks' := ranks_of_fromKeys (hf.orderable h) hindex'
  refine ⟨?_, fun v hv => ?_⟩
  · rw [hranks.size, hranks'.size, hf.members_map h, List.length_map]
  · obtain ⟨i, hi, hrank, -⟩ := hranks.row v hv
    obtain ⟨j, hj, hrank', -⟩ := hranks'.row (f v) (List.mem_map_of_mem hv)
    rw [hi, hj]
    refine congrArg Except.ok ?_
    rw [hrank, hrank', hf.rank_map h hv]

/-- **Rows and identifiers correspond one to one.** Texts and numbers have an order; an index made
from identifiers that have one exists and ranks them; it is the same for every list of the same
identifiers and keeps its rows under a renaming in order. An index made from identifiers in a
given order is refused just when two of them are the same, and lists them otherwise. -/
theorem rank_bijection :
    (∀ vs, Value.OneType vs → Value.Orderable vs)
      ∧ (∀ vs, Value.Orderable vs → ∃ index, fromKeys vs = .ok index ∧ index.Ranks vs)
      ∧ (∀ vs ws, Value.Orderable (vs ++ ws) → Value.SameKeys vs ws →
        ∀ index index', fromKeys vs = .ok index → fromKeys ws = .ok index' →
          List.Forall₂ (fun a b => a.same b = true) index.keys index'.keys
            ∧ ∀ v, (index.indexOf v).map Fin.val = (index'.indexOf v).map Fin.val)
      ∧ (∀ vs, Value.Orderable vs → ∀ f, Value.Renames f vs →
        Value.Orderable (vs.map f)
          ∧ ∀ index index', fromKeys vs = .ok index → fromKeys (vs.map f) = .ok index' →
            index.size = index'.size
              ∧ ∀ v ∈ vs, (index'.indexOf (f v)).map Fin.val = (index.indexOf v).map Fin.val)
      ∧ ∀ keys : List Value, (∀ k ∈ keys, k.mutablePart? = none) →
        (ofKeys keys = .error .duplicateKeys
            ↔ ∃ i j, ∃ h : i < j, ∃ hj : j < keys.length, keys[i].same keys[j] = true)
          ∧ (ofKeys keys ≠ .error .duplicateKeys → ∃ index, ofKeys keys = .ok index
            ∧ index.Lists keys) := by
  refine ⟨fun _ => Value.OneType.orderable, fun vs h => ?_, ?_, ?_, ofKeys_eq⟩
  · obtain ⟨index, hindex, -⟩ := fromKeys_eq_ok h
    exact ⟨index, hindex, ranks_of_fromKeys h hindex⟩
  · intro vs ws horder hsame index index' hindex hindex'
    have hvs := horder.of_subset (List.subset_append_left vs ws)
    have hws := horder.of_subset (List.subset_append_right vs ws)
    have hkeys := sortedKeys_of_fromKeys hvs hindex
    have hkeys' := sortedKeys_of_fromKeys hws hindex'
    have hrows := hsame.sortedKeys_same horder hkeys hkeys'
    exact ⟨hrows, indexOf_eq_of_sameRows hrows⟩
  · intro vs h f hf
    exact ⟨hf.orderable h, fun index index' => indexOf_rename h hf⟩

/-- Two, a true flag and one twice have the rows of one and two as doubles, and those of nought
and three and a half; two texts are numbered as they come, and refused when they come again. -/
theorem rank_bijection_mixed :
    let vs : List Value := [.int 2, .bool true, .int 1, .int 2]
    let ws : List Value := [.float 1, .float 2]
    let f : Value → Value := fun v => if v.same (.int 1) then .int 0 else .float 3.5
    let keys : List Value := [.str "b", .str "a"]
    (∃ index index' renamed, fromKeys vs = .ok index ∧ fromKeys ws = .ok index'
        ∧ fromKeys (vs.map f) = .ok renamed ∧ index.Ranks vs
        ∧ (∀ v, (index.indexOf v).map Fin.val = (index'.indexOf v).map Fin.val)
        ∧ ∀ v ∈ vs, (renamed.indexOf (f v)).map Fin.val = (index.indexOf v).map Fin.val)
      ∧ Value.Orderable keys
      ∧ (∃ index, ofKeys keys = .ok index ∧ index.Lists keys)
      ∧ ofKeys (keys ++ keys) = .error .duplicateKeys := by
  intro vs ws f keys
  obtain ⟨horder, hranks, hsame, hrename, hkeys⟩ := rank_bijection
  have hvs : Value.Orderable vs := by decide +kernel
  have hws : Value.Orderable ws := by decide +kernel
  have hf : Value.Renames f vs :=
    ⟨by decide +kernel, by decide +kernel, by decide +kernel⟩
  obtain ⟨index, hindex, hindexRanks⟩ := hranks vs hvs
  obtain ⟨index', hindex', -⟩ := hranks ws hws
  obtain ⟨horder', hrows⟩ := hrename vs hvs f hf
  obtain ⟨renamed, hrenamed, -⟩ := hranks _ horder'
  have hagree := hsame vs ws (by decide +kernel) (by decide +kernel) index index' hindex hindex'
  refine ⟨⟨index, index', renamed, hindex, hindex', hrenamed, hindexRanks, hagree.2,
    (hrows index renamed hindex hrenamed).2⟩, ?_, ?_, ?_⟩
  · refine horder keys (Or.inl fun v hv => ?_)
    rcases List.mem_cons.mp hv with rfl | hv
    · exact ⟨_, rfl⟩
    · rw [List.mem_singleton.mp hv]
      exact ⟨_, rfl⟩
  · refine (hkeys keys (by decide)).2 fun hrefused => ?_
    obtain ⟨i, j, hij, hj, htwice⟩ := (hkeys keys (by decide)).1.mp hrefused
    have hlength : keys.length = 2 := rfl
    obtain rfl : i = 0 := by omega
    obtain rfl : j = 1 := by omega
    have hdifferent : (Value.str "b").same (.str "a") = false := by decide
    exact absurd htwice (Bool.eq_false_iff.mp hdifferent)
  · exact (hkeys (keys ++ keys) (by decide)).1.mpr ⟨0, 2, by decide, by decide, by decide⟩

end KeyIndex

end PoissonFactor
