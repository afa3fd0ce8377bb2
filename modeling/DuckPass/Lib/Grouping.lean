/-
Module: DuckPass.Lib.Grouping
Purpose: Items collected under their keys, as a loop over a multimap collects
  them, and what the buckets hold in whatever order they are visited.
Trusted boundary: none
Main exports: Grouping.insert, Grouping.group, Grouping.Groups,
  Grouping.groups_group, Grouping.Groups.perm
-/
import Mathlib.Data.List.Induction
import Mathlib.Data.List.Nodup
import Mathlib.Data.List.Perm.Basic

namespace Grouping

variable {κ α : Type} [DecidableEq κ]

/-- The item goes to the end of the bucket of its key, or into a new one. -/
def insert (key : κ) (item : α) : List (κ × List α) → List (κ × List α)
  | [] => [(key, [item])]
  | bucket :: buckets =>
      if bucket.1 = key then (key, bucket.2 ++ [item]) :: buckets
      else bucket :: insert key item buckets

/-- The items with the key, in the order in which they came. -/
def itemsOf (key : κ) (items : List (κ × α)) : List α :=
  (items.filter fun item => item.1 = key).map Prod.snd

/-- There is one bucket for each key that occurs, and it holds all items with
that key in the order in which they came. -/
structure Groups (items : List (κ × α)) (buckets : List (κ × List α)) :
    Prop where
  distinct : (buckets.map Prod.fst).Nodup
  mem_iff : ∀ bucket, bucket ∈ buckets ↔
    bucket.2 = itemsOf bucket.1 items ∧ bucket.2 ≠ []

/-- The items of a key, of two lists. -/
theorem itemsOf_append (key : κ) (items later : List (κ × α)) :
    itemsOf key (items ++ later) = itemsOf key items ++ itemsOf key later := by
  simp [itemsOf]

theorem itemsOf_singleton (key other : κ) (item : α) :
    itemsOf key [(other, item)] = if other = key then [item] else [] := by
  by_cases same : other = key <;> simp [itemsOf, same]

/-- An insertion adds its key alone. -/
theorem mem_keys_insert {key other : κ} {item : α}
    {buckets : List (κ × List α)} :
    other ∈ (insert key item buckets).map Prod.fst ↔
      other = key ∨ other ∈ buckets.map Prod.fst := by
  induction buckets with
  | nil => simp [insert]
  | cons bucket buckets inductionHypothesis =>
      by_cases same : bucket.1 = key
      · simp [insert, same]
      · simp only [insert, same, if_false, List.map_cons, List.mem_cons,
          inductionHypothesis]
        tauto

/-- No key has two buckets. -/
theorem nodup_insert {key : κ} {item : α} {buckets : List (κ × List α)}
    (distinct : (buckets.map Prod.fst).Nodup) :
    ((insert key item buckets).map Prod.fst).Nodup := by
  induction buckets with
  | nil => simp [insert]
  | cons bucket buckets inductionHypothesis =>
      rw [List.map_cons, List.nodup_cons] at distinct
      by_cases same : bucket.1 = key
      · rw [same] at distinct
        simpa [insert, same] using distinct
      · simp only [insert, same, if_false, List.map_cons, List.nodup_cons]
        refine ⟨?_, inductionHypothesis distinct.2⟩
        rw [mem_keys_insert, not_or]
        exact ⟨same, distinct.1⟩

/-- What the first bucket with the key holds. -/
def bucketOf (key : κ) : List (κ × List α) → List α
  | [] => []
  | bucket :: buckets =>
      if bucket.1 = key then bucket.2 else bucketOf key buckets

/-- The bucket of the key grows, and the others stay. -/
theorem bucketOf_insert (key other : κ) (item : α)
    (buckets : List (κ × List α)) :
    bucketOf other (insert key item buckets) =
      bucketOf other buckets ++ if key = other then [item] else [] := by
  induction buckets with
  | nil => by_cases same : key = other <;> simp [insert, bucketOf, same]
  | cons bucket buckets inductionHypothesis =>
      by_cases found : bucket.1 = key
      · by_cases same : key = other <;> simp [insert, bucketOf, found, same]
      · by_cases same : bucket.1 = other
        · rw [same] at found
          simp [insert, bucketOf, found, same, Ne.symm found]
        · simp [insert, bucketOf, found, same, inductionHypothesis]

/-- No bucket is empty. -/
theorem nonempty_insert {key : κ} {item : α} {buckets : List (κ × List α)}
    (nonempty : ∀ bucket ∈ buckets, bucket.2 ≠ []) :
    ∀ bucket ∈ insert key item buckets, bucket.2 ≠ [] := by
  induction buckets with
  | nil => simp [insert]
  | cons head buckets inductionHypothesis =>
      have rest := inductionHypothesis fun bucket member =>
        nonempty bucket (List.mem_cons_of_mem _ member)
      intro bucket member
      by_cases found : head.1 = key
      · rw [insert, if_pos found] at member
        rcases List.mem_cons.mp member with rfl | old
        · simp
        · exact nonempty bucket (List.mem_cons_of_mem _ old)
      · rw [insert, if_neg found] at member
        rcases List.mem_cons.mp member with rfl | old
        · exact nonempty bucket List.mem_cons_self
        · exact rest bucket old

/-- A key without a bucket has no items. -/
theorem bucketOf_eq_nil {key : κ} {buckets : List (κ × List α)}
    (absent : key ∉ buckets.map Prod.fst) : bucketOf key buckets = [] := by
  induction buckets with
  | nil => rfl
  | cons bucket buckets inductionHypothesis =>
      rw [List.map_cons, List.mem_cons, not_or] at absent
      rw [bucketOf, if_neg (Ne.symm absent.1), inductionHypothesis absent.2]

/-- With distinct keys a bucket is the one that is found. -/
theorem bucketOf_eq {bucket : κ × List α} {buckets : List (κ × List α)}
    (distinct : (buckets.map Prod.fst).Nodup) (member : bucket ∈ buckets) :
    bucketOf bucket.1 buckets = bucket.2 := by
  induction buckets with
  | nil => cases member
  | cons head buckets inductionHypothesis =>
      rw [List.map_cons, List.nodup_cons] at distinct
      rcases List.mem_cons.mp member with rfl | old
      · exact if_pos rfl
      · have differs : head.1 ≠ bucket.1 := by
          intro same
          rw [same] at distinct
          exact distinct.1 (List.mem_map_of_mem old)
        rw [bucketOf, if_neg differs]
        exact inductionHypothesis distinct.2 old

/-- The loop over all items, the next one being put into its bucket. -/
def group (items : List (κ × α)) : List (κ × List α) :=
  items.foldl (fun buckets item => insert item.1 item.2 buckets) []

/-- The buckets hold the items of their keys, in the order of the list. -/
theorem groups_group (items : List (κ × α)) : Groups items (group items) := by
  have invariant : ((group items).map Prod.fst).Nodup ∧
      (∀ key, bucketOf key (group items) = itemsOf key items) ∧
      ∀ bucket ∈ group items, bucket.2 ≠ [] := by
    induction items using List.reverseRecOn with
    | nil => exact ⟨List.nodup_nil, fun _ => rfl, by simp [group]⟩
    | append_singleton items item inductionHypothesis =>
        obtain ⟨distinct, found, nonempty⟩ := inductionHypothesis
        have last : group (items ++ [item]) =
            insert item.1 item.2 (group items) := by
          simp [group]
        rw [last]
        refine ⟨nodup_insert distinct, ?_, nonempty_insert nonempty⟩
        intro key
        rw [bucketOf_insert, found, itemsOf_append]
        exact congrArg (itemsOf key items ++ ·)
          (itemsOf_singleton key item.1 item.2).symm
  obtain ⟨distinct, found, nonempty⟩ := invariant
  refine ⟨distinct, ?_⟩
  intro bucket
  constructor
  · intro member
    rw [← found, bucketOf_eq distinct member]
    exact ⟨rfl, nonempty bucket member⟩
  · rintro ⟨same, full⟩
    have present : bucket.1 ∈ (group items).map Prod.fst := by
      by_contra absent
      rw [← found, bucketOf_eq_nil absent] at same
      exact full same
    obtain ⟨other, member, sameKey⟩ := List.mem_map.mp present
    have sameItems : other.2 = bucket.2 := by
      rw [← bucketOf_eq distinct member, sameKey, found, same]
    rwa [← Prod.ext sameKey sameItems]

namespace Groups

variable {items : List (κ × α)} {buckets other : List (κ × List α)}

/-- The order of the buckets does not matter. -/
theorem perm (groups : Groups items buckets) (same : other.Perm buckets) :
    Groups items other := by
  constructor
  · exact (same.map Prod.fst).nodup_iff.mpr groups.distinct
  · intro bucket
    rw [same.mem_iff]
    exact groups.mem_iff bucket

/-- An item is in the bucket of its key and in no other. -/
theorem mem_bucket (groups : Groups items buckets) {bucket : κ × List α}
    (member : bucket ∈ buckets) {item : α} :
    item ∈ bucket.2 ↔ (bucket.1, item) ∈ items := by
  rw [((groups.mem_iff bucket).mp member).1]
  simp [itemsOf]

/-- The key of every item has a bucket. -/
theorem bucket_of_mem (groups : Groups items buckets) {item : κ × α}
    (member : item ∈ items) : (item.1, itemsOf item.1 items) ∈ buckets := by
  have inside : item.2 ∈ itemsOf item.1 items := by
    simp only [itemsOf, List.mem_map, List.mem_filter]
    exact ⟨item, ⟨member, decide_eq_true rfl⟩, rfl⟩
  exact (groups.mem_iff _).mpr ⟨rfl, List.ne_nil_of_mem inside⟩

/-- Items that occur once are in one bucket, once. -/
theorem nodup_flatten (groups : Groups items buckets)
    (once : (items.map Prod.snd).Nodup) :
    (buckets.map Prod.snd).flatten.Nodup := by
  rw [List.nodup_flatten]
  constructor
  · intro bucket member
    obtain ⟨pair, inside, rfl⟩ := List.mem_map.mp member
    rw [((groups.mem_iff pair).mp inside).1]
    exact once.sublist (List.filter_sublist.map Prod.snd)
  · rw [List.pairwise_map]
    have distinct := groups.distinct
    rw [List.Nodup, List.pairwise_map] at distinct
    refine distinct.imp_of_mem ?_
    intro first second firstInside secondInside differs item one two
    have one := (groups.mem_bucket firstInside).mp one
    have two := (groups.mem_bucket secondInside).mp two
    have same := List.inj_on_of_nodup_map once one two rfl
    exact differs ((Prod.mk.inj same).1)

end Groups

/-! ## Buckets of indices -/

section Indices

variable {step : List Nat → Nat → α → α} {bucket : List Nat}
  {buckets : List (List Nat)} {index : Nat}

/-- The element at each index of a bucket is changed. -/
def updateBucket (step : List Nat → Nat → α → α) (list : List α)
    (bucket : List Nat) : List α :=
  bucket.foldl (fun list index => list.modify index (step bucket index)) list

/-- An update in place keeps the length. -/
theorem length_updateBuckets (buckets : List (List Nat)) (list : List α) :
    (buckets.foldl (updateBucket step) list).length = list.length := by
  have one : ∀ (bucket indices : List Nat) (list : List α),
      (indices.foldl (fun list index => list.modify index (step bucket index))
        list).length = list.length := by
    intro bucket indices
    induction indices with
    | nil => exact fun _ => rfl
    | cons index indices inductionHypothesis =>
        intro list
        rw [List.foldl_cons, inductionHypothesis, List.length_modify]
  induction buckets generalizing list with
  | nil => rfl
  | cons bucket buckets inductionHypothesis =>
      rw [List.foldl_cons, inductionHypothesis]
      exact one bucket bucket list

/-- An index that is not listed is not changed. -/
theorem getElem?_foldl_modify_of_notMem (change : Nat → α → α)
    (indices : List Nat) (list : List α) (outside : index ∉ indices) :
    (indices.foldl (fun list index => list.modify index (change index))
      list)[index]? = list[index]? := by
  induction indices generalizing list with
  | nil => rfl
  | cons head indices inductionHypothesis =>
      rw [List.mem_cons, not_or] at outside
      rw [List.foldl_cons, inductionHypothesis _ outside.2,
        List.getElem?_modify_ne _ _ (Ne.symm outside.1)]

/-- One that is listed once is changed once. -/
theorem getElem?_foldl_modify (change : Nat → α → α) {indices : List Nat}
    (list : List α) (once : indices.Nodup) (inside : index ∈ indices) :
    (indices.foldl (fun list index => list.modify index (change index))
      list)[index]? = list[index]?.map (change index) := by
  induction indices generalizing list with
  | nil => cases inside
  | cons head indices inductionHypothesis =>
      rw [List.nodup_cons] at once
      rw [List.foldl_cons]
      rcases List.mem_cons.mp inside with rfl | later
      · rw [getElem?_foldl_modify_of_notMem change indices _ once.1,
          List.getElem?_modify_eq]
        rfl
      · have differs : head ≠ index := by
          rintro rfl
          exact once.1 later
        rw [inductionHypothesis _ once.2 later,
          List.getElem?_modify_ne _ _ differs]

/-- An index outside of all buckets is not changed. -/
theorem getElem?_updateBuckets_of_notMem (list : List α)
    (outside : index ∉ buckets.flatten) :
    (buckets.foldl (updateBucket step) list)[index]? = list[index]? := by
  induction buckets generalizing list with
  | nil => rfl
  | cons head buckets inductionHypothesis =>
      rw [List.flatten_cons, List.mem_append, not_or] at outside
      rw [List.foldl_cons, inductionHypothesis _ outside.2]
      exact getElem?_foldl_modify_of_notMem (step head) head list outside.1

/-- If no index is in two buckets, the element is changed once. -/
theorem getElem?_updateBuckets (list : List α)
    (once : buckets.flatten.Nodup) (member : bucket ∈ buckets)
    (inside : index ∈ bucket) :
    (buckets.foldl (updateBucket step) list)[index]? =
      list[index]?.map (step bucket index) := by
  induction buckets generalizing list with
  | nil => cases member
  | cons head buckets inductionHypothesis =>
      rw [List.flatten_cons, List.nodup_append'] at once
      obtain ⟨headOnce, restOnce, disjoint⟩ := once
      rw [List.foldl_cons]
      rcases List.mem_cons.mp member with rfl | later
      · rw [getElem?_updateBuckets_of_notMem _ (disjoint inside)]
        exact getElem?_foldl_modify (step bucket) list headOnce inside
      · have outside : index ∉ head := fun early =>
          disjoint early (List.mem_flatten.mpr ⟨bucket, later, inside⟩)
        rw [inductionHypothesis _ restOnce later]
        exact congrArg (Option.map (step bucket index))
          (getElem?_foldl_modify_of_notMem (step head) head list outside)

end Indices

end Grouping
