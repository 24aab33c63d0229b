import Mathlib.Data.Finmap
import TargetBuilder.OrderedMap

/-!
# Ordered maps as finite maps

But for the order of its keys, an ordered map is a finite map. Its keys are distinct, however it was put
together, so what is found under a key is the one value that is stored there; storing a value, and storing
all entries of another map, is what it is for finite maps.

* `OrderedMap.Represents`: an ordered map that holds what a finite map does.
* `OrderedMap.Represents.insert`, `OrderedMap.Represents.insertAll`: storing keeps it so.
* `OrderedMap.get?_of_getElem?`: keys and values stand in the same order.
-/

namespace TargetBuilder

namespace OrderedMap

variable {κ α : Type} [DecidableEq κ]

/-! ## Keys -/

theorem map_fst_put (key : κ) (value : α) (es : List (κ × α)) :
    (put key value es).map Prod.fst =
      if key ∈ es.map Prod.fst then es.map Prod.fst else es.map Prod.fst ++ [key] := by
  induction es with
  | nil => rfl
  | cons e rest ih =>
    obtain ⟨k, v⟩ := e
    rw [put]
    by_cases same : k = key
    · rw [if_pos same, if_pos (by simp [same])]
      rfl
    · rw [if_neg same, List.map_cons, List.map_cons, ih]
      by_cases there : key ∈ rest.map Prod.fst
      · rw [if_pos there, if_pos (List.mem_cons_of_mem _ there)]
      · rw [if_neg there, if_neg (by simpa [Ne.symm same] using there)]
        rfl

/-- A new key comes last. -/
theorem keys_insert (m : OrderedMap κ α) (key : κ) (value : α) :
    (m.insert key value).keys = if key ∈ m.keys then m.keys else m.keys ++ [key] :=
  map_fst_put key value m.entries

theorem nodup_keys_insert {m : OrderedMap κ α} (h : m.keys.Nodup) (key : κ) (value : α) :
    (m.insert key value).keys.Nodup := by
  rw [keys_insert]
  split
  · exact h
  · next fresh =>
    refine List.nodup_append'.mpr ⟨h, List.nodup_singleton key, fun k there own => fresh ?_⟩
    exact List.mem_singleton.mp own ▸ there

theorem find_eq_none_iff {key : κ} {es : List (κ × α)} : find key es = none ↔ key ∉ es.map Prod.fst := by
  induction es with
  | nil => simp [find]
  | cons e rest ih =>
    obtain ⟨k, v⟩ := e
    by_cases same : k = key
    · simp [find, same]
    · simp [find, same, Ne.symm same, ih]

/-- A key is there if and only if something is found under it. -/
theorem get?_eq_none_iff {m : OrderedMap κ α} {key : κ} : m.get? key = none ↔ key ∉ m.keys :=
  find_eq_none_iff

theorem find_of_mem {key : κ} {value : α} {es : List (κ × α)} (distinct : (es.map Prod.fst).Nodup)
    (there : (key, value) ∈ es) : find key es = some value := by
  induction es with
  | nil => cases there
  | cons e rest ih =>
    obtain ⟨fresh, apart⟩ := List.nodup_cons.mp distinct
    rcases List.mem_cons.mp there with rfl | later
    · rw [find, if_pos rfl]
    · have other : e.1 ≠ key := fun same => fresh (same ▸ List.mem_map_of_mem later)
      rw [find, if_neg other]
      exact ih apart later

/-- **Where keys are distinct, what is found under a key is the value beside it.** -/
theorem get?_of_getElem? {m : OrderedMap κ α} (distinct : m.keys.Nodup) {place : Nat} {key : κ} {value : α}
    (there : m.entries[place]? = some (key, value)) : m.get? key = some value :=
  find_of_mem distinct (List.mem_of_getElem? there)

/-! ## Storing several entries -/

theorem find_append (key : κ) (front back : List (κ × α)) :
    find key (front ++ back) = (find key front).or (find key back) := by
  induction front with
  | nil => rfl
  | cons e rest ih =>
    obtain ⟨k, v⟩ := e
    rw [List.cons_append, find, find]
    split
    · rfl
    · exact ih

/-- Of several entries of a key the last one counts. -/
theorem get?_insertAll (m : OrderedMap κ α) (more : List (κ × α)) (key : κ) :
    (m.insertAll more).get? key = (find key more.reverse).or (m.get? key) := by
  induction more generalizing m with
  | nil => rfl
  | cons e rest ih =>
    obtain ⟨k, v⟩ := e
    have first : (m.insert k v).get? key = (find key [(k, v)]).or (m.get? key) := by
      rw [get?_insert, find]
      by_cases same : k = key
      · rw [if_pos same.symm, if_pos same]
        rfl
      · rw [if_neg (Ne.symm same), if_neg same]
        rfl
    have stored : m.insertAll ((k, v) :: rest) = (m.insert k v).insertAll rest := rfl
    rw [stored, ih, first, List.reverse_cons, find_append, Option.or_assoc]

theorem nodup_keys_insertAll {m : OrderedMap κ α} (h : m.keys.Nodup) (more : List (κ × α)) :
    (m.insertAll more).keys.Nodup := by
  induction more generalizing m with
  | nil => exact h
  | cons e rest ih => exact ih (nodup_keys_insert h e.1 e.2)

/-- Where keys are distinct, the first entry of a key is the last one. -/
theorem find_reverse {es : List (κ × α)} (distinct : (es.map Prod.fst).Nodup) (key : κ) :
    find key es.reverse = find key es := by
  induction es with
  | nil => rfl
  | cons e rest ih =>
    obtain ⟨k, v⟩ := e
    obtain ⟨fresh, apart⟩ := List.nodup_cons.mp distinct
    have single : find key [(k, v)] = if k = key then some v else none := rfl
    rw [List.reverse_cons, find_append, ih apart, single, find]
    split
    · next same =>
      rw [find_eq_none_iff.mpr (same ▸ fresh)]
      rfl
    · exact Option.or_none

/-! ## Finite maps -/

/-- Whether an ordered map holds under every key, once, what the finite map holds there. -/
structure Represents (m : OrderedMap κ α) (f : Finmap fun _ : κ => α) : Prop where
  distinct : m.keys.Nodup
  get?_eq : ∀ key, m.get? key = f.lookup key

namespace Represents

variable {m n : OrderedMap κ α} {f g : Finmap fun _ : κ => α}

theorem empty : (empty : OrderedMap κ α).Represents ∅ := ⟨List.nodup_nil, fun _ => rfl⟩

theorem insert (h : m.Represents f) (key : κ) (value : α) :
    (m.insert key value).Represents (f.insert key value) := by
  refine ⟨nodup_keys_insert h.distinct key value, fun other => ?_⟩
  rw [get?_insert]
  split
  · next same => rw [same, Finmap.lookup_insert]
  · next different => rw [Finmap.lookup_insert_of_ne _ different, h.get?_eq]

theorem mem_keys_iff (h : m.Represents f) (key : κ) : key ∈ m.keys ↔ key ∈ f := by
  rw [← not_iff_not, ← get?_eq_none_iff, h.get?_eq, Finmap.lookup_eq_none]

theorem toFinset_keys (h : m.Represents f) : m.keys.toFinset = f.keys := by
  ext key
  rw [List.mem_toFinset, Finmap.mem_keys, h.mem_keys_iff]

theorem size_eq (h : m.Represents f) : m.size = f.keys.card := by
  rw [← h.toFinset_keys, List.toFinset_card_of_nodup h.distinct]
  unfold size keys
  rw [List.length_map]

theorem isEmpty_iff (h : m.Represents f) : m.isEmpty = true ↔ f = ∅ := by
  have none_there : m.isEmpty = true ↔ m.keys = [] := by
    unfold isEmpty keys
    rw [List.isEmpty_iff, List.map_eq_nil_iff]
  rw [none_there]
  constructor
  · intro nil
    refine Finmap.ext_lookup fun key => ?_
    rw [Finmap.lookup_empty, Finmap.lookup_eq_none, ← h.mem_keys_iff, nil]
    exact List.not_mem_nil
  · rintro rfl
    refine List.eq_nil_iff_forall_not_mem.mpr fun key there => ?_
    exact Finmap.notMem_empty ((h.mem_keys_iff key).mp there)

/-- Storing all entries of another map lets that one take precedence. -/
theorem insertAll (h : m.Represents f) (hn : n.Represents g) :
    (m.insertAll n.entries).Represents (g ∪ f) := by
  refine ⟨nodup_keys_insertAll h.distinct n.entries, fun key => ?_⟩
  have found : find key n.entries = g.lookup key := hn.get?_eq key
  rw [get?_insertAll, find_reverse hn.distinct, found, h.get?_eq]
  by_cases there : key ∈ g
  · obtain ⟨value, hv⟩ := Finmap.mem_iff.mp there
    rw [Finmap.lookup_union_left there, hv]
    rfl
  · rw [Finmap.lookup_union_right there, Finmap.lookup_eq_none.mpr there]
    rfl

end Represents

end OrderedMap

end TargetBuilder
