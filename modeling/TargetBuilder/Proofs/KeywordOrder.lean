import TargetBuilder.Proofs.LongForm
import TargetBuilder.Proofs.ValueEquality

/-!
# The order of keywords

A mapping is filled by collecting pairs and by inserting further ones. Its keys stand in the order in which
they came first, and under each is the value that came last, so the place of a key and its value may be owed
to different insertions. Nothing else of the insertions is left: mappings are equal if the orders of their
keys and the last values are.

* `OrderedMap.keys_ofList`, `OrderedMap.pairwise_keys_ofList`: which keys there are, and in which order.
* `OrderedMap.get?_ofList_eq_some_iff`: which value is found under a key.
* `Filling.first_place_last_value`: what a mapping is, told by the insertions.
-/

namespace TargetBuilder

/-! ## What the insertions say -/

/-- The value is the last one that came under the key. -/
def CameLast {κ α : Type} (pairs : List (κ × α)) (key : κ) (value : α) : Prop :=
  ∃ front back, pairs = front ++ (key, value) :: back ∧ key ∉ back.map Prod.fst

/-- After one more insertion, that one is the last under its key, and under other keys nothing changes. -/
theorem cameLast_concat_iff {κ α : Type} {pairs : List (κ × α)} {key other : κ} {value last : α} :
    CameLast (pairs ++ [(other, last)]) key value ↔
      (key = other ∧ value = last) ∨ (key ≠ other ∧ CameLast pairs key value) := by
  constructor
  · rintro ⟨front, back, same, later⟩
    rcases List.eq_nil_or_concat back with rfl | ⟨back, final, rfl⟩
    · obtain ⟨rfl, ends⟩ := List.append_inj' same rfl
      cases ends
      exact Or.inl ⟨rfl, rfl⟩
    · rw [List.concat_eq_append, ← List.cons_append, ← List.append_assoc] at same
      obtain ⟨rfl, ends⟩ := List.append_inj' same rfl
      cases ends
      simp only [List.concat_eq_append, List.map_append, List.map_cons, List.map_nil, List.mem_append,
        List.mem_singleton, not_or] at later
      exact Or.inr ⟨later.2, front, back, rfl, later.1⟩
  · rintro (⟨rfl, rfl⟩ | ⟨another, front, back, rfl, later⟩)
    · exact ⟨pairs, [], rfl, List.not_mem_nil⟩
    · exact ⟨front, back ++ [(other, last)], by simp, by simpa [another] using later⟩

namespace OrderedMap

section

variable {κ α : Type} [DecidableEq κ]

theorem ofList_concat (pairs : List (κ × α)) (p : κ × α) :
    ofList (pairs ++ [p]) = (ofList pairs).insert p.1 p.2 :=
  List.foldl_concat ..

theorem eraseDups_concat (ks : List κ) (k : κ) :
    (ks ++ [k]).eraseDups = if k ∈ ks then ks.eraseDups else ks.eraseDups ++ [k] := by
  rw [List.eraseDups_append]
  by_cases h : k ∈ ks <;> simp [List.removeAll, List.eraseDups_cons, h]

/-- **The keys are those that were inserted, each once, in the place where it came first.** -/
theorem keys_ofList (pairs : List (κ × α)) : (ofList pairs).keys = (pairs.map Prod.fst).eraseDups := by
  induction pairs using List.reverseRecOn with
  | nil => rfl
  | append_singleton pairs p ih =>
    rw [ofList_concat, keys_insert, List.map_append, List.map_singleton, eraseDups_concat, ih]
    simp only [List.mem_eraseDups]

theorem pairwise_idxOf_eraseDups (ks : List κ) :
    ks.eraseDups.Pairwise fun k l => ks.idxOf k < ks.idxOf l := by
  induction ks using List.reverseRecOn with
  | nil => simp
  | append_singleton ks last ih =>
    -- what is added at the end moves no first occurrence
    have kept : ks.eraseDups.Pairwise fun k l => (ks ++ [last]).idxOf k < (ks ++ [last]).idxOf l := by
      refine ih.imp_of_mem fun hk hl before => ?_
      rw [List.mem_eraseDups] at hk hl
      rwa [List.idxOf_append_of_mem hk, List.idxOf_append_of_mem hl]
    rw [eraseDups_concat]
    split
    · exact kept
    · next fresh =>
      refine List.pairwise_append.mpr ⟨kept, List.pairwise_singleton .., fun k hk l hl => ?_⟩
      rw [List.mem_eraseDups] at hk
      rw [List.mem_singleton.mp hl, List.idxOf_append_of_mem hk, List.idxOf_append_of_notMem fresh]
      exact Nat.lt_add_right _ (List.idxOf_lt_length_iff.mpr hk)

/-- A key stands before another if it was first inserted before it. -/
theorem pairwise_keys_ofList (pairs : List (κ × α)) :
    (ofList pairs).keys.Pairwise fun k l =>
      (pairs.map Prod.fst).idxOf k < (pairs.map Prod.fst).idxOf l := by
  rw [keys_ofList]
  exact pairwise_idxOf_eraseDups _

theorem nodup_keys_ofList (pairs : List (κ × α)) : (ofList pairs).keys.Nodup := by
  have none_there : (empty : OrderedMap κ α).keys.Nodup := List.nodup_nil
  exact nodup_keys_insertAll none_there pairs

/-- **What is found under a key is the value that came last.** -/
theorem get?_ofList_eq_some_iff {pairs : List (κ × α)} {key : κ} {value : α} :
    (ofList pairs).get? key = some value ↔ CameLast pairs key value := by
  induction pairs using List.reverseRecOn with
  | nil =>
    refine iff_of_false (by simp [ofList, insertAll]) ?_
    rintro ⟨front, back, same, -⟩
    simp at same
  | append_singleton pairs p ih =>
    obtain ⟨last, latest⟩ := p
    rw [ofList_concat, get?_insert, cameLast_concat_iff]
    by_cases h : key = last
    · subst h
      simp [eq_comm]
    · simp [h, ih]

theorem get?_ofList_eq_none_iff {pairs : List (κ × α)} {key : κ} :
    (ofList pairs).get? key = none ↔ key ∉ pairs.map Prod.fst := by
  rw [get?_eq_none_iff, keys_ofList, List.mem_eraseDups]

/-! ## Comparing entry by entry and key by key -/

theorem forall₂_entries_iff {R : α → α → Prop} {as bs : List (κ × α)}
    (distinct : (as.map Prod.fst).Nodup) :
    List.Forall₂ (fun e f => e.1 = f.1 ∧ R e.2 f.2) as bs ↔
      as.map Prod.fst = bs.map Prod.fst ∧
        ∀ key v w, find key as = some v → find key bs = some w → R v w := by
  induction as generalizing bs with
  | nil => cases bs <;> simp [find]
  | cons a as ih =>
    obtain ⟨k, v⟩ := a
    cases bs with
    | nil => simp
    | cons b bs =>
      obtain ⟨l, w⟩ := b
      obtain ⟨fresh, apart⟩ := List.nodup_cons.mp distinct
      rw [List.forall₂_cons, ih apart, List.map_cons, List.map_cons, List.cons.injEq]
      constructor
      · rintro ⟨⟨rfl, first⟩, rest, under⟩
        refine ⟨⟨rfl, rest⟩, fun key v' w' hv hw => ?_⟩
        rw [find] at hv hw
        by_cases h : k = key
        · rw [if_pos h] at hv hw
          cases hv
          cases hw
          exact first
        · rw [if_neg h] at hv hw
          exact under key v' w' hv hw
      · rintro ⟨⟨rfl, rest⟩, under⟩
        refine ⟨⟨rfl, under k v w (by simp [find]) (by simp [find])⟩, rest, fun key v' w' hv hw => ?_⟩
        have h : k ≠ key := by
          rintro rfl
          rw [find_eq_none_iff.mpr fresh] at hv
          cases hv
        exact under key v' w' (by rw [find, if_neg h, hv]) (by rw [find, if_neg h, hw])

end

end OrderedMap

/-! ## Filling a mapping -/

/-- How a mapping is filled. -/
inductive Filling (κ α : Type) where
  /-- Pairs are collected into a new mapping. -/
  | collected (pairs : List (κ × α))
  /-- A pair is inserted after all that came before. -/
  | inserted (before : Filling κ α) (key : κ) (value : α)

namespace Filling

variable {κ α : Type} [DecidableEq κ]

/-- The mapping that results. -/
def result : Filling κ α → OrderedMap κ α
  | collected pairs => .ofList pairs
  | inserted before key value => before.result.insert key value

/-- All insertions in order. -/
def insertions : Filling κ α → List (κ × α)
  | collected pairs => pairs
  | inserted before key value => before.insertions ++ [(key, value)]

/-- However a mapping is filled, it is what its insertions would be collected into. -/
theorem result_eq (f : Filling κ α) : f.result = .ofList f.insertions := by
  induction f with
  | collected pairs => rfl
  | inserted before key value ih => rw [result, insertions, OrderedMap.ofList_concat, ih]

/--
**A mapping keeps the first place and the last value of every key.** Take any way to fill one. The keys are
those that were inserted, each once, in the order in which they came first. Under a key the value that came
last is found, and nothing under a key that never came. There are as many keys and values as the size says,
and each value is the one that is found under the key in the same place. Two mappings are equal if and only
if their keys came first in the same order and the last values under each key are equal.
-/
theorem first_place_last_value (f : Filling String Value) :
    let keys := f.insertions.map Prod.fst
    (f.result.keys.Nodup ∧ f.result.keys = keys.eraseDups ∧
      f.result.keys.Pairwise fun k l => keys.idxOf k < keys.idxOf l) ∧
    (∀ key value, f.result.get? key = some value ↔ CameLast f.insertions key value) ∧
    (∀ key, f.result.get? key = none ↔ key ∉ keys) ∧
    (f.result.keys.length = f.result.size ∧ f.result.values.length = f.result.size ∧
      ∀ place : Nat, f.result.values[place]? = f.result.keys[place]?.bind f.result.get?) ∧
    ∀ g : Filling String Value,
      (Value.map f.result).same (.map g.result) = true ↔
        keys.eraseDups = (g.insertions.map Prod.fst).eraseDups ∧
          ∀ key v w, CameLast f.insertions key v → CameLast g.insertions key w → v.same w = true := by
  intro keys
  have distinct : f.result.keys.Nodup := f.result_eq ▸ OrderedMap.nodup_keys_ofList _
  refine ⟨⟨distinct, ?_, ?_⟩, fun key value => ?_, fun key => ?_, ⟨?_, ?_, fun place => ?_⟩, fun g => ?_⟩
  · rw [result_eq, OrderedMap.keys_ofList]
  · rw [result_eq]
    exact OrderedMap.pairwise_keys_ofList f.insertions
  · rw [result_eq, OrderedMap.get?_ofList_eq_some_iff]
  · rw [result_eq, OrderedMap.get?_ofList_eq_none_iff]
  · exact List.length_map ..
  · exact List.length_map ..
  · cases there : f.result.keys[place]? with
    | some key => exact OrderedMap.getElem?_values distinct there
    | none => simpa [OrderedMap.keys, OrderedMap.values] using there
  · have compared : (Value.map f.result).same (.map g.result) = true ↔
        f.result.keys = g.result.keys ∧ ∀ key v w,
          f.result.get? key = some v → g.result.get? key = some w → v.same w = true :=
      Value.same_map_iff.trans (OrderedMap.forall₂_entries_iff distinct)
    rw [compared, f.result_eq, g.result_eq, OrderedMap.keys_ofList, OrderedMap.keys_ofList]
    simp only [OrderedMap.get?_ofList_eq_some_iff]
    rfl

/-- A title that is set twice, with its state in between. -/
def retitled : Filling String Value :=
  .inserted (.inserted (.collected [("title", .text "Go")]) "state" .nil) "title" (.text "Stop")

/-- The title keeps its first place and has its last value, and keys in another order make another mapping. -/
theorem first_place_last_value_retitled :
    retitled.result.keys = ["title", "state"] ∧
    retitled.result.get? "title" = some (.text "Stop") ∧ retitled.result.get? "icon" = none ∧
    (Value.map retitled.result).same (.map (.ofList [("state", .nil), ("title", .text "Stop")])) = false := by
  obtain ⟨⟨-, order, -⟩, last, missing, -, equal⟩ := first_place_last_value retitled
  refine ⟨order, (last _ _).mpr ⟨[("title", .text "Go"), ("state", .nil)], [], rfl, List.not_mem_nil⟩,
    (missing _).mpr (by decide), Bool.eq_false_iff.mpr fun same => ?_⟩
  have ordered := ((equal (.collected [("state", .nil), ("title", .text "Stop")])).mp same).1
  revert ordered
  decide

end Filling

end TargetBuilder
