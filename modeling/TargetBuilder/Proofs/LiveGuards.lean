import Mathlib.Data.List.Induction
import Mathlib.Data.List.Nodup
import TargetBuilder.Metadata

/-!
# Live guards of a store

Whoever marks a name gets a guard, which takes the mark off again when it is dropped. Guards are dropped
in any order, not only the last one first, and in between slots are written, with values of other types
than before. The marks are those of the live guards all the same, and a slot holds what was written last.

* `GuardedStore.Matched`: the live guards have distinct names, and these are the names in flight.
* `GuardedStore.Matched.step`: no step breaks that.
* `GuardedStore.get?_after_set`: a slot is read as what was written last.
* `GuardedStore.marks_and_slots_after`: marks, guards and slots after any steps.
-/

namespace TargetBuilder

/-- A store, and the names of the live guards of it in the order in which they were handed out. -/
structure GuardedStore (σ : Type) where
  store : Metadata σ
  guards : List String

namespace GuardedStore

variable {σ : Type}

/-- What is done to a store or to the guards of it. -/
inductive Step (σ : Type) where
  | set (scope : SessionId) (name : String) (slot : σ)
  /-- Asks for a guard, and in vain while the name is in flight. -/
  | launch (name : String)
  /-- Drops the guard that has this place among the live ones, if there is one. -/
  | drop (place : Nat)

/-- The store and its guards after a step. -/
def step (g : GuardedStore σ) : Step σ → GuardedStore σ
  | .set scope name slot => { g with store := g.store.set scope name slot }
  | .launch name =>
    match g.store.launch? name with
    | some launched => ⟨launched, g.guards ++ [name]⟩
    | none => g
  | .drop place =>
    match g.guards[place]? with
    | some name => ⟨g.store.land name, g.guards.eraseIdx place⟩
    | none => g

/-- The store and its guards after steps from an empty store. -/
def after (steps : List (Step σ)) : GuardedStore σ := steps.foldl step ⟨.empty, []⟩

theorem after_concat (steps : List (Step σ)) (last : Step σ) :
    after (steps ++ [last]) = (after steps).step last := by
  simp [after]

variable {g : GuardedStore σ} {name : String}

theorem step_launch_of_free {launched : Metadata σ} (h : g.store.launch? name = some launched) :
    g.step (.launch name) = ⟨launched, g.guards ++ [name]⟩ := by
  simp [step, h]

/-- A launch that is refused does nothing. -/
theorem step_launch_of_inFlight (h : g.store.launch? name = none) : g.step (.launch name) = g := by
  simp [step, h]

theorem step_drop_of_live {place : Nat} (h : g.guards[place]? = some name) :
    g.step (.drop place) = ⟨g.store.land name, g.guards.eraseIdx place⟩ := by
  simp [step, h]

theorem step_drop_of_gone {place : Nat} (h : g.guards[place]? = none) : g.step (.drop place) = g := by
  simp [step, h]

/-! ## Guards and marks -/

/-- Every mark is that of a live guard, and no two guards share one. -/
structure Matched (g : GuardedStore σ) : Prop where
  distinct : g.guards.Nodup
  inFlight_iff : ∀ name, g.store.isInFlight name = true ↔ name ∈ g.guards

namespace Matched

/-- A name can be marked unless it has a live guard. -/
theorem launch?_eq_none_iff (h : g.Matched) (name : String) :
    g.store.launch? name = none ↔ name ∈ g.guards := by
  rw [Metadata.launch?_eq_none_iff, h.inFlight_iff]

/-- Without the guard in one place, the names that are left are the other ones. -/
theorem mem_eraseIdx_iff (h : g.Matched) {place : Nat} (live : g.guards[place]? = some name)
    (key : String) : key ∈ g.guards.eraseIdx place ↔ key ≠ name ∧ key ∈ g.guards := by
  obtain ⟨bound, rfl⟩ := List.getElem?_eq_some_iff.mp live
  rw [← h.distinct.erase_getElem place bound, h.distinct.mem_erase_iff]

/-- **A step leaves guards and marks matched**: a launch adds a guard and a mark, a drop takes off both. -/
theorem step (h : g.Matched) (st : Step σ) : (g.step st).Matched := by
  cases st with
  | set scope name slot => exact ⟨h.distinct, h.inFlight_iff⟩
  | launch name =>
    cases asked : g.store.launch? name with
    | none =>
      rw [step_launch_of_inFlight asked]
      exact h
    | some launched =>
      rw [step_launch_of_free asked]
      have fresh : name ∉ g.guards := by
        intro live
        rw [(h.launch?_eq_none_iff name).mpr live] at asked
        cases asked
      constructor
      · simpa using h.distinct.concat fresh
      · intro key
        simp [Metadata.isInFlight_of_launch? asked, h.inFlight_iff]
  | drop place =>
    cases live : g.guards[place]? with
    | none =>
      rw [step_drop_of_gone live]
      exact h
    | some name =>
      rw [step_drop_of_live live]
      constructor
      · exact h.distinct.eraseIdx place
      · intro key
        show (g.store.land name).isInFlight key = true ↔ key ∈ g.guards.eraseIdx place
        rw [h.mem_eraseIdx_iff live, Metadata.isInFlight_land, Bool.and_eq_true, h.inFlight_iff,
          decide_eq_true_eq, and_comm]

end Matched

/-- Whatever was done, guards and marks are matched. -/
theorem matched_after (steps : List (Step σ)) : (after steps).Matched := by
  induction steps using List.reverseRecOn with
  | nil => exact ⟨List.nodup_nil, by simp [after, Metadata.isInFlight, Metadata.empty]⟩
  | append_singleton steps last ih =>
    rw [after_concat]
    exact ih.step last

/-! ## Slots -/

variable {α : Type} (wanted : σ → Option α) {scope : SessionId}

/-- What is read from a slot stays the same in a step that does not write into it. -/
theorem get?_step (g : GuardedStore σ) {st : Step σ} (elsewhere : ∀ slot, st ≠ .set scope name slot) :
    (g.step st).store.get? wanted scope name = g.store.get? wanted scope name := by
  cases st with
  | set other key slot =>
    have another : ¬ (scope, name) = (other, key) := by
      rintro ⟨⟩
      exact elsewhere slot rfl
    simp [step, Metadata.get?_set, another]
  | launch key =>
    cases asked : g.store.launch? key with
    | none => rw [step_launch_of_inFlight asked]
    | some launched =>
      rw [step_launch_of_free asked]
      exact Metadata.get?_of_launch? asked wanted scope name
  | drop place =>
    cases live : g.guards[place]? with
    | none => rw [step_drop_of_gone live]
    | some key =>
      rw [step_drop_of_live live]
      exact Metadata.get?_land ..

/-- What is read from a slot stays the same in steps that do not write into it. -/
theorem get?_foldl_step (steps : List (Step σ)) (g : GuardedStore σ)
    (elsewhere : ∀ slot, .set scope name slot ∉ steps) :
    (steps.foldl step g).store.get? wanted scope name = g.store.get? wanted scope name := by
  induction steps generalizing g with
  | nil => rfl
  | cons st rest ih =>
    simp only [List.mem_cons, not_or] at elsewhere
    rw [List.foldl_cons, ih _ fun slot => (elsewhere slot).2]
    exact get?_step wanted g fun slot same => (elsewhere slot).1 same.symm

/-- A slot is read as what was written last, whatever was written before. -/
theorem get?_after_set (front back : List (Step σ)) (slot : σ)
    (last : ∀ other, .set scope name other ∉ back) :
    (after (front ++ .set scope name slot :: back)).store.get? wanted scope name = wanted slot := by
  unfold after
  rw [List.foldl_append, List.foldl_cons, get?_foldl_step wanted back _ last]
  simp [step, Metadata.get?_set]

/-- A slot that was not written holds nothing. -/
theorem get?_after_eq_none {steps : List (Step σ)} (never : ∀ slot, .set scope name slot ∉ steps) :
    (after steps).store.get? wanted scope name = none := by
  unfold after
  rw [get?_foldl_step wanted steps _ never, Metadata.get?_empty]

/-! ## Marks and slots -/

/--
**Marks are those of the live guards, and slots hold what was written last.** Whatever was stored, marked and
dropped, and in whatever order: the names in flight are those of the live guards, which are distinct, and a
name is refused a guard exactly while it has one. A refused launch does nothing, and a guard that is dropped
takes off its own mark and no other. A slot is read as the value that was written last under its session and
name, if that is of the wanted type and else as nothing, also where an earlier value was of that type. Guards and
writes elsewhere have no effect on it.
-/
theorem marks_and_slots_after (steps : List (Step σ)) :
    let g := after steps
    ((∀ name, g.store.isInFlight name = true ↔ name ∈ g.guards) ∧ g.guards.Nodup) ∧
    (∀ name, (g.store.launch? name = none ↔ name ∈ g.guards) ∧
      (name ∈ g.guards → g.step (.launch name) = g)) ∧
    (∀ (place : Nat) (name key : String), g.guards[place]? = some name →
      ((g.step (.drop place)).store.isInFlight key = true ↔
        key ≠ name ∧ g.store.isInFlight key = true)) ∧
    ∀ {α : Type} (wanted : σ → Option α) (scope : SessionId) (name : String),
      (∀ front slot back, steps = front ++ .set scope name slot :: back →
        (∀ other, .set scope name other ∉ back) → g.store.get? wanted scope name = wanted slot) ∧
      ((∀ slot, .set scope name slot ∉ steps) → g.store.get? wanted scope name = none) ∧
      ∀ st, (∀ slot, st ≠ .set scope name slot) →
        (g.step st).store.get? wanted scope name = g.store.get? wanted scope name := by
  intro g
  have matched : g.Matched := matched_after steps
  refine ⟨⟨matched.inFlight_iff, matched.distinct⟩, fun name => ⟨matched.launch?_eq_none_iff name, ?_⟩,
    ?_, fun wanted scope name => ⟨?_, ?_, ?_⟩⟩
  · intro live
    exact step_launch_of_inFlight ((matched.launch?_eq_none_iff name).mpr live)
  · intro place name key live
    rw [step_drop_of_live live, Metadata.isInFlight_land]
    simp [and_comm]
  · rintro front slot back rfl last
    exact get?_after_set wanted front back slot last
  · exact get?_after_eq_none wanted
  · intro st elsewhere
    exact get?_step wanted g elsewhere

/-- Two guards, of which the first one goes first, and a number that gives way to a text in between. -/
def overlapping : List (Step Slot) :=
  [.set ⟨0⟩ "provider" (.int 7), .launch "frame", .launch "hidden",
    .set ⟨0⟩ "provider" (.text "host"), .drop 0]

/--
The mark of the second guard outlasts the first guard and a launch of that name that is refused. The number
does not come back, the text is there, and another session sees neither.
-/
theorem marks_and_slots_after_overlapping :
    let g := after overlapping
    g.guards = ["hidden"] ∧ g.store.isInFlight "hidden" = true ∧ g.store.isInFlight "frame" = false ∧
      g.step (.launch "hidden") = g ∧
      (g.step (.drop 0)).store.isInFlight "hidden" = false ∧
      g.store.get? Slot.int? ⟨0⟩ "provider" = none ∧
      g.store.get? Slot.text? ⟨0⟩ "provider" = some "host" ∧
      g.store.get? Slot.text? ⟨1⟩ "provider" = none := by
  intro g
  have guards : g.guards = ["hidden"] := by decide +kernel
  obtain ⟨⟨marks, -⟩, launches, drops, slots⟩ := marks_and_slots_after overlapping
  have live : "hidden" ∈ g.guards := by simp [guards]
  have own := drops 0 "hidden" "hidden" (by simp [g, guards])
  have written : ∀ other, .set ⟨0⟩ "provider" other ∉ [(.drop 0 : Step Slot)] := by simp
  have number := (slots Slot.int? ⟨0⟩ "provider").1 (overlapping.take 3) (.text "host") [.drop 0] rfl written
  have text := (slots Slot.text? ⟨0⟩ "provider").1 (overlapping.take 3) (.text "host") [.drop 0] rfl written
  have unseen := (slots Slot.text? ⟨1⟩ "provider").2.1 (by simp [overlapping])
  refine ⟨guards, (marks _).mpr live, ?_, (launches _).2 live, ?_, number, text, unseen⟩
  · rw [Bool.eq_false_iff, ne_eq, marks]
    simp [g, guards]
  · rw [Bool.eq_false_iff, ne_eq, own]
    simp

end GuardedStore

end TargetBuilder
