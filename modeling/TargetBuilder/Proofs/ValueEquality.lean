import Mathlib.Data.List.Forall2
import TargetBuilder.Value

/-!
# Equality of values

Values are compared part by part, to any depth. The comparison is symmetric and transitive. It is not an
equivalence, because a NaN equals nothing: a value with a NaN somewhere inside differs from itself, and no
other value does.

* `Value.same_symm`, `Value.same_trans`: the comparison is a partial equivalence.
* `Value.same_self_iff`: which values equal themselves.
* `Value.same_partial_equivalence`: all of it, with what makes two values of a kind equal.
-/

namespace TargetBuilder

open Number

/-! ## Numbers -/

namespace Number.Binary64

theorem same_comm (x y : Binary64) : x.same y = y.same x := by
  unfold same
  rw [Bool.and_comm (!x.isNaN), Bool.beq_comm, Bool.and_comm (x.code == 0)]

theorem same_eq_true_iff {x y : Binary64} :
    x.same y = true ↔ x.isNaN = false ∧ y.isNaN = false ∧ (x = y ∨ x.code = 0 ∧ y.code = 0) := by
  simp [same, and_assoc]

theorem same_trans {x y z : Binary64} (h : x.same y = true) (h' : y.same z = true) : x.same z = true := by
  rw [same_eq_true_iff] at h h' ⊢
  obtain ⟨hx, -, rfl | ⟨zx, zy⟩⟩ := h
  · exact h'
  · obtain ⟨-, hz, rfl | ⟨-, zz⟩⟩ := h'
    · exact ⟨hx, hz, Or.inr ⟨zx, zy⟩⟩
    · exact ⟨hx, hz, Or.inr ⟨zx, zz⟩⟩

/-- All but NaN equal themselves. -/
theorem same_self_iff {x : Binary64} : x.same x = true ↔ x.isNaN = false := by
  simp [same_eq_true_iff]

end Number.Binary64

namespace Value

/-! ## Values part by part -/

/--
To prove something of all values, it may be assumed of the elements of a list and of what a mapping holds
under its keys.
-/
@[elab_as_elim, induction_eliminator]
theorem ind {motive : Value → Prop} (nil : motive .nil) (bool : ∀ b, motive (.bool b))
    (int : ∀ n, motive (.int n)) (float : ∀ x, motive (.float x)) (text : ∀ s, motive (.text s))
    (list : ∀ items, (∀ v ∈ items, motive v) → motive (.list items))
    (map : ∀ m : Keywords, (∀ e ∈ m.entries, motive e.2) → motive (.map m))
    (target : ∀ t, motive (.target t)) : ∀ v, motive v :=
  Value.rec (motive_1 := motive) (motive_2 := fun items => ∀ v ∈ items, motive v)
    (motive_3 := fun m => ∀ e ∈ m.entries, motive e.2)
    (motive_4 := fun entries => ∀ e ∈ entries, motive e.2) (motive_5 := fun e => motive e.2)
    nil bool int float text list map target (List.forall_mem_nil _)
    (fun _ _ head tail => List.forall_mem_cons.mpr ⟨head, tail⟩) (fun _ entries => entries)
    (List.forall_mem_nil _) (fun _ _ head tail => List.forall_mem_cons.mpr ⟨head, tail⟩)
    (fun _ _ held => held)

/-- The comparison as a relation. -/
abbrev Same (v w : Value) : Prop := v.same w = true

/-- Two entries of mappings are equal if their keys are the same and their values are equal. -/
def SameEntry (e f : String × Value) : Prop := e.1 = f.1 ∧ e.2.Same f.2

theorem sameList_iff {as bs : List Value} : sameList as bs = true ↔ List.Forall₂ Same as bs := by
  induction as generalizing bs with
  | nil => cases bs <;> simp [sameList]
  | cons a as ih => cases bs <;> simp [sameList, ih]

theorem sameEntries_iff {as bs : List (String × Value)} :
    sameEntries as bs = true ↔ List.Forall₂ SameEntry as bs := by
  induction as generalizing bs with
  | nil => cases bs <;> simp [sameEntries]
  | cons a as ih => cases bs <;> simp [sameEntries, SameEntry, ih]

/-- Lists are equal if and only if they are so element by element. -/
theorem same_list_iff {as bs : List Value} : (list as).Same (list bs) ↔ List.Forall₂ Same as bs := by
  rw [← sameList_iff]
  rfl

/-- Mappings are equal if and only if they are so entry by entry. -/
theorem same_map_iff {m n : Keywords} :
    (map m).Same (map n) ↔ List.Forall₂ SameEntry m.entries n.entries := by
  rw [← sameEntries_iff]
  rfl

/-- Values of different kinds are never equal. -/
theorem kind_eq_of_same {v w : Value} (h : v.Same w) : v.kind = w.kind := by
  cases v <;> cases w <;> simp_all [Same, same, kind]

/-! ## A partial equivalence -/

theorem same_symm {v w : Value} (h : v.Same w) : w.Same v := by
  induction v generalizing w with
  | list as ih =>
    cases w with
    | list bs =>
      have parts := (List.forall₂_and_left _ _).mpr ⟨ih, same_list_iff.mp h⟩
      exact same_list_iff.mpr (parts.imp fun _ _ part => part.1 part.2).flip
    | _ => cases h
  | map m ih =>
    cases w with
    | map n =>
      have parts := (List.forall₂_and_left _ _).mpr ⟨ih, same_map_iff.mp h⟩
      exact same_map_iff.mpr (parts.imp fun _ _ part => ⟨part.2.1.symm, part.1 part.2.2⟩).flip
    | _ => cases h
  | float x =>
    cases w with
    | float y => exact (y.same_comm x).trans h
    | _ => cases h
  | nil | bool | int | text | target =>
    cases w <;> simp_all [Same, same]

/-- Two comparisons of lists part by part, one after the other. -/
theorem forall₂_comp {α : Type} {R S T : α → α → Prop} (comp : ∀ a b c, R a b → S b c → T a c)
    {as bs cs : List α} (h : List.Forall₂ R as bs) (h' : List.Forall₂ S bs cs) :
    List.Forall₂ T as cs := by
  induction h generalizing cs with
  | nil => cases h'; exact .nil
  | cons first rest ih =>
    cases h' with
    | cons next later => exact .cons (comp _ _ _ first next) (ih later)

theorem same_trans {u v w : Value} (h : u.Same v) (h' : v.Same w) : u.Same w := by
  induction u generalizing v w with
  | list as ih =>
    cases v with
    | list bs =>
      cases w with
      | list cs =>
        have parts := (List.forall₂_and_left _ _).mpr ⟨ih, same_list_iff.mp h⟩
        exact same_list_iff.mpr (forall₂_comp (fun _ _ _ part => part.1 part.2) parts (same_list_iff.mp h'))
      | _ => cases h'
    | _ => cases h
  | map m ih =>
    cases v with
    | map n =>
      cases w with
      | map o =>
        have parts := (List.forall₂_and_left _ _).mpr ⟨ih, same_map_iff.mp h⟩
        exact same_map_iff.mpr (forall₂_comp
          (fun _ _ _ part next => ⟨part.2.1.trans next.1, part.1 part.2.2 next.2⟩) parts (same_map_iff.mp h'))
      | _ => cases h'
    | _ => cases h
  | float x =>
    cases v with
    | float y =>
      cases w with
      | float z => exact Binary64.same_trans h h'
      | _ => cases h'
    | _ => cases h
  | nil | bool | int | text | target =>
    cases v <;> cases w <;> simp_all [Same, same]

/-! ## Which values equal themselves -/

/-- A value is inside itself, and inside the lists and mappings that hold a value that it is inside of. -/
inductive Inside (v : Value) : Value → Prop
  | self : Inside v v
  | element {items : List Value} {w : Value} : w ∈ items → Inside v w → Inside v (.list items)
  | entry {m : Keywords} {e : String × Value} : e ∈ m.entries → Inside v e.2 → Inside v (.map m)

/-- No NaN is inside the value. -/
def IsNaNFree (v : Value) : Prop := ∀ x : Binary64, (Value.float x).Inside v → x.isNaN = false

theorem isNaNFree_list_iff {items : List Value} :
    (list items).IsNaNFree ↔ ∀ v ∈ items, v.IsNaNFree := by
  constructor
  · exact fun free v mem x inside => free x (.element mem inside)
  · intro free x inside
    cases inside with
    | element mem inside => exact free _ mem x inside

theorem isNaNFree_map_iff {m : Keywords} : (map m).IsNaNFree ↔ ∀ e ∈ m.entries, e.2.IsNaNFree := by
  constructor
  · exact fun free e mem x inside => free x (.entry mem inside)
  · intro free x inside
    cases inside with
    | entry mem inside => exact free _ mem x inside

theorem isNaNFree_float_iff {x : Binary64} : (float x).IsNaNFree ↔ x.isNaN = false := by
  constructor
  · exact fun free => free x .self
  · intro number y inside
    cases inside
    exact number

/-- **A value equals itself if and only if no NaN is inside it.** -/
theorem same_self_iff {v : Value} : v.Same v ↔ v.IsNaNFree := by
  induction v with
  | list items ih =>
    rw [same_list_iff, List.forall₂_same, isNaNFree_list_iff]
    exact forall₂_congr ih
  | map m ih =>
    rw [same_map_iff, List.forall₂_same, isNaNFree_map_iff]
    exact forall₂_congr fun e mem => (and_iff_right rfl).trans (ih e mem)
  | float x => exact Binary64.same_self_iff.trans isNaNFree_float_iff.symm
  | nil | bool | int | text | target =>
    refine iff_of_true (by simp [Same, same]) fun x inside => ?_
    cases inside

/--
**The comparison of values is a partial equivalence that only NaN breaks.** It is symmetric and transitive,
and a value equals itself if and only if no floating-point number inside it is NaN. Values of different kinds
differ, so an integer never equals a floating-point number. Targets are equal when they are the same one, the
two zeros are equal, and lists and mappings are equal when they have equal parts in the same order.
-/
theorem same_partial_equivalence :
    (∀ v w : Value, v.same w = w.same v) ∧
    (∀ u v w : Value, u.same v = true → v.same w = true → u.same w = true) ∧
    (∀ v : Value, v.same v = true ↔ ∀ x : Binary64, (float x).Inside v → x.isNaN = false) ∧
    (∀ v w : Value, v.same w = true → v.kind = w.kind) ∧
    (∀ s t : TargetId, (target s).same (target t) = true ↔ s = t) ∧
    (∀ x y : Binary64, x.code = 0 → y.code = 0 → (float x).same (float y) = true) ∧
    (∀ as bs : List Value, (list as).same (list bs) = true ↔ List.Forall₂ (·.same · = true) as bs) ∧
    ∀ m n : Keywords, (map m).same (map n) = true ↔
      List.Forall₂ (fun e f => e.1 = f.1 ∧ e.2.same f.2 = true) m.entries n.entries := by
  refine ⟨fun v w => ?_, fun _ _ _ => same_trans, fun _ => same_self_iff, fun _ _ => kind_eq_of_same,
    fun s t => ?_, fun x y hx hy => ?_, fun _ _ => same_list_iff, fun _ _ => same_map_iff⟩
  · exact Bool.eq_iff_iff.mpr ⟨same_symm, same_symm⟩
  · simp [same]
  · have number : ∀ z : Binary64, z.code = 0 → z.isNaN = false := by
      intro z hz
      simp [Binary64.isNaN, hz]
    exact Binary64.same_eq_true_iff.mpr ⟨number x hx, number y hy, Or.inr ⟨hx, hy⟩⟩

/-- Settings that hold a number. -/
def spacing (x : Binary64) : Value := .list [.nil, .map (.ofList [("gap", .float x)])]

/-- The sign of a zero deep inside makes no difference, and a NaN there makes a value differ from itself. -/
theorem same_partial_equivalence_spacing :
    (spacing ⟨0x8000000000000000⟩).same (spacing ⟨0⟩) = true ∧
    (spacing ⟨0⟩).same (spacing ⟨0x8000000000000000⟩) = true ∧
    (spacing ⟨0x8000000000000000⟩).same (spacing ⟨0x8000000000000000⟩) = true ∧
    (spacing ⟨0x7FF8000000000000⟩).same (spacing ⟨0x7FF8000000000000⟩) = false := by
  obtain ⟨symm, trans, self, -, -, zeros, lists, maps⟩ := same_partial_equivalence
  have plain : nil.same nil = true := rfl
  have gaps : (map (.ofList [("gap", .float ⟨0x8000000000000000⟩)])).same
      (map (.ofList [("gap", .float ⟨0⟩)])) = true :=
    (maps _ _).mpr (.cons ⟨rfl, zeros _ _ rfl rfl⟩ .nil)
  have signed : (spacing ⟨0x8000000000000000⟩).same (spacing ⟨0⟩) = true :=
    (lists _ _).mpr (.cons plain (.cons gaps .nil))
  have unsigned : (spacing ⟨0⟩).same (spacing ⟨0x8000000000000000⟩) = true :=
    (symm _ _).trans signed
  refine ⟨signed, unsigned, trans _ _ _ signed unsigned, Bool.eq_false_iff.mpr fun same => ?_⟩
  have inside : (float ⟨0x7FF8000000000000⟩).Inside (spacing ⟨0x7FF8000000000000⟩) :=
    .element (List.mem_cons_of_mem _ List.mem_cons_self) (.entry List.mem_cons_self .self)
  exact Bool.noConfusion ((self _).mp same _ inside)

end Value

end TargetBuilder
