import TargetBuilder.Proofs.CamelCase
import TargetBuilder.Proofs.FiniteMap

/-!
# Long forms

In the default convention a long form is a row of selectors with one argument each: that of the name,
then those of the keys. A reader who splits it at the colons gets all of them back, the empty ones too, as
long as none has a colon of its own. So no two calls that bring different names or keys are folded into one
selector, and none is taken for a call with one argument.

* `LongForm.fold_eq_some_iff`: which calls are folded, and into what.
* `LongForm.Plain.splitOn_longForm`: what a long form is made of can be read off it.
* `LongForm.fold_faithful`: nothing is lost or mixed up by folding.
-/

namespace TargetBuilder

/-! ## Folding -/

theorem Value.keywords?_eq_some_iff {value : Value} {keywords : Keywords} :
    value.keywords? = some keywords ↔ value = .map keywords ∧ keywords.isEmpty = false := by
  constructor
  · intro found
    cases value with
    | map entries =>
      rw [keywords?] at found
      split at found
      · cases found
      · next filled =>
        cases found
        exact ⟨rfl, Bool.eq_false_of_not_eq_true filled⟩
    | nil | bool | int | float | text | list | target => cases found
  · rintro ⟨rfl, filled⟩
    simp [keywords?, filled]

/-- Keys and values stand in the same order. -/
theorem OrderedMap.getElem?_values {m : Keywords} (distinct : m.keys.Nodup) {place : Nat} {key : String}
    (there : m.keys[place]? = some key) : m.values[place]? = m.get? key := by
  unfold keys at there
  rw [List.getElem?_map, Option.map_eq_some_iff] at there
  obtain ⟨entry, found, rfl⟩ := there
  rw [get?_of_getElem? distinct found]
  simp [values, found]

namespace LongForm

/-- **Calls with two arguments are folded, if the second is a mapping with entries, and no others.** -/
theorem fold_eq_some_iff {naming : Naming} {name : String} {args : List Value} {long : LongForm} :
    fold naming name args = some long ↔
      ∃ first keywords, args = [first, .map keywords] ∧ keywords.isEmpty = false ∧
        long = ⟨naming.longForm name keywords.keys, first :: keywords.values⟩ := by
  constructor
  · intro folded
    unfold fold at folded
    split at folded
    · next first second =>
      obtain ⟨keywords, found, rfl⟩ := Option.map_eq_some_iff.mp folded
      obtain ⟨rfl, filled⟩ := Value.keywords?_eq_some_iff.mp found
      exact ⟨first, keywords, rfl, filled, rfl⟩
    · cases folded
  · rintro ⟨first, keywords, rfl, filled, rfl⟩
    simp [fold, Value.keywords?_eq_some_iff.mpr ⟨rfl, filled⟩]

theorem fold_isSome_iff {naming : Naming} {name : String} {args : List Value} :
    (fold naming name args).isSome = true ↔
      ∃ first keywords, args = [first, .map keywords] ∧ keywords.isEmpty = false := by
  rw [Option.isSome_iff_exists]
  constructor
  · rintro ⟨long, folded⟩
    obtain ⟨first, keywords, shape, filled, -⟩ := fold_eq_some_iff.mp folded
    exact ⟨first, keywords, shape, filled⟩
  · rintro ⟨first, keywords, shape, filled⟩
    exact ⟨_, fold_eq_some_iff.mpr ⟨first, keywords, shape, filled, rfl⟩⟩

/-- What a call with a first argument and keywords is folded into, if it is. -/
theorem eq_of_fold {naming : Naming} {name : String} {first : Value} {keywords : Keywords}
    {long : LongForm} (folded : fold naming name [first, .map keywords] = some long) :
    keywords.keys ≠ [] ∧ long = ⟨naming.longForm name keywords.keys, first :: keywords.values⟩ := by
  obtain ⟨_, _, shape, filled, rfl⟩ := fold_eq_some_iff.mp folded
  cases shape
  refine ⟨fun nil => ?_, rfl⟩
  rw [OrderedMap.isEmpty, List.map_eq_nil_iff.mp nil] at filled
  cases filled

/-! ## Spelling -/

theorem toList_selector (name : String) :
    (Naming.camelCased.selector name).toList = name.toList ++ [':'] :=
  String.toList_append

/-- Without keys, a long form would be the selector with one argument. -/
theorem longForm_nil (name : String) :
    Naming.camelCased.longForm name [] = Naming.camelCased.selector name := by
  simp [Naming.camelCased]

theorem longForm_cons (name key : String) (keys : List String) :
    Naming.camelCased.longForm name (key :: keys) =
      Naming.camelCased.selector name ++ Naming.camelCased.longForm key keys := by
  simp [Naming.camelCased, String.append_assoc]

/-- Whether no colon is in a name or in one of the keys. -/
structure Plain (name : String) (keys : List String) : Prop where
  name : ':' ∉ name.toList
  keys : ∀ key ∈ keys, ':' ∉ key.toList

namespace Plain

variable {name key : String} {keys : List String}

theorem tail (h : Plain name (key :: keys)) : Plain key keys :=
  ⟨h.keys key List.mem_cons_self, fun k there => h.keys k (List.mem_cons_of_mem _ there)⟩

/-- **The name and the keys are what stands before the colons of a long form.** -/
theorem splitOn_longForm (h : Plain name keys) :
    (Naming.camelCased.longForm name keys).toList.splitOn ':' =
      (name :: keys).map String.toList ++ [[]] := by
  induction keys generalizing name with
  | nil =>
    rw [longForm_nil, toList_selector, List.splitOn_append_cons_self_of_not_mem h.name]
    rfl
  | cons key keys ih =>
    rw [longForm_cons, String.toList_append, toList_selector, List.append_assoc, List.singleton_append,
      List.splitOn_append_cons_self_of_not_mem h.name, ih h.tail]
    rfl

/-- There is a colon for the name, and one for every key. -/
theorem count_longForm (h : Plain name keys) :
    (Naming.camelCased.longForm name keys).toList.count ':' = keys.length + 1 := by
  induction keys generalizing name with
  | nil => simp [longForm_nil, toList_selector, List.count_eq_zero.mpr h.name]
  | cons key keys ih =>
    rw [longForm_cons, String.toList_append, List.count_append, ih h.tail, toList_selector]
    simp [List.count_eq_zero.mpr h.name, Nat.add_comm]

/-- Equal long forms have equal names and equal keys, in equal order. -/
theorem longForm_injective {name' : String} {keys' : List String} (h : Plain name keys)
    (h' : Plain name' keys')
    (same : Naming.camelCased.longForm name keys = Naming.camelCased.longForm name' keys') :
    name = name' ∧ keys = keys' := by
  have pieces : (name :: keys).map String.toList ++ [[]] = (name' :: keys').map String.toList ++ [[]] := by
    rw [← h.splitOn_longForm, ← h'.splitOn_longForm, same]
  have whole : name :: keys = name' :: keys' :=
    List.map_injective_iff.mpr (fun _ _ => String.toList_inj.mp) (List.append_cancel_right pieces)
  exact List.cons.inj whole

/-- A long form with a key is not the selector with one argument of any name. -/
theorem longForm_ne_selector {other : String} (h : Plain name keys) (hother : ':' ∉ other.toList)
    (keyed : keys ≠ []) : Naming.camelCased.longForm name keys ≠ Naming.camelCased.selector other := by
  rw [← longForm_nil]
  intro same
  exact keyed (h.longForm_injective ⟨hother, List.forall_mem_nil _⟩ same).2

end Plain

-- a colon in the name can stand for the one before a key
example : Naming.camelCased.longForm "foo:a" ["b"] = Naming.camelCased.longForm "foo" ["a", "b"] := by
  decide +kernel

/-! ## Nothing is lost or mixed up -/

/--
**Folding is faithful.** A call is folded if and only if it has two arguments and the second is a mapping
with entries. Then its arguments are the first one and the values in the order of the keys. Where neither
the name nor a key has a colon, the selector has a colon for every argument, is not the one-argument
selector of any name, and tells the name and the keys apart from all others.
-/
theorem fold_faithful (name : String) (args : List Value) :
    ((fold .camelCased name args).isSome = true ↔
      ∃ first keywords, args = [first, .map keywords] ∧ keywords.isEmpty = false) ∧
    ∀ first keywords long, args = [first, .map keywords] → fold .camelCased name args = some long →
      long.args = first :: keywords.values ∧
      (keywords.keys.Nodup → ∀ (place : Nat) (key : String), keywords.keys[place]? = some key →
        long.args[place + 1]? = keywords.get? key) ∧
      (Plain name keywords.keys →
        long.selector.toList.count ':' = long.args.length ∧
        (∀ other : String, ':' ∉ other.toList → long.selector ≠ Naming.camelCased.selector other) ∧
        ∀ name' first' keywords' long', Plain name' keywords'.keys →
          fold .camelCased name' [first', .map keywords'] = some long' →
          long.selector = long'.selector → name = name' ∧ keywords.keys = keywords'.keys) := by
  refine ⟨fold_isSome_iff, ?_⟩
  rintro first keywords long rfl folded
  obtain ⟨keyed, rfl⟩ := eq_of_fold folded
  refine ⟨rfl, fun distinct place key there => OrderedMap.getElem?_values distinct there, ?_⟩
  intro plain
  refine ⟨?_, fun other hother => plain.longForm_ne_selector hother keyed, ?_⟩
  · show (Naming.camelCased.longForm name keywords.keys).toList.count ':' = _
    rw [plain.count_longForm, List.length_cons, OrderedMap.keys, OrderedMap.values, List.length_map,
      List.length_map]
  · intro name' first' keywords' long' plain' folded' same
    obtain ⟨-, rfl⟩ := eq_of_fold folded'
    exact plain.longForm_injective plain' same

/-- The keyword that comes with the title of a button: the state in which it is shown. -/
def forState (state : Value) : Keywords := .ofList [("forState", state)]

/-- The title of a button and its state come in one call with two colons, whatever the state is. -/
theorem fold_faithful_title :
    "setTitle:forState:".toList.count ':' = 2 ∧
    "setTitle:forState:" ≠ Naming.camelCased.selector "setTitle" ∧
    (forState (.int 1)).keys = (forState .nil).keys := by
  have folded : fold .camelCased "setTitle" [.text "Go", .map (forState (.int 1))] =
      some ⟨"setTitle:forState:", [.text "Go", .int 1]⟩ := rfl
  have stateless : fold .camelCased "setTitle" [.text "Go", .map (forState .nil)] =
      some ⟨"setTitle:forState:", [.text "Go", .nil]⟩ := rfl
  have plain : ∀ state, Plain "setTitle" (forState state).keys := by
    intro state
    show Plain "setTitle" ["forState"]
    exact ⟨by decide, by decide⟩
  obtain ⟨-, faithful⟩ := fold_faithful "setTitle" [.text "Go", .map (forState (.int 1))]
  obtain ⟨-, -, unmixed⟩ := faithful _ _ _ rfl folded
  obtain ⟨colons, other_selector, told_apart⟩ := unmixed (plain _)
  refine ⟨colons, other_selector "setTitle" (by decide), ?_⟩
  exact (told_apart _ _ _ _ (plain _) stateless rfl).2

end LongForm

end TargetBuilder
