import TargetBuilder.Catalogue
import TargetBuilder.Proofs.CamelCase

/-!
# The tables of derived types

A derived type registers, for each style field, a probe, and for a writable one a setter and an
assignment. The names of the fields are in camel case, so a table never answers a word-separated
selector; and where the fields have no spelling in common, the table holds for the spellings of a field
what that field alone registers.
-/

namespace TargetBuilder

namespace MethodTable

theorem get?_method (t : MethodTable Handler) (selector other : String) (arity : Arity)
    (body : Handler) :
    (t.method selector arity body).methods.get? other =
      if other = selector then some ⟨arity, body⟩ else t.methods.get? other := by
  unfold method
  rw [OrderedMap.get?_insert]

end MethodTable

namespace Derive

/-! ## One field -/

namespace StyleField

/-- The probe, the setter and the assignment of a field, also of one that is read-only. -/
def spellings (f : StyleField) : List String := [f.native, setterName f.native, f.native ++ "="]

theorem mem_spellings_of_mem_selectors {f : StyleField} {selector : String}
    (h : selector ∈ f.selectors) : selector ∈ f.spellings := by
  unfold selectors setter? assignment? probe at h
  unfold spellings
  rcases List.mem_cons.mp h with rfl | h
  · exact List.mem_cons_self
  · refine List.mem_cons_of_mem _ ?_
    split at h
    · cases h
    · simpa using h

/-- No spelling of one field is a spelling of the other. -/
def SpelledApart (f g : StyleField) : Prop := ∀ selector ∈ f.spellings, selector ∉ g.spellings

instance (f g : StyleField) : Decidable (SpelledApart f g) :=
  inferInstanceAs (Decidable (∀ selector ∈ f.spellings, selector ∉ g.spellings))

/-- What a field registers for a selector does not depend on what is registered for others. -/
theorem get?_register?_congr {f : StyleField} {t u t' u' : MethodTable Handler} {selector : String}
    (ht : f.register? t = some t') (hu : f.register? u = some u')
    (same : t.methods.get? selector = u.methods.get? selector) :
    t'.methods.get? selector = u'.methods.get? selector := by
  unfold register? at ht hu
  dsimp only at ht hu
  -- a field that is read-only registers its probe alone
  split at ht
  · rw [if_pos ‹_›] at hu
    cases ht
    cases hu
    unfold MethodTable.getter
    rw [MethodTable.get?_method, MethodTable.get?_method, same]
  · rw [if_neg ‹_›] at hu
    obtain ⟨c, hc, rfl⟩ := Option.map_eq_some_iff.mp ht
    obtain ⟨c', hc', rfl⟩ := Option.map_eq_some_iff.mp hu
    rw [hc] at hc'
    cases hc'
    unfold MethodTable.setter MethodTable.getter
    simp only [MethodTable.get?_method, same]

theorem get?_register?_of_not_mem {f : StyleField} {t t' : MethodTable Handler} {selector : String}
    (ht : f.register? t = some t') (h : selector ∉ f.selectors) :
    t'.methods.get? selector = t.methods.get? selector := by
  unfold register? at ht
  unfold selectors setter? assignment? probe at h
  dsimp only at ht
  split at ht
  · next readOnly =>
    cases ht
    rw [if_pos readOnly, if_pos readOnly] at h
    unfold MethodTable.getter probe
    rw [MethodTable.get?_method, if_neg (by simpa using h)]
  · next writable =>
    obtain ⟨c, -, rfl⟩ := Option.map_eq_some_iff.mp ht
    rw [if_neg writable, if_neg writable] at h
    simp only [Option.toList_some, List.cons_append, List.nil_append, List.mem_cons, not_or,
      List.not_mem_nil, not_false_eq_true, and_true] at h
    unfold MethodTable.setter MethodTable.getter probe
    simp only [MethodTable.get?_method, h, if_false]

/-- A field that can be registered somewhere can be registered everywhere. -/
theorem register?_isSome {f : StyleField} {t t' : MethodTable Handler} (h : f.register? t = some t')
    (u : MethodTable Handler) : ∃ u', f.register? u = some u' := by
  unfold register? at h ⊢
  dsimp only at h ⊢
  split at h
  · exact ⟨_, if_pos ‹_›⟩
  · obtain ⟨c, hc, -⟩ := Option.map_eq_some_iff.mp h
    rw [if_neg ‹_›, hc]
    exact ⟨_, rfl⟩

theorem get?_probe {f : StyleField} {t t' : MethodTable Handler} (h : f.register? t = some t') :
    t'.methods.get? f.native = some ⟨.exactly 0, .probe f.field⟩ := by
  unfold register? probe at h
  dsimp only at h
  split at h
  · cases h
    unfold MethodTable.getter
    rw [MethodTable.get?_method, if_pos rfl]
  · obtain ⟨c, -, rfl⟩ := Option.map_eq_some_iff.mp h
    unfold MethodTable.setter MethodTable.getter
    rw [MethodTable.get?_method, if_neg (assignment_ne f.native).symm, MethodTable.get?_method,
      if_neg (setterName_ne f.native).symm, MethodTable.get?_method, if_pos rfl]

/-- The setter of a writable field stores the converted argument. -/
theorem get?_setter {f : StyleField} {t t' : MethodTable Handler} (h : f.register? t = some t')
    (writable : f.readOnly = false) : ∃ c, conversion? f.type = some c ∧
      t'.methods.get? (setterName f.native) = some ⟨.exactly 1, .store f.field c⟩ := by
  unfold register? at h
  dsimp only at h
  rw [writable, if_neg Bool.false_ne_true] at h
  obtain ⟨c, hc, rfl⟩ := Option.map_eq_some_iff.mp h
  refine ⟨c, hc, ?_⟩
  unfold MethodTable.setter
  rw [MethodTable.get?_method, MethodTable.get?_method, if_pos rfl]
  split <;> rfl

end StyleField

/-! ## All fields -/

namespace Derivation

theorem get?_registerAll?_of_not_mem {selector : String} :
    ∀ (fs : List StyleField) {t t' : MethodTable Handler}, registerAll? t fs = some t' →
      (∀ f ∈ fs, selector ∉ f.selectors) → t'.methods.get? selector = t.methods.get? selector
  | [], t, t', h, _ => by
    cases h
    rfl
  | f :: rest, t, t', h, apart => by
    obtain ⟨t₁, h₁, hrest⟩ := Option.bind_eq_some_iff.mp h
    have later :=
      get?_registerAll?_of_not_mem rest hrest fun g hg => apart g (List.mem_cons_of_mem _ hg)
    exact later.trans (f.get?_register?_of_not_mem h₁ (apart f List.mem_cons_self))

/--
**The table holds for the spellings of a field what that field alone registers**, if no other field has
a spelling in common with it. The induction is on the fields, for any table that they are added to and
that has none of the spellings.
-/
theorem get?_registerAll?_of_mem {f : StyleField} {alone : MethodTable Handler} {selector : String}
    (halone : f.register? .empty = some alone) (spelled : selector ∈ f.spellings) :
    ∀ (fs : List StyleField) {t t' : MethodTable Handler}, registerAll? t fs = some t' →
      fs.Pairwise StyleField.SpelledApart → f ∈ fs →
      t.methods.get? selector = none → t'.methods.get? selector = alone.methods.get? selector
  | [], _, _, _, _, mem, _ => by cases mem
  | g :: rest, t, t', h, disjoint, mem, missing => by
    obtain ⟨t₁, h₁, hrest⟩ := Option.bind_eq_some_iff.mp h
    obtain ⟨apart, disjoint⟩ := List.pairwise_cons.mp disjoint
    rcases List.mem_cons.mp mem with rfl | mem
    -- the fields after this one register nothing for the selector
    · have later := get?_registerAll?_of_not_mem rest hrest fun g hg registered =>
        apart g hg _ spelled (g.mem_spellings_of_mem_selectors registered)
      exact later.trans (f.get?_register?_congr h₁ halone missing)
    -- the first field is another one, so the table that it leaves still misses the selector
    · have other : selector ∉ g.selectors := fun registered =>
        apart f mem _ (g.mem_spellings_of_mem_selectors registered) spelled
      have still := (g.get?_register?_of_not_mem h₁ other).trans missing
      exact get?_registerAll?_of_mem halone spelled rest hrest disjoint mem still

theorem exists_register?_of_mem {f : StyleField} :
    ∀ (fs : List StyleField) {t t' : MethodTable Handler}, registerAll? t fs = some t' → f ∈ fs →
      ∃ alone, f.register? .empty = some alone
  | [], _, _, _, mem => by cases mem
  | g :: rest, _, _, h, mem => by
    obtain ⟨t₁, h₁, hrest⟩ := Option.bind_eq_some_iff.mp h
    rcases List.mem_cons.mp mem with rfl | mem
    · exact f.register?_isSome h₁ _
    · exact exists_register?_of_mem rest hrest mem

/-- What the table of a derivation holds for the spellings of one of its fields. -/
theorem get?_table_of_mem {d : Derivation} {table : MethodTable Handler} {f : StyleField}
    (h : d.table? = some table) (disjoint : d.fields.Pairwise StyleField.SpelledApart)
    (mem : f ∈ d.fields) : ∃ alone, f.register? .empty = some alone ∧
      ∀ selector ∈ f.spellings, table.methods.get? selector = alone.methods.get? selector := by
  obtain ⟨alone, halone⟩ := exists_register?_of_mem d.fields h mem
  exact ⟨alone, halone, fun selector spelled =>
    get?_registerAll?_of_mem halone spelled d.fields h disjoint mem rfl⟩

/-- A table of names without underscores has no word-separated selector. -/
theorem get?_table_of_separated {d : Derivation} {table : MethodTable Handler} {selector : String}
    (h : d.table? = some table) (plain : ∀ f ∈ d.fields, '_' ∉ f.native.toList)
    (separated : '_' ∈ selector.toList) : table.methods.get? selector = none := by
  refine get?_registerAll?_of_not_mem d.fields h fun f hf registered => ?_
  have native := plain f hf
  have spelled := f.mem_spellings_of_mem_selectors registered
  unfold StyleField.spellings at spelled
  simp only [List.mem_cons, List.not_mem_nil, or_false] at spelled
  rcases spelled with rfl | rfl | rfl
  · exact native separated
  · unfold setterName at separated
    rw [String.toList_append, List.mem_append] at separated
    rcases separated with set | capital
    · revert set
      decide
    · exact underscore_not_mem_capitalize native capital
  · rw [String.toList_append, List.mem_append] at separated
    rcases separated with name | mark
    · exact native name
    · revert mark
      decide

end Derivation

/-! ## Names of fields -/

/-- No style attribute of the struct gives a field another name. -/
def Struct.Unrenamed (s : Struct) : Prop :=
  ∀ field ∈ s.fields, ∀ a ∈ field.attributes, a.isNamed "style" = true →
    ∀ o, readStyleAttribute a = .ok o → o.rename = none

theorem native_of_styleField? {field : Field} {f : StyleField}
    (unrenamed : ∀ a ∈ field.attributes, a.isNamed "style" = true →
      ∀ o, readStyleAttribute a = .ok o → o.rename = none)
    (h : styleField? field = .ok (some f)) : f.native = camelCase f.field := by
  unfold styleField? at h
  split at h
  · next name a _ ha =>
    split at h
    · cases h
    · next o ho =>
      split at h
      · cases h
      · cases h
        have marked : a.isNamed "style" = true := by simpa using List.find?_some ha
        rw [unrenamed a (List.mem_of_find?_eq_some ha) marked o ho]
        rfl
  · cases h

theorem exists_field_of_mem_styleFields {f : StyleField} :
    ∀ {fields : List Field} {found : List StyleField}, styleFields fields = .ok found → f ∈ found →
      ∃ field ∈ fields, styleField? field = .ok (some f)
  | [], _, h, mem => by
    cases h
    cases mem
  | field :: rest, found, h, mem => by
    unfold styleFields at h
    split at h
    · cases h
    · next first hfirst =>
      split at h
      · cases h
      · next more hmore =>
        cases h
        rcases List.mem_append.mp mem with own | later
        · rw [Option.mem_toList.mp own] at hfirst
          exact ⟨field, List.mem_cons_self, hfirst⟩
        · obtain ⟨other, hother, hf⟩ := exists_field_of_mem_styleFields hmore later
          exact ⟨other, List.mem_cons_of_mem _ hother, hf⟩

theorem styleFields_of_derive {s : Struct} {d : Derivation} (h : derive s = .ok d) :
    styleFields s.fields = .ok d.fields := by
  unfold derive at h
  split at h
  · cases h
  · split at h
    · cases h
    · split at h
      · cases h
      · cases h
      · cases h
      · cases h
      · split at h
        · split at h
          · cases h
          · next fields hfields =>
            cases h
            exact hfields
        · cases h

/-- **The fields of a derived type go by the camel case of their names**, unless they are renamed. -/
theorem Struct.Unrenamed.native_eq {s : Struct} (unrenamed : s.Unrenamed) {d : Derivation}
    (h : derive s = .ok d) {f : StyleField} (mem : f ∈ d.fields) : f.native = camelCase f.field := by
  obtain ⟨field, there, hf⟩ := exists_field_of_mem_styleFields (styleFields_of_derive h) mem
  exact native_of_styleField? (unrenamed field there) hf

end Derive

end TargetBuilder
