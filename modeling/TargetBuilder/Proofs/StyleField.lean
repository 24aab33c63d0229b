import TargetBuilder.Proofs.FlatSearch
import TargetBuilder.Proofs.LongForm
import TargetBuilder.Proofs.StyleTable

/-!
# From a field to a call and back

The selectors of a style field are spelled twice: once when the table of its type is made, and once when
a call names the field as its struct does. A field whose name has underscores is found under the
translated name only, since a table has no word-separated selector; any other field is found at once.
Either way the call comes to the probe or to the setter of the field.

* `apply_style_field`: what reading and setting a style field by its name comes to.
-/

namespace TargetBuilder

open Derive

/-! ## Sending to a method table -/

section

variable {w : World} {t : TargetId} {table : MethodTable Handler} {selector : String}
  (args : List Value)

theorem Target.respondsTo_of_table {x : Target} (h : x.interface = .table table) (count : Nat) :
    x.respondsTo selector count =
      (table.methods.get? selector).any (·.arity.accepts count) := by
  unfold Target.respondsTo Target.arityOf
  rw [h]
  dsimp only
  unfold MethodTable.arityOf
  cases table.methods.get? selector <;> rfl

/-- A selector that is not in the table is refused, and nothing happens. -/
theorem World.run_send_missing (h : (w.target t).interface = .table table)
    (missing : table.methods.get? selector = none) :
    ∃ w', w.SameButLog w' ∧ (World.send t selector args).run w =
      (.error (.fault (.unsupported selector (w.target t).type.name)), w') := by
  obtain ⟨w', -, same, sent⟩ := Action.run_send t selector args w
  have refused : (w.target t).send w.named selector args =
      (.fault (.unsupported selector (w.target t).type.name), w.target t) := by
    unfold Target.send MethodTable.resolve
    rw [h]
    dsimp only
    rw [missing]
  refine ⟨w', same, ?_⟩
  obtain ⟨log, rfl⟩ := same
  rw [sent, refused]
  exact congrArg _ (World.updateTarget_self { w with log } t)

/-- A selector that is in the table runs its body on the fields of the receiver. -/
theorem World.run_send_found (h : (w.target t).interface = .table table) {m : Method Handler}
    (found : table.methods.get? selector = some m) (accepted : m.arity.accepts args.length = true)
    {reply : Reply} {fields : Fields}
    (replied : m.body.run w.named selector (w.target t).fields args = (reply, fields)) :
    ∃ w', w.SameButLog w' ∧ (World.send t selector args).run w =
      (reply.result, w'.updateTarget t fun _ => { w.target t with fields }) := by
  obtain ⟨w', -, same, sent⟩ := Action.run_send t selector args w
  have answered : (w.target t).send w.named selector args = (reply, { w.target t with fields }) := by
    unfold Target.send MethodTable.resolve
    rw [h]
    dsimp only
    rw [found]
    dsimp only
    rw [if_pos accepted]
    dsimp only
    rw [replied, h]
  exact ⟨w', same, by rw [sent, answered]⟩

end

/-- A target with a table is there, and a target that is stored in its place is found. -/
theorem World.target_updateTarget_of_table {w : World} {t : TargetId} {table : MethodTable Handler}
    (h : (w.target t).interface = .table table) (x : Target) :
    (w.updateTarget t fun _ => x).target t = x := by
  have there : t.index < w.targets.size := by
    rcases Nat.lt_or_ge t.index w.targets.size with there | gone
    · exact there
    · unfold World.target Arena.get at h
      rw [(w.targets.get?_eq_none_iff t.index).mpr gone] at h
      cases h
  rw [World.target_updateTarget, if_pos ⟨rfl, there⟩]

/-! ## Calling a target under the native spelling of a name -/

open Candidate

theorem separated_of_mem_plain {name : String} {args : List Value} {spelling : Spelling}
    (separated : '_' ∈ name.toList) (h : spelling ∈ Spelling.plain .camelCased name args) :
    '_' ∈ spelling.selector.toList := by
  have extended : ∀ more : String, '_' ∈ (name ++ more).toList := by
    intro more
    rw [String.toList_append]
    exact List.mem_append_left _ separated
  unfold Spelling.plain at h
  simp only [List.mem_append, List.mem_cons, List.not_mem_nil, or_false] at h
  rcases h with ((long | probe) | set | assigned) | combined
  · obtain ⟨form, hform, rfl⟩ := Option.map_eq_some_iff.mp (Option.mem_toList.mp long)
    obtain ⟨first, keywords, -, -, rfl⟩ := LongForm.fold_eq_some_iff.mp hform
    show '_' ∈ (name ++ String.join (keywords.keys.map (":" ++ ·)) ++ ":").toList
    rw [String.append_assoc]
    exact extended _
  · split at probe
    · rw [List.mem_singleton.mp probe]
      exact separated
    · cases probe
  · subst set
    exact underscore_mem_setterName separated
  · subst assigned
    exact extended "="
  · split at combined
    · cases combined
    · rw [List.mem_singleton.mp combined]
      exact separated

/-- Where no word-separated selector is exposed, nothing is found under a word-separated name. -/
theorem find_underName_of_separated {x : Target} {name : String} (args : List Value)
    (immediate : x.appliesDeferred = false)
    (none_exposed : ∀ selector, '_' ∈ selector.toList → ∀ count, x.respondsTo selector count = false)
    (separated : '_' ∈ name.toList) :
    (underName .camelCased args false x name).find? (isOffered none x) = none := by
  unfold underName direct unexposedSetter
  rw [immediate, ofTarget_eq]
  refine List.find?_eq_none.mpr fun c hc => ?_
  simp only [Bool.not_false, Bool.and_false, Bool.false_eq_true, if_false, List.append_nil,
    List.mem_append] at hc
  rcases hc with hc | hc
  · rcases List.mem_append.mp hc with hc | hc
    · obtain ⟨long, -, rfl⟩ := Option.map_eq_some_iff.mp (Option.mem_toList.mp hc)
      exact Bool.false_ne_true
    · rw [List.mem_singleton.mp hc]
      exact Bool.false_ne_true
  · obtain ⟨spelling, hs, rfl⟩ := List.mem_map.mp hc
    show ¬ x.respondsTo spelling.selector spelling.args.length = true
    rw [none_exposed _ (separated_of_mem_plain separated hs)]
    exact Bool.false_ne_true

section

variable {R : Runner} {s : SessionId} {name : String} {w w₁ : World} {t : TargetId}

/--
**A call comes to the native spelling of its name**, in the first round if the name has no underscores,
and else in the second, since the first finds nothing.
-/
theorem run_apply_native (args : List Value) (bound : 2 ≤ R.fuel)
    (established : (s.receiver name).run w = (.ok t, w₁))
    (naming : (w₁.session s).config.naming = .camelCased) (free : w₁.providerOf? s = none)
    (immediate : (w₁.target t).appliesDeferred = false)
    (none_exposed : ∀ selector, '_' ∈ selector.toList →
      ∀ count, (w₁.target t).respondsTo selector count = false)
    (named : ∃ c ∈ name.toList, c ≠ '_') :
    ∃ w', w₁.SameButLog w' ∧ (s.apply R name args none).run w =
      match (underName .camelCased args false (w₁.target t) (camelCase name)).find?
          (isOffered none (w₁.target t)) with
      | some c => (c.perform R s none t none).run w'
      | none => (refuse .camelCased t args none (camelCase name)).run w' := by
  obtain ⟨tries, htries⟩ := Nat.exists_eq_add_of_le bound
  have filled : camelCase name ≠ "" := camelCase_ne_empty named
  unfold SessionId.apply
  rw [htries, Nat.add_comm]
  by_cases separated : '_' ∈ name.toList
  -- the round under the name itself finds nothing, and the next one goes by the translation
  · have nonempty : name ≠ "" := by
      rintro rfl
      cases separated
    have marked : Naming.camelCased.isWordSeparated name = true := by
      simpa [Naming.camelCased] using separated
    obtain ⟨translated, other⟩ := Naming.translation?_eq_some marked
      (Naming.isWordSeparated_translate_camelCased name)
    have nothing := find_underName_of_separated args immediate none_exposed separated
    have again : (s.receiver (camelCase name)).run
        (w₁.write (.event (.retrying name (camelCase name)))) = (.ok t, _) :=
      SessionId.receiver_settles established _ rfl rfl
    refine ⟨w₁.write (.event (.retrying name (camelCase name))), .write _ _, ?_⟩
    rw [SessionId.applyWithin, SessionId.run_resolveOnce _ args none nonempty established, naming, free]
    dsimp only [Option.map_none, Option.isSome_none]
    rw [nothing]
    dsimp only
    rw [translated]
    dsimp only
    have second := SessionId.run_applyWithin_of_not_separated (R := R) tries args none filled again
      (by
        show (w₁.session s).config.naming.isWordSeparated (camelCase name) = false
        rw [naming]
        exact Naming.isWordSeparated_translate_camelCased name)
    refine second.trans ?_
    show (match (underName (w₁.session s).config.naming args false (w₁.target t) (camelCase name)).find?
        (isOffered ((w₁.providerOf? s).map w₁.provider) (w₁.target t)) with
      | some c => (c.perform R s (w₁.providerOf? s) t none).run _
      | none => (refuse (w₁.session s).config.naming t args none (camelCase name)).run _) = _
    rw [naming, free]
    rfl
  -- the name is its own translation
  · have same := camelCase_of_not_separated separated
    rw [same] at filled ⊢
    refine ⟨w₁, .refl w₁, ?_⟩
    have first := SessionId.run_applyWithin_of_not_separated (R := R) (tries + 1) args none filled
      established (by
        rw [naming]
        simpa [Naming.camelCased] using separated)
    rw [first, naming, free]
    rfl

end

/-! ## The two calls of a style field -/

/--
A target of a derived type: the type and the fields decide what it exposes, and whatever else it exposes
comes from the hook.
-/
structure Derive.Derivation.IsInstance (d : Derivation) (x : Target) : Prop where
  type : x.type = d.type
  appliesDeferred : x.appliesDeferred = d.deferred
  interface : ∃ table exposed, d.table? = some table ∧ x.interface = .table exposed ∧
    (d.hook = none → exposed = table)

/-- What the catalogue makes of a struct without a hook are instances of the derived type. -/
theorem Derive.Derivation.isInstance_instantiate {struct : Struct} {d : Derivation}
    {table : MethodTable Handler} (accepted : derive struct = .ok d) (exposed : d.table? = some table)
    (initial : List (String × Value)) (parts : List (String × String)) (origin : Origin) (name : String)
    (fields : Fields) :
    d.IsInstance
      (World.instantiate (Catalogue.ofStruct struct id initial parts) origin name fields) := by
  unfold Catalogue.ofStruct
  rw [accepted]
  exact ⟨rfl, rfl, table, _, exposed, rfl, fun _ => by rw [exposed]; rfl⟩

/-- Asked for `name` without arguments, the target of a session answers `v`, and nothing happens. -/
def SessionId.Answers (R : Runner) (s : SessionId) (name : String) (v : Value) (w w₁ : World) : Prop :=
  ∃ w', w₁.SameButLog w' ∧ (s.apply R name [] none).run w = (.ok v, w')

section

variable {R : Runner} {s : SessionId} {w w₁ : World} {t : TargetId} {x : Target}
  {table : MethodTable Handler} {f : StyleField}

/-- Without arguments, an exposed probe is what a call is sent as. -/
theorem find_underName_probe {native : String} (probed : x.respondsTo native 0 = true) :
    (underName .camelCased [] false x native).find? (isOffered none x) =
      some ⟨native, .target .probe native []⟩ := by
  unfold underName ofProvider direct ofTarget
  simp only [LongForm.fold, Option.map_none, Option.toList_none, List.nil_append, List.isEmpty_nil,
    if_true, Bool.false_eq_true, if_false, List.cons_append, List.find?_cons, isOffered, Option.any_none,
    List.length_nil, probed]

/-- With one argument, an exposed setter is what a call is sent as. -/
theorem find_underName_setter {native : String} {v : Value}
    (settable : x.respondsTo (setterName native) 1 = true) :
    (underName .camelCased [v] false x native).find? (isOffered none x) =
      some ⟨native, .target .setter (setterName native) [v]⟩ := by
  unfold underName ofProvider direct ofTarget
  simp only [LongForm.fold, Option.map_none, Option.toList_none, List.nil_append, List.isEmpty_cons,
    Bool.false_eq_true, if_false, List.cons_append, List.find?_cons, isOffered, Option.any_none,
    List.length_singleton, Naming.camelCased, settable]

/-- With one argument that nothing is exposed for, a call is not sent in the round. -/
theorem find_underName_none {native : String} {v : Value} (immediate : x.appliesDeferred = false)
    (setter : x.respondsTo (setterName native) 1 = false)
    (assignment : x.respondsTo (native ++ "=") 1 = false) (combined : x.respondsTo native 1 = false) :
    (underName .camelCased [v] false x native).find? (isOffered none x) = none := by
  unfold underName ofProvider direct ofTarget unexposedSetter
  simp only [LongForm.fold, Option.map_none, Option.toList_none, List.nil_append, List.isEmpty_cons,
    Bool.false_eq_true, if_false, List.cons_append, List.find?_cons, isOffered, Option.any_none,
    List.length_singleton, Naming.camelCased, setter, assignment, combined, immediate, Bool.and_false,
    List.append_nil, List.find?_nil]

end

/-- A target with a method table in which a style field has its selectors. -/
structure Derive.StyleField.ServedBy (f : StyleField) (table : MethodTable Handler) (x : Target) :
    Prop where
  interface : x.interface = .table table
  immediate : x.appliesDeferred = false
  /-- No word-separated selector is exposed. -/
  separated : ∀ selector, '_' ∈ selector.toList → table.methods.get? selector = none
  native : f.native = camelCase f.field
  probe : table.methods.get? f.native = some ⟨.exactly 0, .probe f.field⟩
  setter : f.readOnly = false → ∃ c, conversion? f.type = some c ∧
    table.methods.get? (setterName f.native) = some ⟨.exactly 1, .store f.field c⟩
  closed : f.readOnly = true → table.methods.get? (setterName f.native) = none ∧
    table.methods.get? (f.native ++ "=") = none

theorem Derive.Derivation.IsInstance.servedBy {struct : Struct} {d : Derivation} {f : StyleField}
    {x : Target} (made : d.IsInstance x) (accepted : derive struct = .ok d)
    (immediate : d.deferred = false) (unhooked : d.hook = none) (unrenamed : struct.Unrenamed)
    (disjoint : d.fields.Pairwise StyleField.SpelledApart) (mem : f ∈ d.fields) :
    ∃ table, f.ServedBy table x := by
  obtain ⟨table, exposed, htable, interface, same⟩ := made.interface
  have plain : ∀ g ∈ d.fields, '_' ∉ g.native.toList := by
    intro g hg
    rw [unrenamed.native_eq accepted hg]
    exact underscore_not_mem_camelCase g.field
  obtain ⟨alone, halone, spelled⟩ := Derivation.get?_table_of_mem htable disjoint mem
  have own : ∀ selector ∈ [f.native, setterName f.native, f.native ++ "="],
      table.methods.get? selector = alone.methods.get? selector := spelled
  simp only [List.forall_mem_cons, List.not_mem_nil, false_imp_iff, implies_true, and_true] at own
  obtain ⟨probe, setter, assignment⟩ := own
  refine ⟨table, same unhooked ▸ interface, made.appliesDeferred.trans immediate,
    fun _ => Derivation.get?_table_of_separated htable plain, unrenamed.native_eq accepted mem,
    probe.trans (StyleField.get?_probe halone), fun writable => ?_, fun readOnly => ?_⟩
  · obtain ⟨c, hc, stores⟩ := StyleField.get?_setter halone writable
    exact ⟨c, hc, setter.trans stores⟩
  · have only : f.selectors = [f.native] := by
      unfold StyleField.selectors StyleField.setter? StyleField.assignment? StyleField.probe
      rw [if_pos readOnly, if_pos readOnly]
      rfl
    have missing : ∀ selector, selector ≠ f.native → alone.methods.get? selector = none := by
      intro selector other
      refine StyleField.get?_register?_of_not_mem halone ?_
      rw [only]
      simpa using other
    exact ⟨setter.trans (missing _ (setterName_ne _)), assignment.trans (missing _ (assignment_ne _))⟩

theorem Fields.read_insert (fields : Fields) (name other : String) (v : Value) :
    Fields.read (fields.insert name v) other = if other = name then v else fields.read other := by
  unfold Fields.read
  rw [OrderedMap.get?_insert]
  split <;> rfl

namespace Derive.StyleField.ServedBy

variable {R : Runner} {s : SessionId} {w w₁ : World} {t : TargetId} {table : MethodTable Handler}
  {f : StyleField}

variable (served : f.ServedBy table (w₁.target t)) (established : (s.receiver f.field).run w = (.ok t, w₁))
  (naming : (w₁.session s).config.naming = .camelCased) (free : w₁.providerOf? s = none)
  (bound : 2 ≤ R.fuel) (named : ∃ c ∈ f.field.toList, c ≠ '_')

include served

omit served in
theorem of_fields {x : Target} (served : f.ServedBy table x) (fields : Fields) :
    f.ServedBy table { x with fields } :=
  ⟨served.interface, served.immediate, served.separated, served.native, served.probe, served.setter,
    served.closed⟩

theorem respondsTo (selector : String) (count : Nat) :
    (w₁.target t).respondsTo selector count =
      (table.methods.get? selector).any (·.arity.accepts count) :=
  Target.respondsTo_of_table served.interface count

include established naming free bound named

/-- A call by the name of the field comes to the native spelling. -/
theorem run_apply (args : List Value) :
    ∃ w', w₁.SameButLog w' ∧ (s.apply R f.field args none).run w =
      match (underName .camelCased args false (w₁.target t) f.native).find?
          (isOffered none (w₁.target t)) with
      | some c => (c.perform R s none t none).run w'
      | none => (refuse .camelCased t args none f.native).run w' := by
  have none_exposed : ∀ selector, '_' ∈ selector.toList → ∀ count,
      (w₁.target t).respondsTo selector count = false := by
    intro selector marked count
    rw [served.respondsTo, served.separated selector marked]
    rfl
  rw [served.native]
  exact run_apply_native args bound established naming free served.immediate none_exposed named

/-- Reading answers what the field holds. -/
theorem answers : s.Answers R f.field ((w₁.target t).fields.read f.field) w w₁ := by
  obtain ⟨w', same, applied⟩ := served.run_apply established naming free bound named []
  have probed : (w₁.target t).respondsTo f.native 0 = true := by
    rw [served.respondsTo, served.probe]
    rfl
  rw [find_underName_probe probed] at applied
  obtain ⟨log, rfl⟩ := same
  let told := World.write { w₁ with log } (.event (.resolved .probe f.native))
  obtain ⟨w'', later, sent⟩ := World.run_send_found (w := told) (t := t) [] served.interface
    served.probe rfl rfl
  have written : w₁.SameButLog told := ⟨_, rfl⟩
  refine ⟨w'', written.trans later, applied.trans (sent.trans ?_)⟩
  obtain ⟨log', rfl⟩ := later
  exact congrArg _ (World.updateTarget_self { told with log := log' } t)

/-- Setting comes to the setter, if the field has one. -/
theorem run_apply_store {c : Conversion}
    (stores : table.methods.get? (setterName f.native) = some ⟨.exactly 1, .store f.field c⟩)
    (v : Value) {reply : Reply} {fields : Fields}
    (stored : Handler.storeConverted (setterName f.native) f.field c (w₁.target t).fields v =
      (reply, fields)) :
    ∃ w', w₁.SameButLog w' ∧ (s.apply R f.field [v] none).run w =
      (reply.result, w'.updateTarget t fun _ => { w₁.target t with fields }) := by
  obtain ⟨w', same, applied⟩ := served.run_apply established naming free bound named [v]
  have settable : (w₁.target t).respondsTo (setterName f.native) 1 = true := by
    rw [served.respondsTo, stores]
    rfl
  rw [find_underName_setter settable] at applied
  obtain ⟨log, rfl⟩ := same
  let told := World.write { w₁ with log } (.event (.resolved .setter (setterName f.native)))
  obtain ⟨w'', later, sent⟩ := World.run_send_found (w := told) (t := t) [v]
    served.interface stores rfl stored
  have written : w₁.SameButLog told := ⟨_, rfl⟩
  exact ⟨w'', written.trans later, applied.trans sent⟩

/-- A value that does not fit is refused. -/
theorem run_apply_refused {c : Conversion}
    (stores : table.methods.get? (setterName f.native) = some ⟨.exactly 1, .store f.field c⟩)
    {v : Value} {m : Mismatch} (misfit : c.normalize v = .error m) :
    ∃ w', w₁.SameButLog w' ∧ (s.apply R f.field [v] none).run w =
      (.error (.fault (.invalidArgument (setterName f.native) m.expected m.got)), w') := by
  have refused : Handler.storeConverted (setterName f.native) f.field c (w₁.target t).fields v =
      (.fault (.invalidArgument (setterName f.native) m.expected m.got), (w₁.target t).fields) := by
    unfold Handler.storeConverted
    rw [misfit]
    rfl
  obtain ⟨w', same, applied⟩ := served.run_apply_store established naming free bound named stores v refused
  refine ⟨w', same, applied.trans ?_⟩
  obtain ⟨log, rfl⟩ := same
  exact congrArg _ (World.updateTarget_self { w₁ with log } t)

/-- A read-only field refuses every value. -/
theorem run_apply_readOnly (readOnly : f.readOnly = true) (v : Value) :
    ∃ w', w₁.SameButLog w' ∧ (s.apply R f.field [v] none).run w =
      (.error (.fault (.unsupported (setterName f.native) (w₁.target t).type.name)), w') := by
  obtain ⟨w', same, applied⟩ := served.run_apply established naming free bound named [v]
  obtain ⟨setter, assignment⟩ := served.closed readOnly
  have nothing : (underName .camelCased [v] false (w₁.target t) f.native).find?
      (isOffered none (w₁.target t)) = none := by
    refine find_underName_none served.immediate ?_ ?_ ?_
    · rw [served.respondsTo, setter]
      rfl
    · rw [served.respondsTo, assignment]
      rfl
    · rw [served.respondsTo, served.probe]
      rfl
  rw [nothing] at applied
  obtain ⟨log, rfl⟩ := same
  let told := World.write { w₁ with log } (.event (.unmatched (setterName f.native) t))
  obtain ⟨w'', later, sent⟩ := World.run_send_missing (w := told) (t := t) [v]
    served.interface setter
  have written : w₁.SameButLog told := ⟨_, rfl⟩
  exact ⟨w'', written.trans later, applied.trans sent⟩

/-- After what only writes to the log, the field reads as before. -/
theorem answers_unchanged {w₂ : World} (same : w₁.SameButLog w₂) :
    s.Answers R f.field ((w₁.target t).fields.read f.field) w₂ w₂ := by
  obtain ⟨log, rfl⟩ := same
  have again : (s.receiver f.field).run { w₁ with log } = (.ok t, { w₁ with log }) :=
    SessionId.receiver_settles established f.field rfl rfl
  have served' : f.ServedBy table (World.target { w₁ with log } t) := served
  exact served'.answers again naming free bound named

/-- A value that fits is stored, and read from then on; every other field is left as it was. -/
theorem run_apply_fits {c : Conversion}
    (stores : table.methods.get? (setterName f.native) = some ⟨.exactly 1, .store f.field c⟩)
    {v u : Value} (fits : c.normalize v = .ok u) :
    ∃ w', w₁.SameButLog w' ∧
      let fields := (w₁.target t).fields
      let w₂ := w'.updateTarget t fun _ => { w₁.target t with fields := fields.insert f.field u }
      (s.apply R f.field [v] none).run w = (.ok .nil, w₂) ∧ s.Answers R f.field u w₂ w₂ ∧
        ∀ other, other ≠ f.field → (w₂.target t).fields.read other = fields.read other := by
  have stored : Handler.storeConverted (setterName f.native) f.field c (w₁.target t).fields v =
      (.value .nil, (w₁.target t).fields.insert f.field u) := by
    unfold Handler.storeConverted
    rw [fits]
  obtain ⟨_, ⟨log, rfl⟩, applied⟩ :=
    served.run_apply_store established naming free bound named stores v stored
  let x : Target := { w₁.target t with fields := (w₁.target t).fields.insert f.field u }
  let w₂ := World.updateTarget { w₁ with log } t fun _ => x
  have tabled : (World.target { w₁ with log } t).interface = .table table := served.interface
  have there : w₂.target t = x := World.target_updateTarget_of_table tabled x
  have reads : s.Answers R f.field u w₂ w₂ := by
    -- the second call finds the same receiver, which is still served by the table
    have again : (s.receiver f.field).run w₂ = (.ok t, w₂) :=
      SessionId.receiver_settles established f.field rfl rfl
    have served₂ : f.ServedBy table (w₂.target t) := by
      rw [there]
      exact served.of_fields _
    have read := served₂.answers again naming free bound named
    rw [there, Fields.read_insert, if_pos rfl] at read
    exact read
  refine ⟨{ w₁ with log }, ⟨log, rfl⟩, applied, reads, fun other ho => ?_⟩
  show (w₂.target t).fields.read other = _
  rw [there, Fields.read_insert, if_neg ho]

end Derive.StyleField.ServedBy

/-! ## Reading and setting -/

namespace SessionId

/-- A current target receives every call. -/
theorem receiver_of_target {s : SessionId} {w w₁ : World} {t : TargetId}
    (h : s.target.run w = (.ok t, w₁)) (name : String) : (s.receiver name).run w = (.ok t, w₁) := by
  unfold SessionId.target SessionId.root at h
  unfold SessionId.receiver
  rw [Action.run_bind, Action.run_bind, Action.run_read] at h
  rw [Action.run_bind, Action.run_read]
  dsimp only at h ⊢
  cases hroot : w.rootOf? s with
  | none =>
    rw [hroot] at h
    cases h
  | some root =>
    rw [hroot] at h
    dsimp only [Action.run_pure] at h ⊢
    rw [Action.run_bind] at h ⊢
    cases he : root.enclosing.run w with
    | mk res w' =>
      rw [he] at h
      cases res with
      | error e => cases h
      | ok found =>
        cases found with
        | none => cases h
        | some u => exact h

end SessionId

/--
**From field to call and back.** Take a struct that is accepted, is not marked as deferred, has no hook
and renames no field, and whose style fields have no spelling in common; and a session with the default
convention whose current target is an instance of it, with no provider. Then for every style field whose
name is not made of underscores only, calling the name of the field without arguments answers what the
field holds. Calling it with a value stores what the conversion makes of the value, if the field is
writable and the value fits; it leaves every other field as it was, and from then on the field reads as
stored. If the value does not fit, or the field is read-only, the call fails naming the setter, nothing
happens, and the field reads as before.
-/
theorem apply_style_field {struct : Struct} {d : Derivation} {f : StyleField} {R : Runner}
    {s : SessionId} {w w₁ : World} {t : TargetId} (accepted : derive struct = .ok d)
    (immediate : d.deferred = false) (unhooked : d.hook = none) (unrenamed : struct.Unrenamed)
    (disjoint : d.fields.Pairwise StyleField.SpelledApart) (mem : f ∈ d.fields)
    (named : ∃ c ∈ f.field.toList, c ≠ '_') (current : s.target.run w = (.ok t, w₁))
    (made : d.IsInstance (w₁.target t)) (naming : (w₁.session s).config.naming = .camelCased)
    (free : w₁.providerOf? s = none) (bound : 2 ≤ R.fuel) :
    let setter := setterName (camelCase f.field)
    let fields := (w₁.target t).fields
    let fails := fun (v : Value) (fault : Fault) => ∃ w₂, w₁.SameButLog w₂ ∧
      (s.apply R f.field [v] none).run w = (.error (.fault fault), w₂) ∧
      s.Answers R f.field (fields.read f.field) w₂ w₂
    s.Answers R f.field (fields.read f.field) w w₁ ∧
      (f.readOnly = true → ∀ v, fails v (.unsupported setter d.type.name)) ∧
      (f.readOnly = false → ∃ c, conversion? f.type = some c ∧ ∀ v,
        (∀ m, c.normalize v = .error m → fails v (.invalidArgument setter m.expected m.got)) ∧
        (∀ u, c.normalize v = .ok u → ∃ w', w₁.SameButLog w' ∧
          let w₂ := w'.updateTarget t fun _ => { w₁.target t with fields := fields.insert f.field u }
          (s.apply R f.field [v] none).run w = (.ok .nil, w₂) ∧
            s.Answers R f.field u w₂ w₂ ∧
            ∀ other, other ≠ f.field → (w₂.target t).fields.read other = fields.read other)) := by
  intro setter fields fails
  obtain ⟨table, served⟩ := made.servedBy accepted immediate unhooked unrenamed disjoint mem
  have established := SessionId.receiver_of_target current f.field
  have spelled : setterName f.native = setter := congrArg setterName served.native
  refine ⟨served.answers established naming free bound named, fun readOnly v => ?_, fun writable => ?_⟩
  · obtain ⟨w₂, same, applied⟩ :=
      served.run_apply_readOnly established naming free bound named readOnly v
    rw [spelled, made.type] at applied
    exact ⟨w₂, same, applied, served.answers_unchanged established naming free bound named same⟩
  · obtain ⟨c, hc, stores⟩ := served.setter writable
    refine ⟨c, hc, fun v => ⟨fun m misfit => ?_, fun u fits => ?_⟩⟩
    · obtain ⟨w₂, same, applied⟩ :=
        served.run_apply_refused established naming free bound named stores misfit
      rw [spelled] at applied
      exact ⟨w₂, same, applied, served.answers_unchanged established naming free bound named same⟩
    · exact served.run_apply_fits established naming free bound named stores fits

/-! ## A pane -/

/-- A struct with a writable and a read-only style field. -/
def paneStruct : Struct :=
  Catalogue.struct "Pane" []
    [Catalogue.style "corner_radius" "f64" [], Catalogue.style "_depth" "i64" [Catalogue.flag "read_only"]]

/-- What is derived from it. -/
def paneDerivation : Derivation :=
  { type := ⟨"Pane", []⟩
    deferred := false
    hook := none
    fields := [⟨"corner_radius", "cornerRadius", false, [.word "f64"]⟩,
      ⟨"_depth", "Depth", true, [.word "i64"]⟩] }

theorem derive_eq_ok {struct : Struct} {d : Derivation} (h : (derive struct).toOption = some d) :
    derive struct = .ok d := by
  cases derived : derive struct with
  | error p =>
    rw [derived] at h
    cases h
  | ok found =>
    rw [derived] at h
    cases h
    rfl

theorem derive_paneStruct : derive paneStruct = .ok paneDerivation :=
  derive_eq_ok (by decide +kernel)

theorem unrenamed_paneStruct : paneStruct.Unrenamed := by
  intro field there a ha marked o ho
  have plain : ∀ field ∈ paneStruct.fields, ∀ a ∈ field.attributes,
      (readStyleAttribute a).toOption.all (·.rename = none) = true := by decide +kernel
  simpa [ho, Except.toOption] using plain field there a ha

/-- The class of the derived type. -/
def paneClass : TargetClass := Catalogue.ofStruct paneStruct id [] []

theorem isInstance_pane : paneDerivation.IsInstance ((rootedWorld paneClass).target ⟨0⟩) := by
  have exposed : paneDerivation.table?.isSome = true := by decide +kernel
  obtain ⟨table, htable⟩ := Option.isSome_iff_exists.mp exposed
  exact Derivation.isInstance_instantiate derive_paneStruct htable [] [] _ _ _

theorem conversion?_f64 : conversion? [.word "f64"] = some .float64 := by decide +kernel

theorem read_pane : ((rootedWorld paneClass).target ⟨0⟩).fields.read "corner_radius" =
    .float Number.Binary64.zero := by
  have initial : ((rootedWorld paneClass).target ⟨0⟩).fields = .ofList
      (paneDerivation.fields.map fun f => (f.field, Catalogue.blankValue f.type)) := by
    show paneClass.initial = _
    unfold paneClass Catalogue.ofStruct
    rw [derive_paneStruct]
    rfl
  have blank : Fields.read (.ofList
      (paneDerivation.fields.map fun f => (f.field, Catalogue.blankValue f.type))) "corner_radius" =
        Catalogue.blankValue [.word "f64"] := rfl
  rw [initial, blank]
  unfold Catalogue.blankValue
  rw [conversion?_f64]
  rfl

theorem apply_style_field_pane :
    let s : SessionId := ⟨0⟩
    let w := rootedWorld paneClass
    s.Answers (Script.runner 2) "corner_radius" (.float Number.Binary64.zero) w w ∧
      (∃ w', (s.apply (Script.runner 2) "corner_radius" [.text "wide"] none).run w =
        (.error (.fault (.invalidArgument "setCornerRadius" "float" "string")), w')) ∧
      ∃ w', (s.apply (Script.runner 2) "corner_radius" [.int 3] none).run w = (.ok .nil, w') ∧
        s.Answers (Script.runner 2) "corner_radius" (.float (Number.Binary64.ofInt 3)) w' w' := by
  intro s w
  let f : StyleField := ⟨"corner_radius", "cornerRadius", false, [.word "f64"]⟩
  have mem : f ∈ paneDerivation.fields := by decide +kernel
  have named : ∃ c ∈ f.field.toList, c ≠ '_' := ⟨'c', by decide +kernel, by decide⟩
  have current : s.target.run w = (.ok ⟨0⟩, w) := rfl
  obtain ⟨reads, -, writes⟩ := apply_style_field (R := Script.runner 2) derive_paneStruct rfl rfl
    unrenamed_paneStruct (by decide +kernel) mem named current isInstance_pane rfl rfl (by decide)
  rw [read_pane] at reads
  obtain ⟨c, hc, calls⟩ := writes rfl
  cases conversion?_f64.symm.trans hc
  have setter : setterName (camelCase "corner_radius") = "setCornerRadius" := by decide +kernel
  refine ⟨reads, ?_, ?_⟩
  · obtain ⟨w', -, refused, -⟩ := (calls (.text "wide")).1 ⟨"float", "string"⟩ rfl
    rw [setter] at refused
    exact ⟨w', refused⟩
  · obtain ⟨w', -, stored, reads', -⟩ := (calls (.int 3)).2 (.float (Number.Binary64.ofInt 3)) rfl
    exact ⟨_, stored, reads'⟩

end TargetBuilder
