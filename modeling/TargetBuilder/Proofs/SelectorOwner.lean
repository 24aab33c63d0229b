import TargetBuilder.Proofs.StyleField

/-!
# Who owns a selector

Several style fields of a struct may spell the same selector, since words can be run together in more than
one way and fields can be renamed. The table of the derived type is an overlay: of the fields that register
a selector the last one owns it, with its own arity and its own content, and what the others registered is
gone. Everything that sending to a target of the type comes to is decided by the owner.

* `Derivation.get?_registerAll?_owner`: the table holds for a selector what its owner registers.
* `derived_send`: what sending a selector comes to, told by its owner.
-/

namespace TargetBuilder

namespace Derive

namespace StyleField

/-- How many arguments the field takes under one of its selectors. -/
def arguments (f : StyleField) (selector : String) : Nat := if selector = f.probe then 0 else 1

/-- What a field registers for its selectors: a probe, or the storing of the converted argument. -/
theorem get?_register?_of_mem {f : StyleField} {t t' : MethodTable Handler} {selector : String}
    (h : f.register? t = some t') (mem : selector ∈ f.selectors) :
    (selector = f.probe → t'.methods.get? selector = some ⟨.exactly 0, .probe f.field⟩) ∧
      (selector ≠ f.probe → ∃ c, conversion? f.type = some c ∧
        t'.methods.get? selector = some ⟨.exactly 1, .store f.field c⟩) := by
  refine ⟨?_, fun stores => ?_⟩
  · rintro rfl
    exact get?_probe h
  · unfold selectors setter? assignment? at mem
    unfold register? at h
    dsimp only at h
    split at h
    · next readOnly =>
      rw [if_pos readOnly, if_pos readOnly] at mem
      exact absurd (List.mem_singleton.mp mem) stores
    · next writable =>
      obtain ⟨c, hc, rfl⟩ := Option.map_eq_some_iff.mp h
      rw [if_neg writable, if_neg writable] at mem
      simp only [Option.toList_some, List.cons_append, List.nil_append, List.mem_cons, stores,
        List.not_mem_nil, or_false, false_or] at mem
      refine ⟨c, hc, ?_⟩
      unfold MethodTable.setter
      rw [MethodTable.get?_method, MethodTable.get?_method]
      rcases mem with rfl | rfl
      · rw [if_pos rfl]
        split <;> rfl
      · rw [if_pos rfl]

end StyleField

/-! ## The owner -/

/-- The style field that owns a selector: the last of those that register it. -/
def ownerAmong (fields : List StyleField) (selector : String) : Option StyleField :=
  fields.reverse.find? fun f => decide (selector ∈ f.selectors)

theorem ownerAmong_cons (f : StyleField) (rest : List StyleField) (selector : String) :
    ownerAmong (f :: rest) selector =
      (ownerAmong rest selector).or (if selector ∈ f.selectors then some f else none) := by
  unfold ownerAmong
  rw [List.reverse_cons, List.find?_append, List.find?_singleton]
  simp only [decide_eq_true_eq]

theorem ownerAmong_eq_none_iff {fields : List StyleField} {selector : String} :
    ownerAmong fields selector = none ↔ ∀ f ∈ fields, selector ∉ f.selectors := by
  unfold ownerAmong
  simp [List.find?_eq_none]

theorem ownerAmong_append (front back : List StyleField) (selector : String) :
    ownerAmong (front ++ back) selector =
      (ownerAmong back selector).or (ownerAmong front selector) := by
  unfold ownerAmong
  rw [List.reverse_append, List.find?_append]

theorem mem_of_ownerAmong {fields : List StyleField} {selector : String} {f : StyleField}
    (h : ownerAmong fields selector = some f) : f ∈ fields :=
  List.mem_reverse.mp (List.mem_of_find?_eq_some h)

theorem mem_selectors_of_ownerAmong {fields : List StyleField} {selector : String} {f : StyleField}
    (h : ownerAmong fields selector = some f) : selector ∈ f.selectors := by
  simpa using List.find?_some h

namespace Derivation

/-- The style field that owns a selector of the derived type. -/
def owner? (d : Derivation) (selector : String) : Option StyleField := ownerAmong d.fields selector

/--
**The table holds for a selector what its owner registers**, and what was there before where no field
registers it. The induction is on the fields, for any table that they are added to.
-/
theorem get?_registerAll?_owner (selector : String) :
    ∀ (fs : List StyleField) {t t' : MethodTable Handler}, registerAll? t fs = some t' →
      match ownerAmong fs selector with
      | none => t'.methods.get? selector = t.methods.get? selector
      | some f => ∃ u u', f.register? u = some u' ∧
          t'.methods.get? selector = u'.methods.get? selector
  | [], t, t', h => by
    cases h
    rfl
  | f :: rest, t, t', h => by
    obtain ⟨t₁, h₁, hrest⟩ := Option.bind_eq_some_iff.mp h
    have later := get?_registerAll?_owner selector rest hrest
    rw [ownerAmong_cons]
    cases howner : ownerAmong rest selector with
    | some g =>
      rw [howner] at later
      exact later
    | none =>
      rw [howner] at later
      -- no later field registers the selector, so it is this one's or nobody's
      by_cases own : selector ∈ f.selectors
      · rw [if_pos own]
        exact ⟨t, t₁, h₁, later⟩
      · rw [if_neg own]
        exact later.trans (f.get?_register?_of_not_mem h₁ own)

/-- A selector without an owner is not in the table. -/
theorem get?_table_of_unowned {d : Derivation} {table : MethodTable Handler} {selector : String}
    (h : d.table? = some table) (unowned : d.owner? selector = none) :
    table.methods.get? selector = none := by
  have registered := get?_registerAll?_owner selector d.fields h
  unfold owner? at unowned
  rw [unowned] at registered
  exact registered

/-- What the table holds for a selector with an owner. -/
theorem get?_table_of_owned {d : Derivation} {table : MethodTable Handler} {selector : String}
    {f : StyleField} (h : d.table? = some table) (owned : d.owner? selector = some f) :
    (selector = f.probe → table.methods.get? selector = some ⟨.exactly 0, .probe f.field⟩) ∧
      (selector ≠ f.probe → ∃ c, conversion? f.type = some c ∧
        table.methods.get? selector = some ⟨.exactly 1, .store f.field c⟩) := by
  have registered := get?_registerAll?_owner selector d.fields h
  have mem := mem_selectors_of_ownerAmong owned
  unfold owner? at owned
  rw [owned] at registered
  obtain ⟨u, u', hu, same⟩ := registered
  rw [same]
  exact StyleField.get?_register?_of_mem hu mem

end Derivation

/-! ## Fields have names of their own -/

theorem name_of_styleField? {field : Field} {f : StyleField}
    (h : styleField? field = .ok (some f)) : field.name = some f.field := by
  unfold styleField? at h
  split at h
  · next name a hname ha =>
    split at h
    · cases h
    · split at h
      · cases h
      · cases h
        exact hname
  · cases h

/-- The style fields go by names of fields of the struct, in the same order. -/
theorem sublist_styleFields :
    ∀ {fields : List Field} {found : List StyleField}, styleFields fields = .ok found →
      (found.map fun f => some f.field).Sublist (fields.map (·.name))
  | [], found, h => by
    cases h
    exact .slnil
  | field :: rest, found, h => by
    unfold styleFields at h
    split at h
    · cases h
    · next first hfirst =>
      split at h
      · cases h
      · next more hmore =>
        cases h
        have later := sublist_styleFields hmore
        cases first with
        | none => exact .cons _ later
        | some f =>
          rw [List.map_cons, name_of_styleField? hfirst]
          exact .cons_cons _ later

/--
All selectors of a field are its own if and only if no later field registers one of them. Only here it
matters that no two fields have one name.
-/
theorem owns_all_iff {fields before after : List StyleField} {f : StyleField}
    (distinct : (fields.map (·.field)).Nodup) (split : fields = before ++ f :: after) :
    (∀ selector ∈ f.selectors, ownerAmong fields selector = some f) ↔
      ∀ g ∈ after, ∀ selector ∈ f.selectors, selector ∉ g.selectors := by
  subst split
  have owner : ∀ selector ∈ f.selectors, ownerAmong (before ++ f :: after) selector =
      (ownerAmong after selector).or (some f) := by
    intro selector mem
    rw [ownerAmong_append, ownerAmong_cons, if_pos mem]
    cases ownerAmong after selector <;> rfl
  constructor
  · intro owns g hg selector mem registered
    have own := owns selector mem
    rw [owner selector mem] at own
    cases hlater : ownerAmong after selector with
    | none => exact ownerAmong_eq_none_iff.mp hlater g hg registered
    | some g' =>
      rw [hlater, Option.some_or] at own
      -- the field itself would stand among the later ones
      have again : f.field ∈ after.map (·.field) :=
        List.mem_map_of_mem (Option.some.inj own ▸ mem_of_ownerAmong hlater)
      rw [List.map_append, List.map_cons] at distinct
      exact (List.nodup_cons.mp (List.nodup_append.mp distinct).2.1).1 again
  · intro apart selector mem
    rw [owner selector mem, ownerAmong_eq_none_iff.mpr fun g hg => apart g hg selector mem]
    rfl

end Derive

/-! ## Sending to a target of a derived type -/

open Derive

section

variable {x : Target} {table : MethodTable Handler} {selector : String} {m : Method Handler}
  (h : x.interface = .table table) (named : String → Option TargetId) {args : List Value}

include h

/-- A selector that is not in the table is unsupported. -/
theorem Target.send_of_missing (missing : table.methods.get? selector = none) :
    x.send named selector args = (.fault (.unsupported selector x.type.name), x) := by
  unfold Target.send MethodTable.resolve
  rw [h]
  dsimp only
  rw [missing]

/-- A number of arguments that the arity does not accept is refused. -/
theorem Target.send_of_miscounted (found : table.methods.get? selector = some m)
    (refused : m.arity.accepts args.length = false) :
    x.send named selector args =
      (.fault (.argumentCount selector x.type.name m.arity args.length), x) := by
  unfold Target.send MethodTable.resolve
  rw [h]
  dsimp only
  rw [found]
  dsimp only
  rw [refused]
  rfl

/-- Otherwise the body of the selector is run on the fields. -/
theorem Target.send_of_found (found : table.methods.get? selector = some m)
    (accepted : m.arity.accepts args.length = true) {reply : Reply} {fields : Fields}
    (replied : m.body.run named selector x.fields args = (reply, fields)) :
    x.send named selector args = (reply, { x with fields }) := by
  unfold Target.send MethodTable.resolve
  rw [h]
  dsimp only
  rw [found]
  dsimp only
  rw [if_pos accepted]
  dsimp only
  rw [replied]

/-- Storing refuses an argument that does not convert, and else changes one field. -/
theorem Target.send_of_store {field : String} {c : Conversion}
    (found : table.methods.get? selector = some ⟨.exactly 1, .store field c⟩) (v : Value) :
    (∀ m, c.read v = .error m → x.send named selector [v] =
      (.fault (.invalidArgument selector m.expected m.got), x)) ∧
    (∀ a, c.read v = .ok a → ∃ fields, x.send named selector [v] = (.value .nil, { x with fields }) ∧
      fields.read field = c.write a ∧
      ∀ other, other ≠ field → fields.read other = x.fields.read other) := by
  have sent : ∀ {reply fields}, Handler.storeConverted selector field c x.fields v =
      (reply, fields) → x.send named selector [v] = (reply, { x with fields }) :=
    fun replied => Target.send_of_found h named found rfl replied
  refine ⟨fun m misfit => sent ?_, fun a fits => ?_⟩
  · unfold Handler.storeConverted Conversion.normalize
    rw [misfit]
    rfl
  · refine ⟨x.fields.insert field (c.write a), sent ?_, ?_, fun other ho => ?_⟩
    · unfold Handler.storeConverted Conversion.normalize
      rw [fits]
    · exact (Fields.read_insert ..).trans (if_pos rfl)
    · exact (Fields.read_insert ..).trans (if_neg ho)

end

/--
**What sending to a target of a derived type comes to.** Take a struct that is accepted and has no hook,
and whose fields have names of their own. The owner of a selector is the last style field that registers
it. Without an owner the selector is unsupported; with a number of arguments other than the owner takes
under the selector, the count is refused; and an argument that the type of the owner's content does not
convert is refused naming the selector. In all three cases nothing happens to the target. Otherwise the
probe answers what the owner holds, and nothing happens; and the setter and the assignment answer no value,
store the converted argument in the owner, and leave every other field as it was. So all selectors of a
field act on that field if and only if no later field registers one of them.
-/
theorem derived_send {struct : Struct} {d : Derivation} {x : Target}
    (accepted : derive struct = .ok d) (unhooked : d.hook = none)
    (distinct : (struct.fields.map (·.name)).Nodup) (made : d.IsInstance x)
    (named : String → Option TargetId) :
    (∀ selector args, d.owner? selector = none →
      x.send named selector args = (.fault (.unsupported selector d.type.name), x)) ∧
    (∀ selector args f, d.owner? selector = some f →
      (args.length ≠ f.arguments selector → x.send named selector args =
        (.fault (.argumentCount selector d.type.name (.exactly (f.arguments selector)) args.length),
          x)) ∧
      (selector = f.probe → args = [] →
        x.send named selector args = (.value (x.fields.read f.field), x)) ∧
      (selector ≠ f.probe → ∃ c, conversion? f.type = some c ∧ ∀ v, args = [v] →
        (∀ m, c.read v = .error m → x.send named selector args =
          (.fault (.invalidArgument selector m.expected m.got), x)) ∧
        (∀ a, c.read v = .ok a → ∃ fields,
          x.send named selector args = (.value .nil, { x with fields }) ∧
          fields.read f.field = c.write a ∧
          ∀ other, other ≠ f.field → fields.read other = x.fields.read other))) ∧
    ∀ before f after, d.fields = before ++ f :: after →
      ((∀ selector ∈ f.selectors, d.owner? selector = some f) ↔
        ∀ g ∈ after, ∀ selector ∈ f.selectors, selector ∉ g.selectors) := by
  obtain ⟨table, exposed, htable, interface, same⟩ := made.interface
  obtain rfl := same unhooked
  have names : (d.fields.map (·.field)).Nodup := by
    have styled := distinct.sublist (sublist_styleFields (styleFields_of_derive accepted))
    exact List.pairwise_map.mpr
      ((List.pairwise_map.mp styled).imp fun apart same => apart (congrArg some same))
  refine ⟨fun selector args unowned => ?_, fun selector args f owned => ?_,
    fun before f after split => owns_all_iff names split⟩
  · have missing := Derivation.get?_table_of_unowned htable unowned
    rw [Target.send_of_missing interface named missing, made.type]
  · obtain ⟨probes, stores⟩ := Derivation.get?_table_of_owned htable owned
    have counted : ∀ n, (Arity.exactly n).accepts args.length = false ↔ args.length ≠ n := by
      intro n
      rw [← Bool.not_eq_true, Arity.accepts_exactly]
    by_cases probe : selector = f.probe
    · have arguments : f.arguments selector = 0 := if_pos probe
      have found := probes probe
      rw [arguments]
      refine ⟨fun miscounted => ?_, fun _ none_given => ?_, fun other => absurd probe other⟩
      · rw [Target.send_of_miscounted interface named found ((counted 0).mpr miscounted), made.type]
      · subst none_given
        exact Target.send_of_found interface named found rfl rfl
    · have arguments : f.arguments selector = 1 := if_neg probe
      obtain ⟨c, hc, found⟩ := stores probe
      rw [arguments]
      refine ⟨fun miscounted => ?_, fun other => absurd other probe, fun _ => ⟨c, hc, ?_⟩⟩
      · rw [Target.send_of_miscounted interface named found ((counted 1).mpr miscounted), made.type]
      · rintro v rfl
        exact Target.send_of_store interface named found v

/-! ## A dial -/

/-- A struct in which the probe of the second field is spelled like the setter of the first. -/
def dialStruct : Struct :=
  Catalogue.struct "Dial" []
    [Catalogue.style "level" "f64" [], Catalogue.style "set_level" "i64" [Catalogue.flag "read_only"]]

/-- What is derived from it. -/
def dialDerivation : Derivation :=
  { type := ⟨"Dial", []⟩
    deferred := false
    hook := none
    fields := [⟨"level", "level", false, [.word "f64"]⟩,
      ⟨"set_level", "setLevel", true, [.word "i64"]⟩] }

theorem derive_dialStruct : derive dialStruct = .ok dialDerivation := derive_eq_ok (by decide +kernel)

/-- A target of the derived type. -/
def dial : Target :=
  World.instantiate (Catalogue.ofStruct dialStruct id [] []) (.catalogue "Dial") "d" .empty

theorem isInstance_dial : dialDerivation.IsInstance dial := by
  have exposed : dialDerivation.table?.isSome = true := by decide +kernel
  obtain ⟨table, htable⟩ := Option.isSome_iff_exists.mp exposed
  exact Derivation.isInstance_instantiate derive_dialStruct htable [] [] _ _ _

theorem derived_send_dial :
    let send := fun selector args => dial.send (fun _ => none) selector args
    let level : StyleField := ⟨"level", "level", false, [.word "f64"]⟩
    send "Level" [] = (.fault (.unsupported "Level" "Dial"), dial) ∧
      send "setLevel" [.int 1] =
        (.fault (.argumentCount "setLevel" "Dial" (.exactly 0) 1), dial) ∧
      send "setLevel" [] = (.value (dial.fields.read "set_level"), dial) ∧
      send "level=" [.text "high"] = (.fault (.invalidArgument "level=" "float" "string"), dial) ∧
      (∃ fields, send "level=" [.int 3] = (.value .nil, { dial with fields }) ∧
        fields.read "level" = .float (Number.Binary64.ofInt 3) ∧
        fields.read "set_level" = dial.fields.read "set_level") ∧
      ¬ ∀ selector ∈ level.selectors, dialDerivation.owner? selector = some level := by
  intro send level
  let setLevel : StyleField := ⟨"set_level", "setLevel", true, [.word "i64"]⟩
  obtain ⟨unowned, owned, all⟩ := derived_send derive_dialStruct rfl (by decide) isInstance_dial
    (fun _ => none)
  have ofSetLevel : dialDerivation.owner? "setLevel" = some setLevel := by decide +kernel
  have ofAssignment : dialDerivation.owner? "level=" = some level := by decide +kernel
  have separate : ¬ ∀ selector ∈ level.selectors, dialDerivation.owner? selector = some level :=
    fun owns => (all [] level [setLevel] rfl).mp owns setLevel (List.mem_singleton_self _) "setLevel"
      (by decide +kernel) (by decide +kernel)
  refine ⟨unowned "Level" [] (by decide +kernel), (owned _ [.int 1] _ ofSetLevel).1 (by decide), ?_,
    ?_, ?_, separate⟩
  · exact (owned _ [] _ ofSetLevel).2.1 rfl rfl
  · obtain ⟨c, hc, stores⟩ := (owned _ [.text "high"] _ ofAssignment).2.2 (by decide)
    cases conversion?_f64.symm.trans hc
    exact (stores _ rfl).1 ⟨"float", "string"⟩ rfl
  · obtain ⟨c, hc, stores⟩ := (owned _ [.int 3] _ ofAssignment).2.2 (by decide)
    cases conversion?_f64.symm.trans hc
    obtain ⟨fields, sent, stored, others⟩ := (stores _ rfl).2 (Number.Binary64.ofInt 3) rfl
    exact ⟨fields, sent, stored, others "set_level" (by decide)⟩

end TargetBuilder
