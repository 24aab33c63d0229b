import TargetBuilder.Proofs.FiniteMap
import TargetBuilder.Proofs.SelectorOwner

/-!
# Method tables as finite maps

A table is built from registrations, one after the other, and from tables that are merged in and built in
the same way. Whatever the order and the nesting, it is the finite map that results from replaying all
registrations in order, a later one taking the place of an earlier one. Everything a table is asked is
answered by that map: which selectors there are, how many arguments they take, and what a send comes to.
The handler that was registered last runs just where the table says that it responds, so a setter never
runs without its one argument.

* `Recipe.represents_table`: the table holds what the replayed map holds.
* `Recipe.table_replays`: what a table answers, told by the map.
-/

namespace TargetBuilder

/-- How a table is built. -/
inductive Recipe where
  | empty
  /-- A selector is registered after all that came before. -/
  | method (before : Recipe) (selector : String) (arity : Arity) (body : Handler)
  | getter (before : Recipe) (selector field : String)
  | setter (before : Recipe) (selector field : String) (conversion : Conversion)
  /-- A table is merged in after all that came before. -/
  | merge (before other : Recipe)

namespace Recipe

/-- The table that is built. -/
def table : Recipe → MethodTable Handler
  | empty => .empty
  | method before selector arity body => before.table.method selector arity body
  | getter before selector field => before.table.getter selector field
  | setter before selector field conversion => before.table.setter selector field conversion
  | merge before other => before.table.merge other.table

/-- All registrations in order, those of a merged table in the place where it is merged in. -/
def registrations : Recipe → List (String × Method Handler)
  | empty => []
  | method before selector arity body => before.registrations ++ [(selector, ⟨arity, body⟩)]
  | getter before selector field => before.registrations ++ [(selector, ⟨.exactly 0, .probe field⟩)]
  | setter before selector field conversion =>
    before.registrations ++ [(selector, ⟨.exactly 1, .store field conversion⟩)]
  | merge before other => before.registrations ++ other.registrations

end Recipe

/-- The finite map after some registrations. -/
def replay (rs : List (String × Method Handler)) : Finmap fun _ : String => Method Handler :=
  rs.foldl (fun f r => f.insert r.1 r.2) ∅

theorem replay_concat (rs : List (String × Method Handler)) (selector : String) (m : Method Handler) :
    replay (rs ++ [(selector, m)]) = (replay rs).insert selector m :=
  List.foldl_concat ..

/-- Registrations that come later take precedence. -/
theorem replay_append (rs more : List (String × Method Handler)) :
    replay (rs ++ more) = replay more ∪ replay rs := by
  induction more using List.reverseRecOn with
  | nil => rw [List.append_nil]; exact Finmap.empty_union.symm
  | append_singleton more r ih =>
    rw [← List.append_assoc, replay_concat, replay_concat, ih, Finmap.insert_union]

/-- **A table holds what the replayed map holds.** -/
theorem Recipe.represents_table (r : Recipe) : r.table.methods.Represents (replay r.registrations) := by
  induction r with
  | empty => exact .empty
  | method before selector arity body ih =>
    rw [registrations, replay_concat]
    exact ih.insert selector ⟨arity, body⟩
  | getter before selector field ih =>
    rw [registrations, replay_concat]
    exact ih.insert selector ⟨.exactly 0, .probe field⟩
  | setter before selector field conversion ih =>
    rw [registrations, replay_concat]
    exact ih.insert selector ⟨.exactly 1, .store field conversion⟩
  | merge before other ih ihOther =>
    rw [registrations, replay_append]
    exact ih.insertAll ihOther

/-! ## What a table answers -/

/-- The registration of a selector that counts is the last one. -/
theorem lookup_replay (rs : List (String × Method Handler)) (selector : String) :
    (replay rs).lookup selector = (rs.reverse.find? fun r => r.1 = selector).map (·.2) := by
  induction rs using List.reverseRecOn with
  | nil => rfl
  | append_singleton rs r ih =>
    obtain ⟨other, m⟩ := r
    rw [replay_concat, List.reverse_concat, List.find?_cons]
    by_cases same : other = selector
    · subst same
      rw [Finmap.lookup_insert, decide_eq_true rfl]
      rfl
    · rw [Finmap.lookup_insert_of_ne _ (Ne.symm same), ih, decide_eq_false same]

namespace MethodTable

variable (t : MethodTable Handler)

theorem respondsTo_eq (selector : String) (count : Nat) :
    t.respondsTo selector count = (t.methods.get? selector).any (·.arity.accepts count) := by
  unfold respondsTo arityOf
  cases t.methods.get? selector <;> rfl

/-- The body that is resolved is the one that is stored, and it is resolved where the table responds. -/
theorem resolve_eq_ok_iff (type selector : String) (count : Nat) (body : Handler) :
    t.resolve type selector count = .ok body ↔
      t.respondsTo selector count = true ∧ (t.methods.get? selector).map (·.body) = some body := by
  rw [respondsTo_eq]
  unfold resolve
  cases t.methods.get? selector with
  | none => simp
  | some m => by_cases accepted : m.arity.accepts count = true <;> simp [accepted]

theorem perm_selectors : t.selectors.Perm t.methods.keys := List.mergeSort_perm ..

end MethodTable

/-- What sending to a target with a method table comes to. -/
theorem Target.send_of_table {x : Target} {table : MethodTable Handler} (h : x.interface = .table table)
    (named : String → Option TargetId) (selector : String) (args : List Value) :
    x.send named selector args =
      match table.methods.get? selector with
      | none => (.fault (.unsupported selector x.type.name), x)
      | some m =>
        if m.arity.accepts args.length then
          ((m.body.run named selector x.fields args).1,
            { x with fields := (m.body.run named selector x.fields args).2 })
        else (.fault (.argumentCount selector x.type.name m.arity args.length), x) := by
  cases found : table.methods.get? selector with
  | none => exact Target.send_of_missing h named found
  | some m =>
    dsimp only
    split
    · next accepted => exact Target.send_of_found h named found accepted rfl
    · next refused => exact Target.send_of_miscounted h named found (by simpa using refused)

/--
**A method table is a map in which the last registration wins.** Take any way of building a table, with
registrations and with merged tables that are built likewise, and the finite map that results from
replaying all registrations in order, so that the last one of a selector counts. The arities, the
selectors that are responded to, the set of selectors, its size, and whether there is none are those of
the map. A handler is run if and only if the table responds to the selector for the number of arguments,
and it is the one that was registered last. Sending runs that handler on the arguments as they are; a
selector that is not there is unsupported, and one that does not take the number of arguments is refused
with the arity that was registered and the number that was given, and in both cases the receiver is left
as it was.
-/
theorem Recipe.table_replays (r : Recipe) :
    let f := replay r.registrations
    (∀ selector, f.lookup selector =
      (r.registrations.reverse.find? fun e => e.1 = selector).map (·.2)) ∧
    (∀ selector, r.table.arityOf selector = (f.lookup selector).map (·.arity)) ∧
    (∀ selector count,
      r.table.respondsTo selector count = (f.lookup selector).any (·.arity.accepts count)) ∧
    (r.table.selectors.Nodup ∧ r.table.selectors.toFinset = f.keys) ∧
    r.table.size = f.keys.card ∧
    (r.table.isEmpty = true ↔ f = ∅) ∧
    (∀ type selector count body, r.table.resolve type selector count = .ok body ↔
      r.table.respondsTo selector count = true ∧ (f.lookup selector).map (·.body) = some body) ∧
    ∀ (x : Target) (named : String → Option TargetId) (selector : String) (args : List Value),
      x.interface = .table r.table →
        x.send named selector args =
          match f.lookup selector with
          | none => (.fault (.unsupported selector x.type.name), x)
          | some m =>
            if m.arity.accepts args.length then
              ((m.body.run named selector x.fields args).1,
                { x with fields := (m.body.run named selector x.fields args).2 })
            else (.fault (.argumentCount selector x.type.name m.arity args.length), x) := by
  intro f
  have same : r.table.methods.Represents f := r.represents_table
  have sorted := r.table.perm_selectors
  refine ⟨lookup_replay r.registrations, fun selector => ?_, fun selector count => ?_, ⟨?_, ?_⟩, same.size_eq,
    same.isEmpty_iff, fun type selector count body => ?_, fun x named selector args tabled => ?_⟩
  · rw [← same.get?_eq]
    rfl
  · rw [← same.get?_eq, MethodTable.respondsTo_eq]
  · exact sorted.nodup_iff.mpr same.distinct
  · rw [List.toFinset_eq_of_perm _ _ sorted, same.toFinset_keys]
  · rw [← same.get?_eq, MethodTable.resolve_eq_ok_iff]
  · rw [← same.get?_eq, Target.send_of_table tabled]

/-! ## A knob -/

/-- A level that can be read and set, and a table merged in that reads it from elsewhere. -/
def knobRecipe : Recipe :=
  .merge (.setter (.getter .empty "level" "level") "setLevel" "level" .int64)
    (.getter .empty "level" "backup")

/-- A target with the table. -/
def knob : Target :=
  { name := "k", type := ⟨"Knob", []⟩, origin := .described, appliesDeferred := false
    interface := .table knobRecipe.table, fields := .ofList [("backup", .int 99)], metadata := .empty }

theorem table_replays_knob :
    knob.interface = .table knobRecipe.table ∧
      knob.send (fun _ => none) "level" [] = (.value (.int 99), knob) ∧
      knob.send (fun _ => none) "setLevel" [] =
        (.fault (.argumentCount "setLevel" "Knob" (.exactly 1) 0), knob) ∧
      knob.send (fun _ => none) "volume" [] = (.fault (.unsupported "volume" "Knob"), knob) := by
  obtain ⟨last, -, -, -, -, -, -, sent⟩ := Recipe.table_replays knobRecipe
  have tabled : knob.interface = .table knobRecipe.table := rfl
  refine ⟨tabled, ?_, ?_, ?_⟩
  · rw [sent knob _ "level" [] tabled, last]
    rfl
  · rw [sent knob _ "setLevel" [] tabled, last]
    rfl
  · rw [sent knob _ "volume" [] tabled, last]
    rfl

end TargetBuilder
