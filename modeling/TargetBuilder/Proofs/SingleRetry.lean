import TargetBuilder.Proofs.SwitchingCall

/-!
# Calls are tried again once at most

A call that finds nothing under its name is resolved again under the translation of the name, by the same
steps. In the default convention that is the end of it: a translated name has no underscore, so it is its own
translation, and a call of it is not tried again.

* `SessionId.run_apply_final`: a call of a name without a translation is not tried again.
* `SessionId.run_apply_once`: in the default convention, a call is tried again once at most.
* `camelCase_settles`: what the convention does to names, and to calls.
-/

namespace TargetBuilder

open Script (runner)

namespace SessionId

variable {R : Runner} {s : SessionId} {name : String} {w w₁ : World} {t : TargetId}

/-- A session that has a target to receive a call is there. -/
theorem lt_size_of_receiver (h : (s.receiver name).run w = (.ok t, w₁)) :
    s.index < w.sessions.size := by
  rcases Nat.lt_or_ge s.index w.sessions.size with there | gone
  · exact there
  · have own : w.rootOf? s = some s := by
      unfold World.rootOf?
      rw [w.session_of_size_le gone]
      rfl
    exact lt_size_of_target (target_of_receiver h) own

/-- Asking for the target that receives a call leaves the convention of the session as it is. -/
theorem naming_receiver (h : (s.receiver name).run w = (.ok t, w₁)) :
    (w₁.session s).config.naming = (w.session s).config.naming := by
  have asked := (Action.calm_receiver s name).of_run h
  rw [asked.config s (lt_size_of_receiver h)]

variable {args : List Value} {block : Option Task}

/--
A round of a call resolves it again under the translation of its name or not at all, and while the
convention of the session is the same as before.
-/
theorem run_resolveOnce_congr {again again' : String → Action World Value}
    (alike : ∀ native x, (w.session s).config.naming.translation? name = some native →
      (x.session s).config.naming = (w.session s).config.naming →
        (again native).run x = (again' native).run x) :
    (s.resolveOnce R again name args block).run w =
      (s.resolveOnce R again' name args block).run w := by
  by_cases named : name = ""
  · subst named
    rfl
  cases hr : (s.receiver name).run w with
  | mk res w₁ =>
    cases res with
    | error e =>
      have nonempty : ¬ name.isEmpty := by simpa using named
      unfold resolveOnce
      rw [if_neg nonempty, if_neg nonempty, Action.run_bind, Action.run_bind, hr]
    | ok t =>
      have kept := naming_receiver hr
      rw [run_resolveOnce again args block named hr, run_resolveOnce again' args block named hr, kept]
      split
      · rfl
      · split
        · next native translated => exact alike native _ translated kept
        · rfl

/-- A round of a call whose name has no translation is the last one. -/
theorem run_resolveOnce_final (final : (w.session s).config.naming.translation? name = none)
    (again again' : String → Action World Value) :
    (s.resolveOnce R again name args block).run w =
      (s.resolveOnce R again' name args block).run w := by
  refine run_resolveOnce_congr fun native x translated => ?_
  rw [final] at translated
  cases translated

/-- **A call of a name without a translation is not tried again**, so it does not matter how it would be. -/
theorem run_apply_final (bound : 1 ≤ R.fuel)
    (final : (w.session s).config.naming.translation? name = none)
    (never : String → Action World Value) :
    (s.apply R name args block).run w = (s.resolveOnce R never name args block).run w := by
  obtain ⟨tries, htries⟩ := Nat.exists_eq_add_of_le' bound
  unfold apply
  rw [htries, applyWithin]
  exact run_resolveOnce_final final _ never

/-- **In the default convention, a call is tried again once at most**, and then in camel case. -/
theorem run_apply_once (bound : 2 ≤ R.fuel) (naming : (w.session s).config.naming = .camelCased)
    (never : String → Action World Value) :
    (s.apply R name args block).run w =
      (s.resolveOnce R (fun _ => s.resolveOnce R never (camelCase name) args block) name args
        block).run w := by
  obtain ⟨tries, htries⟩ := Nat.exists_eq_add_of_le' bound
  unfold apply
  rw [htries, applyWithin]
  refine run_resolveOnce_congr fun native x translated kept => ?_
  rw [naming] at translated kept
  obtain ⟨rfl, -, plain⟩ := Naming.of_translation?_camelCased translated
  rw [applyWithin]
  refine run_resolveOnce_final ?_ _ never
  rw [kept]
  exact Naming.translation?_eq_none plain

end SessionId

/--
**The default convention is settled after one step.** A translated name has no underscore, so it is not
word-separated and is its own translation, and a name can be translated in parts that are cut before an
underscore. Therefore every call, in a context with a provider or without one and with a block or without
one, is tried again once at most, namely in camel case, and a call of a translated name is not tried again:
whatever `never` is, it is not come to. The bound on repeated steps has to leave room for the two rounds.
-/
theorem camelCase_settles :
    (∀ a : String, '_' ∉ (camelCase a).toList ∧ Naming.camelCased.isWordSeparated (camelCase a) = false) ∧
    (∀ a : String, camelCase (camelCase a) = camelCase a) ∧
    (∀ a b : String, camelCase (a ++ "_" ++ b) = camelCase a ++ camelCase ("_" ++ b)) ∧
    ∀ (R : Runner) (s : SessionId) (w : World) (name : String) (args : List Value)
      (block : Option Task) (never : String → Action World Value),
      (w.session s).config.naming = .camelCased → 2 ≤ R.fuel →
        (s.apply R name args block).run w =
            (s.resolveOnce R (fun _ => s.resolveOnce R never (camelCase name) args block) name args
              block).run w ∧
          (s.apply R (camelCase name) args block).run w =
            (s.resolveOnce R never (camelCase name) args block).run w := by
  refine ⟨fun a => ⟨underscore_not_mem_camelCase a, Naming.isWordSeparated_translate_camelCased a⟩,
    camelCase_camelCase, camelCase_append, fun R s w name args block never naming bound => ⟨?_, ?_⟩⟩
  · exact SessionId.run_apply_once bound naming never
  · refine SessionId.run_apply_final (Nat.le_of_succ_le bound) ?_ never
    rw [naming]
    exact Naming.translation?_eq_none (Naming.isWordSeparated_translate_camelCased name)

/-- The call is tried again, as its translation, and a second time it would have been abandoned. -/
theorem camelCase_settles_corner_radius :
    let s : SessionId := ⟨0⟩
    let w := rootedWorld roundedClass
    (w.session s).config.naming = .camelCased ∧
      camelCase "corner" ++ camelCase ("_" ++ "radius") = "cornerRadius" ∧
      (s.apply (runner 2) "corner_radius" [] none).run w =
        (s.resolveOnce (runner 2) (fun _ => s.resolveOnce (runner 2) (fun _ => .stop .unwound)
          "cornerRadius" [] none) "corner_radius" [] none).run w := by
  intro s w
  obtain ⟨-, -, parts, calls⟩ := camelCase_settles
  have translated : camelCase "corner_radius" = "cornerRadius" := by decide +kernel
  have naming : (w.session s).config.naming = .camelCased := rfl
  have once := (calls (runner 2) s w "corner_radius" [] none (fun _ => .stop .unwound) naming
    (by decide)).1
  rw [translated] at once
  exact ⟨naming, (parts "corner" "radius").symm.trans translated, once⟩

end TargetBuilder
