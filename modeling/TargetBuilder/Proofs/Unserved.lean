import TargetBuilder.Proofs.Bypass
import TargetBuilder.Proofs.StyleField

/-!
# Calls that the provider does not serve

A call is tried by its name, then by the translation of its name, and so on until a name has no
translation. If the provider offers none of these names, the call is a search among what is asked of the
target under each of them, and nothing comes before what is found but reported events.

The empty name ends the search: it is refused before anything is asked. A call is refused for it when
its name was not empty, but all of it is dropped by the translation.

* `SessionId.run_applyWithin_unserved`: the search, for calls with a block and without one.
* `call_without_block_sends`: a call without a block comes to one selector that is sent.
* `call_without_block_lost`: a call of a name that is not empty, for which nothing is sent.
-/

namespace TargetBuilder

open Script (runner)
open Candidate (ofProvider direct isOffered refuse)

/-! ## The names of a call -/

/--
The names that a call is tried by, in order, when it is not served by an earlier one. With a convention
that translates in a circle there is no such list, and the call has no end.
-/
inductive Naming.Tries (naming : Naming) : String → List String → Prop
  | nameless : Tries naming "" [""]
  | last {name : String} : name ≠ "" → naming.translation? name = none → Tries naming name [name]
  | next {name native : String} {names : List String} : name ≠ "" →
      naming.translation? name = some native → Tries naming native names →
      Tries naming name (name :: names)

namespace Naming

variable {naming : Naming}

theorem tries_of_not_separated {name : String} (h : naming.isWordSeparated name = false) :
    naming.Tries name [name] := by
  by_cases named : name = ""
  · subst named
    exact .nameless
  · exact .last named (translation?_eq_none h)

theorem Tries.length_pos {name : String} {names : List String} (h : naming.Tries name names) :
    0 < names.length := by
  cases h <;> exact Nat.succ_pos _

/-- A convention that never translates into a word-separated name tries two names at most. -/
theorem tries_of_once (once : ∀ n, naming.isWordSeparated (naming.translate n) = false) {name : String}
    (named : name ≠ "") :
    naming.Tries name
      (if naming.isWordSeparated name then [name, naming.translate name] else [name]) := by
  cases separated : naming.isWordSeparated name with
  | false => exact tries_of_not_separated separated
  | true =>
    obtain ⟨translated, -⟩ := translation?_eq_some separated (once name)
    exact .next named translated (tries_of_not_separated (once name))

end Naming

/-- The provider of a session offers none of the names, and no long form of one. -/
def World.Unserved (w : World) (s : SessionId) (args : List Value) (names : List String) : Prop :=
  ∀ p, w.providerOf? s = some p → ∀ name ∈ names, name ≠ "" →
    (w.provider p).offers name = false ∧
      ∀ long, LongForm.fold (w.session s).config.naming name args = some long →
        (w.provider p).offers long.selector = false

namespace World.Unserved

variable {w : World} {s : SessionId} {args : List Value} {names : List String}

/-- A session without a provider is not served. -/
theorem of_none (h : w.providerOf? s = none) : w.Unserved s args names := by
  intro p hp
  rw [h] at hp
  cases hp

theorem tail {name : String} (h : w.Unserved s args (name :: names)) : w.Unserved s args names :=
  fun p hp other mem => h p hp other (List.mem_cons_of_mem name mem)

theorem find_ofProvider {name : String} (h : w.Unserved s args names) (mem : name ∈ names)
    (named : name ≠ "") (x : Target) :
    (ofProvider (w.session s).config.naming args name).find?
      (isOffered ((w.providerOf? s).map w.provider) x) = none := by
  rw [Candidate.find_ofProvider, Option.map_eq_none_iff]
  cases hp : w.providerOf? s with
  | none => rfl
  | some p =>
    obtain ⟨own, long⟩ := h p hp name mem named
    rw [Option.bind_some]
    unfold ProviderCall.choose
    have unfolded : (LongForm.fold (w.session s).config.naming name args).filter
        ((w.provider p).offers ·.selector) = none := by
      rw [Option.filter_eq_none_iff]
      intro form hform
      rw [long form hform]
      exact Bool.false_ne_true
    rw [unfolded, own]
    rfl

end World.Unserved

/-! ## The current target stays -/

namespace SessionId

/-- What receives a call is the current target. -/
theorem target_of_receiver {s : SessionId} {name : String} {w w₁ : World} {t : TargetId}
    (h : (s.receiver name).run w = (.ok t, w₁)) : s.target.run w = (.ok t, w₁) := by
  unfold SessionId.receiver at h
  unfold SessionId.target SessionId.root
  rw [Action.run_bind, Action.run_read] at h
  rw [Action.run_bind, Action.run_bind, Action.run_read]
  dsimp only at h ⊢
  cases hroot : w.rootOf? s with
  | none =>
    rw [hroot] at h
    cases h
  | some root =>
    rw [hroot] at h
    dsimp only [Action.run_pure] at h ⊢
    rw [Action.run_bind] at h ⊢
    cases he : root.enclosing.run w with
    | mk res w' =>
      rw [he] at h
      cases res with
      | error e => cases h
      | ok found =>
        cases found with
        | none => cases h
        | some u => exact h

/-- A current target that was established is the current one until a session changes. -/
theorem target_settles {s : SessionId} {w w₁ w₂ : World} {t : TargetId}
    (h : s.target.run w = (.ok t, w₁)) (same : w₂.sessions = w₁.sessions)
    (there : w₂.rootOf? s = w₁.rootOf? s) : s.target.run w₂ = (.ok t, w₂) :=
  target_of_receiver (receiver_settles (receiver_of_target h "") "" same there)

/-- Asking for the current target leaves the root where it is. -/
theorem rootOf?_target {s root : SessionId} {w w₁ : World} {t : TargetId}
    (current : s.target.run w = (.ok t, w₁)) (hroot : w.rootOf? s = some root) :
    w₁.rootOf? s = some root := by
  have kept := root.rootOf?_enclosing w s
  unfold target at current
  rw [Action.run_bind, run_root hroot] at current
  dsimp only at current
  rw [Action.run_bind] at current
  cases he : root.enclosing.run w with
  | mk r w' =>
    rw [he] at current kept
    rcases r with e | _ | u
    · cases current
    · cases current
    · cases current
      exact kept.trans hroot

/-- A session with a current target has the provider that it had before it was asked. -/
theorem providerOf?_target {s : SessionId} {w w₁ : World} {t : TargetId}
    (current : s.target.run w = (.ok t, w₁)) : w₁.providerOf? s = w.providerOf? s := by
  cases hroot : w.rootOf? s with
  | none =>
    unfold SessionId.target SessionId.root at current
    rw [Action.run_bind, Action.run_bind, Action.run_read] at current
    dsimp only at current
    rw [hroot] at current
    cases current
  | some root =>
    have frame := ((Action.calm_target s).of_run current).frame root
    unfold World.providerOf?
    rw [hroot, rootOf?_target current hroot]
    exact congrArg Frame.provider frame

end SessionId

/-! ## The search -/

/-- What is asked of a target in a call that the provider does not serve under any of the names. -/
def Candidate.asked (naming : Naming) (args : List Value) (withBlock : Bool) (x : Target)
    (names : List String) : List Candidate :=
  (names.filter (· ≠ "")).flatMap (direct naming args withBlock x)

theorem Candidate.asked_cons {naming : Naming} {args : List Value} {withBlock : Bool} {x : Target}
    {name : String} (names : List String) (named : name ≠ "") :
    asked naming args withBlock x (name :: names) =
      direct naming args withBlock x name ++ asked naming args withBlock x names := by
  unfold asked
  rw [List.filter_cons_of_pos (by simpa using named), List.flatMap_cons]

theorem Candidate.exists_of_mem_asked {naming : Naming} {args : List Value} {withBlock : Bool}
    {x : Target} {names : List String} {c : Candidate}
    (h : c ∈ asked naming args withBlock x names) :
    ∃ name, c ∈ direct naming args withBlock x name := by
  obtain ⟨name, -, mem⟩ := List.mem_flatMap.mp h
  exact ⟨name, mem⟩

namespace SessionId

variable {R : Runner} {s : SessionId} {args : List Value} {t : TargetId}

/-- Without a name, a call fails at once. -/
theorem run_resolveOnce_nameless (again : String → Action World Value) (block : Option Task)
    {w w₁ : World} (current : s.target.run w = (.ok t, w₁)) :
    (s.resolveOnce R again "" args block).run w =
      (.error (.fault (.apply "" (w₁.target t).type.name)), w₁) := by
  unfold resolveOnce refuseNameless
  rw [if_pos (by decide), Action.run_bind, Action.run_attempt, current]
  rfl

/-- One round of a call that the provider does not serve. -/
theorem run_resolveOnce_unserved {name : String} {w w₁ : World} (again : String → Action World Value)
    (block : Option Task) (named : name ≠ "") (current : s.target.run w = (.ok t, w₁))
    (unserved : w₁.Unserved s args [name]) :
    (s.resolveOnce R again name args block).run w =
      match (direct (w₁.session s).config.naming args block.isSome (w₁.target t) name).find?
          (isOffered none (w₁.target t)) with
      | some c => (c.perform R s (w₁.providerOf? s) t block).run w₁
      | none =>
        match (w₁.session s).config.naming.translation? name with
        | some translated => (again translated).run (w₁.note [.retrying name translated])
        | none => (refuse (w₁.session s).config.naming t args block name).run w₁ := by
  rw [run_resolveOnce again args block named (receiver_of_target current name)]
  unfold Candidate.underName
  rw [List.find?_append, unserved.find_ofProvider (List.mem_singleton_self _) named, Option.none_or,
    Candidate.find_direct]
  rfl

/-- What is found among what is asked of a target does not depend on its metadata. -/
theorem Candidate.find_direct_remarked {naming : Naming} {withBlock : Bool} {x y : Target} {name : String}
    (same : ∃ metadata, y = { x with metadata }) :
    (direct naming args withBlock y name).find? (isOffered none y) =
      (direct naming args withBlock x name).find? (isOffered none x) := by
  obtain ⟨metadata, rfl⟩ := same
  rfl

/--
**A call that the provider does not serve is a search among what is asked of the target**, under one name
after the other. If nothing is found, the call fails for the empty name, if it comes to that, and is
refused under the last name otherwise. What is reported before depends on the convention, on what the target
exposes, and on whether there is a block. The induction is on the names.
-/
theorem run_applyWithin_unserved {naming : Naming} {name : String} {names : List String}
    (tries : naming.Tries name names) (withBlock : Bool) (x : Target) :
    ∃ events last, last ∈ names ∧ ∀ {fuel : Nat} {w w₁ : World}, names.length ≤ fuel →
      s.target.run w = (.ok t, w₁) → (w₁.session s).config.naming = naming →
      (∃ metadata, w₁.target t = { x with metadata }) → w₁.Unserved s args names →
      ∀ block : Option Task, block.isSome = withBlock →
        (s.applyWithin R args block fuel name).run w =
          match (Candidate.asked naming args withBlock x names).find? (isOffered none x) with
          | some c => (c.perform R s (w₁.providerOf? s) t block).run (w₁.note events)
          | none =>
            if "" ∈ names then (.error (.fault (.apply "" x.type.name)), w₁.note events)
            else (refuse naming t args block last).run (w₁.note events) := by
  induction tries with
  | nameless =>
    refine ⟨[], "", List.mem_singleton_self _, ?_⟩
    rintro (_ | fuel) w w₁ bound current rfl ⟨metadata, same⟩ unserved block -
    · cases bound
    · refine (run_resolveOnce_nameless _ block current).trans ?_
      rw [same]
      rfl
  | @last name named final =>
    refine ⟨[], name, List.mem_singleton_self _, ?_⟩
    rintro (_ | fuel) w w₁ bound current rfl same unserved block rfl
    · cases bound
    have nonempty : "" ∉ [name] := by simpa using Ne.symm named
    rw [applyWithin, run_resolveOnce_unserved _ block named current unserved, final,
      Candidate.find_direct_remarked same, Candidate.asked_cons [] named, if_neg nonempty]
    unfold Candidate.asked
    rw [List.filter_nil, List.flatMap_nil, List.append_nil]
    rfl
  | @next name native names named other tries ih =>
    obtain ⟨events, last, mem, later⟩ := ih
    have rest : "" ∈ name :: names ↔ "" ∈ names := by simp [Ne.symm named]
    have own : ∀ {w₁ : World}, w₁.Unserved s args (name :: names) → w₁.Unserved s args [name] :=
      fun unserved p hp n hn => unserved p hp n (by simp_all)
    rw [Candidate.asked_cons names named, List.find?_append]
    cases found : (direct naming args withBlock x name).find? (isOffered none x) with
    | some c =>
      refine ⟨[], name, List.mem_cons_self, ?_⟩
      rintro (_ | fuel) w w₁ bound current rfl same unserved block rfl
      · cases bound
      rw [applyWithin, run_resolveOnce_unserved _ block named current (own unserved),
        Candidate.find_direct_remarked same, found]
      rfl
    | none =>
      refine ⟨.retrying name native :: events, last, List.mem_cons_of_mem _ mem, ?_⟩
      rintro (_ | fuel) w w₁ bound current rfl same unserved block rfl
      · cases bound
      let told := w₁.note [.retrying name native]
      have still : s.target.run told = (.ok t, told) := target_settles current rfl rfl
      have again := later (Nat.le_of_succ_le_succ bound) still rfl same unserved.tail block rfl
      rw [applyWithin, run_resolveOnce_unserved _ block named current (own unserved),
        Candidate.find_direct_remarked same, found, other, Option.none_or]
      simp only [rest]
      exact again

end SessionId

/-! ## Calls without a block -/

/-- A call from `w` that ended in `x` reported events, and then came to one selector that was sent. -/
def World.SendsOnce (t : TargetId) (w : World) (x : Except Stop Value × World) : Prop :=
  ∃ events selector args, x = (World.send t selector args).run (w.note events)

/--
**A call without a block reaches the target, unless its name is translated away.** Take a session with a
current target, and a provider that offers none of the names that the call is tried by. If none of them
is empty, all that the call does is to send one selector to the target, and it ends as that ended. If the
translation leaves nothing of the name, this is so where the target exposes a spelling that comes before,
or takes an unexposed setter. Otherwise nothing is sent, and the call fails as one without a name does.
-/
theorem call_without_block_sends {R : Runner} {s : SessionId} {name : String} {names : List String}
    {args : List Value} {w w₁ : World} {t : TargetId} (current : s.target.run w = (.ok t, w₁))
    (tries : (w₁.session s).config.naming.Tries name names) (unserved : w₁.Unserved s args names)
    (bound : names.length ≤ R.fuel) :
    let naming := (w₁.session s).config.naming
    let answer := (s.apply R name args none).run w
    let found := (Candidate.asked naming args false (w₁.target t) names).find?
      (isOffered none (w₁.target t))
    ("" ∉ names ∨ found ≠ none → World.SendsOnce t w₁ answer) ∧
      ("" ∈ names → found = none → ∃ events,
        answer = (.error (.fault (.apply "" (w₁.target t).type.name)), w₁.note events)) := by
  obtain ⟨events, last, -, ends⟩ :=
    @SessionId.run_applyWithin_unserved R s args t _ _ _ tries false (w₁.target t)
  dsimp only
  unfold SessionId.apply
  rw [ends bound current rfl ⟨_, rfl⟩ unserved none rfl]
  cases hfound : (Candidate.asked (w₁.session s).config.naming args false (w₁.target t) names).find?
      (isOffered none (w₁.target t)) with
  | some c =>
    obtain ⟨native, mem⟩ := Candidate.exists_of_mem_asked (List.mem_of_find?_eq_some hfound)
    have plain : c ∈ direct (w₁.session s).config.naming args (none : Option Task).isSome (w₁.target t)
        native := mem
    exact ⟨fun _ => Candidate.perform_delivers plain _ t events w₁, fun _ missing => by cases missing⟩
  | none =>
    dsimp only
    by_cases lost : "" ∈ names
    · rw [if_pos lost]
      exact ⟨fun sends => absurd lost (sends.resolve_right (fun h => h rfl)), fun _ _ => ⟨events, rfl⟩⟩
    · rw [if_neg lost]
      exact ⟨fun _ => Candidate.refuse_delivers R s t events w₁, fun h => absurd h lost⟩

theorem call_without_block_sends_spacer :
    let s : SessionId := ⟨0⟩
    let w := rootedWorld Catalogue.spacer
    (w.session s).config.naming.Tries "corner_radius" ["corner_radius", "cornerRadius"] ∧
      World.SendsOnce ⟨0⟩ w ((s.apply (runner 2) "corner_radius" [.int 4] none).run w) := by
  intro s w
  have tries : (w.session s).config.naming.Tries "corner_radius" ["corner_radius", "cornerRadius"] := by
    have names : (if Naming.camelCased.isWordSeparated "corner_radius" then
        ["corner_radius", Naming.camelCased.translate "corner_radius"] else ["corner_radius"]) =
          ["corner_radius", "cornerRadius"] := by decide +kernel
    rw [← names]
    exact Naming.tries_of_once Naming.isWordSeparated_translate_camelCased (by decide)
  have current : s.target.run w = (.ok ⟨0⟩, w) := rfl
  exact ⟨tries, (call_without_block_sends current tries (.of_none rfl) (by decide)).1
    (Or.inl (by decide))⟩

/-- A target without a method table never says that a call could not be applied. -/
theorem World.SendsOnce.ne_apply {t : TargetId} {w : World} {x : Except Stop Value × World}
    (h : World.SendsOnce t w x) {answers : OrderedMap String Value}
    (constant : (w.target t).interface = .constants answers) (name type : String) :
    x.1 ≠ .error (.fault (.apply name type)) := by
  obtain ⟨events, selector, args, rfl⟩ := h
  obtain ⟨w', -, -, sent⟩ := Action.run_send t selector args (w.note events)
  rw [sent, World.target_note]
  unfold Target.send
  rw [constant]
  dsimp only
  cases answers.get? selector with
  | none => simp [Reply.result]
  | some v => simp [Reply.result]

/--
A name that is not empty, and that nothing is sent for: of a name of separators only, the translation
leaves nothing.
-/
theorem call_without_block_lost :
    let s : SessionId := ⟨0⟩
    let w := rootedWorld Catalogue.spacer
    let answer := (s.apply (runner 2) "_" [] none).run w
    s.target.run w = (.ok ⟨0⟩, w) ∧ "_" ≠ "" ∧ w.providerOf? s = none ∧
      answer.1 = .error (.fault (.apply "" "Spacer")) ∧ ¬ World.SendsOnce ⟨0⟩ w answer := by
  intro s w answer
  have ended : answer.1 = .error (.fault (.apply "" "Spacer")) := rfl
  exact ⟨rfl, by decide, rfl, ended, fun sends => sends.ne_apply rfl _ _ ended⟩

end TargetBuilder
