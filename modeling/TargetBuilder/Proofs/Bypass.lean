import TargetBuilder.Proofs.FlatSearch
import TargetBuilder.Proofs.InFlight

/-!
# Past the provider

A guarded call of a name that is in flight on the target goes past the provider: it is resolved by what
the target exposes. That keeps an operation of a provider that hands its own name back from being found
again. It does so under that name only. A word-separated name that the target does not expose is
translated, and under the translated name the call is resolved from the start, by the provider first.

* `guarded_call_bypasses`: what a guarded call comes to whose name is in flight.
* `guarded_call_finds_provider`: a provider that is found again under the translated name.
-/

namespace TargetBuilder

open World (Calm Moment)
open Script (runner)
open Candidate (isOffered ofTarget unexposedSetter direct refuse)

/-- The world after events were reported. -/
def World.note (w : World) (events : List Event) : World :=
  events.foldl (fun w e => w.write (.event e)) w

theorem World.sameButLog_note (w : World) (events : List Event) : w.SameButLog (w.note events) := by
  induction events generalizing w with
  | nil => exact .refl w
  | cons e rest ih => exact (SameButLog.write w (.event e)).trans (ih _)

theorem World.target_note (w : World) (events : List Event) (t : TargetId) :
    (w.note events).target t = w.target t := by
  obtain ⟨log, noted⟩ := w.sameButLog_note events
  rw [noted]
  rfl

theorem World.note_concat (w : World) (events : List Event) (e : Event) :
    w.note (events ++ [e]) = (w.note events).write (.event e) := by
  unfold note
  rw [List.foldl_append]
  rfl

namespace SessionId

/-- Sends a selector to a target, and in a call with a block enters what the target answers. -/
def deliver (R : Runner) (s : SessionId) (t : TargetId) (block : Option Task) (selector : String)
    (args : List Value) : Action World Value :=
  match block with
  | none => World.send t selector args
  | some task => do
    let answer ← World.send t selector args
    s.enterAnswer R selector answer task

/--
A call from `w` that ends in `x` went straight to the target: all that happened before a selector was
sent, or before the call failed, is that events were reported.
-/
def GoesStraight (R : Runner) (s : SessionId) (t : TargetId) (block : Option Task) (w : World)
    (x : Except Stop Value × World) : Prop :=
  (∃ events selector args, x = (s.deliver R t block selector args).run (w.note events)) ∨
    ∃ events f, x = (.error (.fault f), w.note events)

end SessionId

namespace Candidate

variable {naming : Naming} {args : List Value} {t : Target} {name : String}

/-- What is found among what is asked of the target does not depend on the provider. -/
theorem find_direct (withBlock : Bool) (provider : Option Provider) :
    (direct naming args withBlock t name).find? (isOffered provider t) =
      (direct naming args withBlock t name).find? (isOffered none t) := by
  unfold direct
  rw [List.find?_append, List.find?_append, find_ofTarget, find_ofTarget]
  unfold unexposedSetter
  cases !withBlock && t.appliesDeferred <;> rfl

/-- Without a block, what is asked of the target is carried out by an event and a selector that is sent. -/
theorem perform_sends {c : Candidate} (h : c ∈ direct naming args false t name) :
    ∃ e selector args', ∀ (R : Runner) (s : SessionId) (p : Option ProviderId) (u : TargetId),
      c.perform R s p u none = World.report e >>= fun _ => World.send u selector args' := by
  rcases List.mem_append.mp h with h | h
  · rw [ofTarget_eq] at h
    obtain ⟨spelling, -, rfl⟩ := List.mem_map.mp h
    exact ⟨.resolved spelling.convention spelling.selector, _, _, fun _ _ _ _ => rfl⟩
  · unfold unexposedSetter at h
    split at h
    · rw [List.mem_singleton.mp h]
      exact ⟨.resolved .unexposedSetter (naming.setter name), _, _, fun _ _ _ _ => rfl⟩
    · cases h

/-- Carrying out what is asked of the target is sending a selector to it. -/
theorem perform_delivers {R : Runner} {s : SessionId} {block : Option Task} {c : Candidate}
    (h : c ∈ direct naming args block.isSome t name) (p : Option ProviderId) (u : TargetId)
    (events : List Event) (w : World) :
    ∃ events' selector args', (c.perform R s p u block).run (w.note events) =
      (s.deliver R u block selector args').run (w.note events') := by
  cases block with
  | none =>
    obtain ⟨e, selector, args', sends⟩ := perform_sends h
    refine ⟨events ++ [e], selector, args', ?_⟩
    rw [sends, World.note_concat]
    rfl
  | some task =>
    -- with a block no setter is taken that is not exposed
    have exposed : c ∈ ofTarget naming args true name :=
      (List.mem_append.mp h).resolve_right List.not_mem_nil
    rw [ofTarget_eq] at exposed
    obtain ⟨spelling, -, rfl⟩ := List.mem_map.mp exposed
    exact ⟨events, spelling.selector, spelling.args, rfl⟩

theorem perform_goesStraight {R : Runner} {s : SessionId} {block : Option Task} {c : Candidate}
    (h : c ∈ direct naming args block.isSome t name) (p : Option ProviderId) (u : TargetId)
    (events : List Event) (w : World) :
    s.GoesStraight R u block w ((c.perform R s p u block).run (w.note events)) :=
  Or.inl (perform_delivers h p u events w)

/-- Refusing a call without a block is sending a setter. -/
theorem refuse_delivers (R : Runner) (s : SessionId) (u : TargetId) (events : List Event) (w : World) :
    ∃ events' selector args', (refuse naming u args none name).run (w.note events) =
      (s.deliver R u none selector args').run (w.note events') := by
  refine ⟨events ++ [.unmatched (naming.setter name) u], naming.setter name, args, ?_⟩
  rw [World.note_concat]
  rfl

/-- Refusing goes straight as well, and with a block it is failing at once. -/
theorem refuse_goesStraight (R : Runner) (s : SessionId) (block : Option Task) (u : TargetId)
    (events : List Event) (w : World) :
    s.GoesStraight R u block w ((refuse naming u args block name).run (w.note events)) := by
  cases block with
  | some task => exact Or.inr ⟨events, _, rfl⟩
  | none => exact Or.inl (refuse_delivers R s u events w)

end Candidate

/-- A guarded call of a name in flight is resolved by what the target exposes, then under another name. -/
theorem SessionId.run_guardedApply_past {R : Runner} {s : SessionId} {name : String}
    {args : List Value} {block : Option Task} {w w' : World} {t : TargetId}
    (established : (s.receiver name).run w = (.ok t, w')) (flying : w'.isInFlight t name = true) :
    (s.guardedApply R name args block).run w =
      match (direct (w'.session s).config.naming args block.isSome (w'.target t) name).find?
          (isOffered none (w'.target t)) with
      | some c =>
        (c.perform R s (w'.providerOf? s) t block).run
          (w'.note [.alreadyInFlight name, .bypassing name])
      | none =>
        match (w'.session s).config.naming.translation? name with
        | some translated =>
          (s.apply R translated args block).run
            (w'.note [.alreadyInFlight name, .bypassing name, .retrying name translated])
        | none =>
          (refuse (w'.session s).config.naming t args block name).run
            (w'.note [.alreadyInFlight name, .bypassing name]) := by
  rw [run_guardedApply_again established flying, run_resolveDirect]
  simp only [World.session_write, World.target_write]
  rw [Candidate.find_direct]
  rfl

/--
**What a guarded call of a name in flight comes to.** If the target exposes a spelling of the name, or
takes a setter that it does not expose, or if the name has no translation, the call goes straight to the
target: nothing but events come before a selector is sent to it or the call fails. Otherwise the call
is resolved under the translated name, from the start and by the provider first, as if it were not
guarded.
-/
theorem guarded_call_bypasses {R : Runner} {s : SessionId} {name : String} {args : List Value}
    {block : Option Task} {w w' : World} {t : TargetId}
    (established : (s.receiver name).run w = (.ok t, w')) (flying : w'.isInFlight t name = true) :
    let naming := (w'.session s).config.naming
    let exposed := (direct naming args block.isSome (w'.target t) name).find?
      (isOffered none (w'.target t))
    let answer := (s.guardedApply R name args block).run w
    (exposed ≠ none ∨ naming.translation? name = none → s.GoesStraight R t block w' answer) ∧
      ∀ translated, exposed = none → naming.translation? name = some translated →
        answer = (s.apply R translated args block).run
          (w'.note [.alreadyInFlight name, .bypassing name, .retrying name translated]) := by
  dsimp only
  rw [SessionId.run_guardedApply_past established flying]
  refine ⟨fun straight => ?_, fun translated nothing other => by rw [nothing, other]⟩
  split
  · next c hc => exact Candidate.perform_goesStraight (List.mem_of_find?_eq_some hc) _ t _ w'
  · next nothing =>
    rcases straight with found | untranslated
    · exact absurd nothing found
    · rw [untranslated]
      exact Candidate.refuse_goesStraight R s block t _ w'

/-- A provider that hands two of its names back, and offers the translation of one of them as well. -/
def handingBack : ProviderFactory where
  type := "Spacer"
  operations := .ofList
    [ ("gap", [.mk (.guarded "gap" .received .received) none false])
    , ("corner_radius", [.mk (.guarded "corner_radius" .received .received) none false])
    , ("cornerRadius", [.mk (.log "found again") none false]) ]
  setup := []

/-- Makes the sample session, with a registry that has a factory of a provider. -/
def openServed (factory : ProviderFactory) : Action World Unit := do
  let _ ← Action.adding World.addRegistry
  let s ← openWithSpacer
  Script.register s factory none

/-- The world in a block of the spacer, which the provider serves. -/
def inHandingBack : World := spacerBlock ((openServed handingBack).run (.empty .empty)).2

theorem moment_inHandingBack : Moment (spacerActivities (some ⟨0⟩)) inHandingBack := by
  have opened : Moment [] ((openServed handingBack).run (.empty .empty)).2 := by
    have spacer : Orderly (runner 0) openWithSpacer :=
      .bind (.calm (Action.calm_make _ _)) fun _ => .calm (Action.calm_openRoot _)
    exact .ran (.start _) (.code (.bind (.adding Calm.addRegistry) fun _ => .bind spacer fun s =>
      .calm (Script.calm_register s handingBack none)))
  have held := opened.holding ⟨0⟩
  have provided : ((⟨0⟩ : SessionId).provide (runner 1) ⟨0⟩).run
      { ((openServed handingBack).run (.empty .empty)).2 with running := [⟨0⟩] } =
        (.ok (some ⟨0⟩), _) :=
    Action.run_eq_of_toOption (by decide +kernel)
  exact .block (.context held List.mem_cons_self (by decide) provided) rfl rfl

/-- The world inside a guarded call of a name on the spacer. -/
def inHandedBack (name : String) : World :=
  inHandingBack.updateMetadata ⟨0⟩ fun m => ⟨m.slots, [name]⟩

theorem moment_inHandedBack (name : String) :
    Moment (.guarded ⟨0⟩ ⟨0⟩ name :: spacerActivities (some ⟨0⟩)) (inHandedBack name) := by
  have received : (SessionId.receiver ⟨0⟩ name).run inHandingBack = (.ok ⟨0⟩, inHandingBack) := rfl
  exact .guarded moment_inHandingBack received (by decide) rfl

/-- Where the provider hands a name back that is not word-separated, it is not found again. -/
theorem guarded_call_bypasses_gap :
    let child : SessionId := ⟨1⟩
    let w := inHandedBack "gap"
    let answer := (child.guardedApply (runner 2) "gap" [] none).run w
    Moment (.guarded ⟨0⟩ ⟨0⟩ "gap" :: spacerActivities (some ⟨0⟩)) w ∧
      (child.receiver "gap").run w = (.ok ⟨0⟩, w) ∧ w.isInFlight ⟨0⟩ "gap" = true ∧
        w.providerOf? child = some ⟨0⟩ ∧ (w.provider ⟨0⟩).offers "gap" = true ∧
          child.GoesStraight (runner 2) ⟨0⟩ none w answer := by
  intro child w answer
  have received : (child.receiver "gap").run w = (.ok ⟨0⟩, w) := rfl
  have flying : w.isInFlight ⟨0⟩ "gap" = true := by decide
  exact ⟨moment_inHandedBack "gap", received, flying, by decide, by decide,
    (guarded_call_bypasses received flying).1 (Or.inr (by decide))⟩

/-! ## A provider that is found again -/

/-- The name of the operation of a provider that a line of the log says is run. -/
def Entry.operation? : Entry → Option String
  | .operationRunning name _ _ => some name
  | _ => none

namespace World

/-- The names of the operations of providers that were run, in order. -/
def operationsRun (w : World) : List String := w.log.toList.filterMap Entry.operation?

theorem operationsRun_write (w : World) {e : Entry} (he : e.operation? = none) :
    (w.write e).operationsRun = w.operationsRun := by
  unfold operationsRun
  rw [filterMap_log_write, he]
  exact List.append_nil _

theorem operationsRun_note (w : World) (events : List Event) :
    (w.note events).operationsRun = w.operationsRun := by
  induction events generalizing w with
  | nil => rfl
  | cons e rest ih => exact (ih _).trans (operationsRun_write w rfl)

/-- No operation of a provider is run by sending a selector. -/
theorem operationsRun_send (t : TargetId) (selector : String) (args : List Value) :
    (send t selector args).Keeps fun a b => b.operationsRun = a.operationsRun := by
  have hG : Guarantee (fun a b : World => b.operationsRun = a.operationsRun) Eq :=
    ⟨fun _ => rfl, fun h k => k.trans h, fun h => h ▸ rfl⟩
  have sent : (emit (.sent t selector args)).Keeps fun a b => b.operationsRun = a.operationsRun :=
    fun w => operationsRun_write w rfl
  have invoking : ∀ type, (report (.invoking type selector args.length)).Keeps
      fun a b => b.operationsRun = a.operationsRun := fun _ w => operationsRun_write w rfl
  unfold send
  refine .bind hG (.read hG) fun w => .sometimes hG sent (.sometimes hG (invoking _) ?_)
  refine .bind hG (.read hG) fun w' => .bind hG (.modify fun w => rfl) fun _ => ?_
  split
  · exact .pure hG _
  · exact .fail hG _
  · exact .stop hG _

end World

/-- A call without a block that goes straight to the target runs no operation of a provider. -/
theorem SessionId.GoesStraight.operationsRun_eq {R : Runner} {s : SessionId} {t : TargetId}
    {w : World} {x : Except Stop Value × World} (h : s.GoesStraight R t none w x) :
    x.2.operationsRun = w.operationsRun := by
  rcases h with ⟨events, selector, args, rfl⟩ | ⟨events, f, rfl⟩
  · exact (World.operationsRun_send t selector args _).trans (w.operationsRun_note events)
  · exact w.operationsRun_note events

/--
Going past the provider does not keep it from being found again. The name is in flight on the current
target, and a guarded call of it on the session of the provider does not go straight to the target: the
first thing that is carried out is an operation of the provider, the one under the translated name. So a
guarded call in the block runs the operation that hands the name back, and then this one.
-/
theorem guarded_call_finds_provider :
    let child : SessionId := ⟨1⟩
    let w := inHandedBack "corner_radius"
    let answer := (child.guardedApply (runner 3) "corner_radius" [] none).run w
    Moment (.guarded ⟨0⟩ ⟨0⟩ "corner_radius" :: spacerActivities (some ⟨0⟩)) w ∧
      (child.receiver "corner_radius").run w = (.ok ⟨0⟩, w) ∧
        w.isInFlight ⟨0⟩ "corner_radius" = true ∧
          w.providerOf? child = some ⟨0⟩ ∧
            ¬ child.GoesStraight (runner 3) ⟨0⟩ none w answer ∧
              ((SessionId.guardedApply (runner 5) ⟨0⟩ "corner_radius" [] none).run
                inHandingBack).2.operationsRun = ["corner_radius", "cornerRadius"] := by
  refine ⟨moment_inHandedBack _, rfl, by decide, by decide, fun straight => ?_, by decide +kernel⟩
  have before : (inHandedBack "corner_radius").operationsRun = [] := by decide +kernel
  have after : ((SessionId.guardedApply (runner 3) ⟨1⟩ "corner_radius" [] none).run
      (inHandedBack "corner_radius")).2.operationsRun = ["cornerRadius"] := by decide +kernel
  rw [straight.operationsRun_eq, before] at after
  cases after

end TargetBuilder
