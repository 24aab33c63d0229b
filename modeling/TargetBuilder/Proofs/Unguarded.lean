import TargetBuilder.Proofs.Unserved

/-!
# The guarded route without a provider

A guarded call keeps an operation of a provider that hands its own name back from being found again. Without
a provider there is nothing that it could keep from anything: whether its name is in flight or not, a
guarded call without a block comes to what the call comes to that is not guarded, and but for the events
that are reported on the way, nobody can tell which of them was made.

* `World.AnsweredAlike`: two calls have come to the same.
* `guarded_route_invisible`: a call comes to the same on either route.
-/

namespace TargetBuilder

open Script (runner)
open World (Calm)
open Candidate (direct isOffered refuse)

/-! ## Outcomes -/

/-- What a call without a block comes to in the end: a selector is sent to the target, or it fails. -/
inductive Outcome where
  | sent (selector : String) (args : List Value)
  | failed (f : Fault)

namespace Outcome

/-- What is done then. -/
def action (t : TargetId) : Outcome → Action World Value
  | sent selector args => World.send t selector args
  | failed f => .fail f

end Outcome

namespace World

theorem SameButLog.symm {a b : World} (h : a.SameButLog b) : b.SameButLog a := by
  obtain ⟨log, rfl⟩ := h
  exact ⟨a.log, rfl⟩

theorem writeAll_updateTarget (w : World) (t : TargetId) (f : Target → Target) (lines : List Entry) :
    (w.updateTarget t f).writeAll lines = (w.writeAll lines).updateTarget t f := by
  induction lines generalizing w with
  | nil => rfl
  | cons e rest ih => exact ih (w.write e)

theorem note_eq_writeAll (w : World) (events : List Event) : w.note events = w.writeAll (events.map .event) :=
  (List.foldl_map).symm

theorem note_updateTarget (w : World) (t : TargetId) (f : Target → Target) (events : List Event) :
    (w.updateTarget t f).note events = (w.note events).updateTarget t f := by
  rw [note_eq_writeAll, note_eq_writeAll, writeAll_updateTarget]

/-- On a target that is not there nothing is marked, and no mark is taken off. -/
theorem land_of_size_le {w : World} {t : TargetId} (h : w.targets.size ≤ t.index) (name : String) :
    w.land t name = w := updateTarget_of_size_le w _ h

/-- Taking off a mark that was just made leaves what was there before. -/
theorem land_updateMetadata {w : World} {t : TargetId} {name : String} {m : Metadata}
    (h : (w.target t).metadata.launch? name = some m) :
    (w.updateMetadata t fun _ => m).land t name = w := by
  unfold land updateMetadata
  rw [updateTarget_updateTarget, updateTarget_congr (g := fun _ => w.target t), updateTarget_self]
  show ({ w.target t with metadata := m.land name } : Target) = w.target t
  rw [Metadata.land_of_launch? h]

/-- What is written is shown, unless it traces the work of the engine. -/
theorem shownLog_writeAll (w : World) (lines : List Entry) :
    Script.shownLog false (w.writeAll lines) =
      Script.shownLog false w ++ lines.filter fun e => !e.isTrace := by
  induction lines generalizing w with
  | nil => exact (List.append_nil _).symm
  | cons e rest ih =>
    have first : Script.shownLog false (w.write e) =
        Script.shownLog false w ++ [e].filter fun e => !e.isTrace := by
      unfold Script.shownLog World.write
      simp only [Array.toList_push, List.filter_append, Bool.false_or]
    refine (ih (w.write e)).trans ?_
    rw [first, List.append_assoc, ← List.filter_append]
    rfl

theorem shownLog_note (w : World) (events : List Event) :
    Script.shownLog false (w.note events) = Script.shownLog false w := by
  rw [note_eq_writeAll, shownLog_writeAll]
  simp [Entry.isTrace]

end World

/-- What is sent to a target is answered in the same way whatever is stored in its metadata. -/
theorem Target.send_remarked (x : Target) (metadata : Metadata) (named : String → Option TargetId)
    (selector : String) (args : List Value) :
    ({ x with metadata } : Target).send named selector args =
      ((x.send named selector args).1, { (x.send named selector args).2 with metadata }) := by
  obtain ⟨name, type, origin, appliesDeferred, interface, fields, old⟩ := x
  unfold Target.send
  dsimp only
  cases interface with
  | everything => rfl
  | constants answers =>
    dsimp only
    cases answers.get? selector <;> rfl
  | table methods =>
    dsimp only
    cases methods.resolve type.name selector args.length <;> rfl

namespace Outcome

variable (o : Outcome) {t : TargetId} {w a b : World}

theorem keeps_calm : (o.action t).Keeps Calm := by
  cases o with
  | sent selector args => exact Action.calm_send t selector args
  | failed f => exact .fail Calm.guarantee f

/-- What the log holds makes no difference to how a call ends, nor to what it leaves. -/
theorem run_sameButLog (h : a.SameButLog b) :
    ((o.action t).run b).1 = ((o.action t).run a).1 ∧
      ((o.action t).run a).2.SameButLog ((o.action t).run b).2 := by
  cases o with
  | failed f => exact ⟨rfl, h⟩
  | sent selector args =>
    obtain ⟨log, rfl⟩ := h
    unfold action
    rw [Action.run_send_lines, Action.run_send_lines]
    refine ⟨rfl, ?_⟩
    obtain ⟨log₁, h₁⟩ := a.sameButLog_writeAll ((a.target t).lines t selector args)
    obtain ⟨log₂, h₂⟩ := World.sameButLog_writeAll { a with log }
      ((World.target { a with log } t).lines t selector args)
    rw [h₁, h₂]
    exact ⟨log₂, rfl⟩

/-- Nor does it to what is shown. -/
theorem shownLog_run (h : a.SameButLog b) (shown : Script.shownLog false b = Script.shownLog false a) :
    Script.shownLog false ((o.action t).run b).2 = Script.shownLog false ((o.action t).run a).2 := by
  cases o with
  | failed f => exact shown
  | sent selector args =>
    have target : b.target t = a.target t := by
      obtain ⟨log, rfl⟩ := h
      rfl
    unfold action
    rw [Action.run_send_lines, Action.run_send_lines]
    show Script.shownLog false (b.writeAll _) = Script.shownLog false (a.writeAll _)
    rw [World.shownLog_writeAll, World.shownLog_writeAll, shown, target]

/-- **A mark makes no difference**, once it is taken off again. -/
theorem run_marked {name : String} {m : Metadata} (h : (w.target t).metadata.launch? name = some m) :
    ((o.action t).run (w.updateMetadata t fun _ => m)).1 = ((o.action t).run w).1 ∧
      ((o.action t).run (w.updateMetadata t fun _ => m)).2.land t name = ((o.action t).run w).2 := by
  have landed := Metadata.land_of_launch? h
  cases o with
  | failed f => exact ⟨rfl, World.land_updateMetadata h⟩
  | sent selector args =>
    let x := w.target t
    let after := (x.send w.named selector args).2
    have kept : after.metadata = x.metadata := (Action.send_keeps x w.named selector args).2
    unfold action
    rw [Action.run_send_lines, Action.run_send_lines]
    rcases Nat.lt_or_ge t.index w.targets.size with there | gone
    · have marked : (w.updateMetadata t fun _ => m).target t = { x with metadata := m } := by
        unfold World.updateMetadata
        rw [World.target_updateTarget, if_pos ⟨rfl, there⟩]
      have named : (w.updateMetadata t fun _ => m).named = w.named := rfl
      rw [marked, named, Target.send_remarked]
      refine ⟨rfl, ?_⟩
      have unmarked : ({ after with metadata := m.land name } : Target) = after := by
        rw [landed]
        show ({ after with metadata := x.metadata } : Target) = after
        rw [← kept]
      show (((w.updateTarget t _).writeAll (x.lines t selector args)).updateTarget t
        fun _ => { after with metadata := m }).updateTarget t _ =
          (w.writeAll (x.lines t selector args)).updateTarget t fun _ => after
      rw [World.writeAll_updateTarget, World.updateTarget_updateTarget, World.updateTarget_updateTarget]
      refine congrArg _ (funext fun _ => unmarked)
    · unfold World.updateMetadata
      rw [w.updateTarget_of_size_le _ gone]
      refine ⟨rfl, World.land_of_size_le ?_ name⟩
      obtain ⟨log, written⟩ := w.sameButLog_writeAll ((w.target t).lines t selector args)
      rw [written]
      exact Nat.le_trans (Nat.le_of_eq (w.targets.size_update _ _)) gone

end Outcome

/-! ## Both routes -/

namespace SessionId

variable {R : Runner} {s : SessionId} {args : List Value} {t : TargetId}

/--
**A call without a block that the provider does not serve has one outcome.** It depends on the convention and
on what the target exposes, and so do the events that are reported before.
-/
theorem exists_outcome {naming : Naming} {name : String} {names : List String}
    (tries : naming.Tries name names) (x : Target) :
    ∃ (outcome : Outcome) (before : List Event), ∀ {fuel : Nat} {w w₁ : World}, names.length ≤ fuel →
      s.target.run w = (.ok t, w₁) → (w₁.session s).config.naming = naming →
      (∃ metadata, w₁.target t = { x with metadata }) → w₁.Unserved s args names →
        (s.applyWithin R args none fuel name).run w = (outcome.action t).run (w₁.note before) := by
  obtain ⟨events, last, -, ends⟩ := @run_applyWithin_unserved R s args t _ _ _ tries false x
  cases found : (Candidate.asked naming args false x names).find? (isOffered none x) with
  | some c =>
    obtain ⟨native, mem⟩ := Candidate.exists_of_mem_asked (List.mem_of_find?_eq_some found)
    obtain ⟨e, selector, args', sends⟩ := Candidate.perform_sends mem
    refine ⟨.sent selector args', events ++ [e], fun bound current same exposed unserved => ?_⟩
    rw [ends bound current same exposed unserved none rfl, found, World.note_concat]
    dsimp only
    rw [sends]
    rfl
  | none =>
    by_cases lost : "" ∈ names
    · refine ⟨.failed (.apply "" x.type.name), events, fun bound current same exposed unserved => ?_⟩
      rw [ends bound current same exposed unserved none rfl, found]
      exact if_pos lost
    · refine ⟨.sent (naming.setter last) args, events ++ [.unmatched (naming.setter last) t],
        fun bound current same exposed unserved => ?_⟩
      rw [ends bound current same exposed unserved none rfl, found, World.note_concat]
      exact if_neg lost

variable {name : String} {names : List String} {w w₁ : World}

/-- A guarded call of a name that is not in flight is the call itself. -/
theorem run_guardedApply_free {m : Metadata} (current : s.target.run w = (.ok t, w₁))
    (tries : (w₁.session s).config.naming.Tries name names) (unbound : w₁.providerOf? s = none)
    (bound : names.length ≤ R.fuel) (free : (w₁.target t).metadata.launch? name = some m) :
    (s.guardedApply R name args none).run w = (s.apply R name args none).run w := by
  let marked := w₁.updateMetadata t fun _ => m
  obtain ⟨outcome, before, ends⟩ := @exists_outcome R s args t _ _ _ tries (w₁.target t)
  have exposed : ∃ metadata, marked.target t = { w₁.target t with metadata } := by
    show ∃ metadata, (w₁.updateTarget t _).target t = _
    rw [World.target_updateTarget]
    split
    · exact ⟨m, rfl⟩
    · exact ⟨_, rfl⟩
  have plain : (s.apply R name args none).run w = _ :=
    ends bound current rfl ⟨_, rfl⟩ (.of_none unbound)
  have inside : (s.apply R name args none).run marked = _ :=
    ends bound (target_settles current rfl rfl) rfl exposed (.of_none unbound)
  have noted : marked.note before = (w₁.note before).updateMetadata t fun _ => m :=
    World.note_updateTarget w₁ t _ before
  have free' : ((w₁.note before).target t).metadata.launch? name = some m := by
    rw [World.target_note]
    exact free
  obtain ⟨result, landed⟩ := outcome.run_marked free'
  rw [run_guardedApply_fresh (receiver_of_target current name) free, inside, plain, noted]
  exact Prod.ext result landed

/-- A call begins with one round under its name, as long as there is fuel. -/
theorem exists_round (s : SessionId) (bound : 0 < R.fuel) (name : String) :
    ∃ fuel, R.fuel = fuel + 1 ∧
      s.apply R name args none = s.resolveOnce R (s.applyWithin R args none fuel) name args none := by
  unfold apply
  cases hfuel : R.fuel with
  | zero => exact absurd hfuel (Nat.ne_of_gt bound)
  | succ fuel => exact ⟨fuel, rfl, rfl⟩

/-- A guarded call of a name that is in flight has the outcome of the call. -/
theorem guardedApply_flying (named : name ≠ "") (current : s.target.run w = (.ok t, w₁))
    (tries : (w₁.session s).config.naming.Tries name names) (unbound : w₁.providerOf? s = none)
    (bound : names.length ≤ R.fuel) (flying : w₁.isInFlight t name = true) :
    ∃ (outcome : Outcome) (before : List Event),
      (s.apply R name args none).run w = (outcome.action t).run (w₁.note before) ∧
        (s.guardedApply R name args none).run w =
          (outcome.action t).run (w₁.note ([.alreadyInFlight name, .bypassing name] ++ before)) := by
  let told : List Event := [.alreadyInFlight name, .bypassing name]
  obtain ⟨fuel, enough, round⟩ := @exists_round R args s (Nat.le_trans tries.length_pos bound) name
  have plain : (s.apply R name args none).run w = _ :=
    (congrArg (·.run w) round).trans (run_resolveOnce_unserved _ none named current (.of_none unbound))
  have past : (s.guardedApply R name args none).run w = _ :=
    run_guardedApply_past (receiver_of_target current name) flying
  cases found : (direct (w₁.session s).config.naming args (none : Option Task).isSome (w₁.target t)
      name).find? (isOffered none (w₁.target t)) with
  | some c =>
    obtain ⟨e, selector, args', sends⟩ := Candidate.perform_sends (List.mem_of_find?_eq_some found)
    refine ⟨.sent selector args', [e], ?_, ?_⟩
    · rw [plain, found]
      dsimp only
      rw [sends]
      rfl
    · rw [past, found]
      dsimp only
      rw [sends]
      rfl
  | none =>
    rw [found] at plain past
    cases tries with
    | nameless => exact absurd rfl named
    | last _ final =>
      rw [final] at plain past
      let setter := (w₁.session s).config.naming.setter name
      exact ⟨.sent setter args, [.unmatched setter t], plain, past⟩
    | @next _ native names _ other tries =>
      rw [other] at plain past
      obtain ⟨outcome, before, ends⟩ := @exists_outcome R s args t _ _ _ tries (w₁.target t)
      refine ⟨outcome, .retrying name native :: before, ?_, ?_⟩
      · rw [plain]
        have left : names.length ≤ fuel :=
          Nat.le_of_succ_le_succ (Nat.le_trans bound (Nat.le_of_eq enough))
        exact ends left (target_settles current rfl rfl) rfl ⟨_, rfl⟩ (.of_none unbound)
      · rw [past]
        exact ends (Nat.le_of_succ_le bound) (target_settles current rfl rfl) rfl ⟨_, rfl⟩
          (.of_none unbound)

/-! ## No target -/

/-- Without a current target, a call has no receiver. -/
theorem receiver_of_no_target {e : Stop} (absent : s.target.run w = (.error e, w₁)) (name : String) :
    (s.receiver name).run w = (.error (.fault (.undefinedMethod name)), w₁) ∧ e = .fault .noContext := by
  unfold SessionId.target SessionId.root at absent
  unfold SessionId.receiver
  rw [Action.run_bind, Action.run_bind, Action.run_read] at absent
  rw [Action.run_bind, Action.run_read]
  dsimp only at absent ⊢
  cases hroot : w.rootOf? s with
  | none =>
    rw [hroot] at absent
    cases absent
    exact ⟨rfl, rfl⟩
  | some root =>
    obtain ⟨enclosed, w', asked⟩ := root.enclosing_ok w
    rw [hroot] at absent
    dsimp only [Action.run_pure] at absent ⊢
    rw [Action.run_bind, asked] at absent ⊢
    cases enclosed with
    | some u => cases absent
    | none =>
      cases absent
      exact ⟨rfl, rfl⟩

/-- So it fails on either route, and with a name it fails for that. -/
theorem run_apply_no_target {e : Stop} (absent : s.target.run w = (.error e, w₁)) (bound : 0 < R.fuel) :
    (∃ f, (s.apply R name args none).run w = (.error (.fault f), w₁)) ∧
      (name ≠ "" → (s.guardedApply R name args none).run w = (s.apply R name args none).run w) := by
  obtain ⟨missing, rfl⟩ := receiver_of_no_target absent name
  obtain ⟨fuel, -, round⟩ := @exists_round R args s bound name
  rw [round]
  unfold resolveOnce
  by_cases named : name = ""
  · refine ⟨⟨.apply name "session", ?_⟩, fun other => absurd named other⟩
    rw [if_pos (by simpa using named)]
    unfold refuseNameless
    rw [Action.run_bind, Action.run_attempt, absent]
    rfl
  · rw [if_neg (by simpa using named)]
    unfold guardedApply
    rw [Action.run_bind, Action.run_bind, missing]
    exact ⟨⟨_, rfl⟩, fun _ => rfl⟩

end SessionId

/-! ## Calls that come to the same -/

/--
Two calls from a world have come to the same: they ended alike, and both came to one outcome, after events
that may differ. What they left is the same but for these events, which are not shown, and the names in flight
on every target, with all else that is stored there, are those from before.
-/
structure World.AnsweredAlike (w : World) (x y : Except Stop Value × World) : Prop where
  result : y.1 = x.1
  outcome : ∃ (t : TargetId) (outcome : Outcome) (m : World) (before before' : List Event),
    x = (outcome.action t).run (m.note before) ∧ y = (outcome.action t).run (m.note before')
  state : x.2.SameButLog y.2
  shown : Script.shownLog false y.2 = Script.shownLog false x.2
  metadata : ∀ u, (x.2.target u).metadata = (w.target u).metadata ∧
    (y.2.target u).metadata = (w.target u).metadata

namespace World.AnsweredAlike

variable {w m : World} {t : TargetId}

theorem of_outcome (calm : Calm w m) (outcome : Outcome) (before before' : List Event) :
    w.AnsweredAlike ((outcome.action t).run (m.note before)) ((outcome.action t).run (m.note before')) := by
  have same : (m.note before).SameButLog (m.note before') :=
    (m.sameButLog_note before).symm.trans (m.sameButLog_note before')
  have shown : Script.shownLog false (m.note before') = Script.shownLog false (m.note before) := by
    rw [shownLog_note, shownLog_note]
  obtain ⟨result, state⟩ := outcome.run_sameButLog (t := t) same
  have kept : ∀ events u, (((outcome.action t).run (m.note events)).2.target u).metadata =
      (w.target u).metadata := by
    intro events u
    rw [(outcome.keeps_calm (m.note events)).metadata u, World.target_note, calm.metadata u]
  exact ⟨result, ⟨t, outcome, m, before, before', rfl, rfl⟩, state, outcome.shownLog_run same shown,
    fun u => ⟨kept before u, kept before' u⟩⟩

end World.AnsweredAlike

/--
**The guarded route is invisible without a provider.** Take a session that no provider is bound to, whatever
names are in flight, and a name with arguments. Calling the name comes to the same as applying it, although
a reserved name is called on the guarded route, and so does a guarded call of every name that is not
empty. If a target is current, the same selector is sent to it or the call fails for the same reason; if
there is none, both fail.
-/
theorem guarded_route_invisible {R : Runner} {s : SessionId} {name : String} {names : List String}
    {args : List Value} {w w₁ : World} {answer : Except Stop TargetId}
    (asked : s.target.run w = (answer, w₁)) (unbound : w.providerOf? s = none)
    (tries : (w₁.session s).config.naming.Tries name names) (bound : names.length ≤ R.fuel) :
    w.AnsweredAlike ((s.apply R name args none).run w) ((s.call R name args none).run w) ∧
      (name ≠ "" →
        w.AnsweredAlike ((s.apply R name args none).run w) ((s.guardedApply R name args none).run w)) := by
  have calm : Calm w w₁ := (Action.calm_target s).of_run asked
  obtain ⟨applied, guarded⟩ :
      w.AnsweredAlike ((s.apply R name args none).run w) ((s.apply R name args none).run w) ∧
        (name ≠ "" → w.AnsweredAlike ((s.apply R name args none).run w)
          ((s.guardedApply R name args none).run w)) := by
    cases answer with
    | error e =>
      obtain ⟨⟨f, failed⟩, same⟩ := @SessionId.run_apply_no_target R s args name w w₁ e asked
        (Nat.lt_of_lt_of_le tries.length_pos bound)
      have alike := World.AnsweredAlike.of_outcome (t := ⟨0⟩) calm (.failed f) [] []
      have plain : (s.apply R name args none).run w = ((Outcome.failed f).action ⟨0⟩).run (w₁.note []) :=
        failed
      rw [← plain] at alike
      refine ⟨alike, fun named => ?_⟩
      rw [same named]
      exact alike
    | ok t =>
      have unbound' : w₁.providerOf? s = none := (SessionId.providerOf?_target asked).trans unbound
      obtain ⟨outcome, before, ends⟩ := @SessionId.exists_outcome R s args t _ _ _ tries (w₁.target t)
      have plain : (s.apply R name args none).run w = _ := ends bound asked rfl ⟨_, rfl⟩ (.of_none unbound')
      have alike := World.AnsweredAlike.of_outcome (t := t) calm outcome before before
      rw [← plain] at alike
      refine ⟨alike, fun named => ?_⟩
      cases free : (w₁.target t).metadata.launch? name with
      | some m =>
        rw [SessionId.run_guardedApply_free asked tries unbound' bound free]
        exact alike
      | none =>
        have flying : w₁.isInFlight t name = true := (Metadata.launch?_eq_none_iff _ name).mp free
        obtain ⟨outcome, before, plain, past⟩ :=
          @SessionId.guardedApply_flying R s args t name names w w₁ named asked tries unbound' bound flying
        rw [plain, past]
        exact .of_outcome calm outcome _ _
  refine ⟨?_, guarded⟩
  unfold SessionId.call
  split
  · next reserved =>
    refine guarded ?_
    rintro rfl
    revert reserved
    decide
  · exact applied

theorem guarded_route_invisible_spacer :
    let s : SessionId := ⟨0⟩
    let w := (rootedWorld Catalogue.spacer).updateMetadata ⟨0⟩ fun _ => ⟨.empty, ["corner_radius"]⟩
    w.isInFlight ⟨0⟩ "corner_radius" = true ∧ w.providerOf? s = none ∧
      w.AnsweredAlike ((s.apply (runner 2) "corner_radius" [.int 4] none).run w)
        ((s.guardedApply (runner 2) "corner_radius" [.int 4] none).run w) := by
  intro s w
  have tries : (w.session s).config.naming.Tries "corner_radius" ["corner_radius", "cornerRadius"] := by
    have names : (if Naming.camelCased.isWordSeparated "corner_radius" then
        ["corner_radius", Naming.camelCased.translate "corner_radius"] else ["corner_radius"]) =
          ["corner_radius", "cornerRadius"] := by decide +kernel
    rw [← names]
    exact Naming.tries_of_once Naming.isWordSeparated_translate_camelCased (by decide)
  have current : s.target.run w = (.ok ⟨0⟩, w) := rfl
  exact ⟨by decide, rfl, (guarded_route_invisible current rfl tries (by decide)).2 (by decide)⟩

end TargetBuilder
