import TargetBuilder.Proofs.Hierarchy
import TargetBuilder.Proofs.RootTarget

/-!
# Needs of a root target

Whoever needs a root target asks the root session for it. As far as root targets are concerned, thrifty code
does nothing else: its run is a sequence of such *needs*, and between them no root factory is called, no
session gets a root target, and none loses one. So it can be told of a run what was needed, which calls of
root factories that took, and what was answered.

* `World.Needed`: a run, as a sequence of needs.
* `Thrifty.keeps_hasNeeds`: thrifty code is such a run, however it ends.
* `World.Needed.along`: what can be said about the needs of one root session.
* `root_target_fixed`: a root target that is there is what is answered from then on.
-/

namespace TargetBuilder

open World (Calm Idle)

/--
A root target was needed: the root session, the number of the call if the root factory was called, and what
was answered.
-/
structure Need where
  root : SessionId
  call : Option Nat
  answer : Option TargetId

namespace World

/-! ## Changes without a need -/

/-- No root factory is called, and the root targets are what they were. -/
structure Needless (a b : World) : Prop extends HierarchyKept a b where
  synthesized : ∀ s, (b.session s).synthesized = (a.session s).synthesized
  rootCalls : b.rootCalls = a.rootCalls

namespace Needless

variable {a b : World}

theorem of_sessions_eq (hs : b.sessions = a.sessions) (hc : b.rootCalls = a.rootCalls) : Needless a b := by
  have same := session_congr hs
  exact ⟨⟨Nat.le_of_eq (congrArg Arena.size hs.symm), fun s _ => congrArg Session.root (same s),
    fun s _ => congrArg Session.config (same s)⟩, fun s => congrArg Session.synthesized (same s), hc⟩

theorem of_idle (h : Idle a b) : Needless a b := of_sessions_eq h.sessions h.rootCalls

/-- A session that is new has no root target of its own, like one that is not there yet. -/
theorem addSession (w : World) (root : Option SessionId) (config : Config) :
    Needless w (w.addSession (.fresh root config)).2 where
  toHierarchyKept := .of_quiet (Quiet.addSession w root config)
  synthesized s := w.sessions.get_push_same (·.synthesized) (x := .fresh root config) rfl s.index
  rootCalls := rfl

theorem updateSession (w : World) (r : SessionId) {f : Session → Session}
    (hroot : ∀ x, (f x).root = x.root) (hconfig : ∀ x, (f x).config = x.config)
    (hsynthesized : ∀ x, (f x).synthesized = x.synthesized) : Needless w (w.updateSession r f) where
  toHierarchyKept := .updateSession w r hroot hconfig
  synthesized s := w.session_updateSession_same r s Session.synthesized hsynthesized
  rootCalls := rfl

end Needless

/-! ## Runs with needs -/

/-- The second world came about from the first one, and these root targets were needed on the way. -/
inductive Needed (a : World) : List Need → World → Prop
  | nothing : Needed a [] a
  | needless {needs : List Need} {b c : World} : Needed a needs b → Needless b c → Needed a needs c
  | need {needs : List Need} {b c : World} {r : SessionId} {answer : Option TargetId}
      {call : Option Nat} : Needed a needs b → r.ownRootTarget.run b = (.ok answer, c) →
        c.rootCalls = b.rootCalls ++ call.toList → Needed a (needs ++ [⟨r, call, answer⟩]) c

namespace Needed

variable {a b c : World} {before after : List Need}

theorem trans (h : Needed a before b) (k : Needed b after c) : Needed a (before ++ after) c := by
  induction k with
  | nothing => rw [List.append_nil]; exact h
  | needless _ step ih => exact .needless ih step
  | need _ asked called ih => rw [← List.append_assoc]; exact .need ih asked called

/-- No session is gone or configured anew. -/
theorem hierarchyKept (h : Needed a before b) : HierarchyKept a b := by
  induction h with
  | nothing => exact .refl a
  | needless _ step ih => exact ih.trans step.toHierarchyKept
  | need _ asked _ ih => exact ih.trans (.of_quiet ((Action.calm_ownRootTarget _).of_run asked).toQuiet)

/-- **All calls of root factories are made for needs**, in this order. -/
theorem rootCalls (h : Needed a before b) : b.rootCalls = a.rootCalls ++ before.filterMap Need.call := by
  induction h with
  | nothing => exact (List.append_nil _).symm
  | needless _ step ih => exact step.rootCalls.trans ih
  | @need needs _ _ r answer call _ _ called ih =>
    have last : [(⟨r, call, answer⟩ : Need)].filterMap Need.call = call.toList := by cases call <;> rfl
    rw [called, ih, List.filterMap_append, List.append_assoc, last]

end Needed

/-- Some root targets may have been needed on the way. -/
def HasNeeds (a b : World) : Prop := ∃ needs, Needed a needs b

namespace HasNeeds

variable {a b c : World}

theorem of_needless (h : Needless a b) : HasNeeds a b := ⟨[], .needless .nothing h⟩

theorem of_sessions_eq (hs : b.sessions = a.sessions) (hc : b.rootCalls = a.rootCalls) : HasNeeds a b :=
  of_needless (.of_sessions_eq hs hc)

theorem guarantee : Guarantee HasNeeds Idle where
  refl _ := ⟨[], .nothing⟩
  trans h k := h.elim fun before needed => k.elim fun after needed' => ⟨before ++ after, needed.trans needed'⟩
  quiet h := of_needless (.of_idle h)

end HasNeeds

end World

open World (HasNeeds Needless)

/-! ## What one need leads to -/

namespace Need

/-- How a need goes for a root session that has, or has not, a root target before it and after it. -/
inductive Goes (factory : Option RootFactoryId) (n : Need) : Option TargetId → Option TargetId → Prop
  /-- A root target that is there is answered. -/
  | met {t : TargetId} : n.call = none → n.answer = some t → Goes factory n (some t) (some t)
  /-- The root factory is called, and what it hands out is the root target from then on. -/
  | asked : factory.isSome → n.call.isSome → Goes factory n none n.answer
  /-- Without a root factory there is no answer. -/
  | unmet : factory = none → n.call = none → n.answer = none → Goes factory n none none

/-- All that a need leads to: an answer, a root target for a session that is there, and a call at most. -/
structure Leads (n : Need) (w w' : World) : Prop where
  answer : n.answer = w.rootTarget? n.root
  goes : w.IsThere n.root → n.Goes (w.session n.root).config.rootFactory (w.session n.root).rootTarget?
    (w'.session n.root).rootTarget?
  others : ∀ s, s ≠ n.root → w'.session s = w.session s
  rootCalls : w'.rootCalls = w.rootCalls ++ n.call.toList

end Need

namespace SessionId

variable {r : SessionId} {w w' : World} {answer : Option TargetId} {call : Option Nat}

/-- A root factory is called for a session that has no root target. -/
theorem synthesizeRoot_leads {factory : RootFactoryId} (lacks : (w.session r).rootTarget? = none)
    (provided : (w.session r).config.rootFactory = some factory) :
    ∃ call answer w', (r.synthesizeRoot factory).run w = (.ok answer, w') ∧
      (Need.mk r call answer).Leads w w' := by
  have handed := World.callRootFactory_fst factory w
  obtain ⟨targets, targetNames, rootFactories, call, left⟩ := World.callRootFactory_eq factory w
  let called := { w with targets, targetNames, rootFactories, log := w.log.push (.rootFactoryCalled call) }
  have told : called.rootCalls = w.rootCalls ++ [call] := w.rootCalls_write (.rootFactoryCalled call)
  have ran : (World.callRootFactory factory).run w = (.ok (w.handOut? factory), called) :=
    Prod.ext handed left
  have answered : w.rootTarget? r = w.handOut? factory := by
    unfold World.rootTarget?
    rw [lacks, provided]
    rfl
  unfold synthesizeRoot
  cases handedOut : w.handOut? factory with
  | none =>
    rw [handedOut] at ran answered
    refine ⟨some call, none, called, ?_, answered.symm, ?_, fun _ _ => rfl, told⟩
    · rw [Action.run_bind, ran]
      rfl
    · intro there
      show Need.Goes _ _ _ (w.session r).rootTarget?
      rw [lacks, provided]
      exact .asked rfl rfl
  | some t =>
    rw [handedOut] at ran answered
    let made := called.write (.event (.rootSynthesized r t))
    refine ⟨some call, some t, made.updateSession r ({ · with synthesized := some t }), ?_, answered.symm,
      ?_, ?_, ?_⟩
    · rw [Action.run_bind, ran]
      rfl
    · intro there
      have filled := made.session_updateSession_self ({ · with synthesized := some t }) (s := r) there
      show Need.Goes _ _ _ (Session.rootTarget? ((made.updateSession r _).session r))
      rw [filled, lacks, provided, Session.rootTarget?_synthesized (s := made.session r) lacks t]
      exact .asked rfl rfl
    · exact fun s other => made.session_updateSession_of_ne _ other
    · exact (called.rootCalls_write _).trans ((List.append_nil _).trans told)

/-- **What a need leads to.** -/
theorem ownRootTarget_leads (r : SessionId) (w : World) :
    ∃ call answer w', r.ownRootTarget.run w = (.ok answer, w') ∧ (Need.mk r call answer).Leads w w' := by
  cases has : (w.session r).rootTarget? with
  | some t =>
    refine ⟨none, some t, w, run_ownRootTarget_has has, ?_, fun _ => ?_, fun _ _ => rfl,
      (List.append_nil _).symm⟩
    · unfold World.rootTarget?
      rw [has, Option.some_or]
    · rw [has]
      exact .met rfl rfl
  | none =>
    rw [run_ownRootTarget_lacks has]
    cases hfactory : (w.session r).config.rootFactory with
    | none =>
      refine ⟨none, none, w, rfl, ?_, fun _ => ?_, fun _ _ => rfl, (List.append_nil _).symm⟩
      · unfold World.rootTarget?
        rw [has, hfactory]
        rfl
      · rw [has, hfactory]
        exact .unmet rfl rfl rfl
    | some factory => exact synthesizeRoot_leads has hfactory

theorem leads_of_run (asked : r.ownRootTarget.run w = (.ok answer, w'))
    (calls : w'.rootCalls = w.rootCalls ++ call.toList) : (Need.mk r call answer).Leads w w' := by
  obtain ⟨call', answer', w₁, asked', leads⟩ := r.ownRootTarget_leads w
  cases asked.symm.trans asked'
  have same : call'.toList = call.toList := List.append_cancel_left (leads.rootCalls.symm.trans calls)
  have told : call' = call := by simpa using congrArg List.head? same
  rw [← told]
  exact leads

end SessionId

namespace World.HasNeeds

theorem ownRootTarget (r : SessionId) : r.ownRootTarget.Keeps HasNeeds := by
  intro w
  obtain ⟨call, answer, w', asked, leads⟩ := r.ownRootTarget_leads w
  rw [asked]
  exact ⟨_, .need .nothing asked leads.rootCalls⟩

/-! ## What code does between needs -/

theorem openRoot (config : Config) : (World.openRoot config).Keeps HasNeeds := by
  have hG := guarantee
  refine .bind hG (.adding fun w => of_needless (.addSession w none config)) fun _ => ?_
  exact .bind hG (.of_quiet hG (Action.idle_report fun _ _ h => by cases h)) fun _ => .pure hG _

theorem openChild (root : SessionId) : (World.openChild root).Keeps HasNeeds := by
  have hG := guarantee
  refine .bind hG (.read hG) fun _ => .bind hG (.adding fun w => of_needless (.addSession w _ _)) fun _ => ?_
  exact .bind hG (.of_quiet hG (Action.idle_report fun _ _ h => by cases h)) fun _ => .pure hG _

theorem forget (name : String) : (Script.forget name).Keeps HasNeeds :=
  .bind guarantee (.read guarantee) fun _ =>
    .bind guarantee (.modify fun _ => of_sessions_eq rfl rfl) fun _ => .pure guarantee _

theorem write (w : World) {e : Entry} (he : ∀ r, e.deferral? r = none) (hc : e.rootCall? = none) :
    HasNeeds w (w.write e) := guarantee.quiet (Idle.write w he hc)

theorem resolveRequest (root : SessionId) (request : Request) :
    (root.resolveRequest request).Keeps HasNeeds :=
  .resolveRequest guarantee write (ownRootTarget root) request

theorem deferralTarget (root : SessionId) (request : Option Request) :
    (root.deferralTarget request).Keeps HasNeeds :=
  .deferralTarget guarantee write (ownRootTarget root) request

theorem defer (w : World) (r : SessionId) (d : Deferred) : HasNeeds w (w.defer r d) := by
  let noted := w.write (.event (.scheduled r d.target))
  have told : HasNeeds w noted := of_sessions_eq rfl ((w.rootCalls_write _).trans (List.append_nil _))
  have queued : Needless noted (noted.updateSession r fun s => { s with queue := s.queue ++ [d] }) :=
    .updateSession noted r (fun _ => rfl) (fun _ => rfl) fun _ => rfl
  exact guarantee.trans told (of_needless queued)

theorem holding {α : Type} {x : Action World α} (s : SessionId) (hx : x.Keeps HasNeeds) :
    (World.holding s x).Keeps HasNeeds :=
  .holding guarantee (fun _ _ => of_sessions_eq rfl rfl) s hx

section

variable {R : Runner} (hR : ∀ task s, (R.exec task s).Keeps HasNeeds)

include hR

theorem invoke (p : ProviderId) (name : String) (args : List Value) (block : Option Task) :
    (Capability.invoke R p name args block).Keeps HasNeeds := by
  have hG := guarantee
  unfold Capability.invoke
  refine .bind hG (.read hG) fun w => ?_
  dsimp only
  split
  · exact .fail hG _
  · refine .bind hG (.of_quiet hG (Action.idle_report fun _ _ h => by cases h)) fun _ => ?_
    refine .bind hG (.of_quiet hG fun w => Idle.write w (fun _ => rfl) rfl) fun _ => ?_
    exact .bind hG (.adding fun w => of_sessions_eq rfl rfl) fun _ => hR _ _

theorem provide (root : SessionId) (t : TargetId) : (root.provide R t).Keeps HasNeeds := by
  have hG := guarantee
  have bound : ∀ key, (Capability.bind root t key).Keeps HasNeeds := fun _ _ => of_sessions_eq rfl rfl
  refine .bind hG (.reads hG _) fun _ => .provide_of_make hG bound ?_
  exact .make hG (openChild root) (fun _ _ => of_sessions_eq rfl rfl) bound
    (fun _ _ _ => of_sessions_eq rfl rfl) hR _

theorem hosting (root : SessionId) : Hosting R HasNeeds root where
  toGuarantee := guarantee
  enclosing := .enclosing guarantee (ownRootTarget root)
  provide := provide hR root
  exec task := hR task root

theorem enterTarget (root : SessionId) (t : TargetId) {block : SessionId → Action World Unit}
    (hblock : (block root).Keeps HasNeeds) : (root.enterTarget R t block).Keeps HasNeeds :=
  Brackets.keeps_enterTarget (hosting hR root)
    (.of_tolerates guarantee fun w _ hf => of_needless
      (.updateSession w root (fun x => (hf x).root) (fun x => (hf x).config) fun x => (hf x).synthesized))
    t hblock

end

end World.HasNeeds

/-- **Thrifty code does nothing about root targets but need them**, if the tasks that it leads to do so. -/
theorem Thrifty.keeps_hasNeeds {R : Runner} {S T : List SessionId} {α : Type} {x : Action World α}
    (hR : ∀ task s, (R.exec task s).Keeps HasNeeds) (hx : Thrifty R S T x) : x.Keeps HasNeeds := by
  have hG := HasNeeds.guarantee
  induction hx with
  | idle h => exact .of_quiet hG h
  | bind _ _ ihx ihf => exact .bind hG ihx ihf
  | capture _ ih => exact .capture ih
  | attempt _ ih => exact .attempt ih
  | holding s _ ih => exact HasNeeds.holding s ih
  | marking t name _ _ ihx ihy =>
    exact .marking hG (fun _ _ _ _ _ => .of_sessions_eq rfl rfl) (fun _ _ _ => .of_sessions_eq rfl rfl)
      t name ihx ihy
  | asking _ _ _ ihn ihs =>
    refine .bind hG (.reads hG _) fun found => ?_
    cases found with
    | none => exact ihn
    | some r => exact ihs r
  | lookingUp name _ _ ihn ihs =>
    refine .bind hG (.reads hG _) fun found => ?_
    cases found with
    | none => exact ihn
    | some s => exact ihs s
  | openRoot config _ ih => exact .bind hG (HasNeeds.openRoot config) ih
  | openChild _ _ ih => exact .bind hG (HasNeeds.openChild _) ih
  | keep name _ => exact .modify fun _ => .of_sessions_eq rfl rfl
  | forget name => exact HasNeeds.forget name
  | exec task _ => exact hR task _
  | invoke p name args block => exact HasNeeds.invoke hR p name args block
  | ownRootTarget _ => exact HasNeeds.ownRootTarget _
  | provide t _ => exact HasNeeds.provide hR _ t
  | schedule request task _ =>
    exact .schedule hG (fun root => HasNeeds.deferralTarget root request) HasNeeds.defer _ task
  | enter request _ _ ih =>
    exact .enter hG (fun root => HasNeeds.resolveRequest root request)
      (fun root _ hx => HasNeeds.holding root hx) _ fun root t => HasNeeds.enterTarget hR root t (ih root)

/-- Tasks do so, too, by induction on how deep they may nest. -/
theorem Script.exec_keeps_hasNeeds :
    ∀ (fuel : Nat) (task : Task) (s : SessionId), (exec fuel task s).Keeps HasNeeds
  | 0, _, _ => .stop HasNeeds.guarantee _
  | fuel + 1, task, s => by
    rw [exec_succ]
    exact (thrifty_runTask (S := [s]) (T := []) List.mem_cons_self task).keeps_hasNeeds
      (exec_keeps_hasNeeds fuel)

/-! ## The needs of one root session -/

namespace Need

/-- The needs of one root session, in order. -/
def of (r : SessionId) (needs : List Need) : List Need := needs.filter (·.root = r)

theorem of_concat (r : SessionId) (needs : List Need) (n : Need) :
    of r (needs ++ [n]) = if n.root = r then of r needs ++ [n] else of r needs := by
  unfold of
  rw [List.filter_append]
  split
  · next own => rw [List.filter_cons_of_pos (by simpa using own), List.filter_nil]
  · next other => rw [List.filter_cons_of_neg (by simpa using other), List.filter_nil, List.append_nil]

/-- The root factory was called and declined. -/
def IsDeclined (n : Need) : Prop := n.call.isSome ∧ n.answer = none

/-- The root factory was called and handed out a target. -/
def IsMade (t : TargetId) (n : Need) : Prop := n.call.isSome ∧ n.answer = some t

/-- The target was answered, and no root factory was called. -/
def IsMet (t : TargetId) (n : Need) : Prop := n.call = none ∧ n.answer = some t

/--
The needs of a root session that had no root target at first, and the root target that it has after them. Its
root factory is called at each of them until it hands out a target, and is not called at any that follows.
-/
inductive Settling : List Need → Option TargetId → Prop
  | waiting {declined : List Need} : (∀ n ∈ declined, n.IsDeclined) → Settling declined none
  | settled {declined met : List Need} {made : Need} {t : TargetId} : (∀ n ∈ declined, n.IsDeclined) →
      made.IsMade t → (∀ n ∈ met, n.IsMet t) → Settling (declined ++ made :: met) (some t)

theorem forall_mem_concat {p : Need → Prop} {needs : List Need} {n : Need} (all : ∀ m ∈ needs, p m)
    (last : p n) : ∀ m ∈ needs ++ [n], p m := by
  intro m mem
  rcases List.mem_append.mp mem with before | own
  · exact all m before
  · rw [List.mem_singleton.mp own]
    exact last

/-- One more need of a session that has a root factory. -/
theorem Settling.concat {factory : Option RootFactoryId} (provided : factory.isSome) {needs : List Need}
    {n : Need} {before after : Option TargetId} (h : Settling needs before)
    (goes : n.Goes factory before after) : Settling (needs ++ [n]) after := by
  cases h with
  | waiting declined =>
    cases goes with
    | asked _ called =>
      cases hanswer : n.answer with
      | none => exact .waiting (forall_mem_concat declined ⟨called, hanswer⟩)
      | some t => exact .settled declined ⟨called, hanswer⟩ fun _ h => absurd h List.not_mem_nil
    | unmet lacking => rw [lacking] at provided; cases provided
  | settled declined made met =>
    cases goes with
    | met uncalled answered =>
      rw [List.append_assoc, List.cons_append]
      exact .settled declined made (forall_mem_concat met ⟨uncalled, answered⟩)

/-- What can be told of the needs of a root session, from what it was like before them. -/
structure Fixed (before after : Session) (needs : List Need) : Prop where
  /-- A root target that is there, configured or made, is what is answered, and the factory is not called. -/
  kept : ∀ t, before.rootTarget? = some t → after.rootTarget? = some t ∧ ∀ n ∈ needs, n.IsMet t
  /-- The root factory makes the root target once. -/
  made : before.rootTarget? = none → before.config.rootFactory.isSome → Settling needs after.rootTarget?
  /-- Without a root factory there is never a root target. -/
  unmet : before.rootTarget? = none → before.config.rootFactory = none →
    after.rootTarget? = none ∧ ∀ n ∈ needs, n.call = none ∧ n.answer = none

end Need

namespace World

variable {a w : World} {r : SessionId} {needs : List Need}

theorem Needless.rootTarget?_eq {a b : World} (h : Needless a b) (there : a.IsThere r) :
    (b.session r).rootTarget? = (a.session r).rootTarget? := by
  unfold Session.rootTarget?
  rw [h.config r there, h.synthesized r]

/--
**What holds of the needs of a root session**, of those before and of the root target that it has after them,
holds of all if one need after the other keeps it.
-/
theorem Needed.along {P : List Need → Option TargetId → Prop} (h : Needed a needs w) (there : a.IsThere r)
    (first : P [] (a.session r).rootTarget?)
    (step : ∀ {needs n before after}, P needs before → n.Goes (a.session r).config.rootFactory before after →
      P (needs ++ [n]) after) : P (Need.of r needs) (w.session r).rootTarget? := by
  induction h with
  | nothing => exact first
  | needless needed change ih =>
    rw [change.rootTarget?_eq (needed.hierarchyKept.isThere there)]
    exact ih
  | @need needs b c q answer call needed asked called ih =>
    have leads := SessionId.leads_of_run asked called
    have kept := needed.hierarchyKept
    rw [Need.of_concat]
    split
    · next own =>
      cases own
      have goes := leads.goes (kept.isThere there)
      rw [kept.config _ there] at goes
      exact step ih goes
    · next other =>
      rw [leads.others r fun same => other same.symm]
      exact ih

/-- **A root target is fixed once it exists.** -/
theorem Needed.fixed (h : Needed a needs w) (there : a.IsThere r) :
    Need.Fixed (a.session r) (w.session r) (Need.of r needs) where
  kept t has := by
    refine h.along (P := fun needs has => has = some t ∧ ∀ n ∈ needs, n.IsMet t) there
      ⟨has, fun _ h => absurd h List.not_mem_nil⟩ ?_
    rintro needs n before after ⟨rfl, met⟩ goes
    cases goes with
    | met uncalled answered => exact ⟨rfl, Need.forall_mem_concat met ⟨uncalled, answered⟩⟩
  made lacks provided := by
    refine h.along (P := Need.Settling) there ?_ fun settling goes => settling.concat provided goes
    rw [lacks]
    exact .waiting fun _ h => absurd h List.not_mem_nil
  unmet lacks lacking := by
    refine h.along (P := fun needs has => has = none ∧ ∀ n ∈ needs, n.call = none ∧ n.answer = none) there
      ⟨lacks, fun _ h => absurd h List.not_mem_nil⟩ ?_
    rintro needs n before after ⟨rfl, unmet⟩ goes
    cases goes with
    | asked provided => rw [lacking] at provided; cases provided
    | unmet _ uncalled unanswered =>
      exact ⟨rfl, Need.forall_mem_concat unmet ⟨uncalled, unanswered⟩⟩

end World

/-! ## What needs a root target -/

/-- What is left of resolving a token once the root target was asked for. -/
def SessionId.resolveFrom (root : SessionId) (token : String) : Option TargetId → Action World TargetId
  | none => .fail .noContext
  | some rootTarget => do
    match ← root.lookUp rootTarget token with
    | none => .fail (.targetNotFound token)
    | some t => do
      World.report (.tokenResolved token t)
      pure t

/--
Whatever needs the root target of `r`, on the root or on a child, asks `ask` for it once, and goes on with
the answer.
-/
structure World.AnswersWith (w : World) (r : SessionId) (ask : Action World (Option TargetId)) : Prop where
  rootTarget : ∀ s, w.rootOf? s = some r → s.rootTarget.run w = ask.run w
  /-- Looking a token up. -/
  token : ∀ token, (r.resolveRequest (.token token)).run w = (ask >>= r.resolveFrom token).run w
  /-- Outside any context, the current target. -/
  target : (w.session r).frame.target = none → ∀ s, w.rootOf? s = some r → s.target.run w =
    (ask >>= fun found => match found with | some t => pure t | none => .fail .noContext).run w
  /-- Outside any context, the target that a call is meant for. -/
  receiver : (w.session r).frame.target = none → ∀ s name, w.rootOf? s = some r → (s.receiver name).run w =
    (ask >>= fun found => match found with | some t => pure t | none => .fail (.undefinedMethod name)).run w
  /-- Outside any context, the target of work that is put off. -/
  scheduled : (w.session r).frame.target = none → ∀ s task, w.rootOf? s = some r →
    (s.schedule none (some task)).run w =
      (ask >>= fun found => match found with
        | some t => .modify (·.defer r ⟨t, task⟩)
        | none => .fail .invalidDeferred).run w
  /-- The parent of an outermost context, or of the context of work that was put off. -/
  parent : (w.session r).frame.target = none → ∀ outermost t provider block,
    (r.visit outermost t provider block).run w =
      (World.report (.entering r t outermost) >>= fun _ => ask >>= fun parent =>
        r.withFrame ⟨some t, parent, provider⟩ (block r)).run w

/-- The same answers, in the same worlds, are the same for what follows. -/
theorem World.AnswersWith.congr {w : World} {r : SessionId} {ask ask' : Action World (Option TargetId)}
    (h : w.AnswersWith r ask) (same : ∀ v : World, v.sessions = w.sessions → ask.run v = ask'.run v) :
    w.AnswersWith r ask' := by
  have onward : ∀ {α : Type} (f : Option TargetId → Action World α) (v : World), v.sessions = w.sessions →
      (ask >>= f).run v = (ask' >>= f).run v := fun f v hv => by
    rw [Action.run_bind, Action.run_bind, same v hv]
  refine ⟨fun s hs => (h.rootTarget s hs).trans (same w rfl),
    fun token => (h.token token).trans (onward _ w rfl),
    fun out s hs => (h.target out s hs).trans (onward _ w rfl),
    fun out s name hs => (h.receiver out s name hs).trans (onward _ w rfl),
    fun out s task hs => (h.scheduled out s task hs).trans (onward _ w rfl),
    fun out outermost t provider block => (h.parent out outermost t provider block).trans ?_⟩
  exact onward _ _ rfl

/-- Where the root is there, asking for it changes nothing. -/
theorem SessionId.run_asking {α : Type} {w : World} {s r : SessionId} (h : w.rootOf? s = some r)
    (f : Option SessionId → Action World α) :
    (Action.reads (·.rootOf? s) >>= f).run w = (f (some r)).run w := by
  rw [← h]
  rfl

/-- **Whatever needs the root target asks the root session for it.** -/
theorem SessionId.answersWith_ownRootTarget (r : SessionId) (w : World) :
    w.AnswersWith r r.ownRootTarget := by
  have enclosing : (w.session r).frame.target = none → ∀ v : World, v.sessions = w.sessions →
      r.enclosing.run v = r.ownRootTarget.run v := by
    intro out v hv
    rw [run_enclosing, World.session_congr hv, out]
  -- outside any context, what encloses is asked for in the same way
  have onward : (w.session r).frame.target = none → ∀ {α : Type} (f : Option TargetId → Action World α)
      (v : World), v.sessions = w.sessions → (r.enclosing >>= f).run v = (r.ownRootTarget >>= f).run v :=
    fun out _ f v hv => by rw [Action.run_bind, Action.run_bind, enclosing out v hv]
  refine ⟨fun s hs => ?_, fun token => ?_, fun out s hs => ?_, fun out s name hs => ?_,
    fun out s task hs => ?_, fun out outermost t provider block => ?_⟩
  · rw [rootTarget_eq]
    exact run_asking hs _
  · show (r.ownRootTarget >>= fun found => _).run w = _
    rw [Action.run_bind, Action.run_bind]
    cases r.ownRootTarget.run w with
    | mk res v =>
      cases res with
      | error e => rfl
      | ok found => cases found <;> rfl
  · unfold SessionId.target
    rw [root_bind]
    exact (run_asking hs _).trans (onward out _ w rfl)
  · rw [receiver_eq]
    exact (run_asking hs _).trans (onward out _ w rfl)
  · show ((s.root >>= fun root => _) : Action World Unit).run w = _
    rw [root_bind]
    refine (run_asking hs _).trans ?_
    show ((r.enclosing >>= fun found => _) >>= fun t => _ : Action World Unit).run w = _
    rw [Action.run_bind, onward out _ w rfl, Action.run_bind, Action.run_bind]
    cases r.ownRootTarget.run w with
    | mk res v =>
      cases res with
      | error e => rfl
      | ok found => cases found <;> rfl
  · show (r.visit outermost t provider block).run w = _
    unfold visit
    rw [Action.run_bind, Action.run_bind]
    exact onward out _ _ rfl

/-- A root target that is there is what is answered. -/
theorem SessionId.answersWith_pure {r : SessionId} {w : World} {t : TargetId}
    (has : (w.session r).rootTarget? = some t) : w.AnswersWith r (pure (some t)) := by
  refine (r.answersWith_ownRootTarget w).congr fun v hv => ?_
  rw [run_ownRootTarget_has ((congrArg Session.rootTarget? (World.session_congr hv r)).trans has)]
  rfl

/--
**The root target of a session is fixed once it exists.** Take a session that is there and any thrifty code,
of which scripts and the operations of sessions are made, and let it end in any way. What needs the root
target, in any world, asks for it once, and then a session that has none calls its root factory once, if it
has one, and has from then on what the factory hands out. The run is a sequence of such needs, and no root
factory is called but for them. If there is a root target, configured or made before, all needs of the session
are met with that target, without a call. If there is none, its factory is called at each need until it first
hands out a target, and all later needs are met with that one. Once there is a root target, it is what is used
wherever one is needed.
-/
theorem root_target_fixed {fuel : Nat} {S T : List SessionId} {α : Type} {x : Action World α}
    (hx : Thrifty (Script.runner fuel) S T x) {a w : World} {result : Except Stop α}
    (ran : x.run a = (result, w)) {r : SessionId} (there : a.IsThere r) :
    (∀ v : World, v.AnswersWith r r.ownRootTarget ∧ ∃ call answer v',
        r.ownRootTarget.run v = (.ok answer, v') ∧ (Need.mk r call answer).Leads v v') ∧
      (∃ needs, a.Needed needs w) ∧
      (∀ needs, a.Needed needs w → w.rootCalls = a.rootCalls ++ needs.filterMap Need.call ∧
        Need.Fixed (a.session r) (w.session r) (Need.of r needs)) ∧
      ∀ t, (w.session r).rootTarget? = some t → w.AnswersWith r (pure (some t)) := by
  have hasNeeds : HasNeeds a w := (hx.keeps_hasNeeds (Script.exec_keeps_hasNeeds fuel)).of_run ran
  exact ⟨fun v => ⟨r.answersWith_ownRootTarget v, r.ownRootTarget_leads v⟩, hasNeeds,
    fun needs needed => ⟨needed.rootCalls, needed.fixed there⟩, fun t has => SessionId.answersWith_pure has⟩

namespace Script

/-- A factory that declines once and then makes spacers, and a look-up that knows the first of them. -/
def hesitant : ConfigSpec :=
  { ConfigSpec.empty with
    factory := some ⟨1, some "Spacer", none⟩
    lookup := some [("header", "made2")] }

/-- A root session whose factory was not called yet. -/
def waiting : World := after (.empty .empty) hesitant []

/-- Needs the root target in vain, then for a build that fails, and once more. -/
def needingThrice : List Statement :=
  [.mk .rootTarget none false,
    .mk (.enter (.text "header") (.given [.mk (.raise .noContext) none false])) none false,
    .mk .rootTarget none false]

/-- What comes of that. -/
def served : World := ((runAll (runner 2) needingThrice).run waiting).2

end Script

open Script in
theorem root_target_fixed_hesitant :
    let r : SessionId := ⟨0⟩
    served.rootCalls = [1, 2] ∧
      (∃ needs, waiting.Needed needs served ∧ Need.Settling (Need.of r needs) (some ⟨0⟩)) ∧
      served.AnswersWith r (pure (some ⟨0⟩)) := by
  intro r
  obtain ⟨-, ⟨needs, needed⟩, fixed, used⟩ :=
    root_target_fixed (thrifty_runAll (R := runner 2) (S := []) (T := []) needingThrice)
      (Prod.eta ((runAll (runner 2) needingThrice).run waiting)).symm
      (by decide +kernel : 0 < waiting.sessions.size) (r := r)
  have lacks : (waiting.session r).rootTarget? = none := by decide +kernel
  have has : (served.session r).rootTarget? = some ⟨0⟩ := by decide +kernel
  have settling := (fixed needs needed).2.made lacks (by decide +kernel)
  refine ⟨by decide +kernel, ⟨needs, needed, ?_⟩, used _ has⟩
  rw [← has]
  exact settling

end TargetBuilder
