import TargetBuilder.Proofs.Hierarchy

/-!
# A child is its root

A child session has no business of its own: every operation asks for the root first, and goes on with
that. What an operation reads of the session itself is the configuration, which is the one of the root. So
for as long as the root is there, operations come to the same through the child and through the root, in
all that they change, and when the root is gone they come to nothing.

* `child_is_root`: what operations through a child come to.
-/

namespace TargetBuilder

open World (Calm Still)

/-! ## A session that acts for its root -/

/-- The root of the hierarchy of `c` is `r`, which is there. -/
structure World.ActsFor (w : World) (c r : SessionId) : Prop where
  child : w.rootOf? c = some r
  root : w.rootOf? r = some r
  childThere : w.IsThere c
  rootThere : w.IsThere r
  config : (w.session c).config = (w.session r).config

namespace World.ActsFor

variable {w w' : World} {c r : SessionId}

theorem of_calm (h : w.ActsFor c r) (calm : Calm w w') (same : ∀ s, w'.rootOf? s = w.rootOf? s) :
    w'.ActsFor c r where
  child := (same c).trans h.child
  root := (same r).trans h.root
  childThere := Nat.lt_of_lt_of_le h.childThere calm.size_le
  rootThere := Nat.lt_of_lt_of_le h.rootThere calm.size_le
  config := by rw [calm.config c h.childThere, calm.config r h.rootThere, h.config]

/-- A child of a root that is alive acts for it. -/
theorem of_alive (h : w.WellRooted) (hc : (w.session c).root = some r) (alive : w.isAlive r = true) :
    w.ActsFor c r := by
  obtain ⟨hr, fresh⟩ := h.child c r hc
  refine ⟨?_, ?_, ?_, hr.1, by rw [fresh]; rfl⟩
  · unfold rootOf?
    rw [hc]
    exact if_pos alive
  · unfold rootOf?
    rw [hr.2]
  · rcases Nat.lt_or_ge c.index w.sessions.size with there | gone
    · exact there
    · rw [w.session_of_size_le gone] at hc
      cases hc

/-- Whoever acts for a root goes on to do so. -/
def Kept (c r : SessionId) (a b : World) : Prop := a.ActsFor c r → b.ActsFor c r

theorem Kept.guarantee (c r : SessionId) : Guarantee (Kept c r) Still where
  refl _ h := h
  trans h k acts := k (h acts)
  quiet still acts := acts.of_calm still.toCalm still.rootOf?_eq

end World.ActsFor

open World (ActsFor)

/-! ## Code that comes to the same -/

/-- The two computations come to the same wherever `c` acts for its root `r`. -/
def Alike {α : Type} (c r : SessionId) (x y : Action World α) : Prop :=
  ∀ w : World, w.ActsFor c r → x.run w = y.run w

namespace Alike

variable {c r : SessionId} {R : Runner} {α β : Type} {x y : Action World α}

theorem refl (x : Action World α) : Alike c r x x := fun _ _ => rfl

theorem bind {f g : α → Action World β} (hx : Alike c r x y) (kept : x.Keeps (ActsFor.Kept c r))
    (hf : ∀ a, Alike c r (f a) (g a)) : Alike c r (x >>= f) (y >>= g) := by
  intro w h
  have after := kept w h
  rw [Action.run_bind, Action.run_bind, ← hx w h]
  cases hr : x.run w with
  | mk res w' =>
    rw [hr] at after
    cases res with
    | ok a => exact hf a w' after
    | error e => rfl

/-- The same step after what comes to the same. -/
theorem before (hx : Alike c r x y) (f : α → Action World β) : Alike c r (x >>= f) (y >>= f) := by
  intro w h
  rw [Action.run_bind, Action.run_bind, hx w h]

/-- A still step that does not depend on the session, before what comes to the same. -/
theorem after {f g : α → Action World β} (hx : x.Keeps Still) (hf : ∀ a, Alike c r (f a) (g a)) :
    Alike c r (x >>= f) (x >>= g) :=
  .bind (.refl x) (.of_quiet (ActsFor.Kept.guarantee c r) hx) hf

theorem attempt (hx : Alike c r x y) : Alike c r x.attempt y.attempt := by
  intro w h
  rw [Action.run_attempt, Action.run_attempt, hx w h]

/-- Both sessions have the same root. -/
theorem asking (f : Option SessionId → Action World α) :
    Alike c r (Action.reads (·.rootOf? c) >>= f) (Action.reads (·.rootOf? r) >>= f) := by
  intro w h
  rw [Action.run_bind, Action.run_bind, Action.run_reads, Action.run_reads, h.child, h.root]

theorem root (f : SessionId → Action World α) : Alike c r (c.root >>= f) (r.root >>= f) := by
  rw [SessionId.root_bind, SessionId.root_bind]
  exact asking _

theorem marking (t : TargetId) (name : String) {x' y' : Action World α} (hx : Alike c r x x')
    (hy : Alike c r y y') :
    Alike c r (World.marking t name x y) (World.marking t name x' y') := by
  intro w h
  -- both computations go on in a world with the same sessions, where `c` acts for `r` again
  cases hm : (w.target t).metadata.launch? name with
  | some m =>
    rw [World.run_marking_fresh hm, World.run_marking_fresh hm, hx (w.updateMetadata t fun _ => m)
      ⟨h.child, h.root, h.childThere, h.rootThere, h.config⟩]
  | none =>
    rw [World.run_marking_again hm, World.run_marking_again hm, hy (w.write _)
      ⟨h.child, h.root, h.childThere, h.rootThere, h.config⟩]

/-! ### Asking about the hierarchy -/

theorem rootTarget : Alike c r c.rootTarget r.rootTarget := by
  rw [SessionId.rootTarget_eq, SessionId.rootTarget_eq]
  exact asking _

theorem target : Alike c r c.target r.target := root _

theorem rootState : Alike c r c.rootState r.rootState :=
  asking fun found => Action.reads fun w => found.map w.session

theorem lifecycle : Alike c r c.lifecycle r.lifecycle :=
  .bind rootState (.of_quiet (ActsFor.Kept.guarantee c r) (Action.still_rootState c)) fun _ => .refl _

/-- Asking for the root target, or for what encloses, moves no root. -/
theorem keeps_enclosing (q : SessionId) : q.enclosing.Keeps (ActsFor.Kept c r) :=
  fun w h => h.of_calm (Action.calm_enclosing q w) (q.rootOf?_enclosing w)

theorem keeps_target : c.target.Keeps (ActsFor.Kept c r) := by
  have hG := ActsFor.Kept.guarantee c r
  refine .bind hG (.of_quiet hG (Action.still_root c)) fun q => .bind hG (keeps_enclosing q) fun t => ?_
  split
  · exact .pure hG _
  · exact .fail hG _

theorem report : Alike c r c.report r.report := by
  have hG := ActsFor.Kept.guarantee c r
  refine .bind (.attempt target) (.attempt keeps_target) fun _ => ?_
  refine .bind rootState (.of_quiet hG (Action.still_rootState c)) fun _ => ?_
  exact .bind lifecycle (.of_quiet hG (Action.still_lifecycle c)) fun _ => .refl _

theorem schedule (request : Option Request) (task : Option Task) :
    Alike c r (c.schedule request task) (r.schedule request task) := by
  cases task with
  | none => exact .refl _
  | some task => exact root _

/-! ### Resolving calls -/

theorem naming : Alike c r c.naming r.naming := by
  intro w h
  show (Except.ok (w.session c).config.naming, w) = (Except.ok (w.session r).config.naming, w)
  rw [h.config]

theorem receiver (name : String) : Alike c r (c.receiver name) (r.receiver name) := by
  rw [SessionId.receiver_eq, SessionId.receiver_eq]
  exact asking _

theorem keeps_receiver (name : String) : (c.receiver name).Keeps (ActsFor.Kept c r) := by
  have hG := ActsFor.Kept.guarantee c r
  refine .bind hG (.read hG) fun w => ?_
  split
  · exact .fail hG _
  · refine .bind hG (keeps_enclosing _) fun t => ?_
    split
    · exact .pure hG _
    · exact .fail hG _

theorem enter (request : Request) (block : SessionId → Action World Unit) :
    Alike c r (c.enter R request block) (r.enter R request block) :=
  root _

theorem enterAnswer (selector : String) (answer : Value) (block : Task) :
    Alike c r (c.enterAnswer R selector answer block) (r.enterAnswer R selector answer block) := by
  unfold SessionId.enterAnswer
  cases answer.target? with
  | none => exact .refl _
  | some next =>
    exact .after (Action.still_report fun _ _ h => by cases h) fun _ =>
      .before (enter (.target next) (R.perform block)) _

theorem still_naming (s : SessionId) : s.naming.Keeps Still :=
  .bind Still.guarantee (.reads Still.guarantee _) fun _ => .pure Still.guarantee _

/-- Asking for the naming convention, before what comes to the same. -/
theorem afterNaming {f g : Naming → Action World β} (hf : ∀ n, Alike c r (f n) (g n)) :
    Alike c r (c.naming >>= f) (r.naming >>= g) :=
  .bind naming (.of_quiet (ActsFor.Kept.guarantee c r) (still_naming c)) hf

theorem retranslation (name : String) :
    Alike c r (c.retranslation name) (r.retranslation name) :=
  .before naming _

theorem still_retranslation (s : SessionId) (name : String) : (s.retranslation name).Keeps Still := by
  have hG := Still.guarantee
  unfold SessionId.retranslation
  refine .bind hG (still_naming s) fun n => ?_
  split
  · exact .pure hG _
  · exact .bind hG (Action.still_report fun _ _ h => by cases h) fun _ => .pure hG _

theorem providerCall (name : String) (args : List Value) :
    Alike c r (c.providerCall name args) (r.providerCall name args) := by
  intro w h
  unfold SessionId.providerCall
  -- the provider is the one of the root, whoever asks
  rw [Action.run_bind, Action.run_bind, Action.run_read]
  dsimp only
  rw [Action.run_bind, Action.run_bind, naming w h, h.child, h.root]

theorem still_providerCall (s : SessionId) (name : String) (args : List Value) :
    (s.providerCall name args).Keeps Still := by
  have hG := Still.guarantee
  exact .bind hG (.read hG) fun _ => .bind hG (still_naming s) fun _ => .pure hG _

theorem refuseNameless (name : String) :
    Alike c r (c.refuseNameless name) (r.refuseNameless name) :=
  .before (.attempt target) _

section Again

variable {again again' : String → Action World Value}
  (ha : ∀ name, Alike c r (again name) (again' name))

include ha

/-- Trying again under the translation of a name, or else doing the same. -/
theorem retrying (name : String) (x : Action World Value) :
    Alike c r (do match ← c.retranslation name with | some translated => again translated | none => x)
      (do match ← r.retranslation name with | some translated => again' translated | none => x) := by
  refine .bind (retranslation name)
    (.of_quiet (ActsFor.Kept.guarantee c r) (still_retranslation c name)) fun translated => ?_
  cases translated with
  | some translated => exact ha translated
  | none => exact .refl x

theorem sendSwitching (t : TargetId) (name : String) (args : List Value) (block : Task) :
    Alike c r (c.sendSwitching R again t name args block)
      (r.sendSwitching R again' t name args block) := by
  unfold SessionId.sendSwitching
  refine .after (.read Still.guarantee) fun w => afterNaming fun n => ?_
  split
  · exact .after (Action.still_send t _ _) fun answer => enterAnswer _ answer block
  · exact retrying ha name _

theorem sendPlain (t : TargetId) (name : String) (args : List Value) :
    Alike c r (c.sendPlain again t name args) (r.sendPlain again' t name args) := by
  unfold SessionId.sendPlain
  refine .after (.read Still.guarantee) fun w => afterNaming fun n => ?_
  dsimp only
  split
  · exact .refl _
  · split
    · exact .refl _
    · exact retrying ha name _

theorem resolveDirect (t : TargetId) (name : String) (args : List Value) (block : Option Task) :
    Alike c r (c.resolveDirect R again t name args block)
      (r.resolveDirect R again' t name args block) := by
  cases block with
  | some block => exact sendSwitching ha t name args block
  | none => exact sendPlain ha t name args

theorem resolveOnce (name : String) (args : List Value) (block : Option Task) :
    Alike c r (c.resolveOnce R again name args block) (r.resolveOnce R again' name args block) := by
  have hG := ActsFor.Kept.guarantee c r
  unfold SessionId.resolveOnce
  split
  · exact refuseNameless name
  · refine .bind (receiver name) (keeps_receiver name) fun t => ?_
    refine .bind (providerCall name args) (.of_quiet hG (still_providerCall c name args)) fun call => ?_
    cases call with
    | some call => exact .refl _
    | none => exact resolveDirect ha t name args block

end Again

theorem applyWithin (args : List Value) (block : Option Task) : ∀ (tries : Nat) (name : String),
    Alike c r (c.applyWithin R args block tries name) (r.applyWithin R args block tries name)
  | 0, _ => .refl _
  | tries + 1, name => resolveOnce (applyWithin args block tries) name args block

theorem apply (name : String) (args : List Value) (block : Option Task) :
    Alike c r (c.apply R name args block) (r.apply R name args block) :=
  applyWithin args block R.fuel name

theorem guardedApply (name : String) (args : List Value) (block : Option Task) :
    Alike c r (c.guardedApply R name args block) (r.guardedApply R name args block) := by
  rw [SessionId.guardedApply_eq, SessionId.guardedApply_eq]
  refine .bind (receiver name) (keeps_receiver name) fun t => ?_
  refine marking t name (apply name args block) ?_
  exact .after (Action.still_report fun _ _ h => by cases h) fun _ =>
    resolveDirect (fun translated => apply translated args block) t name args block

theorem call (name : String) (args : List Value) (block : Option Task) :
    Alike c r (c.call R name args block) (r.call R name args block) := by
  unfold SessionId.call
  split
  · exact guardedApply name args block
  · exact apply name args block

end Alike

/-! ## A session whose root is gone -/

namespace SessionId

variable {w : World} {c : SessionId} {R : Runner} {α : Type}

theorem run_root_gone (h : w.rootOf? c = none) (f : SessionId → Action World α) :
    (c.root >>= f).run w = (.error (.fault .noContext), w) := by
  rw [root_bind, Action.run_bind, Action.run_reads, h]
  rfl

theorem run_rootState_gone (h : w.rootOf? c = none) : c.rootState.run w = (.ok none, w) := by
  show (Except.ok ((w.rootOf? c).map w.session), w) = _
  rw [h]
  rfl

theorem run_lifecycle_gone (h : w.rootOf? c = none) : c.lifecycle.run w = (.ok .initial, w) := by
  unfold lifecycle
  rw [Action.run_bind, run_rootState_gone h]
  rfl

theorem run_receiver_gone (h : w.rootOf? c = none) (name : String) :
    (c.receiver name).run w = (.error (.fault (.undefinedMethod name)), w) := by
  unfold receiver
  rw [Action.run_bind, Action.run_read]
  dsimp only
  rw [h]
  rfl

theorem run_apply_gone (h : w.rootOf? c = none) (fuel : 0 < R.fuel) {name : String} (hn : name ≠ "")
    (args : List Value) (block : Option Task) :
    (c.apply R name args block).run w = (.error (.fault (.undefinedMethod name)), w) := by
  have named : name.isEmpty = false := by simpa using hn
  unfold apply
  cases hf : R.fuel with
  | zero => omega
  | succ tries =>
    unfold applyWithin resolveOnce
    rw [named, if_neg Bool.false_ne_true, Action.run_bind, run_receiver_gone h]

theorem run_guardedApply_gone (h : w.rootOf? c = none) (name : String) (args : List Value)
    (block : Option Task) :
    (c.guardedApply R name args block).run w = (.error (.fault (.undefinedMethod name)), w) := by
  rw [guardedApply_eq, Action.run_bind, run_receiver_gone h]

end SessionId

/-! ## Operations through children -/

/-- Whatever is asked of the child comes to what it comes to when it is asked of the root. -/
structure SessionId.Mirrors (R : Runner) (c r : SessionId) (w : World) : Prop where
  /-- The current target and its parent, the provider, whether a context is open, the stage of life,
  and how much work is waiting. -/
  report : c.report.run w = r.report.run w
  target : c.target.run w = r.target.run w
  lifecycle : c.lifecycle.run w = r.lifecycle.run w
  rootTarget : c.rootTarget.run w = r.rootTarget.run w
  context : ∀ request, (c.context request).run w = (r.context request).run w
  /-- The same block, which is run on the same session. -/
  enter : ∀ request block, (c.enter R request block).run w = (r.enter R request block).run w
  schedule : ∀ request task, (c.schedule request task).run w = (r.schedule request task).run w
  child : (c.root >>= World.openChild).run w = (r.root >>= World.openChild).run w
  /-- A child of a child is a child of the root. -/
  grandchild : ∃ k w', (c.root >>= World.openChild).run w = (.ok k, w') ∧
    (w'.session k).root = some r
  apply : ∀ name args block, (c.apply R name args block).run w = (r.apply R name args block).run w
  guardedApply : ∀ name args block,
    (c.guardedApply R name args block).run w = (r.guardedApply R name args block).run w
  call : ∀ name args block, (c.call R name args block).run w = (r.call R name args block).run w

/-- Whatever is asked of the child changes nothing, and runs nothing. -/
structure SessionId.Orphaned (R : Runner) (c : SessionId) (w : World) : Prop where
  report : c.report.run w =
    (.ok ⟨.error .noContext, none, none, false, .initial, 0⟩, w)
  target : c.target.run w = (.error (.fault .noContext), w)
  lifecycle : c.lifecycle.run w = (.ok .initial, w)
  rootTarget : c.rootTarget.run w = (.ok none, w)
  context : ∀ request, (c.context request).run w = (.error (.fault .noContext), w)
  enter : ∀ request block, (c.enter R request block).run w = (.error (.fault .noContext), w)
  schedule : ∀ request task,
    (c.schedule request (some task)).run w = (.error (.fault .noContext), w)
  scheduleNothing : ∀ request,
    (c.schedule request none).run w = (.error (.fault .blockRequired), w)
  child : (c.root >>= World.openChild).run w = (.error (.fault .noContext), w)
  apply : ∀ name args block, name ≠ "" →
    (c.apply R name args block).run w = (.error (.fault (.undefinedMethod name)), w)
  guardedApply : ∀ name args block, name ≠ "" →
    (c.guardedApply R name args block).run w = (.error (.fault (.undefinedMethod name)), w)
  call : ∀ name args block, name ≠ "" →
    (c.call R name args block).run w = (.error (.fault (.undefinedMethod name)), w)

namespace World.ActsFor

variable {w : World} {c r : SessionId}

/-- A child that is made through a session that acts for a root is a child of that root. -/
theorem run_openChild (h : w.ActsFor c r) :
    ∃ k w', (c.root >>= World.openChild).run w = (.ok k, w') ∧ (w'.session k).root = some r := by
  rw [SessionId.root_bind, Action.run_bind, Action.run_reads, h.child]
  refine ⟨_, _, rfl, ?_⟩
  exact congrArg Session.root (w.sessions.get_push_self (.fresh (some r) (w.session r).config))

theorem mirrors (h : w.ActsFor c r) (R : Runner) : c.Mirrors R r w where
  report := Alike.report w h
  target := Alike.target w h
  lifecycle := Alike.lifecycle w h
  rootTarget := Alike.rootTarget w h
  context _ := Alike.root _ w h
  enter request block := Alike.enter request block w h
  schedule request task := Alike.schedule request task w h
  child := Alike.root _ w h
  grandchild := h.run_openChild
  apply name args block := Alike.apply name args block w h
  guardedApply name args block := Alike.guardedApply name args block w h
  call name args block := Alike.call name args block w h

end World.ActsFor

open SessionId in
theorem SessionId.orphaned {R : Runner} {c : SessionId} {w : World} (h : w.rootOf? c = none)
    (fuel : 0 < R.fuel) : c.Orphaned R w where
  report := by
    unfold SessionId.report
    rw [Action.run_bind, Action.run_attempt, SessionId.target, run_root_gone h]
    dsimp only
    rw [Action.run_bind, run_rootState_gone h]
    dsimp only
    rw [Action.run_bind, run_lifecycle_gone h]
    rfl
  target := run_root_gone h _
  lifecycle := run_lifecycle_gone h
  rootTarget := by
    unfold SessionId.rootTarget
    rw [Action.run_bind, Action.run_read]
    dsimp only
    rw [h]
    rfl
  context _ := run_root_gone h _
  enter _ _ := run_root_gone h _
  schedule _ _ := run_root_gone h _
  scheduleNothing _ := rfl
  child := run_root_gone h _
  apply _ args block hn := run_apply_gone h fuel hn args block
  guardedApply name args block _ := run_guardedApply_gone h name args block
  call name args block hn := by
    unfold SessionId.call
    split
    · exact run_guardedApply_gone h name args block
    · exact run_apply_gone h fuel hn args block

/--
**A child is its root.** In every world that arises, whatever is asked of a child of a root that is alive
comes to what it comes to when it is asked of the root: the same answer, the same session for blocks, and
the same world afterwards. The child's own state stays the one that it was made with. When the root has
been dropped, nothing that is asked of the child changes anything.
-/
theorem child_is_root {w : World} {c r : SessionId} {R : Runner} (arises : w.Arises)
    (hc : (w.session c).root = some r) (fuel : 0 < R.fuel) :
    (∀ w', w.Proceeds w' → w'.session c = .fresh (some r) (w.session r).config) ∧
      (w.isAlive r = true → c.Mirrors R r w) ∧ (w.isAlive r = false → c.Orphaned R w) := by
  refine ⟨fun w' later => ?_, fun alive => ?_, fun gone => ?_⟩
  · exact arises.wellRooted.session_child later hc
  · exact (World.ActsFor.of_alive arises.wellRooted hc alive).mirrors R
  · have orphan : w.rootOf? c = none := by
      unfold World.rootOf?
      rw [hc]
      exact if_neg (by rw [gone]; exact Bool.false_ne_true)
    exact SessionId.orphaned orphan fuel

namespace Script

/-- The root session `main` with a child. -/
def family : World := after (.empty .empty) .empty [.mk (.child "kid") none false]

/-- The child of a session `main` that has been dropped. -/
def orphanage : World :=
  after (.empty .empty) .empty [.mk (.child "kid") none false, .mk (.drop mainName) none false]

end Script

open Script in
theorem child_is_root_family :
    ((⟨1⟩ : SessionId).Mirrors (runner 1) ⟨0⟩ family) ∧
      ((⟨1⟩ : SessionId).Orphaned (runner 1) orphanage) :=
  ⟨(child_is_root (R := runner 1) (World.arises_after _ _ _)
      (by decide +kernel : (family.session ⟨1⟩).root = some ⟨0⟩) Nat.one_pos).2.1 (by decide +kernel),
    (child_is_root (R := runner 1) (World.arises_after _ _ _)
      (by decide +kernel : (orphanage.session ⟨1⟩).root = some ⟨0⟩) Nat.one_pos).2.2 (by decide +kernel)⟩

end TargetBuilder
