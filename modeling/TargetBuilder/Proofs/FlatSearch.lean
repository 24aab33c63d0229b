import TargetBuilder.Proofs.CamelCase
import TargetBuilder.Proofs.Calm
import TargetBuilder.Script.Run

/-!
# Resolving a call is a flat search

A call goes through the provider and the target, through spellings of its name, and once more through
all of it under the translated name. All this is one search in a list of candidates: the first that the
provider offers or the target exposes is carried out, and nothing else.

A target that applies setters later takes a setter that it does not expose. Such a setter is a candidate
that is always offered, so for a call without a block the translated name is never reached.

* `apply_flat_search`: a call carries out the first candidate that is offered.
* `apply_unexposed_setter_first`: why the setter that is not exposed has a place in the list.
-/

namespace TargetBuilder

open Script (runner)

/-! ## The receiver stays -/

namespace SessionId

/-- A root target that was answered once is answered again, with nothing to be made for it. -/
theorem ownRootTarget_settles {r : SessionId} {w w₁ w₂ : World} {t : TargetId}
    (h : r.ownRootTarget.run w = (.ok (some t), w₁)) (same : w₂.session r = w₁.session r) :
    r.ownRootTarget.run w₂ = (.ok (some t), w₂) := by
  have of_session : ((w₁.session r).config.rootTarget = some t ∨
      (w₁.session r).config.rootTarget = none ∧ (w₁.session r).synthesized = some t) →
        r.ownRootTarget.run w₂ = (.ok (some t), w₂) := by
    intro hv
    unfold ownRootTarget state
    rw [Action.run_bind]
    dsimp only [Action.run_reads]
    rw [same]
    rcases hv with configured | ⟨missing, made⟩
    · rw [configured]
      rfl
    · rw [missing, made]
      rfl
  unfold ownRootTarget state at h
  rw [Action.run_bind] at h
  dsimp only [Action.run_reads] at h
  split at h
  · next configured =>
    cases h
    exact of_session (Or.inl configured)
  · next missing made =>
    cases h
    exact of_session (Or.inr ⟨missing, made⟩)
  · next factory missing _ provided =>
    obtain ⟨targets, targetNames, rootFactories, call, called⟩ := World.callRootFactory_eq factory w
    unfold synthesizeRoot at h
    rw [Action.run_bind] at h
    cases hc : (World.callRootFactory factory).run w with
    | mk res w' =>
    rw [hc] at h called
    dsimp only at called
    cases res with
    | error e => cases h
    | ok answer =>
    cases answer with
    | none => cases h
    | some made =>
    -- a session with a factory is there
    have there : r.index < w.sessions.size := by
      rcases Nat.lt_or_ge r.index w.sessions.size with there | gone
      · exact there
      · rw [w.session_of_size_le gone] at provided
        cases provided
    cases h
    subst called
    let told := { w with
      targets, targetNames, rootFactories, log := w.log.push (.rootFactoryCalled call) }
    have filled := World.session_updateSession_self
      (told.write (.event (.rootSynthesized r t))) ({ · with synthesized := some t }) there
    exact of_session (Or.inr ⟨(congrArg (·.config.rootTarget) filled).trans missing,
      congrArg Session.synthesized filled⟩)
  · cases h

theorem enclosing_settles {r : SessionId} {w w₁ w₂ : World} {t : TargetId}
    (h : r.enclosing.run w = (.ok (some t), w₁)) (same : w₂.session r = w₁.session r) :
    r.enclosing.run w₂ = (.ok (some t), w₂) := by
  have frame := (Action.quiet_enclosing r w).frame r
  rw [h] at frame
  rw [run_enclosing] at h ⊢
  rw [same, frame]
  cases hf : (w.session r).frame.target with
  | some u =>
    rw [hf] at h
    cases h
    rfl
  | none =>
    rw [hf] at h
    exact ownRootTarget_settles h same

/--
**Once a target is established, every call finds it**, under any name, for as long as the sessions stay
as they are and the root is there.
-/
theorem receiver_settles {s : SessionId} {name : String} {w w₁ w₂ : World} {t : TargetId}
    (h : (s.receiver name).run w = (.ok t, w₁)) (again : String) (same : w₂.sessions = w₁.sessions)
    (there : w₂.rootOf? s = w₁.rootOf? s) : (s.receiver again).run w₂ = (.ok t, w₂) := by
  unfold receiver at h ⊢
  rw [Action.run_bind] at h ⊢
  dsimp only [Action.run_read] at h ⊢
  cases hr : w.rootOf? s with
  | none =>
    rw [hr] at h
    cases h
  | some root =>
    rw [hr] at h
    dsimp only at h
    rw [Action.run_bind] at h
    cases he : root.enclosing.run w with
    | mk res w' =>
    rw [he] at h
    cases res with
    | error e => cases h
    | ok enclosed =>
    cases enclosed with
    | none => cases h
    | some u =>
    cases h
    have kept := root.rootOf?_enclosing w s
    rw [he] at kept
    rw [there, kept, hr]
    dsimp only
    rw [Action.run_bind, enclosing_settles he (congrArg (Arena.get · root.index) same)]
    rfl

end SessionId

/-! ## Candidates -/

/-- How a call can be carried out. -/
inductive Way where
  /-- As an operation of the provider. -/
  | provider (name : String) (args : List Value) (isLongForm : Bool)
  /-- As a selector of the target. -/
  | target (convention : Convention) (selector : String) (args : List Value)
  /-- As a setter that the target takes without exposing it. -/
  | unexposed (setter : String) (args : List Value)

/-- A way to carry out a call, and the name that it goes by: the name of the call or its translation. -/
structure Candidate where
  name : String
  way : Way

namespace Candidate

/-- What is asked of the provider for a name: the long form, if the arguments fold, and the name. -/
def ofProvider (naming : Naming) (args : List Value) (name : String) : List Candidate :=
  ((LongForm.fold naming name args).map fun long =>
      ⟨name, .provider long.selector long.args true⟩).toList
    ++ [⟨name, .provider name args false⟩]

/-- What is asked of the target for a name, in a call with a block or without one. -/
def ofTarget (naming : Naming) (args : List Value) (withBlock : Bool) (name : String) :
    List Candidate :=
  let long := ((LongForm.fold naming name args).map fun long =>
    (⟨name, .target .longForm long.selector long.args⟩ : Candidate)).toList
  if withBlock then
    long
      ++ (if args.length = 1 then [⟨name, .target .combined (naming.selector name) args⟩] else [])
      ++ [⟨name, .target .combined name args⟩]
  else
    long
      ++ (if args.isEmpty then [⟨name, .target .probe name args⟩] else [])
      ++ [⟨name, .target .setter (naming.setter name) args⟩,
        ⟨name, .target .assignment (naming.assignment name) args⟩]
      ++ (if args.isEmpty then [] else [⟨name, .target .combined name args⟩])

/-- The setter that a target takes without exposing it, if it applies setters later. -/
def unexposedSetter (naming : Naming) (args : List Value) (withBlock : Bool) (t : Target)
    (name : String) : List Candidate :=
  if !withBlock && t.appliesDeferred then [⟨name, .unexposed (naming.setter name) args⟩] else []

/-- All that is asked of the target under one name. -/
def direct (naming : Naming) (args : List Value) (withBlock : Bool) (t : Target) (name : String) :
    List Candidate :=
  ofTarget naming args withBlock name ++ unexposedSetter naming args withBlock t name

/-- The candidates under one name. -/
def underName (naming : Naming) (args : List Value) (withBlock : Bool) (t : Target) (name : String) :
    List Candidate :=
  ofProvider naming args name ++ direct naming args withBlock t name

/-- All candidates of a call, in the order in which they are tried. -/
def all (naming : Naming) (args : List Value) (withBlock : Bool) (t : Target) (name : String) :
    List Candidate :=
  underName naming args withBlock t name
    ++ (if naming.isWordSeparated name then
        ofProvider naming args (naming.translate name)
          ++ ofTarget naming args withBlock (naming.translate name)
      else [])

/-- Whether the provider offers the candidate or the target exposes it for the number of arguments. -/
def isOffered (provider : Option Provider) (t : Target) (c : Candidate) : Bool :=
  match c.way with
  | .provider name _ _ => provider.any (·.offers name)
  | .target _ selector args => t.respondsTo selector args.length
  | .unexposed _ _ => true

/-- Reports that the call is tried again, if the candidate goes by another name. -/
def announce (called name : String) : Action World Unit :=
  if name = called then pure () else World.report (.retrying called name)

/-- Carries the candidate out. -/
def perform (R : Runner) (s : SessionId) (provider : Option ProviderId) (t : TargetId)
    (block : Option Task) (c : Candidate) : Action World Value :=
  match c.way, block with
  | .provider name args isLongForm, _ =>
    match provider with
    | some p => do
      World.report (if isLongForm then .providerLongForm name else .providerMethod name)
      Capability.invoke R p name args block
    | none => .fail (.undefinedMethod c.name)
  | .target _ selector args, some task => do
    let answer ← World.send t selector args
    s.enterAnswer R selector answer task
  | .target convention selector args, none => do
    World.report (.resolved convention selector)
    World.send t selector args
  | .unexposed setter args, _ => do
    World.report (.resolved .unexposedSetter setter)
    World.send t setter args

/-- What a call comes to that no candidate serves, under the last name that it was tried by. -/
def refuse (naming : Naming) (t : TargetId) (args : List Value) (block : Option Task)
    (name : String) : Action World Value :=
  match block with
  | some _ => do
    let type := ((← .read).target t).type.name
    .fail (.apply name type)
  | none => do
    World.report (.unmatched (naming.setter name) t)
    World.send t (naming.setter name) args

theorem announce_self (name : String) : announce name name = pure () := if_pos rfl

theorem announce_of_ne {called name : String} (h : name ≠ called) :
    announce called name = World.report (.retrying called name) := if_neg h

/-! ## Candidates of the provider and of the target -/

/-- The candidate for an operation of the provider. -/
def ofCall (name : String) (call : ProviderCall) : Candidate :=
  ⟨name, .provider call.name call.args call.isLongForm⟩

/-- The candidate for a spelling of the call. -/
def ofSpelling (name : String) (spelling : Spelling) : Candidate :=
  ⟨name, .target spelling.convention spelling.selector spelling.args⟩

theorem find_ofProvider (naming : Naming) (args : List Value) (name : String)
    (provider : Option ProviderId) (w : World) (t : Target) :
    (ofProvider naming args name).find? (isOffered (provider.map w.provider) t) =
      (provider.bind fun p =>
        ProviderCall.choose p (w.provider p) (LongForm.fold naming name args) name args).map
          (ofCall name) := by
  unfold ofProvider
  cases provider with
  | none => cases LongForm.fold naming name args <;> rfl
  | some p =>
    have offered : ∀ selector args isLongForm,
        isOffered (some (w.provider p)) t ⟨name, .provider selector args isLongForm⟩ =
          (w.provider p).offers selector := fun _ _ _ => rfl
    rw [Option.map_some, Option.bind_some]
    cases LongForm.fold naming name args with
    | none =>
      simp only [Option.map_none, Option.toList_none, List.nil_append, List.find?_cons, offered,
        List.find?_nil, ProviderCall.choose, Option.filter_none]
      cases (w.provider p).offers name <;> rfl
    | some long =>
      simp only [Option.map_some, Option.toList_some, List.cons_append, List.nil_append,
        List.find?_cons, offered, List.find?_nil, ProviderCall.choose, Option.filter_some]
      cases (w.provider p).offers long.selector <;> cases (w.provider p).offers name <;> rfl

theorem ofTarget_eq (naming : Naming) (args : List Value) (withBlock : Bool) (name : String) :
    ofTarget naming args withBlock name =
      (if withBlock then Spelling.switching naming name args
        else Spelling.plain naming name args).map (ofSpelling name) := by
  unfold ofTarget Spelling.switching Spelling.plain
  cases LongForm.fold naming name args <;> cases withBlock <;>
    rcases args with _ | ⟨first, _ | ⟨second, rest⟩⟩ <;> simp [ofSpelling, Spelling.ofLongForm]

theorem name_of_mem_ofProvider {naming : Naming} {args : List Value} {name : String} {c : Candidate}
    (h : c ∈ ofProvider naming args name) : c.name = name := by
  rcases List.mem_append.mp h with h | h
  · obtain ⟨long, _, rfl⟩ := Option.map_eq_some_iff.mp (Option.mem_toList.mp h)
    rfl
  · rw [List.mem_singleton.mp h]

theorem name_of_mem_ofTarget {naming : Naming} {args : List Value} {withBlock : Bool} {name : String}
    {c : Candidate} (h : c ∈ ofTarget naming args withBlock name) : c.name = name := by
  rw [ofTarget_eq] at h
  obtain ⟨spelling, _, rfl⟩ := List.mem_map.mp h
  rfl

theorem name_of_mem_underName {naming : Naming} {args : List Value} {withBlock : Bool} {t : Target}
    {name : String} {c : Candidate} (h : c ∈ underName naming args withBlock t name) :
    c.name = name := by
  rcases List.mem_append.mp h with h | h
  · exact name_of_mem_ofProvider h
  · rcases List.mem_append.mp h with h | h
    · exact name_of_mem_ofTarget h
    · unfold unexposedSetter at h
      split at h
      · rw [List.mem_singleton.mp h]
      · cases h

theorem find_ofTarget (naming : Naming) (args : List Value) (withBlock : Bool) (name : String)
    (provider : Option Provider) (t : Target) :
    (ofTarget naming args withBlock name).find? (isOffered provider t) =
      (Spelling.choose t (if withBlock then Spelling.switching naming name args
        else Spelling.plain naming name args)).map (ofSpelling name) := by
  rw [ofTarget_eq, List.find?_map]
  rfl

/-- Where nothing under one name is offered, no setter is taken without being exposed. -/
theorem underName_of_find_none {naming : Naming} {args : List Value} {withBlock : Bool} {t : Target}
    {name : String} {provider : Option Provider} (other : String)
    (h : (underName naming args withBlock t name).find? (isOffered provider t) = none) :
    underName naming args withBlock t other =
      ofProvider naming args other ++ ofTarget naming args withBlock other := by
  have silent : (!withBlock && t.appliesDeferred) = false := by
    refine Bool.eq_false_iff.mpr fun applies => ?_
    have taken : (⟨name, .unexposed (naming.setter name) args⟩ : Candidate) ∈
        underName naming args withBlock t name := by
      unfold underName direct unexposedSetter
      simp [applies]
    exact List.find?_eq_none.mp h _ taken rfl
  unfold underName direct unexposedSetter
  simp [silent]

end Candidate

/-! ## One round -/

namespace Naming

/-- The last name that a call is tried by. -/
def lastName (naming : Naming) (name : String) : String :=
  if naming.isWordSeparated name then naming.translate name else name

theorem translation?_eq_none {naming : Naming} {name : String}
    (h : naming.isWordSeparated name = false) : naming.translation? name = none := by
  unfold translation?
  rw [h]
  rfl

/-- A translation that is not word-separated is another name than one that is. -/
theorem translation?_eq_some {naming : Naming} {name : String}
    (h : naming.isWordSeparated name = true) (once : naming.isWordSeparated (naming.translate name) = false) :
    naming.translation? name = some (naming.translate name) ∧ naming.translate name ≠ name := by
  have other : naming.translate name ≠ name := by
    intro same
    rw [same, h] at once
    cases once
  refine ⟨?_, other⟩
  unfold translation?
  rw [h, Bool.true_and, if_pos (bne_iff_ne.mpr other)]

end Naming

/-- The provider of the context that a session is in. -/
def World.providerOf? (w : World) (s : SessionId) : Option ProviderId :=
  (w.rootOf? s).bind fun root => (w.session root).frame.provider

namespace SessionId

open Candidate

variable {R : Runner} {s : SessionId}

theorem run_naming (s : SessionId) (w : World) :
    s.naming.run w = (.ok (w.session s).config.naming, w) := rfl

theorem run_retranslation (s : SessionId) (name : String) (w : World) :
    (s.retranslation name).run w =
      match (w.session s).config.naming.translation? name with
      | none => (.ok none, w)
      | some translated => (.ok (some translated), w.write (.event (.retrying name translated))) := by
  unfold retranslation
  rw [Action.run_bind, run_naming]
  dsimp only
  cases (w.session s).config.naming.translation? name <;> rfl

theorem provider_of_choose {p : ProviderId} {provider : Provider} {long : Option LongForm}
    {name : String} {args : List Value} {call : ProviderCall}
    (h : ProviderCall.choose p provider long name args = some call) : call.provider = p := by
  unfold ProviderCall.choose at h
  split at h
  · cases h
    rfl
  · split at h
    · cases h
      rfl
    · cases h

/-- A call with a block that the provider does not serve, as a search among the target's candidates. -/
theorem run_sendSwitching (again : String → Action World Value) (t : TargetId) (name : String)
    (args : List Value) (task : Task) (w : World) :
    (s.sendSwitching R again t name args task).run w =
      match (direct (w.session s).config.naming args true (w.target t) name).find?
          (isOffered ((w.providerOf? s).map w.provider) (w.target t)) with
      | some c => (c.perform R s (w.providerOf? s) t (some task)).run w
      | none =>
        match (w.session s).config.naming.translation? name with
        | some translated => (again translated).run (w.write (.event (.retrying name translated)))
        | none => (refuse (w.session s).config.naming t args (some task) name).run w := by
  unfold direct sendSwitching
  rw [List.find?_append, find_ofTarget, if_pos rfl, Action.run_bind, Action.run_read]
  dsimp only
  rw [Action.run_bind, run_naming]
  dsimp only
  cases Spelling.choose (w.target t) (Spelling.switching (w.session s).config.naming name args) with
  | some spelling => rfl
  | none =>
    dsimp only
    rw [Action.run_bind, run_retranslation]
    cases (w.session s).config.naming.translation? name <;> rfl

/-- The same for a call without a block. -/
theorem run_sendPlain (again : String → Action World Value) (t : TargetId) (name : String)
    (args : List Value) (w : World) :
    (s.sendPlain again t name args).run w =
      match (direct (w.session s).config.naming args false (w.target t) name).find?
          (isOffered ((w.providerOf? s).map w.provider) (w.target t)) with
      | some c => (c.perform R s (w.providerOf? s) t none).run w
      | none =>
        match (w.session s).config.naming.translation? name with
        | some translated => (again translated).run (w.write (.event (.retrying name translated)))
        | none => (refuse (w.session s).config.naming t args none name).run w := by
  unfold direct unexposedSetter sendPlain
  rw [List.find?_append, find_ofTarget, if_neg Bool.false_ne_true, Action.run_bind, Action.run_read]
  dsimp only
  rw [Action.run_bind, run_naming]
  dsimp only
  cases Spelling.choose (w.target t) (Spelling.plain (w.session s).config.naming name args) with
  | some spelling => rfl
  | none =>
    cases (w.target t).appliesDeferred with
    | true => rfl
    | false =>
      dsimp only
      rw [if_neg Bool.false_ne_true, Action.run_bind, run_retranslation]
      cases (w.session s).config.naming.translation? name <;> rfl

/-- Past the provider, a call is a search among what is asked of the target. -/
theorem run_resolveDirect (again : String → Action World Value) (t : TargetId) (name : String)
    (args : List Value) (block : Option Task) (w : World) :
    (s.resolveDirect R again t name args block).run w =
      match (direct (w.session s).config.naming args block.isSome (w.target t) name).find?
          (isOffered ((w.providerOf? s).map w.provider) (w.target t)) with
      | some c => (c.perform R s (w.providerOf? s) t block).run w
      | none =>
        match (w.session s).config.naming.translation? name with
        | some translated => (again translated).run (w.write (.event (.retrying name translated)))
        | none => (refuse (w.session s).config.naming t args block name).run w := by
  cases block with
  | some task => exact run_sendSwitching again t name args task w
  | none => exact run_sendPlain again t name args w

/-- A call goes to the provider for what it offers, and past it otherwise. -/
theorem run_resolveOnce_of_receiver {name : String} {w w₁ : World} {t : TargetId}
    (again : String → Action World Value) (args : List Value) (block : Option Task)
    (named : name ≠ "") (established : (s.receiver name).run w = (.ok t, w₁)) :
    (s.resolveOnce R again name args block).run w =
      match (w₁.providerOf? s).bind fun p => ProviderCall.choose p (w₁.provider p)
          (LongForm.fold (w₁.session s).config.naming name args) name args with
      | some call =>
        (Capability.invoke R call.provider call.name call.args block).run (w₁.write (.event call.event))
      | none => (s.resolveDirect R again t name args block).run w₁ := by
  have nonempty : ¬ name.isEmpty := by simpa using named
  have called : (s.providerCall name args).run w₁ =
      (.ok ((w₁.providerOf? s).bind fun p => ProviderCall.choose p (w₁.provider p)
        (LongForm.fold (w₁.session s).config.naming name args) name args), w₁) := rfl
  unfold resolveOnce
  rw [if_neg nonempty, Action.run_bind, established]
  dsimp only
  rw [Action.run_bind, called]
  dsimp only
  cases (w₁.providerOf? s).bind fun p => ProviderCall.choose p (w₁.provider p)
    (LongForm.fold (w₁.session s).config.naming name args) name args <;> rfl

/-- **One round**: the first candidate under a name is carried out, or the call moves on. -/
theorem run_resolveOnce {name : String} {w w₁ : World} {t : TargetId}
    (again : String → Action World Value) (args : List Value) (block : Option Task)
    (named : name ≠ "") (established : (s.receiver name).run w = (.ok t, w₁)) :
    (s.resolveOnce R again name args block).run w =
      match (underName (w₁.session s).config.naming args block.isSome (w₁.target t) name).find?
          (isOffered ((w₁.providerOf? s).map w₁.provider) (w₁.target t)) with
      | some c => (c.perform R s (w₁.providerOf? s) t block).run w₁
      | none =>
        match (w₁.session s).config.naming.translation? name with
        | some translated =>
          (again translated).run (w₁.write (.event (.retrying name translated)))
        | none => (refuse (w₁.session s).config.naming t args block name).run w₁ := by
  rw [run_resolveOnce_of_receiver again args block named established]
  unfold underName
  rw [List.find?_append, find_ofProvider]
  cases hcall : (w₁.providerOf? s).bind fun p => ProviderCall.choose p (w₁.provider p)
      (LongForm.fold (w₁.session s).config.naming name args) name args with
  | some call =>
    obtain ⟨p, hp, hchoose⟩ := Option.bind_eq_some_iff.mp hcall
    rw [hp, ← provider_of_choose hchoose]
    rfl
  | none => exact run_resolveDirect again t name args block w₁

/-- A name that is not word-separated is tried in one round only. -/
theorem run_applyWithin_of_not_separated {name : String} {w w₁ : World} {t : TargetId} (tries : Nat)
    (args : List Value) (block : Option Task) (named : name ≠ "")
    (established : (s.receiver name).run w = (.ok t, w₁))
    (final : (w₁.session s).config.naming.isWordSeparated name = false) :
    (s.applyWithin R args block (tries + 1) name).run w =
      match (underName (w₁.session s).config.naming args block.isSome (w₁.target t) name).find?
          (isOffered ((w₁.providerOf? s).map w₁.provider) (w₁.target t)) with
      | some c => (c.perform R s (w₁.providerOf? s) t block).run w₁
      | none => (refuse (w₁.session s).config.naming t args block name).run w₁ := by
  rw [applyWithin, run_resolveOnce _ args block named established, Naming.translation?_eq_none final]

end SessionId

/-! ## The search in two rounds -/

open Candidate

section

variable {R : Runner} {s : SessionId} {name : String} {args : List Value} {block : Option Task}
  {w w₁ : World} {t : TargetId}

/-- A candidate under the name of the call is carried out with nothing said before. -/
theorem run_announce_of_mem {c : Candidate} (p : Option ProviderId)
    (h : c ∈ underName (w.session s).config.naming args block.isSome (w.target t) name) :
    (announce name c.name >>= fun _ => c.perform R s p t block).run w =
      (c.perform R s p t block).run w := by
  rw [name_of_mem_underName h, announce_self]
  rfl

/-- **The second round** of a call, after a first one that found nothing, goes through what is left. -/
theorem run_applyWithin_translated {native : String} (tries : Nat) (named : native ≠ "")
    (other : native ≠ name) (established : (s.receiver name).run w = (.ok t, w₁))
    (final : (w₁.session s).config.naming.isWordSeparated native = false)
    (nothing : (underName (w₁.session s).config.naming args block.isSome (w₁.target t) name).find?
      (isOffered ((w₁.providerOf? s).map w₁.provider) (w₁.target t)) = none) :
    (s.applyWithin R args block (tries + 1) native).run
        (w₁.write (.event (.retrying name native))) =
      match (ofProvider (w₁.session s).config.naming args native
          ++ ofTarget (w₁.session s).config.naming args block.isSome native).find?
            (isOffered ((w₁.providerOf? s).map w₁.provider) (w₁.target t)) with
      | some c =>
        (announce name c.name >>= fun _ => c.perform R s (w₁.providerOf? s) t block).run w₁
      | none =>
        (announce name native >>= fun _ =>
          refuse (w₁.session s).config.naming t args block native).run w₁ := by
  have again : (s.receiver native).run (w₁.write (.event (.retrying name native))) =
      (.ok t, w₁.write (.event (.retrying name native))) :=
    SessionId.receiver_settles established native rfl rfl
  have second :=
    SessionId.run_applyWithin_of_not_separated (R := R) tries args block named again final
  have heard := announce_of_ne other
  rw [← underName_of_find_none native nothing]
  refine second.trans ?_
  show (match (underName (w₁.session s).config.naming args block.isSome (w₁.target t) native).find?
      (isOffered ((w₁.providerOf? s).map w₁.provider) (w₁.target t)) with
    | some c => (c.perform R s (w₁.providerOf? s) t block).run _
    | none => (refuse (w₁.session s).config.naming t args block native).run _) = _
  rcases hnative : (underName (w₁.session s).config.naming args block.isSome (w₁.target t)
      native).find? (isOffered ((w₁.providerOf? s).map w₁.provider) (w₁.target t)) with _ | c
  · rw [heard]
    rfl
  · have own : c.name = native := name_of_mem_underName (List.mem_of_find?_eq_some hnative)
    dsimp only
    rw [own, heard]
    rfl

end

/--
**Resolving a call is one flat ordered search.** With a target established and a convention that never
translates into a word-separated name, a call carries out the first of its candidates that the provider
offers or the target exposes: what is asked of the provider for the name, what is asked of the target,
the setter that the target takes without exposing it, and then the same of provider and target for the
translated name. If there is none, the call is refused under the last name. The bound on repeated steps
has to leave room for two rounds, which is all that a call needs.
-/
theorem apply_flat_search {R : Runner} {s : SessionId} {name : String} {args : List Value}
    {block : Option Task} {w w₁ : World} {t : TargetId} (bound : 2 ≤ R.fuel) (named : name ≠ "")
    (established : (s.receiver name).run w = (.ok t, w₁))
    (once : ∀ n, (w₁.session s).config.naming.isWordSeparated
      ((w₁.session s).config.naming.translate n) = false)
    (translated : (w₁.session s).config.naming.isWordSeparated name →
      (w₁.session s).config.naming.translate name ≠ "") :
    let naming := (w₁.session s).config.naming
    let provider := w₁.providerOf? s
    (s.apply R name args block).run w =
      match (Candidate.all naming args block.isSome (w₁.target t) name).find?
          (isOffered (provider.map w₁.provider) (w₁.target t)) with
      | some c => (announce name c.name >>= fun _ => c.perform R s provider t block).run w₁
      | none =>
        (announce name (naming.lastName name) >>= fun _ =>
          refuse naming t args block (naming.lastName name)).run w₁ := by
  obtain ⟨tries, htries⟩ := Nat.exists_eq_add_of_le bound
  unfold SessionId.apply Candidate.all Naming.lastName
  rw [htries, Nat.add_comm]
  dsimp only
  rw [List.find?_append]
  cases hsep : (w₁.session s).config.naming.isWordSeparated name with
  | false =>
    rw [SessionId.run_applyWithin_of_not_separated _ args block named established hsep]
    simp only [Bool.false_eq_true, if_false, List.find?_nil, Option.or_none]
    rcases hfirst : (underName (w₁.session s).config.naming args block.isSome (w₁.target t)
        name).find? (isOffered ((w₁.providerOf? s).map w₁.provider) (w₁.target t)) with _ | c
    · dsimp only
      rw [announce_self]
      rfl
    · exact (run_announce_of_mem _ (List.mem_of_find?_eq_some hfirst)).symm
  | true =>
    obtain ⟨htrans, other⟩ := Naming.translation?_eq_some hsep (once name)
    simp only [if_true]
    rw [SessionId.applyWithin, SessionId.run_resolveOnce _ args block named established, htrans]
    rcases hfirst : (underName (w₁.session s).config.naming args block.isSome (w₁.target t)
        name).find? (isOffered ((w₁.providerOf? s).map w₁.provider) (w₁.target t)) with _ | c
    -- the candidates under the name are used up, those under the translation are left
    · rw [Option.none_or]
      exact run_applyWithin_translated tries (translated hsep) other established (once name) hfirst
    · rw [Option.some_or]
      exact (run_announce_of_mem _ (List.mem_of_find?_eq_some hfirst)).symm

/-! ## Two calls -/

/-- A world with a target of a class, and a root session that has it as its root target. -/
def rootedWorld (c : TargetClass) : World :=
  let made := (World.empty .empty).addTarget
    (World.instantiate c (.catalogue c.type.name) "a" c.initial)
  ((World.openRoot { (default : Config) with rootTarget := some made.1 }).run made.2).2

theorem receiver_rootedWorld (c : TargetClass) (name : String) :
    ((⟨0⟩ : SessionId).receiver name).run (rootedWorld c) = (.ok ⟨0⟩, rootedWorld c) := rfl

/--
Without the setter that is taken unexposed, the list would not be what a call goes through: here all that
is exposed is the probe under the translated name, and the call does not come to it.
-/
theorem apply_unexposed_setter_first :
    let s : SessionId := ⟨0⟩
    let w := rootedWorld Catalogue.buttonAppearance
    let naming := (w.session s).config.naming
    let probe : Candidate := ⟨"tintColor", .target .probe "tintColor" []⟩
    (∀ n, naming.isWordSeparated (naming.translate n) = false) ∧
      naming.isWordSeparated "tint_color" ∧ naming.translate "tint_color" = "tintColor" ∧
      (s.receiver "tint_color").run w = (.ok ⟨0⟩, w) ∧ w.providerOf? s = none ∧
      (ofProvider naming [] "tint_color" ++ ofTarget naming [] false "tint_color"
          ++ ofProvider naming [] "tintColor" ++ ofTarget naming [] false "tintColor").find?
        (isOffered none (w.target ⟨0⟩)) = some probe ∧
      (s.apply (runner 2) "tint_color" [] none).run w ≠
        (announce "tint_color" probe.name >>= fun _ =>
          probe.perform (runner 2) s none ⟨0⟩ none).run w := by
  intro s w naming probe
  have exposed : (["tint_color", "setTint_color", "tint_color=", "tintColor"].map
      ((w.target ⟨0⟩).respondsTo · 0)) = [false, false, false, true] := by decide +kernel
  have setter : naming.setter "tint_color" = "setTint_color" := by decide +kernel
  have assignment : naming.assignment "tint_color" = "tint_color=" := by decide +kernel
  refine ⟨Naming.isWordSeparated_translate_camelCased, by decide +kernel, by decide +kernel,
    receiver_rootedWorld _ _, rfl, ?_, ?_⟩
  · simp only [List.map_cons, List.map_nil, List.cons.injEq] at exposed
    obtain ⟨plain, set, assigned, native, -⟩ := exposed
    simp only [ofProvider, ofTarget, LongForm.fold, isOffered, List.find?_cons, Option.map_none,
      Option.toList_none, List.nil_append, List.cons_append, List.isEmpty_nil, if_true, if_false,
      List.append_nil, Option.any_none, setter, assignment, List.length_nil, plain, set, assigned, native,
      Bool.false_eq_true]
    rfl
  · intro same
    have ends := congrArg (·.1.toOption.isSome) same
    revert ends
    decide +kernel

/-- A class that exposes one selector without arguments. -/
def roundedClass : TargetClass :=
  { Catalogue.spacer with interface := .constants (.ofList [("cornerRadius", .nil)]) }

theorem apply_flat_search_corner_radius :
    let s : SessionId := ⟨0⟩
    let w := rootedWorld roundedClass
    let probe : Candidate := ⟨"cornerRadius", .target .probe "cornerRadius" []⟩
    (s.apply (runner 2) "corner_radius" [] none).run w =
      (World.report (.retrying "corner_radius" "cornerRadius") >>= fun _ =>
        probe.perform (runner 2) s none ⟨0⟩ none).run w := by
  intro s w probe
  have search := @apply_flat_search (runner 2) s "corner_radius" [] none w w ⟨0⟩ (by decide)
    (by decide) (receiver_rootedWorld _ _) Naming.isWordSeparated_translate_camelCased fun _ => by
      decide +kernel
  have exposed : (["corner_radius", "setCorner_radius", "corner_radius=", "cornerRadius"].map
      ((w.target ⟨0⟩).respondsTo · 0)) = [false, false, false, true] := by decide +kernel
  have setter : (w.session s).config.naming.setter "corner_radius" = "setCorner_radius" := by
    decide +kernel
  have assignment : (w.session s).config.naming.assignment "corner_radius" = "corner_radius=" := by
    decide +kernel
  have separated : (w.session s).config.naming.isWordSeparated "corner_radius" = true := by
    decide +kernel
  have native : (w.session s).config.naming.translate "corner_radius" = "cornerRadius" := by
    decide +kernel
  have immediate : (w.target ⟨0⟩).appliesDeferred = false := by decide +kernel
  simp only [List.map_cons, List.map_nil, List.cons.injEq] at exposed
  obtain ⟨plain, set, assigned, probed, -⟩ := exposed
  have found : (Candidate.all (w.session s).config.naming [] (none : Option Task).isSome (w.target ⟨0⟩)
      "corner_radius").find? (isOffered ((w.providerOf? s).map w.provider) (w.target ⟨0⟩)) =
        some probe := by
    show (Candidate.all (w.session s).config.naming [] false (w.target ⟨0⟩) "corner_radius").find?
      (isOffered none (w.target ⟨0⟩)) = some probe
    simp only [Candidate.all, underName, direct, unexposedSetter, ofProvider, ofTarget, LongForm.fold,
      isOffered, List.find?_cons, Option.map_none, Option.toList_none, List.nil_append,
      List.cons_append, List.isEmpty_nil, if_true, if_false, List.append_nil, Option.any_none, setter,
      assignment, List.length_nil, plain, set, assigned, probed, separated, native, immediate,
      Bool.false_eq_true, Bool.and_false]
    rfl
  dsimp only at search
  rw [found] at search
  exact search

end TargetBuilder
