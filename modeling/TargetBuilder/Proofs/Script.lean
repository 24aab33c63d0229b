import TargetBuilder.Proofs.Thrifty

/-!
# Scripts are thrifty

Every verb of a script is made of the operations of sessions that are there, one lemma for each group of
verbs. Tasks nest to a depth that the fuel bounds, so what programs keep, tasks keep at any depth.

* `Script.thrifty_runTask`: what a task does on a session that is there is thrifty code.
* `Script.keeps_exec`: tasks keep every discipline.
* `Script.keeps_program`: so does every program that runs such tasks.
* `Script.keeps_orderly`: orderly code that runs tasks keeps every regime.
-/

namespace TargetBuilder

open World (Calm Idle)

namespace Script

variable {R : Runner} {S T : List SessionId} (env : Env) {s : SessionId} (hs : s ∈ S)

/-! ## Operands -/

theorem thrifty_eval (e : Expr) : Thrifty R S T (eval env e) := .reads _

theorem thrifty_evalTarget (e : Expr) : Thrifty R S T (evalTarget env e) :=
  .bind (thrifty_eval env e) fun _ => .pure _

theorem thrifty_evalArgs (args : Args) : Thrifty R S T (evalArgs env args) := by
  cases args with
  | received => exact .pure _
  | given items => exact .reads _

theorem thrifty_evalRequest (e : Expr) : Thrifty R S T (evalRequest env e) :=
  .bind (thrifty_eval env e) fun _ => .pure _

theorem thrifty_takeReceived : Thrifty R S T (takeReceived env) := by
  unfold takeReceived
  split
  · exact .pure _
  · refine .bind .read fun w => .bind (.idle fun w => ?_) fun _ => .pure _
    exact .of_log_eq ⟨Calm.of_stores_eq rfl rfl rfl rfl rfl, rfl, rfl, rfl⟩ rfl

theorem thrifty_takeBlock (block : Block) : Thrifty R S T (takeBlock env block) := by
  cases block with
  | absent => exact .pure _
  | received => exact thrifty_takeReceived env
  | given body => exact .pure _

include hs in
theorem thrifty_performBlock (block : Option Task) : Thrifty R S T (performBlock R block s) := by
  cases block with
  | none => exact .pure _
  | some task => exact .perform task hs

include hs in
theorem thrifty_blockValue (block : Block) : Thrifty R S T (blockValue R env s block) := by
  have taken : ∀ b : Block, Thrifty R S T (do
      performBlock R (← takeBlock env b) s
      pure Value.nil) := fun b =>
    .bind (thrifty_takeBlock env b) fun task => .bind (thrifty_performBlock hs task) fun _ => .pure _
  cases block with
  | absent => exact taken _
  | received => exact taken _
  | given body => exact .exec _ hs

include hs in
theorem thrifty_repeatBlock (block : Block) :
    ∀ times, Thrifty R S T (repeatBlock R env s block times)
  | 0 => .pure _
  | times + 1 => .bind (thrifty_takeBlock env block) fun task =>
      .bind (thrifty_performBlock hs task) fun _ => thrifty_repeatBlock block times

theorem thrifty_withTarget (e : Expr) {f : TargetId → Action World Value}
    (hf : ∀ t, Thrifty R S T (f t)) : Thrifty R S T (withTarget env e f) := by
  refine .bind (thrifty_evalTarget env e) fun t => ?_
  cases t with
  | none => exact .pure _
  | some t => exact hf t

/-! ## Sessions by name -/

theorem thrifty_registryNamed (name : String) :
    Thrifty R S T (Action.adding (World.registryNamed · name)) :=
  .idle fun w => Idle.registryNamed w name

theorem thrifty_configure (c : ConfigSpec) : Thrifty R S T (configure c) := by
  have registered : Thrifty R S T (Action.adding World.addRegistry) := .idle Idle.addRegistry
  have hooked : ∀ f : RootFactorySpec,
      Thrifty R S T (Action.adding (World.addRootFactory · f.answer)) :=
    fun f => .idle fun w => Idle.addRootFactory w f.answer
  obtain ⟨naming, root, factory, lookup, registry, maxPasses⟩ := c
  unfold configure
  cases factory with
  | none =>
    cases registry with
    | none => exact .bind registered fun _ => .bind (.pure _) fun _ => .bind .read fun _ => .pure _
    | some name =>
      exact .bind (thrifty_registryNamed name) fun _ => .bind (.pure _) fun _ =>
        .bind .read fun _ => .pure _
  | some f =>
    cases registry with
    | none =>
      exact .bind registered fun _ => .bind (hooked f) fun _ => .bind (.pure _) fun _ =>
        .bind .read fun _ => .pure _
    | some name =>
      exact .bind (thrifty_registryNamed name) fun _ => .bind (hooked f) fun _ =>
        .bind (.pure _) fun _ => .bind .read fun _ => .pure _

theorem thrifty_openNamed (name : String) (config : Config) : Thrifty R S T (openNamed name config) :=
  .openRoot config fun _ => .keep name List.mem_cons_self

/-! ## What the verbs do -/

theorem thrifty_nest (places : List Expr) (block : Option Task) :
    ∀ (depth : Nat) {S T : List SessionId} {s : SessionId}, s ∈ S →
      Thrifty R S T (nest R env places block depth s)
  | 0, _, _, _, hs => thrifty_performBlock hs block
  | depth + 1, _, _, _, hs => .bind (thrifty_evalRequest env _) fun request =>
      .bind (.enter request hs fun _ => thrifty_nest places block depth List.mem_cons_self) fun _ =>
        .pure _

include hs in
theorem thrifty_gate (stage : Lifecycle) (block : Block) : Thrifty R S T (gate R env s stage block) := by
  unfold gate
  refine .bind (thrifty_takeBlock env block) fun task => ?_
  refine .bind (.idle (Action.idle_lifecycle s)) fun now => ?_
  split
  · exact .bind (thrifty_performBlock hs task) fun _ => .pure _
  · exact .pure _

include hs in
theorem thrifty_identity : Thrifty R S T (identity s) :=
  .root hs fun _ => .bind (.reads _) fun _ => .pure _

theorem thrifty_describe (s : SessionId) (subject : Subject) : Thrifty R S T (describe env s subject) := by
  cases subject with
  | session => exact .reads _
  | config => exact .reads _
  | parent => exact .bind (.idle (Action.idle_rootState s)) fun _ => .reads _
  | lifecycle => exact .bind (.idle (Action.idle_lifecycle s)) fun _ => .pure _
  | target e =>
    refine .bind (thrifty_evalTarget env e) fun t => ?_
    cases t with
    | none => exact .pure _
    | some t => exact .reads _
  | base e =>
    refine .bind (thrifty_evalTarget env e) fun t => ?_
    cases t with
    | none => exact .pure _
    | some t => exact .reads _
  | context e =>
    cases e with
    | none => exact .pure _
    | some e => exact .bind (thrifty_evalRequest env e) fun _ => .reads _
  | provider number => exact .reads _

theorem thrifty_hold (t : TargetId) (name : String) {x : Action World Value} (hx : Thrifty R S T x) :
    Thrifty R S T (hold t name x) := by
  rw [hold_eq]
  exact .marking t name (.bind (.emit (fun _ => rfl) rfl) fun _ => hx)
    (.bind (.emit (fun _ => rfl) rfl) fun _ => hx)

include hs in
theorem thrifty_providerFor (t : TargetId) : Thrifty R S T (providerFor R s t) :=
  .root hs fun root => .holding root (.provide t List.mem_cons_self)

include hs in
theorem thrifty_providerInvoke (t : TargetId) (name : String) (args : Args) (block : Block) :
    Thrifty R S T (providerInvoke R env s t name args block) := by
  refine .root hs fun root => .holding root ?_
  refine .bind (thrifty_providerFor (List.mem_cons_of_mem _ hs) t) fun p => ?_
  cases p with
  | none => exact .pure _
  | some p =>
    refine .bind .read fun w => .bind (.emit (fun _ => rfl) rfl) fun _ => ?_
    exact .bind (thrifty_evalArgs env args) fun _ => .bind (thrifty_takeBlock env block) fun _ =>
      .invoke p name _ _

include hs in
theorem thrifty_runChain (times : Option Nat) : Thrifty R S T (runChain s times) := by
  refine .bind (.emit (fun _ => rfl) rfl) fun _ => ?_
  split
  · exact .pure _
  · exact .schedule _ _ hs
  · exact .schedule _ _ hs

theorem thrifty_rescue {x : Action World Value} (hx : Thrifty R S T x) : Thrifty R S T (do
    match ← Action.capture x with
    | .error .unwound => pure (.text "panicked")
    | result => .ofResult result) := by
  refine .bind (.capture hx) fun r => ?_
  split
  · exact .pure _
  · exact .ofResult _

include hs in
/-- Every verb is made of what thrifty code is made of. -/
theorem thrifty_perform (verb : Verb) : Thrifty R S T (perform R env s verb) := by
  cases verb with
  | apply name args block =>
    exact .bind (thrifty_evalArgs env args) fun _ => .bind (thrifty_takeBlock env block) fun _ =>
      .apply hs name _ _
  | guarded name args block =>
    exact .bind (thrifty_evalArgs env args) fun _ => .bind (thrifty_takeBlock env block) fun _ =>
      .guardedApply hs name _ _
  | call name args => exact .bind (thrifty_evalArgs env args) fun _ => .call hs name _ _
  | callWith name args block =>
    exact .bind (thrifty_takeBlock env block) fun _ => .bind (thrifty_evalArgs env args) fun _ =>
      .call hs name _ _
  | enter place block =>
    exact .bind (thrifty_evalRequest env place) fun request =>
      .bind (thrifty_takeBlock env block) fun task =>
        .bind (.enter request hs fun _ => thrifty_performBlock List.mem_cons_self task) fun _ =>
          .pure _
  | context place =>
    exact .bind (thrifty_evalRequest env place) fun request =>
      .bind (.context hs request) fun _ => .pure _
  | nest places depth block =>
    exact .bind (thrifty_takeBlock env block) fun task =>
      .bind (thrifty_nest env places task depth hs) fun _ => .pure _
  | defer place block =>
    have later : ∀ request, Thrifty R S T (do
        s.schedule request (← takeBlock env block)
        pure Value.nil) := fun request =>
      .bind (thrifty_takeBlock env block) fun _ => .bind (.schedule _ _ hs) fun _ => .pure _
    cases place with
    | none => exact .bind (.pure _) later
    | some e => exact .bind (thrifty_evalRequest env e) fun _ => .bind (.pure _) later
  | deferOn place block =>
    exact .bind (thrifty_evalRequest env place) fun _ => .bind (thrifty_takeBlock env block) fun _ =>
      .bind (.schedule _ _ hs) fun _ => .pure _
  | reschedule times => exact .bind (.schedule _ _ hs) fun _ => .pure _
  | initial block => exact thrifty_gate env hs .initial block
  | reapply block => exact thrifty_gate env hs .active block
  | always block =>
    exact .bind (thrifty_takeBlock env block) fun task =>
      .bind (thrifty_performBlock hs task) fun _ => .pure _
  | run block => exact thrifty_blockValue env hs block
  | loop block times =>
    exact .bind (thrifty_repeatBlock env hs block times) fun _ => .pure _
  | rescue block => exact thrifty_rescue (thrifty_blockValue env hs block)
  | log text => exact .bind (.emit (fun _ => rfl) rfl) fun _ => .pure _
  | value e => exact thrifty_eval env e
  | raise fault => exact .fail fault
  | panic => exact .stop .unwound
  | state =>
    exact .bind (.sessionReport hs) fun _ =>
      .bind (.emit (fun _ => rfl) rfl) fun _ => .pure _
  | rootTarget =>
    refine .bind (.rootTarget hs) fun t => ?_
    cases t with
    | none => exact .pure _
    | some t => exact .pure _
  | identity => exact thrifty_identity hs
  | describe subject =>
    cases subject with
    | none => exact .pure _
    | some subject => exact .bind (thrifty_describe env s subject) fun _ => .pure _
  | send e name args =>
    exact thrifty_withTarget env e fun t => .bind (thrifty_evalArgs env args) fun _ => .send t name _
  | exposes e name count =>
    exact thrifty_withTarget env e fun t => .bind .read fun _ =>
      .bind (.emit (fun _ => rfl) rfl) fun _ => .pure _
  | cast e name => exact thrifty_withTarget env e fun t => .bind .read fun _ => .pure _
  | inFlight e name => exact thrifty_withTarget env e fun t => .bind .read fun _ => .pure _
  | hold e name block =>
    exact thrifty_withTarget env e fun t => thrifty_hold t name (thrifty_blockValue env hs block)
  | session name config =>
    exact .bind (thrifty_configure config) fun c => .bind (thrifty_openNamed name c) fun _ => .pure _
  | withConfig name =>
    exact .bind (.reads _) fun _ => .bind (thrifty_openNamed name _) fun _ => .pure _
  | child name =>
    exact .root hs fun _ => .openChild List.mem_cons_self fun _ =>
      .bind (.keep name List.mem_cons_self) fun _ => .pure _
  | drop name => exact .bind (.forget name) fun _ => .pure _
  | sameSession name => exact .bind .read fun _ => .pure _
  | register type methods setup registry =>
    exact .bind (.idle (Action.idle_register s _ registry)) fun _ => .pure _
  | registry name => exact .bind .read fun _ => .pure _
  | providerFor e =>
    refine thrifty_withTarget env e fun t => .bind (thrifty_providerFor hs t) fun p => ?_
    cases p with
    | none => exact .pure _
    | some p => exact .pure _
  | providerInvoke e name args block =>
    exact thrifty_withTarget env e fun t => thrifty_providerInvoke env hs t name args block

/-! ## Statements and tasks -/

theorem thrifty_conclude (st : Statement) {x : Action World Value} (hx : Thrifty R S T x) :
    Thrifty R S T (conclude st x) := by
  refine .bind (.capture hx) fun r => ?_
  split
  · exact .bind (.emit (fun _ => rfl) rfl) fun _ => .pure _
  · refine .bind (.emit (fun _ => rfl) rfl) fun _ => ?_
    split
    · exact .pure _
    · exact .fail _
  · exact .stop _

theorem runOn_eq (R : Runner) (env : Env) (name : String) (st : Statement) :
    runOn R env name st = Action.reads (·.handles.get? name) >>= fun found =>
      match found with
      | some s => World.holding s (conclude st (perform R env s st.verb))
      | none => World.emit (.sessionMissing st.verb.word) >>= fun _ => .fail .noContext := rfl

theorem thrifty_runOn (name : String) (st : Statement) : Thrifty R S T (runOn R env name st) := by
  rw [runOn_eq]
  refine .lookingUp name ?_ fun s => ?_
  · exact .bind (.emit (fun _ => rfl) rfl) fun _ => .fail _
  · exact .holding _ (thrifty_conclude st (thrifty_perform env List.mem_cons_self st.verb))

include hs in
theorem thrifty_runStatement (st : Statement) : Thrifty R S T (runStatement R env s st) := by
  unfold runStatement
  split
  · exact thrifty_runOn env _ st
  · exact thrifty_conclude st (thrifty_perform env hs st.verb)

include hs in
theorem thrifty_runBody :
    ∀ (body : List Statement) (last : Value), Thrifty R S T (runBody R env s last body)
  | [], last => .pure last
  | st :: rest, _ => .bind (thrifty_runStatement env hs st) fun v => thrifty_runBody rest v

include hs in
/-- What a task does on a session that is there. -/
theorem thrifty_runTask (task : Task) : Thrifty R S T (runTask R task s) := by
  cases task with
  | script body env => exact thrifty_runBody env hs body .nil
  | chain times => exact .bind (thrifty_runChain hs times) fun _ => .pure _

theorem thrifty_runAll : ∀ script : List Statement, Thrifty R S T (runAll R script)
  | [] => .pure ()
  | st :: rest => by
    refine .bind (.capture (thrifty_runOn .empty _ st)) fun r => ?_
    split
    · exact .stop _
    · exact thrifty_runAll rest

theorem thrifty_run (fuel : Nat) (config : ConfigSpec) (script : List Statement) :
    Thrifty (runner fuel) S T (run fuel config script) :=
  .bind (thrifty_configure config) fun _ => .bind (thrifty_openNamed _ _) fun _ => thrifty_runAll script

/-! ## What is thrifty is rooted -/

include hs in
theorem rooted_runTask (task : Task) : Rooted R S T (runTask R task s) :=
  (thrifty_runTask hs task).rooted

theorem rooted_run (fuel : Nat) (config : ConfigSpec) (script : List Statement) :
    Rooted (runner fuel) S T (run fuel config script) :=
  (thrifty_run fuel config script).rooted

/-! ## Any depth of nesting -/

/-- What a task does is orderly. -/
theorem orderly_runTask (task : Task) (s : SessionId) : Orderly R (runTask R task s) :=
  (thrifty_runTask (S := [s]) (T := []) List.mem_cons_self task).rooted.orderly

theorem program_runTask (task : Task) (s : SessionId) : Program R (runTask R task s) :=
  (orderly_runTask task s).program

variable {G : World → World → Prop}

/-- **Tasks keep every discipline**, by induction on how deep they may nest. -/
theorem keeps_exec (hG : Discipline G) :
    ∀ (fuel : Nat) (task : Task) (s : SessionId), (exec fuel task s).Keeps G
  | 0, _, _ => .stop hG.toGuarantee _
  | fuel + 1, task, s => by
    rw [exec_succ]
    exact (program_runTask (R := runner fuel) task s).keeps hG (keeps_exec hG fuel)

/-- **Programs keep every discipline**, whatever the scripts do that they lead to. -/
theorem keeps_program (hG : Discipline G) {fuel : Nat} {α : Type} {x : Action World α}
    (hx : Program (runner fuel) x) : x.Keeps G :=
  hx.keeps hG (keeps_exec hG fuel)

/-- Tasks keep every regime, too. -/
theorem regime_exec (hG : Regime G) :
    ∀ (fuel : Nat) (task : Task) (s : SessionId), (exec fuel task s).Keeps G
  | 0, _, _ => .stop hG.toGuarantee _
  | fuel + 1, task, s => by
    rw [exec_succ]
    exact (orderly_runTask (R := runner fuel) task s).keeps hG (regime_exec hG fuel)

/-- **Orderly code keeps every regime**, whatever the scripts do that it leads to. -/
theorem keeps_orderly (hG : Regime G) {fuel : Nat} {α : Type} {x : Action World α}
    (hx : Orderly (runner fuel) x) : x.Keeps G :=
  hx.keeps hG (regime_exec hG fuel)

end Script

end TargetBuilder
