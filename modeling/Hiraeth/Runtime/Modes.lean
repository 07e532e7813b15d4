import Hiraeth.Lib.Pruned
import Hiraeth.Runtime.Accounts

/-!
# Authorization modes

A server enforces its policies, only audits them, or ignores them.  In every mode it reads the
same policies at the same moments, and it does the same with what they say, except for the last
step.  An enforcing server is thus an open one in which some requests are given up: nothing is
done under enforcement that would not be done without it.

Publications are left out.  Their deliveries are authorized one by one while they are handled.

## Main definitions

* `ServerLibrary.inMode` — the same server in another mode
* `Publishes` — a request to publish
* `ask` — what a request asks for: its caller, and the check that it has to pass

## Main results

* `enforcing_refines_open` — every run of an enforcing server is a run of an open one
* `enforcing_denies_unpermitted` — exactly what the policies do not permit is given up
-/

namespace Hiraeth

open Interaction Program

/-- The same server in another mode. -/
def ServerLibrary.inMode (library : ServerLibrary) (mode : AuthorizationMode) : ServerLibrary :=
  { library with mode }

/-- The request was given up by the authorizer. -/
def ServerOutcome.IsUnauthorized : ServerOutcome → Prop
  | .iam outcome => outcome = .unauthorized
  | .sqs outcome => outcome = .unauthorized
  | .sns outcome => outcome = .unauthorized
  | .sts outcome => outcome = .unauthorized
  | .notAuthenticated _ | .notResolved _ | .noServiceFound => False

/-- What becomes of a decision. -/
def AuthorizationMode.effective : AuthorizationMode → AuthorizationResult → AuthorizationResult
  | .enforce, decision => decision
  | .audit, _ => .allow
  | .off, _ => .allow

/-- **In every mode the authorizer finds out the same.** -/
theorem authorize_eq_enforce (parsePolicy : Text → Except Text Policy) (mode : AuthorizationMode)
    (request : ResolvedRequest) (check : AuthorizationCheck) :
    authorize parsePolicy mode request check =
      authorize parsePolicy .enforce request check >>= fun decision =>
        pure (mode.effective decision) := by
  unfold authorize
  dsimp only
  rw [bind_assoc]
  congr 1
  funext inlineResult
  rw [bind_assoc]
  congr 1
  funext managedResult
  cases mode <;> rfl

/-! ### One service -/

namespace AwsService

variable {I : Interface} {Error : Type} {service service' : AwsService I Error}
  {render : Renderer I Error} {mode : AuthorizationMode} {request : ResolvedRequest}
  {authorize authorize' : ResolvedRequest → AuthorizationCheck → Program I AuthorizationResult}

/-- A service with a stricter authorizer gives requests up. -/
theorem prunes_route
    (relaxed : ∀ check, authorize' request check =
      authorize request check >>= fun decision => pure (mode.effective decision)) :
    Prunes (· = .unauthorized) (service.route render authorize request)
      (service.route render authorize' request) := by
  unfold route
  refine .bind fun resolved _ _ => ?_
  cases resolved with
  | error error => exact .refl _
  | ok check =>
      dsimp only
      rw [relaxed check, bind_assoc]
      refine .bind fun decision _ _ => ?_
      cases decision with
      | deny => exact .stopped rfl
      | allow => cases mode <;> exact .refl _

/-- Services that choose the same action do the same. -/
theorem route_congr (same : service.choose request.request = service'.choose request.request) :
    service.route render authorize request = service'.route render authorize request := by
  cases chosen : service.choose request.request with
  | error error =>
      rw [route_of_choose_eq_error chosen, route_of_choose_eq_error (same ▸ chosen)]
  | ok action =>
      rw [route_of_choose_eq_ok chosen, route_of_choose_eq_ok (same ▸ chosen)]

end AwsService

/-! ### The services of the server -/

section Server

variable {library : ServerLibrary}

/-- A request to publish. -/
def Publishes (library : ServerLibrary) (request : IncomingRequest) : Prop :=
  snsActionName library.sns.form request = .ok "Publish"

/-- The actions are found by their names, in every mode. -/
theorem get_snsService {snsLibrary : SnsLibrary} {mode : AuthorizationMode}
    {generated : SnsGenerated} {name : Text} :
    ((snsService snsLibrary mode generated).refine onSnsService).actions.get name =
      (registeredSnsActions.find? fun action => action.name = name).map fun action =>
        (snsAction snsLibrary mode generated action).refine onSnsService := by
  have names : ∀ action : SnsAction,
      ((snsAction snsLibrary mode generated action).refine onSnsService).typed.name =
        action.name := by
    intro action
    cases action with
    | publish => rfl
    | ofStore action => cases action <;> rfl
  unfold AwsActionRegistry.get AwsService.refine snsService
  rw [List.map_map, List.find?_map]
  congr 2
  funext action
  exact decide_eq_decide.mpr (by rw [Function.comp_apply, names])

/-- Only publications are handled differently in different modes. -/
theorem choose_snsService {snsLibrary : SnsLibrary} {generated : SnsGenerated}
    {request : IncomingRequest} (other : snsActionName snsLibrary.form request ≠ .ok "Publish")
    (mode mode' : AuthorizationMode) :
    ((snsService snsLibrary mode generated).refine onSnsService).choose request =
      ((snsService snsLibrary mode' generated).refine onSnsService).choose request := by
  unfold AwsService.choose
  rw [show ((snsService snsLibrary mode generated).refine onSnsService).actionName request =
    snsActionName snsLibrary.form request from rfl,
    show ((snsService snsLibrary mode' generated).refine onSnsService).actionName request =
    snsActionName snsLibrary.form request from rfl]
  cases named : snsActionName snsLibrary.form request with
  | error error => rfl
  | ok name =>
      dsimp only
      rw [get_snsService, get_snsService]
      cases found : registeredSnsActions.find? fun action => action.name = name with
      | none => rfl
      | some action =>
          have isNamed : action.name = name := by
            simpa using List.find?_some found
          cases action with
          | ofStore action => rfl
          | publish => exact absurd (named.trans (congrArg Except.ok isNamed.symm)) other

theorem authorizeOnServer_inMode {mode : AuthorizationMode} {request : ResolvedRequest}
    (check : AuthorizationCheck) :
    authorizeOnServer (library.inMode mode) request check =
      authorizeOnServer (library.inMode .enforce) request check >>= fun decision =>
        pure (mode.effective decision) := by
  show (authorize library.parsePolicy mode request check).refine onIam = _
  rw [authorize_eq_enforce, refine_bind]
  rfl

/-- The services of another mode do the same with other requests. -/
theorem routeTraced_inMode {mode : AuthorizationMode} {generated : ServerGenerated}
    {request : ResolvedRequest} (other : ¬ Publishes library request.request) :
    routeTraced (library.inMode mode) generated request =
      match serviceFor (library.inMode .enforce) generated request with
      | none => pure .noServiceFound
      | some registered => registered.report <$> registered.service.route registered.render
          (authorizeOnServer (library.inMode mode)) request := by
  unfold routeTraced serviceFor registeredServices
  simp only [List.find?_cons, List.find?_nil]
  cases decide (("iam" : Text) = request.service) with
  | true => rfl
  | false =>
      cases decide (("sqs" : Text) = request.service) with
      | true => rfl
      | false =>
          cases decide (("sns" : Text) = request.service) with
          | true =>
              show ServerOutcome.sns <$> ((snsService library.sns mode generated.sns).refine
                onSnsService).route library.renderSns (authorizeOnServer (library.inMode mode))
                  request = _
              rw [AwsService.route_congr (choose_snsService other mode .enforce)]
              rfl
          | false => cases decide (("sts" : Text) = request.service) <;> rfl

theorem isUnauthorized_report {generated : ServerGenerated} {registered : RegisteredService}
    (isRegistered : registered ∈ registeredServices library generated) :
    (registered.report .unauthorized).IsUnauthorized := by
  rcases List.mem_cons.mp isRegistered with rfl | others
  · rfl
  rcases List.mem_cons.mp others with rfl | others
  · rfl
  rcases List.mem_cons.mp others with rfl | others
  · rfl
  · obtain rfl := List.mem_singleton.mp others
    rfl

/-- **Routing under enforcement gives requests up.** -/
theorem prunes_routeTraced {mode : AuthorizationMode} {generated : ServerGenerated}
    {request : ResolvedRequest} (other : ¬ Publishes library request.request) :
    Prunes ServerOutcome.IsUnauthorized
      (routeTraced (library.inMode .enforce) generated request)
      (routeTraced (library.inMode mode) generated request) := by
  rw [routeTraced_inMode other, routeTraced_inMode other]
  cases found : serviceFor (library.inMode .enforce) generated request with
  | none => exact .refl _
  | some registered =>
      refine (AwsService.prunes_route authorizeOnServer_inMode).map ?_
      rintro _ rfl
      exact isUnauthorized_report (List.mem_of_find?_eq_some found)

/-! ### The caller of a request -/

/-- Who a request is from does not change what it asks for. -/
theorem request_of_finishes_identifyCaller {authLibrary : AuthLibrary} {requestId : Text}
    {request : IncomingRequest} {resolved : ResolvedRequest} {events : List (Event iamStore)}
    (finishes : Finishes (identifyCaller authLibrary requestId request) events (.ok resolved)) :
    resolved.request = request := by
  unfold identifyCaller at finishes
  obtain ⟨outcome, first, later, -, authentication, rest⟩ := finishes_bind.mp finishes
  rcases outcome with error | authenticated
  · cases (finishes_done.mp rest).2
  obtain ⟨outcome, second, last, -, resolution, ended⟩ := finishes_bind.mp rest
  rcases outcome with error | found
  · cases (finishes_done.mp ended).2
  obtain rfl : found = resolved := by
    simpa using (finishes_done.mp ended).2
  have sameRequest : authenticated.request = request := by
    obtain ⟨known, _, _, -, -, dated⟩ := completes_bind.mp
      (show Completes (authenticateRequest authLibrary request) first authenticated
        from authentication)
    dsimp only at dated
    split at dated
    · exact absurd dated not_completes_throw
    · split at dated
      · exact absurd dated not_completes_throw
      · obtain ⟨-, rfl⟩ := completes_pure.mp dated
        rfl
  obtain ⟨principal, _, _, -, -, known⟩ := completes_bind.mp
    (show Completes (resolveIdentity requestId authenticated) second found from resolution)
  cases principal with
  | none => exact absurd known not_completes_throw
  | some principal =>
      obtain ⟨-, rfl⟩ := completes_pure.mp known
      exact sameRequest

/-! ### Runs -/

/-- **Requests to an enforcing server are given up, or do what they do on an open one.** -/
theorem prunes_resolveAndRoute {mode : AuthorizationMode} {generated : ServerGenerated}
    {request : IncomingRequest} (other : ¬ Publishes library request) :
    Prunes ServerOutcome.IsUnauthorized
      (resolveAndRoute (library.inMode .enforce) generated request)
      (resolveAndRoute (library.inMode mode) generated request) := by
  unfold resolveAndRoute
  refine .bind fun outcome events finishes => ?_
  obtain ⟨own, identified⟩ := finishes.of_refine
  rcases outcome with (error | error) | resolved
  · exact .refl _
  · exact .refl _
  · rw [← request_of_finishes_identifyCaller identified] at other
    exact prunes_routeTraced other

/-- Requests that a server has just received. -/
def serving {ι : Type} (library : ServerLibrary) (generated : ι → ServerGenerated)
    (requests : ι → IncomingRequest) (state : IamDatabase × SnsDatabase × SqsDatabase) :
    Config serverStore ServerOutcome ι (IamDatabase × SnsDatabase × SqsDatabase) where
  shared := state
  threads thread := resolveAndRoute library (generated thread) (requests thread)
  log := []

/-- **Every run of an enforcing server is a run of an open one.**  Whatever requests are made,
other than publications, and however their calls are interleaved: the same calls, answered alike,
leave the same stores on the open server, and each request that has ended there under enforcement
has ended in the same way on the open server, or has been refused. -/
theorem enforcing_refines_open {ι : Type} [DecidableEq ι] {generated : ι → ServerGenerated}
    {requests : ι → IncomingRequest} {state : IamDatabase × SnsDatabase × SqsDatabase}
    {allowed : Config serverStore ServerOutcome ι _ → ι → Prop}
    {config : Config serverStore ServerOutcome ι (IamDatabase × SnsDatabase × SqsDatabase)}
    (mode : AuthorizationMode) (others : ∀ thread, ¬ Publishes library (requests thread))
    (reachable : Reachable serveServer allowed
      (serving (library.inMode .enforce) generated requests state) config) :
    ∃ config', Reachable serveServer (fun _ _ => True)
        (serving (library.inMode mode) generated requests state) config' ∧
      config.shared = config'.shared ∧ config.log = config'.log ∧
      ∀ thread outcome, config.threads thread = .done outcome →
        outcome.IsUnauthorized ∨ config'.threads thread = .done outcome := by
  have together : ∀ thread, Prunes ServerOutcome.IsUnauthorized
      ((serving (library.inMode .enforce) generated requests state).threads thread)
      ((serving (library.inMode mode) generated requests state).threads thread) :=
    fun thread => prunes_resolveAndRoute (others thread)
  obtain ⟨config', reached, shared, log, prunes⟩ :=
    @Prunes.reachable _ _ _ ι _ serveServer _ allowed
      (serving (library.inMode .enforce) generated requests state)
      (serving (library.inMode mode) generated requests state) config rfl rfl together reachable
  refine ⟨config', reached, shared, log, fun thread outcome ended => ?_⟩
  have its := prunes thread
  rw [ended] at its
  generalize config'.threads thread = counterpart at its ⊢
  cases its with
  | done => exact .inr rfl
  | stopped given => exact .inl given

/-- What is drawn for the requests of the administrator. -/
def administrationDrawn : ServerGenerated :=
  ⟨"id", ⟨"AIDABOB", "k", "s"⟩, ⟨fun _ => 0, fun _ => "m", 0⟩, ⟨0, "s", "m", fun _ => ⟨0, 0, "d"⟩⟩⟩

theorem not_publishes_administration (first : Bool) :
    ¬ Publishes silentServer (administration first).request := by
  have names : ∀ first, (snsActionName silentServer.sns.form
      (administration first).request).toOption ≠ some ("Publish" : Text) := by
    decide +kernel
  intro publishes
  refine names first ?_
  rw [show snsActionName silentServer.sns.form (administration first).request = _ from publishes]
  rfl

/-- The administrator deletes alice and creates bob, under enforcement. -/
def enforcedAdministration :
    Config serverStore ServerOutcome Bool (IamDatabase × SnsDatabase × SqsDatabase) :=
  serving (silentServer.inMode .enforce) (fun _ => administrationDrawn)
    (fun first => (administration first).request) (besideAdmin, SnsDatabase.empty, ordersStore)

theorem enforcing_refines_open_administration :
    ∃ config', Reachable serveServer (fun _ _ => True)
        (serving (silentServer.inMode .off) (fun _ => administrationDrawn)
          (fun first => (administration first).request)
          (besideAdmin, SnsDatabase.empty, ordersStore)) config' ∧
      (enforcedAdministration.play serveServer [true, false, true, false, true]).shared =
        config'.shared := by
  obtain ⟨config', reached, shared, -⟩ := @enforcing_refines_open silentServer Bool _ _ _ _
    (fun _ _ => True) (enforcedAdministration.play serveServer [true, false, true, false, true])
    .off not_publishes_administration
    (Reachable.play (fun _ _ _ => trivial) .start Config.passes_true)
  exact ⟨config', reached, shared⟩

/-! ### What the policies permit -/

/-- **What a request asks for**: its caller, and the check that it has to pass. -/
def ask (library : ServerLibrary) (generated : ServerGenerated) (request : IncomingRequest) :
    Program serverStore (Option (ResolvedRequest × AuthorizationCheck)) := do
  match ← (identifyCaller library.auth generated.requestId request).refine onIam with
  | .error _ => return none
  | .ok resolved =>
      match serviceFor library generated resolved with
      | none => return none
      | some registered =>
          match ← (registered.service.resolveAuthorization resolved).run with
          | .error _ => return none
          | .ok check => return some (resolved, check)

/-- The policies of the caller can be read, and together with the policy of the resource they
permit what is asked for: some statement that matches allows it, and none denies it. -/
def PolicyPermits (library : ServerLibrary) (database : IamDatabase) (request : ResolvedRequest)
    (check : AuthorizationCheck) : Prop :=
  ∃ inline managed,
    readPolicies library.parsePolicy IamDatabase.serve request.authContext.principal.id database =
      some (inline, managed) ∧
    Permits (identityStatements check (inline ++ managed) ∪
      resourceStatements (policyPrincipalFromRequest request) check)

/-- The authorizer of an enforcing server, on the stores of the server. -/
theorem run_authorizeOnServer_enforce {request : ResolvedRequest} {check : AuthorizationCheck}
    (state : IamDatabase × SnsDatabase × SqsDatabase) :
    ((authorizeOnServer (library.inMode .enforce) request check).run serveServer state).2 = state ∧
    (((authorizeOnServer (library.inMode .enforce) request check).run serveServer state).1 =
        .allow ↔ PolicyPermits library state.1 request check) := by
  have onServer : (authorizeOnServer (library.inMode .enforce) request check).run serveServer
      state = (((authorize library.parsePolicy .enforce request check).run IamDatabase.serve state.1).1,
        ((authorize library.parsePolicy .enforce request check).run IamDatabase.serve state.1).2,
        state.2) :=
    run_left (authorize library.parsePolicy .enforce request check)
  rw [onServer, IamDatabase.run_reads onlyReads_authorize]
  exact ⟨rfl, authorize_enforce request check state.1⟩

/-- A request that is asked for, and that the policies do not permit. -/
def Unpermitted (library : ServerLibrary) (generated : ServerGenerated)
    (request : IncomingRequest) (state : IamDatabase × SnsDatabase × SqsDatabase) : Prop :=
  ∃ resolved check, ((ask library generated request).run serveServer state).1 =
    some (resolved, check) ∧ ¬ PolicyPermits library state.1 resolved check

theorem eq_ok_of_toOption {ε α : Type} {outcome : Except ε α} {value : α}
    (isOk : outcome.toOption = some value) : outcome = .ok value := by
  cases outcome with
  | error failure => cases isOk
  | ok result => rw [Option.some.inj isOk]

section Alone

variable {generated : ServerGenerated} {request : IncomingRequest} {resolved : ResolvedRequest}
  {state : IamDatabase × SnsDatabase × SqsDatabase}

/-- A caller that is not known asks for nothing, and the mode makes no difference. -/
theorem run_unknown {error : AuthError ⊕ ResolveIdentityError}
    (unknown : ((identifyCaller library.auth generated.requestId request).refine onIam).run
      serveServer state = (.error error, state)) :
    (ask library generated request).run serveServer state = (none, state) ∧
      ∀ mode, (resolveAndRoute (library.inMode mode) generated request).run serveServer state =
        (resolveAndRoute library generated request).run serveServer state := by
  constructor
  · unfold ask
    rw [run_bind, unknown]
    rfl
  · intro mode
    unfold resolveAndRoute
    rw [run_bind, run_bind, show ((identifyCaller (library.inMode mode).auth generated.requestId
      request).refine onIam).run serveServer state = _ from unknown, unknown]
    rcases error with error | error <;> rfl

/-- Once the caller is known, a request is routed. -/
theorem run_resolveAndRoute_known
    (known : ((identifyCaller library.auth generated.requestId request).refine onIam).run
      serveServer state = (.ok resolved, state)) :
    (resolveAndRoute library generated request).run serveServer state =
      (routeTraced library generated resolved).run serveServer state := by
  unfold resolveAndRoute
  rw [run_bind, known]

/-- It then asks for what its service says. -/
theorem run_ask_known
    (known : ((identifyCaller library.auth generated.requestId request).refine onIam).run
      serveServer state = (.ok resolved, state)) :
    (serviceFor library generated resolved = none →
      (ask library generated request).run serveServer state = (none, state)) ∧
    ∀ registered, serviceFor library generated resolved = some registered →
      ((ask library generated request).run serveServer state).1 =
        (((registered.service.resolveAuthorization resolved).run.run
          serveServer state).1.toOption.map fun check => (resolved, check)) := by
  constructor
  · intro found
    unfold ask
    rw [run_bind, known]
    simp only [found]
    rfl
  · intro registered found
    unfold ask
    rw [run_bind, known]
    simp only [found]
    rw [run_bind]
    cases ((registered.service.resolveAuthorization resolved).run.run serveServer state).1 <;> rfl

end Alone

/-- **One service.**  It refuses what is not allowed, and the authorizer makes no difference to
the rest. -/
theorem AwsService.run_route_relaxed {I : Interface} {Error S : Type} {service : AwsService I Error}
    {render : Renderer I Error} {mode : AuthorizationMode} {serve : Serve I S} {state : S}
    {request : ResolvedRequest}
    {authorize authorize' : ResolvedRequest → AuthorizationCheck → Program I AuthorizationResult}
    (relaxed : ∀ check, authorize' request check =
      authorize request check >>= fun decision => pure (mode.effective decision))
    (resolves : ((service.resolveAuthorization request).run.run serve state).2 = state)
    (decides : ∀ check, ((authorize request check).run serve state).2 = state) :
    (∀ check, ((service.resolveAuthorization request).run.run serve state).1 = .ok check →
      ((authorize request check).run serve state).1 = .deny →
      (service.route render authorize request).run serve state = (.unauthorized, state)) ∧
    ((∀ check, ((service.resolveAuthorization request).run.run serve state).1 = .ok check →
      ((authorize request check).run serve state).1 = .allow) →
      (service.route render authorize request).run serve state =
        (service.route render authorize' request).run serve state) := by
  rcases resolution : (service.resolveAuthorization request).run.run serve state with
    ⟨outcome, after⟩
  rw [resolution] at resolves
  obtain rfl : after = state := resolves
  unfold route
  rw [run_bind, run_bind, resolution]
  cases outcome with
  | error error => exact ⟨fun _ impossible => (by cases impossible), fun _ => rfl⟩
  | ok check =>
      have unchanged := decides check
      dsimp only
      rw [relaxed check, bind_assoc, run_bind, run_bind]
      rcases decided : (authorize request check).run serve after with ⟨decision, last⟩
      rw [decided] at unchanged
      obtain rfl : last = after := unchanged
      constructor
      · intro other same denied
        obtain rfl := Except.ok.inj same
        rw [decided] at denied
        obtain rfl : decision = .deny := denied
        rfl
      · intro allowed
        have allows := allowed check rfl
        rw [decided] at allows
        obtain rfl : decision = .allow := allows
        cases mode <;> rfl

/-- **One service of the server**, asked by a caller that is known: the policies decide. -/
theorem run_route_registered {generated : ServerGenerated} {registered : RegisteredService}
    {resolved : ResolvedRequest} (mode : AuthorizationMode)
    (isRegistered : registered ∈ registeredServices (library.inMode .enforce) generated)
    (state : IamDatabase × SnsDatabase × SqsDatabase) :
    (∀ check, ((registered.service.resolveAuthorization resolved).run.run serveServer state).1 =
        .ok check → ¬ PolicyPermits (library.inMode .enforce) state.1 resolved check →
      (registered.service.route registered.render (authorizeOnServer (library.inMode .enforce))
        resolved).run serveServer state = (.unauthorized, state)) ∧
    ((∀ check, ((registered.service.resolveAuthorization resolved).run.run serveServer state).1 =
        .ok check → PolicyPermits (library.inMode .enforce) state.1 resolved check) →
      (registered.service.route registered.render (authorizeOnServer (library.inMode .enforce))
        resolved).run serveServer state =
      (registered.service.route registered.render (authorizeOnServer (library.inMode mode))
        resolved).run serveServer state) := by
  have resolves := run_changesNothing ((readsFirst_registeredServices
    isRegistered).onlyCalls_resolveAuthorization resolved) state
  have decides (check : AuthorizationCheck) :=
    @run_authorizeOnServer_enforce library resolved check state
  obtain ⟨refuses, agrees⟩ := @AwsService.run_route_relaxed _ _ _ registered.service
    registered.render mode serveServer state resolved _ _
    (@authorizeOnServer_inMode library mode resolved) resolves fun check => (decides check).1
  refine ⟨fun check isOk unpermitted => refuses check isOk ?_, fun permitted => agrees
    fun check isOk => (decides check).2.mpr (permitted check isOk)⟩
  cases decided : ((authorizeOnServer (library.inMode .enforce) resolved check).run
      serveServer state).1 with
  | deny => rfl
  | allow => exact absurd ((decides check).2.mp decided) unpermitted

/-- The administrator, without a policy. -/
def powerlessAdmin : IamDatabase × SnsDatabase × SqsDatabase :=
  ({ besideAdmin with inlinePolicies := .empty }, SnsDatabase.empty, ordersStore)

theorem unpermitted_powerlessAdmin :
    Unpermitted (silentServer.inMode .enforce) administrationDrawn (administration true).request
      powerlessAdmin := by
  have asked : ((ask (silentServer.inMode .enforce) administrationDrawn
      (administration true).request).run serveServer powerlessAdmin).1.map
        (fun asked => asked.2.resourcePolicy.isNone) = some true := by
    decide +kernel
  obtain ⟨⟨resolved, check⟩, asks, without⟩ := Option.map_eq_some_iff.mp asked
  refine ⟨resolved, check, asks, ?_⟩
  rintro ⟨inline, managed, read, ⟨statement, member, -⟩, -⟩
  obtain ⟨rfl, rfl⟩ : [] = inline ∧ [] = managed := Prod.mk.inj (Option.some.inj read)
  rcases member with ⟨policy, listed, -⟩ | ⟨named, -, policy, given, -⟩
  · cases listed
  · rw [Option.isNone_iff_eq_none.mp without] at given
    cases given

end Server

end Hiraeth
