import Hiraeth.Core.Protocol

/-!
# Services

A service finds the action a request names and lets it resolve, validate and handle the
request.  The router goes through these steps one after the other, and each of them reads
the name of the action for itself.

## Main definitions

* `AwsService` — how requests name actions, and the registered actions
* `AwsService.choose` — the action that a request names
* `AwsService.route` — what the router does once the service is known
* `queryActionName` — the name of the action of a query request

## Main results

* `AwsService.route_of_choose_eq_ok` — the steps of a routed request are those of one action
-/

namespace Hiraeth

open Interaction

/-! ### Actions by name -/

/-- `get_query_request_action_name`. -/
def getQueryRequestActionName (parse : FormParser) (request : IncomingRequest) :
    Except AwsQueryParseError (Option Text) :=
  (parseAwsQueryParams parse request).map (·.get "Action")

/-- The name of the action of a query request, with the errors of a service. -/
def queryActionName {Error : Type} (ofQueryParseError : AwsQueryParseError → Error)
    (badRequest : Text → Error) (parse : FormParser) (request : IncomingRequest) :
    Except Error Text := do
  match ← (getQueryRequestActionName parse request).mapError ofQueryParseError with
  | some actionName => return actionName
  | none => throw (badRequest "Missing Action parameter")

/-- A service over a store. -/
structure AwsService (I : Interface) (Error : Type) where
  actionName : IncomingRequest → Except Error Text
  unsupported : Text → Error
  actions : AwsActionRegistry I Error

namespace AwsService

variable {I : Interface} {Error : Type} (service : AwsService I Error)

/-- The action that a request names. -/
def choose (request : IncomingRequest) : Except Error (AwsAction I Error) :=
  match service.actionName request with
  | .error error => .error error
  | .ok actionName =>
      match service.actions.get actionName with
      | some action => .ok action
      | none => .error (service.unsupported actionName)

/-- `Service::resolve_authorization`. -/
def resolveAuthorization (request : ResolvedRequest) :
    ExceptT Error (Program I) AuthorizationCheck :=
  match service.choose request.request with
  | .error error => throw error
  | .ok action => action.typed.adaptedResolveAuthorization request

/-- `Service::validate_request`. -/
def validateRequest (request : ResolvedRequest) : ExceptT Error (Program I) Unit :=
  match service.choose request.request with
  | .error error => throw error
  | .ok action => action.typed.adaptedValidate request

/-- How the answers of actions are written. -/
abbrev Renderer (I : Interface) (Error : Type) :=
  (action : AwsAction I Error) → action.Response → ServiceResponse

/-- `Service::handle_request`. -/
def handleRequest (render : Renderer I Error) (request : ResolvedRequest) :
    ExceptT Error (Program I) ServiceResponse :=
  match service.choose request.request with
  | .error error => throw error
  | .ok action => render action <$> action.typed.adaptedHandle request

/-- `ServiceRouter::route_traced`, once the service is known. -/
def route (render : Renderer I Error)
    (authorize : ResolvedRequest → AuthorizationCheck → Program I AuthorizationResult)
    (request : ResolvedRequest) : Program I (Routed Error ServiceResponse) := do
  match ← (service.resolveAuthorization request).run with
  | .error error => return .failed error
  | .ok check =>
      match ← authorize request check with
      | .deny => return .unauthorized
      | .allow =>
          match ← (service.validateRequest request).run with
          | .error error => return .failed error
          | .ok () =>
              match ← (service.handleRequest render request).run with
              | .error error => return .failed error
              | .ok response => return .answered response

end AwsService

/-- An outcome with another answer. -/
def Routed.map {Error Response Response' : Type} (change : Response → Response') :
    Routed Error Response → Routed Error Response'
  | .answered response => .answered (change response)
  | .failed error => .failed error
  | .unauthorized => .unauthorized

namespace AwsService

variable {I : Interface} {Error : Type} {service : AwsService I Error}
  {render : Renderer I Error}
  {authorize : ResolvedRequest → AuthorizationCheck → Program I AuthorizationResult}
  {request : ResolvedRequest}

/-- A request that names no action fails before anything is called. -/
theorem route_of_choose_eq_error {error : Error}
    (chosen : service.choose request.request = .error error) :
    service.route render authorize request = pure (.failed error) := by
  unfold route resolveAuthorization
  rw [chosen]
  rfl

/-- **All steps of a routed request are those of the action it names.** -/
theorem route_of_choose_eq_ok {action : AwsAction I Error}
    (chosen : service.choose request.request = .ok action) :
    service.route render authorize request =
      Routed.map (render action) <$> action.typed.route authorize request := by
  unfold route resolveAuthorization validateRequest handleRequest TypedAwsAction.route
  rw [chosen]
  dsimp only
  rw [map_bind]
  congr 1
  funext outcome
  cases outcome with
  | error failure => rfl
  | ok check =>
      dsimp only
      rw [map_bind]
      congr 1
      funext decision
      cases decision with
      | deny => rfl
      | allow =>
          dsimp only
          rw [map_bind]
          congr 1
          funext outcome
          cases outcome with
          | error failure => rfl
          | ok _ =>
              dsimp only
              rw [map_bind, ExceptT.run_map, bind_map_left]
              congr 1
              funext outcome
              cases outcome <;> rfl

end AwsService

end Hiraeth
