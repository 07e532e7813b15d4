import Hiraeth.Core.Protocol
import Hiraeth.Lib.Refine

/-!
# Routed requests, statement by statement

When the calls of a store are programs of statements, a routed request is a program of
statements too.

## Main results

* `TypedAwsAction.obeys_refine_route` — how such a request obeys
-/

namespace Hiraeth

open Interaction

namespace TypedAwsAction

variable {I J : Interface} {Error Request Response K : Type}
  {action : TypedAwsAction I Error Request Response}
  {implementation : ∀ call : I.Call, Program J (I.Answer call)} {discipline : Discipline J K}
  {authorize : ResolvedRequest → AuthorizationCheck → Program I AuthorizationResult}
  {request : ResolvedRequest}

/-- **A routed request obeys statement by statement**: its first steps preserve what is known
before the handler, and the handler obeys from there. -/
theorem obeys_refine_route {between : K → Prop} {answered : Response → K → Prop}
    (resolves : ∀ known, between known →
      ((action.adaptedResolveAuthorization request).run.refine implementation).Obeys discipline
        (fun _ after => between after) known)
    (authorizes : ∀ check known, between known →
      ((authorize request check).refine implementation).Obeys discipline
        (fun _ after => between after) known)
    (validates : ∀ known, between known →
      ((action.adaptedValidate request).run.refine implementation).Obeys discipline
        (fun _ after => between after) known)
    (handles : ∀ known, between known →
      ((action.adaptedHandle request).run.refine implementation).Obeys discipline
        (fun outcome after => ∀ response, outcome = .ok response → answered response after) known)
    {known : K} (before : between known) :
    ((action.route authorize request).refine implementation).Obeys discipline
      (fun outcome after => ∀ response, outcome = .answered response → answered response after)
      known := by
  have refused {outcome : Routed Error Response} {after : K}
      (notAnswered : ∀ response, outcome ≠ .answered response) :
      ∀ response, outcome = .answered response → answered response after :=
    fun response same => absurd same (notAnswered response)
  unfold route
  rw [Program.refine_bind, Program.obeys_bind]
  refine (resolves known before).mono fun outcome resolved isBetween => ?_
  rcases outcome with error | check
  · exact refused nofun
  dsimp only
  rw [Program.refine_bind, Program.obeys_bind]
  refine (authorizes check resolved isBetween).mono fun decision decided isBetween => ?_
  rcases decision with allow | deny
  · dsimp only
    rw [Program.refine_bind, Program.obeys_bind]
    refine (validates decided isBetween).mono fun outcome validated isBetween => ?_
    rcases outcome with error | ⟨⟩
    · exact refused nofun
    dsimp only
    rw [Program.refine_bind, Program.obeys_bind]
    refine (handles validated isBetween).mono fun outcome after holds => ?_
    rcases outcome with error | response
    · exact refused nofun
    · rintro _ same
      obtain rfl := Routed.answered.inj same
      exact holds response rfl
  · exact refused nofun

end TypedAwsAction

end Hiraeth
