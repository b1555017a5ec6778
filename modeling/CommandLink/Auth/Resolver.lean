import CommandLink.Auth.Strategy

/-!
# Resolution

The principal of a request is found by the first way of authentication that names one. A fatal
error of a way of authentication is the result; any other error leaves the request to the ways
after it. A request that none of them decides is anonymous.
-/

namespace CommandLink.Auth

/-- Tries ways of authentication one after the other. -/
def resolve (strategies : List Strategy) (request : Request) :
    Inquiry (Except AuthError Principal) :=
  match strategies with
  | [] => return .ok .anonymous
  | strategy :: strategies => do
    match ← strategy.attempt request with
    | .ok (some principal) => return .ok principal
    | .ok none => resolve strategies request
    | .error e =>
      if e.isFatal then
        let user := request.credentials.username.getD ""
        Inquiry.record .authFailure e.message [("strategy", strategy.name), ("user", user)]
        return .error e
      else
        match e with
        | .token rejected =>
          Inquiry.record .tokenRejected rejected.message [("strategy", strategy.name)]
          resolve strategies request
        | _ => resolve strategies request

end CommandLink.Auth
