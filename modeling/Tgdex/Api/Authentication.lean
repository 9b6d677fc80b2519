import Tgdex.Items.Controller

namespace Tgdex.Api

open Tgdex.Data Tgdex.Java Tgdex.Items

/-! # Who a request is from

The security handlers of the operations.  A handler sets the user of the
request or fails it. -/

/-- `auth.substring(7).trim()` of a header that starts with `Bearer `. -/
def extract (authorization : Option String) : Option String :=
  authorization.bind fun auth =>
    if "Bearer ".toList.isPrefixOf auth.toList then some (trim (String.ofList (auth.toList.drop 7))) else none

/-- What the JWT provider makes of a token, the principal of its user or the
message of the exception, and what the user with a principal says is its
subject. -/
structure JwtAuth where
  authenticate : String → Except String JsonObject
  subject : JsonObject → Option String

/-- The token of the request, if it has one that is not blank. -/
def presented (authorization : Option String) : Option String :=
  (extract authorization).filter fun token => !isBlank token

section

variable (jwtAuth : JwtAuth) (authorization : Option String)

def keycloakJwtAuthHandler : Except Throwable (Option JsonObject) :=
  match presented authorization with
  | none => .error (.dxUnauthorized "Missing Bearer token")
  | some token =>
      match jwtAuth.authenticate token with
      | .ok principal => .ok (some principal)
      | .error message => .error (.dxUnauthorized message)

def optionalJwtAuthHandler : Except Throwable (Option JsonObject) :=
  match presented authorization with
  | none => .ok none
  | some token =>
      match jwtAuth.authenticate token with
      | .ok principal => .ok (some principal)
      | .error message => .error (.dxUnauthorized ("Invalid token: " ++ message))

end

/-- The security schemes of the API description. -/
inductive Security where
  | authorization
  | optionalAuth
deriving Repr, DecidableEq

def Security.handler (jwtAuth : JwtAuth) : Security → Option String → Except Throwable (Option JsonObject)
  | .authorization => keycloakJwtAuthHandler jwtAuth
  | .optionalAuth => optionalJwtAuthHandler jwtAuth

/-- The caller as the handlers after the security handler see it. -/
def authenticated (jwtAuth : JwtAuth) (security : Security) (authorization : Option String) :
    Except Throwable Caller := do
  return ⟨extract authorization, ← security.handler jwtAuth authorization⟩

/-- The token of the request was verified, and its user is the principal. -/
def Verified (jwtAuth : JwtAuth) (authorization : Option String) (principal : JsonObject) : Prop :=
  ∃ token, presented authorization = some token ∧ jwtAuth.authenticate token = .ok principal

variable {jwtAuth : JwtAuth} {security : Security} {authorization : Option String} {caller : Caller}

theorem authenticated_cases (passed : authenticated jwtAuth security authorization = .ok caller) :
    caller.token = extract authorization ∧
      ((∃ principal, caller.user = some principal ∧ Verified jwtAuth authorization principal) ∨
        caller.user = none ∧ security = .optionalAuth ∧ presented authorization = none) := by
  simp only [authenticated, bind_eq_ok, pure, Except.pure, Except.ok.injEq] at passed
  obtain ⟨user, handled, rfl⟩ := passed
  refine ⟨rfl, ?_⟩
  cases token : presented authorization with
  | none =>
      cases security with
      | authorization => simp [Security.handler, keycloakJwtAuthHandler, token] at handled
      | optionalAuth =>
          simp only [Security.handler, optionalJwtAuthHandler, token, Except.ok.injEq] at handled
          exact .inr ⟨handled.symm, rfl, rfl⟩
  | some text =>
      refine .inl ?_
      cases verified : jwtAuth.authenticate text with
      | error message =>
          cases security <;>
            simp [Security.handler, keycloakJwtAuthHandler, optionalJwtAuthHandler, token, verified] at handled
      | ok principal =>
          have set : user = some principal := by
            cases security <;>
              simpa [Security.handler, keycloakJwtAuthHandler, optionalJwtAuthHandler, token, verified, eq_comm]
                using handled
          exact ⟨principal, set, text, token, verified⟩

end Tgdex.Api
