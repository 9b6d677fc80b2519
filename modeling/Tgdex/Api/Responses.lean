import Tgdex.Items.Controller

namespace Tgdex.Api

open Tgdex.Data Tgdex.Java Tgdex.Items

/-! # What a failure is answered with -/

/-- The codes that failures are mapped to. -/
inductive HttpStatusCode where
  | badRequest
  | invalidParam
  | unauthorized
  | notFound
  | conflict
  | internalServerError
  | serviceUnavailable
deriving Repr, DecidableEq

namespace HttpStatusCode

def value : HttpStatusCode → Nat
  | .badRequest | .invalidParam => 400
  | .unauthorized => 401
  | .notFound => 404
  | .conflict => 409
  | .internalServerError => 500
  | .serviceUnavailable => 503

def description : HttpStatusCode → String
  | .badRequest | .invalidParam => "Bad Request"
  | .unauthorized => "Not Authorized"
  | .notFound => "Not Found"
  | .conflict => "Conflict"
  | .internalServerError => "Internal Server Error"
  | .serviceUnavailable => "Service Unavailable"

def urn : HttpStatusCode → String
  | .badRequest | .invalidParam => "urn:dx:cat:badRequest"
  | .unauthorized => "urn:dx:cat:notAuthorized"
  | .notFound => "urn:dx:cat:notFound"
  | .conflict => "urn:dx:cat:conflict"
  | .internalServerError => "urn:dx:cat:internalServerError"
  | .serviceUnavailable => "urn:dx:cat:serviceUnavailable"

end HttpStatusCode

/-- The exception classes that the mapper and the failure handler name, those
between them in the hierarchy, and those that the handlers throw. -/
inductive ExceptionClass where
  | throwable
  | runtimeException
  | nullPointerException
  | classCastException
  | indexOutOfBoundsException
  | noSuchElementException
  | illegalStateException
  | illegalArgumentException
  | replyException
  | serviceException
  | baseDxException
  | dxPgException
  | noRowFoundException
  | invalidColumnNameException
  | uniqueConstraintViolationException
  | dxSubscriptionException
  | queueAlreadyExistsException
  | dxRabbitMqException
  | exchangeRegistrationException
  | exchangeNotFoundException
  | queueRegistrationFailedException
  | queueBindingFailedException
  | queueDeletionException
  | queueNotFoundException
  | dxRabbitMqGeneralException
  | dxSearchException
  | searchValidationError
  | dxRedisException
  | redisKeyNotFoundException
  | redisConnectionException
  | invalidJsonPathException
  | redisOperationException
  | dxNotFoundException
  | dxAuthException
  | dxBadRequestException
  | dxInternalServerErrorException
  | dxEsException
  | dxForbiddenException
  | authenticationException
  | dxUnauthorizedException
  | badRequestException
  | bodyProcessorException
  | parameterProcessorException
  | requestPredicateException
  | validationException
deriving Repr, DecidableEq

namespace ExceptionClass

def superclass : ExceptionClass → Option ExceptionClass
  | throwable => none
  | runtimeException => some throwable
  | nullPointerException | classCastException | indexOutOfBoundsException | noSuchElementException
  | illegalStateException | illegalArgumentException | replyException | badRequestException => some runtimeException
  | serviceException => some replyException
  | baseDxException => some serviceException
  | dxPgException | dxSubscriptionException | dxRabbitMqException | dxRabbitMqGeneralException | dxSearchException
  | dxRedisException | dxNotFoundException | dxAuthException | dxBadRequestException
  | dxInternalServerErrorException | dxEsException | dxForbiddenException | authenticationException =>
      some baseDxException
  | noRowFoundException | invalidColumnNameException | uniqueConstraintViolationException => some dxPgException
  | queueAlreadyExistsException => some dxSubscriptionException
  | exchangeRegistrationException | exchangeNotFoundException | queueRegistrationFailedException
  | queueBindingFailedException | queueDeletionException | queueNotFoundException => some dxRabbitMqException
  | searchValidationError => some dxSearchException
  | redisKeyNotFoundException | redisConnectionException | invalidJsonPathException | redisOperationException =>
      some dxRedisException
  | dxUnauthorizedException => some authenticationException
  | bodyProcessorException | parameterProcessorException | requestPredicateException => some badRequestException
  | validationException => some throwable

def ancestorsWithin : Nat → ExceptionClass → List ExceptionClass
  | 0, type => [type]
  | levels + 1, type => type :: (type.superclass.map (ancestorsWithin levels)).getD []

/-- `instanceof`; no class is more than six levels below `Throwable`. -/
def isInstanceOf (type ancestor : ExceptionClass) : Bool := (ancestorsWithin 6 type).contains ancestor

end ExceptionClass

/-- What reaches the failure handler: an exception of the router's validation,
or what a handler has failed the request with. -/
inductive Failure where
  | validation (type : ExceptionClass) (message : String)
  | thrown (cause : Throwable)

namespace Failure

def type : Failure → ExceptionClass
  | .validation type _ => type
  | .thrown cause =>
      match cause with
      | .nullPointer => .nullPointerException
      | .classCast => .classCastException
      | .indexOutOfBounds => .indexOutOfBoundsException
      | .noSuchElement => .noSuchElementException
      | .illegalState => .illegalStateException
      | .illegalArgument _ => .illegalArgumentException
      | .runtime _ => .runtimeException
      | .dxEs _ => .dxEsException
      | .dxBadRequest _ => .dxBadRequestException
      | .dxUnauthorized _ => .dxUnauthorizedException
      | .dxForbidden _ => .dxForbiddenException
      | .dxInternalServerError _ => .dxInternalServerErrorException
      | .serviceException _ => .serviceException
      | .replyTimeout => .replyException

def getMessage : Failure → String
  | .validation _ message => message
  | .thrown cause => cause.getMessage

def isInstanceOf (failure : Failure) (ancestor : ExceptionClass) : Bool := failure.type.isInstanceOf ancestor

end Failure

/-- The cases of the switch, in their order. -/
def mapperCases : List (ExceptionClass × HttpStatusCode) :=
  [(.noRowFoundException, .notFound), (.invalidColumnNameException, .badRequest),
   (.uniqueConstraintViolationException, .conflict), (.dxPgException, .badRequest),
   (.queueAlreadyExistsException, .conflict), (.exchangeRegistrationException, .conflict),
   (.dxSubscriptionException, .badRequest), (.exchangeNotFoundException, .notFound),
   (.queueRegistrationFailedException, .badRequest), (.queueBindingFailedException, .badRequest),
   (.queueDeletionException, .notFound), (.queueNotFoundException, .notFound),
   (.dxRabbitMqGeneralException, .internalServerError), (.dxRabbitMqException, .badRequest),
   (.searchValidationError, .invalidParam), (.redisKeyNotFoundException, .notFound),
   (.redisConnectionException, .serviceUnavailable), (.invalidJsonPathException, .badRequest),
   (.redisOperationException, .badRequest), (.dxNotFoundException, .notFound), (.dxAuthException, .unauthorized),
   (.dxBadRequestException, .badRequest), (.bodyProcessorException, .badRequest),
   (.parameterProcessorException, .badRequest), (.requestPredicateException, .badRequest),
   (.validationException, .badRequest), (.dxInternalServerErrorException, .internalServerError),
   (.dxUnauthorizedException, .unauthorized), (.baseDxException, .badRequest)]

def map (failure : Failure) : HttpStatusCode :=
  match mapperCases.find? fun case_ => failure.isInstanceOf case_.1 with
  | some case_ => case_.2
  | none => .internalServerError

def isSafeToExpose (failure : Failure) : Bool :=
  [ExceptionClass.illegalArgumentException, .queueAlreadyExistsException, .dxBadRequestException,
   .dxUnauthorizedException, .bodyProcessorException].any failure.isInstanceOf

structure Response where
  status : Nat
  body : JsonObject
deriving BEq

/-- The encoded JSON of a DxErrorResponse. -/
def dxErrorResponse (type title detail : String) : JsonObject :=
  JsonObject.encoded ⟨[("type", .str type), ("title", .str title), ("detail", .str detail)]⟩ .nowhere

def isValidation (failure : Failure) : Bool :=
  [ExceptionClass.validationException, .bodyProcessorException, .requestPredicateException,
   .parameterProcessorException].any failure.isInstanceOf

def unexpected : String := "An unexpected error occurred"

/-- The status code that the request was failed with is not looked at. -/
def FailureHandler.handle (failure : Failure) : Response :=
  if isValidation failure then ⟨400, dxErrorResponse "urn:dx:cat:badRequest" "Bad Request" failure.getMessage⟩
  else
    let statusCode := map failure
    let safeDetail := if isSafeToExpose failure then failure.getMessage else unexpected
    let status := if statusCode.value < 400 || statusCode.value > 599 then 500 else statusCode.value
    ⟨status, dxErrorResponse statusCode.urn statusCode.description safeDetail⟩

/-- A request failed without an exception. -/
def unknownServerError : Failure := .thrown (.runtime "Unknown server error")

/-- The response of a request with these outcomes.  What comes after the end of
a response has no effect, and a request without an outcome is failed when its
time is up. -/
def answer : List Outcome → Response
  | [] => FailureHandler.handle unknownServerError
  | .ended status body :: _ => ⟨status, body⟩
  | .failed _ cause :: _ => FailureHandler.handle (.thrown cause)

/-- The bounds on the status never apply, and a failed validation is mapped to
the status that it is answered with directly. -/
theorem FailureHandler.status_handle (failure : Failure) :
    (FailureHandler.handle failure).status = (map failure).value := by
  cases failure with
  | validation type message => cases type <;> rfl
  | thrown cause => cases cause <;> rfl

/-- An exception of a handler shows its message to the client only when it is an
IllegalArgumentException, a DxBadRequestException or a DxUnauthorizedException. -/
theorem FailureHandler.handle_thrown_hides {cause : Throwable} (hidden : isSafeToExpose (.thrown cause) = false) :
    (FailureHandler.handle (.thrown cause)).body =
      dxErrorResponse (map (.thrown cause)).urn (map (.thrown cause)).description unexpected := by
  have other : isValidation (.thrown cause) = false := by cases cause <;> rfl
  simp [handle, other, hidden]

end Tgdex.Api
