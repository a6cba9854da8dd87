/-!
# Exceptions of the auth layer

`AuthenticationError`, `AuthorizationError` and their subclasses (`app/auth/exc.py`), the provider
errors (`infra/auth/exc.py`) and the library exceptions that the verifier and the provider tell apart.
-/

namespace PetBackend.Auth

inductive AuthenticationError where
  | missingToken
  | invalidToken (description : String)
  | tokenVerificationUnavailable
  deriving DecidableEq

def AuthenticationError.errorCode : AuthenticationError → String
  | .missingToken => "invalid_request"
  | .invalidToken _ => "invalid_token"
  | .tokenVerificationUnavailable => "temporarily_unavailable"

def AuthenticationError.description : AuthenticationError → String
  | .missingToken => "Authorization header with a Bearer token is required"
  | .invalidToken description => description
  | .tokenVerificationUnavailable => "Token verification is temporarily unavailable"

inductive AuthorizationError where
  | insufficientPermissions (description : String)
  deriving DecidableEq

def AuthorizationError.errorCode : AuthorizationError → String
  | .insufficientPermissions _ => "insufficient_scope"

def AuthorizationError.description : AuthorizationError → String
  | .insufficientPermissions description => description

/-- The `PyJWTError` hierarchy, as far as `verify` separates it. -/
inductive JwtError where
  | expiredSignature
  | immatureSignature
  | invalidIssuer
  | invalidSignature
  | missingRequiredClaim
  | invalidAlgorithm
  | invalidToken (className : String)
  /-- A `PyJWTError` outside `InvalidTokenError`, such as `InvalidKeyError` or `PyJWKError`. -/
  | other (className : String)
  deriving DecidableEq

/-- Subclasses of `Exception`, by what the auth code can catch. -/
inductive PyExc where
  | authentication (error : AuthenticationError)
  | jwksProviderUnavailable (message : String)
  | signingKeyNotFound (message : String)
  | jwt (error : JwtError)
  | httpStatusError (statusCode : Nat)
  | requestError (className : String)
  | valueError (message : String)
  | keyError
  | typeError
  /-- Any other class, such as `RecursionError` or `AttributeError`. -/
  | other (className : String)
  deriving DecidableEq

end PetBackend.Auth
