import SessionTokens.Claims
import SessionTokens.Key.Error
import SessionTokens.Key.Material
import SessionTokens.Time.Span

/-!
# Token errors

What can be wrong with a token that is read or written.  An expired token keeps
its verified claims, so that its session can still be refreshed.
-/

namespace SessionTokens

inductive FormFault where
  /-- Fewer than two dots. -/
  | segments
  | base64
  | json
  deriving DecidableEq, Repr

def FormFault.message : FormFault → String
  | .segments => "InvalidToken"
  | .base64 => "Base64 error"
  | .json => "JSON error"

inductive TokenFault where
  | header (fault : FormFault)
  | form (fault : FormFault)
  /-- The key is of another family than the algorithm. -/
  | family
  | signature
  /-- The session's first issue time is no number. -/
  | origin
  | stated (reason : String)
  deriving DecidableEq, Repr

def TokenFault.message : TokenFault → String
  | .header fault => "invalid token header: " ++ fault.message
  | .form fault => fault.message
  | .family => "InvalidKeyFormat"
  | .signature => "signature is invalid"
  | .origin => "missing orig_iat claim"
  | .stated reason => reason

inductive SigningFault where
  /-- The lifetime is longer than any instant can be moved. -/
  | lifetime (span : Span)
  /-- The expiry lies outside the calendar. -/
  | expiry
  | refused (refusal : SigningRefusal)
  | stated (reason : String)
  deriving DecidableEq, Repr

def SigningFault.message : SigningFault → String
  | .lifetime span => "token lifetime " ++ span.describe ++ " out of range"
  | .expiry => "token expiry out of range"
  | .refused .family => "InvalidAlgorithm"
  | .refused .curve => "InvalidEcdsaKey"
  | .refused .key => "Signing failed"
  | .stated reason => reason

inductive TokenError where
  | expired (claims : Claims)
  | malformedExpiry (field : String)
  | missingExpiry (field : String)
  | algorithmMismatch (expected found : String)
  | invalid (fault : TokenFault)
  | signing (fault : SigningFault)
  | key (error : KeyError)
  deriving DecidableEq

def TokenError.message : TokenError → String
  | .expired _ => "token is expired"
  | .malformedExpiry field => field ++ " must be a numeric timestamp"
  | .missingExpiry field => "missing " ++ field ++ " field"
  | .algorithmMismatch expected found =>
      "invalid signing algorithm: expected " ++ expected ++ ", token uses " ++ found
  | .invalid fault => "token is invalid: " ++ fault.message
  | .signing fault => "failed to sign token: " ++ fault.message
  | .key error => error.message

def TokenError.code : TokenError → String
  | .expired _ => "Expired"
  | .malformedExpiry _ => "MalformedExpiryField"
  | .missingExpiry _ => "MissingExpiryField"
  | .algorithmMismatch .. => "AlgorithmMismatch"
  | .invalid _ => "Invalid"
  | .signing _ => "Signing"
  | .key error => "Key." ++ error.code

end SessionTokens
