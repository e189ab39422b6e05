import SessionTokens.Proofs.Time.Instant
import SessionTokens.Proofs.Token.Payload

/-!
# Issued tokens

A token is signed over the given claims, in which the second of the expiry and
the first second of the session replace what was given.  Nothing else changes.
-/

namespace SessionTokens

/-- What is known of a token that was issued in a session that began in a second. -/
structure IssuedFrom (codec : Codec) (now : Instant) (claims : Claims) (lifetime : Span)
    (origin : Int) (issued : IssuedToken) : Prop where
  short : lifetime.nanos ≤ Span.longestMove.nanos
  moved : now.floor.later? lifetime = some issued.expiresAt
  sameClaims : issued.claims = codec.timed claims issued.expiresAt origin
  encoded : codec.Signs issued.claims issued.token
  sameOrigin : issued.origin = origin

variable {codec : Codec} {now : Instant} {claims : Claims} {lifetime : Span} {origin : Int}
  {seed : Bytes} {issued : IssuedToken}

theorem Codec.issuedFrom_of_issueFrom
    (signed : codec.issueFrom now claims lifetime origin seed = .ok issued) :
    IssuedFrom codec now claims lifetime origin issued := by
  rw [issueFrom] at signed
  split at signed
  · cases signed
  · next short =>
      cases moved : now.floor.later? lifetime with
      | none =>
          rw [moved] at signed
          cases signed
      | some expiresAt =>
          rw [moved] at signed
          obtain ⟨token, encoded, signed⟩ := bind_eq_ok.mp signed
          cases signed
          exact ⟨Nat.le_of_not_lt short, moved, rfl, ⟨seed, encoded⟩, rfl⟩

theorem Codec.issuedAt_of_issueFrom
    (signed : codec.issueFrom now claims lifetime origin seed = .ok issued) :
    issued.issuedAt = now.floor := by
  rw [issueFrom] at signed
  split at signed
  · cases signed
  split at signed
  · cases signed
  · obtain ⟨token, -, signed⟩ := bind_eq_ok.mp signed
    cases signed
    rfl

/-- A shared secret signs all claims. -/
theorem Codec.exists_encode_of_secret {algorithm : Algorithm} {secret : Bytes}
    (loaded : KeyManager.ofSecret algorithm secret = .ok codec.keys) (seed : Bytes)
    (claims : Claims) : ∃ token, codec.encode seed claims = .ok token := by
  obtain ⟨keys, expiryField⟩ := codec
  rw [KeyManager.ofSecret] at loaded
  split at loaded
  · cases loaded
  · next symmetric =>
      split at loaded
      · cases loaded
      · cases loaded
        have family : algorithm.family = .hmac := by
          simpa [Algorithm.isSymmetric] using symmetric
        have signs (message : Bytes) : algorithm.sign seed (.secret secret) message =
            .ok (algorithm.hash.hmac secret message) := by
          simp only [Algorithm.sign, family]
        simp only [encode, KeyManager.signingKey, bind, Except.bind, signs, mapError_ok]
        exact ⟨_, rfl⟩

def TokenError.isIssueFailure : TokenError → Bool
  | .signing _ | .key _ => true
  | _ => false

theorem Codec.isIssueFailure_of_issueFrom {error : TokenError}
    (failed : codec.issueFrom now claims lifetime origin seed = .error error) :
    error.isIssueFailure = true := by
  rw [issueFrom] at failed
  split at failed
  · cases failed
    rfl
  split at failed
  · cases failed
    rfl
  obtain failed | ⟨token, -, failed⟩ := bind_eq_error.mp failed
  · rw [encode] at failed
    obtain failed | ⟨key, -, failed⟩ := bind_eq_error.mp failed
    · obtain ⟨fault, -, same⟩ := mapError_eq_error.mp failed
      cases same
      rfl
    obtain failed | ⟨signature, -, failed⟩ := bind_eq_error.mp failed
    · obtain ⟨fault, -, same⟩ := mapError_eq_error.mp failed
      cases same
      rfl
    · cases failed
  · cases failed

namespace IssuedFrom

theorem inside (dated : IssuedFrom codec now claims lifetime origin issued) :
    issued.expiresAt.InCalendar :=
  (Instant.eq_of_later? dated.moved).2

theorem expiry (dated : IssuedFrom codec now claims lifetime origin issued) :
    issued.expiresAt.seconds = now.seconds + lifetime.seconds :=
  Instant.seconds_of_later? dated.moved

theorem now_bounds (dated : IssuedFrom codec now claims lifetime origin issued) :
    Decimal.minInt64 ≤ now.seconds ∧ now.seconds ≤ Decimal.maxInt64 :=
  dated.inside.signed_bounds_of_moved dated.short dated.expiry

/-- All claims but the two that are set are as they were. -/
theorem withoutTiming (dated : IssuedFrom codec now claims lifetime origin issued)
    (differs : codec.expiryField ≠ Claims.originName) :
    issued.claims.withoutTiming codec.expiryField = claims.withoutTiming codec.expiryField := by
  rw [dated.sameClaims]
  apply Claims.eq_of_members
  have distinct := (claims.insert codec.expiryField (.int issued.expiresAt.seconds)).distinct
  calc Members.remove (Members.remove (Members.set (claims.members.set codec.expiryField
          (.int issued.expiresAt.seconds)) Claims.originName (.int origin)) codec.expiryField)
          Claims.originName
      = Members.remove (Members.remove (claims.members.set codec.expiryField
          (.int issued.expiresAt.seconds)) codec.expiryField) Claims.originName :=
        Members.remove_remove_set distinct differs _
    _ = Members.remove (claims.members.remove codec.expiryField) Claims.originName := by
        rw [Members.remove_set]

end IssuedFrom

end SessionTokens
