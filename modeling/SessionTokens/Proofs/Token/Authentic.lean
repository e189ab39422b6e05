import SessionTokens.Proofs.Outcome
import SessionTokens.Proofs.Text.Base64
import SessionTokens.Proofs.Text.Split
import SessionTokens.Token.Authentic

/-!
# What verification accepts is authentic

Every check of a token that was passed leaves one piece of evidence, and the
claims that are handed on, expired or not, are those that the evidence is for.
A token without evidence is refused at one of the checks before its expiry.
-/

namespace SessionTokens

theorem Algorithm.verify_eq_true {algorithm : Algorithm} {key : VerificationMaterial}
    {message signature : Bytes} :
    algorithm.verify key message signature = true ↔ algorithm.Signed message signature key := by
  cases key with
  | secret octets => cases algorithm <;> simp [verify, Signed, family, isSymmetric]
  | rsa octets => rfl
  | curve octets => rfl

namespace Token

variable {token : String} {parts : Parts}

/-- A token is its parts with dots between them. -/
theorem joined_of_split? (split : split? token = some parts) :
    token.toList = parts.header ++ '.' :: (parts.claims ++ '.' :: parts.signature) ∧
      '.' ∉ parts.claims ∧ '.' ∉ parts.signature := by
  simp only [split?, Option.bind_eq_bind, Option.bind_eq_some_iff] at split
  obtain ⟨⟨signed, signature⟩, last, ⟨header, claims⟩, first, same⟩ := split
  cases same
  obtain ⟨joined, signatureDotless⟩ := Text.eq_of_splitLast last
  obtain ⟨joinedSigned, claimsDotless⟩ := Text.eq_of_splitLast first
  dsimp only at joined joinedSigned
  refine ⟨?_, claimsDotless, signatureDotless⟩
  rw [joined, joinedSigned, List.append_assoc, List.cons_append]

theorem readPart_eq_ok {part : List Char} {value : Json} :
    readPart part = .ok value ↔ partValue? part = some value := by
  rw [readPart, decodePart, partValue?]
  cases Base64.decode? Base64.urlSafe part with
  | none => simp [bind, Except.bind]
  | some octets =>
      simp only [bind, Except.bind, Option.bind_some]
      cases (Utf8.decode? octets).bind Json.parseRaw? <;> simp

theorem dot_not_mem_of_partValue? {part : List Char} {value : Json}
    (read : partValue? part = some value) : '.' ∉ part := by
  obtain ⟨octets, decoded, -⟩ := Option.bind_eq_some_iff.mp read
  exact Base64.dot_not_mem_of_decode? decoded

theorem decodePart_eq_ok {part : List Char} {octets : Bytes} :
    decodePart part = .ok octets ↔ Base64.decode? Base64.urlSafe part = some octets := by
  rw [decodePart]
  cases Base64.decode? Base64.urlSafe part <;> simp

theorem partValue?_of_readHeader {header : Header} (read : parts.readHeader = .ok header) :
    (partValue? parts.header).bind Header.read? = some header := by
  obtain ⟨value, readValue, read⟩ := bind_eq_ok.mp read
  rw [readPart_eq_ok.mp readValue, Option.bind_some]
  cases found : Header.read? value with
  | none =>
      rw [found] at read
      cases read
  | some header =>
      rw [found] at read
      cases read
      rfl

theorem partValue?_of_readClaims {claims : Claims} (read : parts.readClaims = .ok claims) :
    (partValue? parts.claims).map Json.merge = some claims.toJson := by
  obtain ⟨value, readValue, read⟩ := bind_eq_ok.mp read
  rw [readPart_eq_ok.mp readValue, Option.map_some]
  cases value with
  | object members =>
      dsimp only at read
      split at read
      · cases read
        rfl
      · cases read
  | _ => cases read

end Token

/-- Whether a token may be refused with an error, before its expiry is compared with a clock. -/
def TokenError.isRefusal : TokenError → Bool
  | .invalid _ | .algorithmMismatch .. | .key _ | .missingExpiry _ | .malformedExpiry _ => true
  | .expired _ | .signing _ => false

namespace Codec

open Token (Authentic Evidence SignedUnder)

variable {codec : Codec} {token : String} {claims : Claims} {header : Token.Header}
  {key : VerificationMaterial}

/-- The parts of a token whose header was read. -/
theorem split?_of_readHeader (read : readHeader token = .ok header) :
    ∃ parts, Token.split? token = some parts ∧ parts.readHeader = .ok header := by
  rw [readHeader] at read
  cases split : Token.split? token with
  | none =>
      rw [split] at read
      cases read
  | some parts =>
      rw [split] at read
      exact ⟨parts, rfl, mapError_eq_ok.mp read⟩

theorem authentic_of_authenticate (accepted : codec.authenticate token = .ok claims) :
    Authentic codec.keys token claims := by
  rw [authenticate] at accepted
  obtain ⟨header, headerRead, accepted⟩ := bind_eq_ok.mp accepted
  obtain ⟨named, accepted⟩ := check_eq_ok.mp accepted
  obtain ⟨key, resolved, accepted⟩ := bind_eq_ok.mp accepted
  obtain ⟨-, accepted⟩ := check_eq_ok.mp accepted
  obtain ⟨parts, split, headerRead⟩ := split?_of_readHeader headerRead
  rw [split] at accepted
  obtain ⟨signature, decoded, accepted⟩ := bind_eq_ok.mp accepted
  obtain ⟨verified, accepted⟩ := check_eq_ok.mp accepted
  obtain ⟨joined, claimsDotless, signatureDotless⟩ := Token.joined_of_split? split
  have headerValue := Token.partValue?_of_readHeader headerRead
  obtain ⟨value, headerPart, -⟩ := Option.bind_eq_some_iff.mp headerValue
  exact ⟨⟨parts, header, key, signature⟩,
    { joined
      dotless := ⟨Token.dot_not_mem_of_partValue? headerPart, claimsDotless, signatureDotless⟩
      header := headerValue
      algorithm := Decidable.of_not_not named
      key := mapError_eq_ok.mp resolved
      signature := Token.decodePart_eq_ok.mp (mapError_eq_ok.mp decoded)
      signed := Algorithm.verify_eq_true.mp (Decidable.of_not_not verified)
      claims := Token.partValue?_of_readClaims (mapError_eq_ok.mp accepted) }⟩

theorem isRefusal_of_readHeader {error : TokenError} (failed : readHeader token = .error error) :
    error.isRefusal = true := by
  rw [readHeader] at failed
  split at failed
  · cases failed
    rfl
  · obtain ⟨fault, -, same⟩ := mapError_eq_error.mp failed
    cases same
    rfl

theorem isRefusal_of_authenticate {error : TokenError}
    (failed : codec.authenticate token = .error error) : error.isRefusal = true := by
  rw [authenticate] at failed
  obtain failed | ⟨header, headerRead, failed⟩ := bind_eq_error.mp failed
  · exact isRefusal_of_readHeader failed
  obtain ⟨-, same⟩ | ⟨-, failed⟩ := check_eq_error.mp failed
  · cases same
    rfl
  obtain failed | ⟨key, -, failed⟩ := bind_eq_error.mp failed
  · obtain ⟨fault, -, same⟩ := mapError_eq_error.mp failed
    cases same
    rfl
  obtain ⟨-, same⟩ | ⟨-, failed⟩ := check_eq_error.mp failed
  · cases same
    rfl
  split at failed
  · cases failed
    rfl
  obtain failed | ⟨signature, -, failed⟩ := bind_eq_error.mp failed
  · obtain ⟨fault, -, same⟩ := mapError_eq_error.mp failed
    cases same
    rfl
  obtain ⟨-, same⟩ | ⟨-, failed⟩ := check_eq_error.mp failed
  · cases same
    rfl
  obtain ⟨fault, -, same⟩ := mapError_eq_error.mp failed
  cases same
  rfl

/-- No check before the expiry says that a token is expired. -/
theorem authenticate_ne_expired : codec.authenticate token ≠ .error (.expired claims) := by
  intro failed
  cases isRefusal_of_authenticate failed

theorem authenticate_of_mismatch (read : readHeader token = .ok header)
    (other : header.algorithm ≠ .known codec.keys.algorithm) :
    codec.authenticate token =
      .error (.algorithmMismatch codec.keys.algorithm.name header.algorithm.name) := by
  rw [authenticate, read]
  exact if_pos other

/-- What is left to check once the key for the header is known. -/
theorem authenticate_of_resolved {parts : Token.Parts} (read : readHeader token = .ok header)
    (named : header.algorithm = .known codec.keys.algorithm)
    (resolved : codec.keys.verificationKey header = .ok key)
    (suits : codec.keys.algorithm.suits key = true) (split : Token.split? token = some parts) :
    codec.authenticate token =
      match Token.decodePart parts.signature with
      | .error fault => .error (.invalid (.form fault))
      | .ok signature =>
          if codec.keys.algorithm.verify key (Utf8.encode parts.signed) signature then
            parts.readClaims.mapError fun fault => .invalid (.form fault)
          else .error (.invalid .signature) := by
  simp only [authenticate, read, bind, Except.bind, named, ne_eq, not_true_eq_false, ↓reduceIte,
    resolved, mapError_ok, suits, split]
  cases Token.decodePart parts.signature with
  | error fault => rfl
  | ok signature =>
      rw [mapError_ok]
      cases verified : codec.keys.algorithm.verify key (Utf8.encode parts.signed) signature with
      | false => simp [verified, throw, throwThe, MonadExceptOf.throw]
      | true => simp [verified]

theorem authenticate_of_unsuitable (read : readHeader token = .ok header)
    (named : header.algorithm = .known codec.keys.algorithm)
    (resolved : codec.keys.verificationKey header = .ok key)
    (unsuitable : codec.keys.algorithm.suits key = false) :
    codec.authenticate token = .error (.invalid .family) := by
  simp only [authenticate, read, bind, Except.bind, named, ne_eq, not_true_eq_false, ↓reduceIte,
    resolved, mapError_ok, unsuitable, Bool.false_eq_true, not_false_eq_true]
  rfl

theorem authenticate_of_missigned (read : readHeader token = .ok header)
    (named : header.algorithm = .known codec.keys.algorithm)
    (resolved : codec.keys.verificationKey header = .ok key)
    (missigned : ¬ SignedUnder codec.keys.algorithm key token) :
    ∃ fault, codec.authenticate token = .error (.invalid fault) := by
  cases suits : codec.keys.algorithm.suits key with
  | false => exact ⟨.family, authenticate_of_unsuitable read named resolved suits⟩
  | true =>
      obtain ⟨parts, split, -⟩ := split?_of_readHeader read
      rw [authenticate_of_resolved read named resolved suits split]
      cases decoded : Token.decodePart parts.signature with
      | error fault => exact ⟨.form fault, rfl⟩
      | ok signature =>
          refine ⟨.signature, if_neg fun verified => missigned ?_⟩
          exact ⟨parts, signature, split, Token.decodePart_eq_ok.mp decoded,
            Algorithm.verify_eq_true.mp verified⟩

/-! ## Verification -/

variable {now : Instant}

theorem verify_ok (verified : codec.verify now token = .ok claims) :
    codec.authenticate token = .ok claims ∧
      ∃ expiry, codec.expiry claims = .ok expiry ∧ now.seconds < expiry := by
  rw [verify] at verified
  obtain ⟨held, accepted, verified⟩ := bind_eq_ok.mp verified
  obtain ⟨expiry, read, verified⟩ := bind_eq_ok.mp verified
  split at verified
  · cases verified
  · next later =>
      cases verified
      exact ⟨accepted, expiry, read, Int.lt_of_not_ge later⟩

theorem isRefusal_of_expiry {error : TokenError} (failed : codec.expiry claims = .error error) :
    error.isRefusal = true := by
  rw [expiry] at failed
  split at failed
  · cases failed
    rfl
  · cases failed
    rfl
  · split at failed
    · cases failed
    · cases failed
      rfl

/-- A token is refused, or it is expired with the claims that it was accepted for. -/
theorem verify_error {error : TokenError} (failed : codec.verify now token = .error error) :
    error.isRefusal = true ∨
      ∃ claims, error = .expired claims ∧ codec.authenticate token = .ok claims := by
  rw [verify] at failed
  obtain failed | ⟨held, accepted, failed⟩ := bind_eq_error.mp failed
  · exact .inl (isRefusal_of_authenticate failed)
  obtain failed | ⟨expiry, -, failed⟩ := bind_eq_error.mp failed
  · exact .inl (isRefusal_of_expiry failed)
  split at failed
  · cases failed
    exact .inr ⟨held, rfl, accepted⟩
  · cases failed

theorem verify_expired (refused : codec.verify now token = .error (.expired claims)) :
    codec.authenticate token = .ok claims := by
  obtain refusal | ⟨held, same, accepted⟩ := verify_error refused
  · cases refusal
  · cases same
    exact accepted

theorem verify_of_refused {error : TokenError} (refused : codec.authenticate token = .error error) :
    codec.verify now token = .error error := by
  rw [verify, refused]
  rfl

end Codec

end SessionTokens
