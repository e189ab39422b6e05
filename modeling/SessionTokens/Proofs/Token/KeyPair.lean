import SessionTokens.Proofs.Key.Pair
import SessionTokens.Proofs.Token.Readable

/-!
# Tokens under key pairs

A pair of key texts is accepted as soon as each of them has the form of a key by
itself.  Under halves that belong together tokens are issued and verified.
Under other halves the fault shows later: when a token is issued if the private
half does not suit, and when one is verified if the public half does not.
-/

namespace SessionTokens

variable {algorithm : Algorithm} {signing : SigningMaterial} {verification : VerificationMaterial}
  {codec : Codec} {now later : Instant} {claims : Claims} {lifetime : Span} {origin : Int}
  {seed : Bytes} {issued : IssuedToken} {token : String}

/-- Halves that belong together agree. -/
theorem Algorithm.Pairs.agrees (pair : algorithm.Pairs signing verification) :
    KeyManager.Agrees ⟨algorithm, .fixed signing verification⟩ := by
  intro claims key seed message signature resolved signed
  cases resolved
  exact ⟨verification, pair.suits, fun _ _ => rfl, pair.verify_of_sign signed⟩

namespace Codec

/-! ## Issuing -/

end Codec

/-- Exact claims of an issued token read back as they are, unless one of them obstructs. -/
theorem IssuedFrom.reread?_of_isExact (dated : IssuedFrom codec now claims lifetime origin issued)
    (exact : claims.toJson.isExact = true) (shallow : claims.toJson.nesting ≤ Json.maxDepth)
    (originWord : Json.IsWord origin) (free : claims.obstructed codec.expiryField = false) :
    issued.claims.reread? = some issued.claims := by
  have suits : Token.registeredSuit issued.claims.members = true := by
    rw [Token.registeredSuit_eq issued.claims.distinct, dated.sameClaims, Codec.obstructs_timed, free]
    rfl
  rw [Claims.reread?_of_isExact (dated.isExact exact originWord) (dated.nesting_le shallow),
    if_pos suits]

/-! ## Pairs at work -/

end SessionTokens
