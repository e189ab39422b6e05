import SessionTokens.Proofs.Json.Members
import SessionTokens.Proofs.Json.Reading
import SessionTokens.Proofs.Outcome
import SessionTokens.Proofs.Text.Base64
import SessionTokens.Proofs.Text.Split
import SessionTokens.Proofs.Text.Utf8
import SessionTokens.Token.Authentic

/-!
# Signed claims come back

The claims that a token holds are what the text of the signed claims reads back
as.  The expiry is a whole number under one name, so that it comes back as it
was, and the other claims come back the same whatever the expiry is.
-/

namespace SessionTokens

namespace Claims

/-- What signed claims read back as. -/
def reread? (claims : Claims) : Option Claims := do
  let members ← Json.rereadMembers 126 claims.members
  if Token.registeredSuit members then some (.ofPairs (Json.mergeMembers members)) else none

theorem eq_of_members {left right : Claims} (same : left.members = right.members) :
    left = right := by
  cases left
  cases right
  cases same
  rfl

theorem members_ofPairs {pairs : Members} (distinct : pairs.Distinct) :
    (ofPairs pairs).members = pairs := Members.ofPairs_eq_self distinct

/-- The form of claims does not depend on a whole number among them. -/
theorem registeredSuit_int (front back : Members) (name : String) (value other : Int) :
    Token.registeredSuit (front ++ (name, .int value) :: back) =
      Token.registeredSuit (front ++ (name, .int other) :: back) := by
  have values (known : String) :
      (Token.Header.valuesOf (front ++ (name, .int value) :: back) known).length =
        (Token.Header.valuesOf (front ++ (name, .int other) :: back) known).length := by
    by_cases same : name = known <;> simp [Token.Header.valuesOf, same]
  simp only [Token.registeredSuit, Token.Header.singleKnown, values, List.all_append,
    List.all_cons, Token.suitsTime, Token.suitsSubject]

/-- What claims with a whole number among them read back as. -/
theorem reread?_of_split {claims : Claims} {front back : Members} {name : String} {value : Int}
    (split : claims.members = front ++ (name, .int value) :: back) (word : Json.IsWord value) :
    claims.reread? =
      (Json.rereadMembers 126 front).bind fun front =>
        (Json.rereadMembers 126 back).bind fun back =>
          if Token.registeredSuit (front ++ (name, .int 0) :: back) then
            some (.ofPairs
              (Json.mergeMembers front ++ (name, .int value) :: Json.mergeMembers back))
          else none := by
  rw [reread?, split, Json.rereadMembers_append]
  cases Json.rereadMembers 126 front with
  | none => rfl
  | some front =>
      rw [Json.rereadMembers, Json.reread_int word]
      cases Json.rereadMembers 126 back with
      | none => rfl
      | some back =>
          simp only [Option.bind_eq_bind, Option.bind_some, Option.pure_def,
            registeredSuit_int front back name value 0, Members.mergeMembers_append,
            Json.mergeMembers, Json.merge]

/-- The names of claims come back as they were, and in their order. -/
theorem names_of_split {front back readFront readBack : Members} (name : String)
    (value other : Json) (frontRead : Json.rereadMembers 126 front = some readFront)
    (backRead : Json.rereadMembers 126 back = some readBack) :
    Members.names (Json.mergeMembers readFront ++ (name, value) :: Json.mergeMembers readBack) =
      Members.names (front ++ (name, other) :: back) := by
  have names (left right : Members) :
      Members.names (left ++ (name, value) :: right) =
        left.names ++ name :: right.names := by
    simp [Members.names]
  rw [names, Members.names_mergeMembers, Members.names_mergeMembers,
    Json.names_rereadMembers frontRead, Json.names_rereadMembers backRead]
  simp [Members.names]

/-- A whole number among signed claims comes back under its name. -/
theorem get?_of_reread? {claims read : Claims} {name : String} {value : Int}
    (word : Json.IsWord value) (present : claims.get? name = some (.int value))
    (held : claims.reread? = some read) : read.get? name = some (.int value) := by
  obtain ⟨front, back, absent, split⟩ := Members.exists_split_of_get? present
  rw [reread?_of_split split word] at held
  obtain ⟨readFront, frontRead, held⟩ := Option.bind_eq_some_iff.mp held
  obtain ⟨readBack, backRead, held⟩ := Option.bind_eq_some_iff.mp held
  split at held
  · cases held
    have distinct := claims.distinct
    rw [split, Members.Distinct, ← names_of_split name (.int value) (.int value) frontRead backRead]
      at distinct
    rw [get?, members_ofPairs distinct]
    refine Members.get?_append_cons ?_ _ _
    rwa [Members.names_mergeMembers, Json.names_rereadMembers frontRead]
  · cases held

/-- The other claims come back the same, whatever one whole number among them is. -/
theorem remove_reread? {left right : Claims} {front back : Members} {name : String}
    {value other : Int} (leftSplit : left.members = front ++ (name, .int value) :: back)
    (rightSplit : right.members = front ++ (name, .int other) :: back)
    (absent : name ∉ front.names) (word : Json.IsWord value) (otherWord : Json.IsWord other) :
    left.reread?.map (·.remove name) = right.reread?.map (·.remove name) := by
  rw [reread?_of_split leftSplit word, reread?_of_split rightSplit otherWord]
  cases frontRead : Json.rereadMembers 126 front with
  | none => rfl
  | some readFront =>
      cases backRead : Json.rereadMembers 126 back with
      | none => rfl
      | some readBack =>
          have leftDistinct := left.distinct
          have rightDistinct := right.distinct
          rw [leftSplit, Members.Distinct,
            ← names_of_split name (.int value) (.int value) frontRead backRead] at leftDistinct
          rw [rightSplit, Members.Distinct,
            ← names_of_split name (.int other) (.int other) frontRead backRead] at rightDistinct
          have unnamed : name ∉ Members.names (Json.mergeMembers readFront) := by
            rwa [Members.names_mergeMembers, Json.names_rereadMembers frontRead]
          simp only [Option.bind_some]
          split
          · refine congrArg some (eq_of_members ?_)
            simp only [remove, members_ofPairs leftDistinct, members_ofPairs rightDistinct]
            exact Members.remove_append_cons unnamed _ _ _
          · rfl

end Claims

namespace Token

/-- The three parts of a token, as they were joined. -/
theorem split?_joined {signature : List Char} (absent : '.' ∉ signature) (header : Json)
    (claims : Claims) :
    split? (String.ofList (signedPart header claims ++ '.' :: signature)) =
      some ⟨encodePart (Json.write Json.escapePlain header), encodePart claims.render,
        signature⟩ := by
  have inner : '.' ∉ encodePart claims.render := Base64.dot_not_mem_encode _
  rw [split?, String.toList_ofList, Text.splitLast_append absent]
  simp only [Option.bind_eq_bind, Option.bind_some, signedPart, Text.splitLast_append inner]
  rfl

theorem readPart_encodePart (value : Json) :
    readPart (encodePart (Json.write Json.escapePlain value)) =
      (Json.reread Json.maxDepth value).elim (.error .json) .ok := by
  rw [readPart, encodePart, decodePart, Base64.decode?_encode]
  simp only [bind, Except.bind, Utf8.decode?_encode, Option.bind_some, Json.parseRaw?_write]
  cases Json.reread Json.maxDepth value <;> rfl

theorem readClaims_encodePart (header signature : List Char) (claims : Claims) :
    Parts.readClaims ⟨header, encodePart claims.render, signature⟩ =
      claims.reread?.elim (.error .json) .ok := by
  rw [Parts.readClaims, Claims.render, readPart_encodePart, Claims.toJson, Claims.reread?]
  have depth : Json.reread Json.maxDepth (.object claims.members) =
      (Json.rereadMembers 126 claims.members).map .object := by
    rw [Json.maxDepth, Json.reread]
  rw [depth]
  cases Json.rereadMembers 126 claims.members with
  | none => rfl
  | some members =>
      by_cases suits : registeredSuit members = true
      · simp [bind, Except.bind, suits]
      · simp [bind, Except.bind, suits]

end Token

theorem Json.wholeSeconds?_int {second : Int} (low : Decimal.minInt64 ≤ second)
    (high : second ≤ Decimal.maxInt64) : (Json.int second).wholeSeconds? = some second := by
  have kept : Claims.clampInt64 second = second := by
    rw [Claims.clampInt64]
    omega
  rw [wholeSeconds?, kept]

theorem Claims.origin?_int {claims : Claims} {second : Int}
    (present : claims.get? originName = some (.int second)) (low : Decimal.minInt64 ≤ second)
    (high : second ≤ Decimal.maxInt64) : claims.origin? = some second := by
  rw [origin?, present, Option.bind_some, Json.wholeSeconds?_int low high]

namespace Codec

variable {codec : Codec} {claims : Claims} {token : String}

/-- A signed token is its signed part and a signature of it under the key for its claims. -/
theorem exists_signature_of_signs (signs : codec.Signs claims token) :
    ∃ (key : SigningKey) (seed signature : Bytes), codec.keys.signingKey claims = .ok key ∧
      codec.keys.algorithm.sign seed key.material (Utf8.encode
        (Token.signedPart (Token.Header.issued codec.keys.algorithm key.keyId) claims)) =
          .ok signature ∧
      String.ofList (Token.signedPart (Token.Header.issued codec.keys.algorithm key.keyId) claims ++
        '.' :: Base64.encode Base64.urlSafe signature) = token := by
  obtain ⟨seed, encoded⟩ := signs
  rw [encode] at encoded
  obtain ⟨key, resolved, encoded⟩ := bind_eq_ok.mp encoded
  obtain ⟨signature, signed, encoded⟩ := bind_eq_ok.mp encoded
  exact ⟨key, seed, signature, mapError_eq_ok.mp resolved, mapError_eq_ok.mp signed,
    Except.ok.inj encoded⟩

/-- A signed token holds what its claims read back as. -/
theorem heldClaims?_of_signs (signs : codec.Signs claims token) :
    Token.heldClaims? token = claims.reread? := by
  obtain ⟨key, seed, signature, -, -, rfl⟩ := exists_signature_of_signs signs
  rw [Token.heldClaims?, Token.split?_joined (Base64.dot_not_mem_encode signature),
    Option.bind_some, Token.readClaims_encodePart]
  cases claims.reread? <;> rfl

/-- The claims of a token that is accepted are the claims that it holds. -/
theorem heldClaims?_of_authenticate (accepted : codec.authenticate token = .ok claims) :
    Token.heldClaims? token = some claims := by
  rw [authenticate] at accepted
  obtain ⟨header, -, accepted⟩ := bind_eq_ok.mp accepted
  obtain ⟨-, accepted⟩ := check_eq_ok.mp accepted
  obtain ⟨key, -, accepted⟩ := bind_eq_ok.mp accepted
  obtain ⟨-, accepted⟩ := check_eq_ok.mp accepted
  cases split : Token.split? token with
  | none =>
      rw [split] at accepted
      cases accepted
  | some parts =>
      rw [split] at accepted
      obtain ⟨signature, -, accepted⟩ := bind_eq_ok.mp accepted
      obtain ⟨-, accepted⟩ := check_eq_ok.mp accepted
      rw [Token.heldClaims?, split, Option.bind_some, toOption_eq_some]
      exact mapError_eq_ok.mp accepted

/-! ## Expiry and first second -/

/-- The expiry stands at one place, which does not depend on it. -/
theorem exists_timed_eq (codec : Codec) (differs : codec.expiryField ≠ Claims.originName)
    (claims : Claims) (origin : Int) :
    ∃ front back, codec.expiryField ∉ Members.names front ∧
      ∀ expiresAt : Instant, (codec.timed claims expiresAt origin).members =
        front ++ (codec.expiryField, .int expiresAt.seconds) :: back := by
  obtain ⟨front, back, absent, split⟩ := claims.members.exists_set_eq codec.expiryField
  obtain ⟨front', back', absent', split'⟩ :=
    Members.exists_set_append_eq (Ne.symm differs) absent back (.int origin)
  refine ⟨front', back', absent', fun expiresAt => ?_⟩
  rw [← split', ← split]
  rfl

theorem get?_origin_timed (codec : Codec) (claims : Claims) (expiresAt : Instant)
    (origin : Int) :
    (codec.timed claims expiresAt origin).get? Claims.originName = some (.int origin) :=
  Members.get?_set _ _ _

theorem get?_expiry_timed (codec : Codec) (differs : codec.expiryField ≠ Claims.originName)
    (claims : Claims) (expiresAt : Instant) (origin : Int) :
    (codec.timed claims expiresAt origin).get? codec.expiryField =
      some (.int expiresAt.seconds) :=
  (Members.get?_set_of_ne differs _ _).trans (Members.get?_set _ _ _)

theorem expiry_int {second : Int} (present : claims.get? codec.expiryField = some (.int second))
    (low : Decimal.minInt64 ≤ second) (high : second ≤ Decimal.maxInt64) :
    codec.expiry claims = .ok second := by
  rw [expiry, present]
  simp only [Json.wholeSeconds?_int low high]

end Codec

end SessionTokens
