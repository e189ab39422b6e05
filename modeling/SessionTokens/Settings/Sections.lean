import SessionTokens.Settings.Session

/-!
# Sections of a configuration

How the settings of a session engine are written as an object and read from a
configuration value.  A field without a value is left out when it is written,
and a missing field has its default when it is read.
-/

namespace SessionTokens

/-- A member that is left out when there is no value. -/
def optionalMember (name : String) (value : Option Json) : Members :=
  (value.map fun value => (name, value)).toList

namespace KeyConfig

def fields : List String :=
  ["secret", "private_key_file", "private_key", "private_key_passphrase", "public_key_file",
    "public_key"]

def toJson (config : KeyConfig) : Json :=
  .object <|
    optionalMember "secret" (config.secret.map .string)
      ++ optionalMember "private_key_file" (config.privateKeyFile.map .string)
      ++ optionalMember "private_key" (config.privateKey.map .string)
      ++ optionalMember "private_key_passphrase" (config.privateKeyPassphrase.map .string)
      ++ optionalMember "public_key_file" (config.publicKeyFile.map .string)
      ++ optionalMember "public_key" (config.publicKey.map .string)

def read? (strictness : Strictness) (value : Setting) : Option KeyConfig := do
  let entries ← value.section? fields strictness
  let text := fun name =>
    Setting.field? entries name (Setting.optional? (Setting.text? strictness)) none
  return {
    secret := ← text "secret"
    privateKeyFile := ← text "private_key_file"
    privateKey := ← text "private_key"
    privateKeyPassphrase := ← text "private_key_passphrase"
    publicKeyFile := ← text "public_key_file"
    publicKey := ← text "public_key" }

end KeyConfig

namespace CookieConfig

def fields : List String :=
  ["send_cookie", "name", "max_age", "domain", "secure", "http_only", "same_site",
    "refresh_name", "refresh_max_age", "refresh_http_only"]

def toJson (config : CookieConfig) : Json :=
  .object <|
    [("send_cookie", .bool config.sendCookie), ("name", .string config.name)]
      ++ optionalMember "max_age" (config.maxAge.map Span.toJson)
      ++ optionalMember "domain" (config.domain.map .string)
      ++ [("secure", .bool config.secure), ("http_only", .bool config.httpOnly)]
      ++ optionalMember "same_site" (config.sameSite.map fun policy => .string policy.name)
      ++ [("refresh_name", .string config.refreshName)]
      ++ optionalMember "refresh_max_age" (config.refreshMaxAge.map Span.toJson)
      ++ [("refresh_http_only", .bool config.refreshHttpOnly)]

def read? (strictness : Strictness) (value : Setting) : Option CookieConfig := do
  let entries ← value.section? fields strictness
  let flag := fun name => Setting.field? entries name (Setting.flag? strictness)
  let text := fun name => Setting.field? entries name (Setting.text? strictness)
  let span := fun name =>
    Setting.field? entries name (Setting.optional? (Span.read? strictness)) none
  return {
    sendCookie := ← flag "send_cookie" false
    name := ← text "name" "jwt"
    maxAge := ← span "max_age"
    domain := ← Setting.field? entries "domain" (Setting.optional? (Setting.text? strictness)) none
    secure := ← flag "secure" false
    httpOnly := ← flag "http_only" false
    sameSite :=
      ← Setting.field? entries "same_site"
        (Setting.optional? (Setting.choice? SameSite.ofName? strictness)) none
    refreshName := ← text "refresh_name" "refresh_token"
    refreshMaxAge := ← span "refresh_max_age"
    refreshHttpOnly := ← flag "refresh_http_only" true }

end CookieConfig

def TokenLookup.read? (strictness : Strictness) (value : Setting) : Option TokenLookup := do
  let rules ← value.text? strictness
  (TokenLookup.parse rules).toOption

namespace SessionConfig

def fields : List String :=
  ["realm", "signing_algorithm", "keys", "timeout", "max_refresh", "refresh_token_ttl",
    "token_lookup", "refresh_token_lookup", "token_head_name", "identity_key", "exp_field",
    "send_authorization", "cookies", "store"]

def toJson (config : SessionConfig) : Json :=
  .object <|
    [("realm", .string config.realm), ("signing_algorithm", .string config.algorithm.name),
      ("keys", config.keys.toJson), ("timeout", config.timeout.toJson),
      ("max_refresh", config.maxRefresh.toJson),
      ("refresh_token_ttl", config.refreshLifetime.toJson),
      ("token_lookup", .string config.tokenLookup.write)]
      ++ optionalMember "refresh_token_lookup"
        (config.refreshTokenLookup.map fun lookup => .string lookup.write)
      ++ [("token_head_name", .string config.headName),
        ("identity_key", .string config.identityKey), ("exp_field", .string config.expiryField),
        ("send_authorization", .bool config.sendAuthorization),
        ("cookies", config.cookies.toJson), ("store", config.store.toJson)]

def read? (strictness : Strictness) (value : Setting) : Option SessionConfig := do
  let entries ← value.section? fields strictness
  let text := fun name => Setting.field? entries name (Setting.text? strictness)
  let span := fun name seconds =>
    Setting.field? entries name (Span.read? strictness) (Span.ofSeconds seconds)
  return {
    realm := ← text "realm" "sessiongate"
    algorithm :=
      ← Setting.field? entries "signing_algorithm"
        (Setting.choice? Algorithm.ofName? strictness) .hs256
    keys := ← Setting.field? entries "keys" (KeyConfig.read? strictness) {}
    timeout := ← span "timeout" 3600
    maxRefresh := ← span "max_refresh" 86400
    refreshLifetime := ← span "refresh_token_ttl" 2592000
    tokenLookup :=
      ← Setting.field? entries "token_lookup" (TokenLookup.read? strictness) .standard
    refreshTokenLookup :=
      ← Setting.field? entries "refresh_token_lookup"
        (Setting.optional? (TokenLookup.read? strictness)) none
    headName := ← text "token_head_name" "Bearer"
    identityKey := ← text "identity_key" "identity"
    expiryField := ← text "exp_field" Claims.expiryName
    sendAuthorization :=
      ← Setting.field? entries "send_authorization" (Setting.flag? strictness) false
    cookies := ← Setting.field? entries "cookies" (CookieConfig.read? strictness) {}
    store := ← Setting.field? entries "store" StoreConfig.read? .memory }

end SessionConfig

end SessionTokens
