import SessionTokens.Proofs.Json.Layout
import SessionTokens.Proofs.Lookup
import SessionTokens.Proofs.Request.Form
import SessionTokens.Proofs.Session.Handout
import SessionTokens.Proofs.Session.Runs

/-!
# Tokens arrive

One alphabet passes six ways unchanged: a token of an engine is found as it was
put into a request, whatever else the request carries.  So the cookies of a grant
come back as its pair.
-/

namespace SessionTokens

variable {name value token headName : String}

/-! ## Objects -/

/-- Objects need no escape for a plain text. -/
theorem IsPlainText.unescaped {text : String} (plain : IsPlainText text) :
    ∀ char ∈ text.toList, Json.escapePlain char = [char] := by
  intro char inside
  have other {control : Char} (outside : Text.isPlain control = false) : char ≠ control :=
    fun same => plain.not_mem outside (same ▸ inside)
  have bounds := Text.isGraphic_iff.mp (plain.graphic char inside)
  rw [Json.escapePlain, if_neg (by omega)]
  all_goals exact other (by decide)

/-- A plain value that stands in an object under a name is found there. -/
theorem Request.InObject.parseBytes? {octets : Bytes} (inObject : InObject name value octets)
    (plain : IsPlainText value) :
    ∃ members : Members, Json.parseBytes? octets = some (.object members) ∧
      members.get? name = some (.string value) := by
  obtain ⟨before, after, front, back, text, frontMembers, backMembers, rfl, blankBefore,
    blankAfter, frontRead, spaced, named, verbatim, backRead, absent⟩ := inObject
  have whole : text.Reads (name, .string value) :=
    .of_verbatim spaced named verbatim plain.unescaped
  have read : List.Forall₂ Json.MemberText.Reads (front ++ text :: back)
      (frontMembers ++ (name, .string value) :: backMembers) :=
    List.rel_append frontRead (List.Forall₂.cons whole backRead)
  have merged : Json.mergeMembers (frontMembers ++ (name, .string value) :: backMembers) =
      Json.mergeMembers frontMembers ++ (name, .string value) :: Json.mergeMembers backMembers :=
    Members.mergeMembers_append _ _
  have others : name ∉ Members.names (Json.mergeMembers backMembers) := by
    rwa [Members.names_mergeMembers]
  refine ⟨_, ?_, Members.get?_ofPairs_append_cons others (Json.mergeMembers frontMembers) _⟩
  rw [Json.parseBytes?, Utf8.decode?_encode, Option.bind_some,
    Json.parse?_objectText blankBefore blankAfter (by simp) read, merged]

/-! ## Requests -/

namespace Request

variable {request : Request} {body : Option Bytes} {jsonBody : Option Json}

/-- Path parameters come last, and change nothing else. -/
theorem foldl_withPathParam (request : Request) (params : List (String × String)) :
    params.foldl (fun request (name, value) => request.withPathParam name value) request =
      { request with pathParams := params.reverse ++ request.pathParams } := by
  induction params generalizing request with
  | nil => rfl
  | cons param params ih =>
      rw [List.foldl_cons, ih, List.reverse_cons, List.append_assoc]
      rfl

theorem form_complete {octets : Bytes} (params : List (String × String))
    (type : request.mediaType = "application/x-www-form-urlencoded") :
    (request.complete (some octets) jsonBody params).form = Percent.decodeForm octets := by
  rw [complete, foldl_withPathParam]
  cases jsonBody with
  | none => simp [withBody, type]
  | some value => simp [withBody, withJsonBody, type]

theorem jsonBody_complete_none {octets : Bytes} (params : List (String × String))
    (type : request.mediaType = "application/json") :
    (request.complete (some octets) none params).jsonBody = Json.parseBytes? octets := by
  rw [complete, foldl_withPathParam]
  simp [withBody, type]

theorem jsonBody_complete_some (value : Json) (params : List (String × String)) :
    (request.complete body (some value) params).jsonBody = some value := by
  rw [complete, foldl_withPathParam]
  rfl

theorem pathParam?_complete {front back : List (String × String)}
    (others : ∀ pair ∈ back, pair.1 ≠ name) :
    (request.complete body jsonBody (front ++ (name, value) :: back)).pathParam? name =
      some value := by
  have absent : back.reverse.lookup name = none :=
    List.lookup_eq_none_iff.mpr fun pair inside =>
      bne_iff_ne.mpr (others pair (List.mem_reverse.mp inside)).symm
  rw [complete, foldl_withPathParam, pathParam?, List.reverse_append, List.reverse_cons,
    List.append_assoc, List.append_assoc, List.lookup_append, absent, Option.none_or,
    List.singleton_append, List.lookup_cons_self]

theorem jsonField?_of_get? {members : Members} (body : request.jsonBody = some (.object members))
    (found : members.get? name = some (.string value)) : request.jsonField? name = some value := by
  rw [jsonField?, body]
  simp only [Option.bind_eq_bind, Option.bind_some, Json.asObject?, found, Json.asString?]

theorem extract_of_cookie? (found : request.cookie? name = some token) (filled : token ≠ "")
    (headName : String) :
    TokenSource.extract ⟨.cookie, name⟩ request headName = .ok token := by
  change TokenSource.nonEmpty (request.cookie? name) .emptyCookie = .ok token
  rw [found, TokenSource.nonEmpty_some filled]

/-- A plain token that a request carries under a plain name is found there. -/
theorem Carries.extract {kind : SourceKind} (carries : request.Carries name token headName kind)
    (plainName : IsPlainText name) (plainToken : IsPlainText token) :
    TokenSource.extract ⟨kind, name⟩ request headName = .ok token := by
  cases carries with
  | header head alone =>
      have text : request.header? name = some (headName ++ " " ++ token) := by
        rw [header?, alone]
        refine fieldText?_ofString fun char inside => ?_
        simp only [String.toList_append, List.mem_append] at inside
        rcases inside with (inside | blank) | inside
        · exact .inl (head.graphic char inside)
        · exact .inr (List.mem_singleton.mp blank)
        · exact .inl (plainToken.graphic char inside)
      change TokenSource.ofHeader (request.header? name) headName = .ok token
      rw [text]
      exact TokenSource.ofHeader_joined head.graphic plainToken.graphic head.filled
        plainToken.filled
  | cookie carried =>
      have found : request.cookie? name = some token :=
        carried.cookie? (by simpa using ⟨plainName, plainToken⟩) (by simp) List.mem_cons_self
      exact extract_of_cookie? found plainToken.filled headName
  | query target inside =>
      have found : request.queryParam? name = some token := by
        rw [queryParam?, target]
        exact inside.lookup plainName plainToken
      change TokenSource.nonEmpty (request.queryParam? name) .emptyQuery = .ok token
      rw [found, TokenSource.nonEmpty_some plainToken.filled]
  | @form base body jsonBody params type inside =>
      have found : (base.complete (some body) jsonBody params).formValue? name = some token := by
        rw [formValue?, form_complete params type]
        exact inside.lookup plainName plainToken
      change TokenSource.nonEmpty (Request.formValue? _ name) .emptyParam = .ok token
      rw [found, TokenSource.nonEmpty_some plainToken.filled]
  | @json base body params type inside =>
      obtain ⟨members, read, value⟩ := inside.parseBytes? plainToken
      have found : (base.complete (some body) none params).jsonField? name = some token :=
        jsonField?_of_get? ((jsonBody_complete_none params type).trans read) value
      change TokenSource.nonEmpty (Request.jsonField? _ name) .emptyBody = .ok token
      rw [found, TokenSource.nonEmpty_some plainToken.filled]
  | @jsonValue base body members params value =>
      have found : (base.complete body (some (.object members)) params).jsonField? name =
          some token :=
        jsonField?_of_get? (jsonBody_complete_some _ params) value
      change TokenSource.nonEmpty (Request.jsonField? _ name) .emptyBody = .ok token
      rw [found, TokenSource.nonEmpty_some plainToken.filled]
  | param others =>
      change TokenSource.nonEmpty (Request.pathParam? _ name) .emptyParam = .ok token
      rw [pathParam?_complete others, TokenSource.nonEmpty_some plainToken.filled]

end Request

/-! ## Delivered cookies -/

/-- A client keeps the name and the value of a cookie, when both are plain. -/
theorem SetCookie.kept?_of_plain {cookie : SetCookie} (plainName : IsPlainText cookie.name)
    (plainValue : IsPlainText cookie.value) :
    cookie.kept? = some (cookie.name, cookie.value) := by
  obtain ⟨attributes, written⟩ : ∃ attributes, cookie.write.toList =
      (cookie.name.toList ++ '=' :: cookie.value.toList) ++ ';' :: attributes := by
    simp [write]
  have before : ∀ char ∈ cookie.name.toList ++ '=' :: cookie.value.toList,
      decide (char ≠ ';') = true := by
    intro char inside
    rw [List.mem_append, List.mem_cons] at inside
    rw [decide_eq_true_eq]
    rintro rfl
    rcases inside with inside | same | inside
    · exact plainName.not_mem (by decide) inside
    · cases same
    · exact plainValue.not_mem (by decide) inside
  rw [kept?, written, List.takeWhile_append_of_pos before, List.takeWhile_cons_of_neg (by simp),
    List.append_nil, Text.splitString, String.toList_ofList,
    Text.splitFirst_append (plainName.not_mem (by decide))]
  simp only [Option.map_some, String.ofList_toList]

/-- Both tokens of a pair that a call hands out are tokens of an engine. -/
theorem SessionEngine.minted_of_perform {engine : SessionEngine} {now : Instant} {store : Store}
    {call : Call} {pair : TokenPair}
    (answer : (engine.perform now store call).1.pair? = some pair) :
    Minted pair.accessToken ∧ Minted pair.refreshToken := by
  obtain ⟨draw, userData, origin, pending, -, prepared, -, rfl⟩ :=
    exists_prepared_of_perform answer
  constructor
  · exact .access (preparePair_ok prepared).signed
  · obtain ⟨drawn, enough⟩ := refreshToken_of_preparePair prepared
    rw [drawn, ← refreshTokenOf_take]
    exact .refresh (List.length_take_of_le enough)

/-- The cookies of a pair of plain tokens come back as the pair. -/
theorem SessionEngine.comesBack {engine : SessionEngine} {pair : TokenPair}
    (delivers : engine.config.cookies.Delivers) (access : IsPlainText pair.accessToken)
    (refresh : IsPlainText pair.refreshToken) : (engine.grant pair).ComesBack engine := by
  have accessName := delivers.access.isPlainText
  have refreshName := delivers.refresh.isPlainText
  have kept : (engine.grant pair).cookies.filterMap SetCookie.kept? =
      [(engine.config.cookies.name, pair.accessToken),
        (engine.config.cookies.refreshName, pair.refreshToken)] := by
    rw [grant, cookiesFor]
    simp only [delivers.sent, if_true]
    rw [List.filterMap_cons_some (SetCookie.kept?_of_plain accessName access),
      List.filterMap_cons_some (SetCookie.kept?_of_plain refreshName refresh)]
    rfl
  have plain : ∀ cookie ∈ (engine.grant pair).cookies.filterMap SetCookie.kept?,
      IsPlainText cookie.1 ∧ IsPlainText cookie.2 := by
    rw [kept]
    simpa using ⟨⟨accessName, access⟩, refreshName, refresh⟩
  have refreshes (request : Request) (headers : List (List (List Char)))
      (carried : request.CarriesCookies
        ((engine.grant pair).cookies.filterMap SetCookie.kept?) headers) :
      TokenSource.extract ⟨.cookie, engine.config.cookies.refreshName⟩ request
        engine.config.headName = .ok pair.refreshToken :=
    have found : request.cookie? engine.config.cookies.refreshName = some pair.refreshToken :=
      carried.cookie? plain (by rw [kept]; simp [delivers.apart]) (by rw [kept]; simp)
    Request.extract_of_cookie? found refresh.filled _
  refine ⟨kept, ?_, refreshes, ?_⟩
  · intro request headers carried
    have found : request.cookie? engine.config.cookies.name = some pair.accessToken :=
      carried.cookie? plain (by rw [kept]; simp [Ne.symm delivers.apart]) (by rw [kept]; simp)
    exact Request.extract_of_cookie? found access.filled _
  · intro unset request headers carried
    rw [refreshToken, SessionConfig.effectiveRefreshLookup, unset, mapError_eq_ok]
    simp only [Option.getD_none, TokenLookup.extract, TokenLookup.extractFrom,
      refreshes request headers carried]
    rfl

/-! ## Requests with a token everywhere -/

/-- A token with both digits in which the alphabets of base 64 differ. -/
def sampleToken : String := refreshTokenOf (sampleDraw 251)

def sampleHeaders : List (List (List Char)) :=
  [["theme=\"dark\"".toList],
    ["tokens=1 ".toList, (" token =" ++ sampleToken ++ " ").toList, "token".toList]]

/-- Parameters around a token, one of them with a name that differs in one letter. -/
def sampleForm : String := "lang=en&token=" ++ sampleToken ++ "&%54oken=a+b"

def sampleMembers : List Json.MemberText :=
  [⟨[], "lang".toList, [], [' '], "\"en\"".toList, []⟩,
    ⟨[' '], "token".toList, [' '], [], '"' :: (sampleToken.toList ++ ['"']), ['\n']⟩]

def cookieFields (headers : List (List (List Char))) : List (String × Bytes) :=
  headers.map fun pieces => ("cookie", Utf8.ofString (Request.cookieText pieces))

def sampleCarrier (contentType : String) : Request where
  method := "POST"
  target := ⟨"/me", some sampleForm⟩
  fields :=
    [("content-type", Utf8.ofString contentType), ("token", Utf8.ofString ("JWT " ++ sampleToken))]
      ++ cookieFields sampleHeaders

theorem values_cookieFields {request : Request} {front : List (String × Bytes)}
    {headers : List (List (List Char))} (fields : request.fields = front ++ cookieFields headers)
    (others : ∀ field ∈ front, field.1 ≠ "cookie") :
    request.values "cookie" =
      headers.map fun pieces => Utf8.ofString (Request.cookieText pieces) := by
  have small : Request.lower "cookie" = "cookie" := by decide +kernel
  have dropped : front.filter (·.1 = "cookie") = [] :=
    List.filter_eq_nil_iff.mpr fun field inside => by simpa using others field inside
  have kept : (cookieFields headers).filter (·.1 = "cookie") = cookieFields headers :=
    List.filter_eq_self.mpr fun field inside => by
      obtain ⟨pieces, -, rfl⟩ := List.mem_map.mp inside
      rfl
  rw [Request.values, fields, small, List.filter_append, dropped, kept, List.nil_append,
    cookieFields, List.map_map]
  rfl

theorem inForm_sampleForm : Request.InForm "token" sampleToken (Utf8.ofString sampleForm) :=
  ⟨[Utf8.ofString "lang=en"], [Utf8.ofString "%54oken=a+b"], by decide +kernel,
    by decide +kernel⟩

theorem inObject_sampleMembers : Request.InObject "token" sampleToken
    (Utf8.encode (Json.objectText [' '] sampleMembers ['\n'])) := by
  have lang : IsPlainText "lang" := by decide
  have en : IsPlainText "en" := by decide
  have named : IsPlainText "token" := by decide
  have front : Json.MemberText.Reads ⟨[], "lang".toList, [], [' '], "\"en\"".toList, []⟩
      ("lang", .string "en") :=
    .of_verbatim (by decide) (Json.readText_of_unescaped lang.unescaped) rfl en.unescaped
  exact ⟨[' '], ['\n'], _, [], _, _, [], rfl, by simp [Json.isBlank], by simp [Json.isBlank],
    .cons front .nil, by decide +kernel, Json.readText_of_unescaped named.unescaped, rfl, .nil,
    nofun⟩

theorem carriesCookies_sampleCarrier (contentType : String) :
    (sampleCarrier contentType).CarriesCookies [("token", sampleToken)] sampleHeaders := by
  have blank : ∀ char ∈ [' '], Text.isBlank char = true := List.forall_mem_singleton.mpr rfl
  have cookie : Request.IsCookie ("token", sampleToken) (" token =" ++ sampleToken ++ " ").toList :=
    ⟨" token ".toList, sampleToken.toList ++ [' '], by decide +kernel,
      ⟨[' '], [' '], rfl, blank, blank⟩, ⟨[], [' '], rfl, nofun, blank⟩⟩
  have others : ∀ pieces ∈ sampleHeaders, ∀ piece ∈ pieces,
      piece ≠ (" token =" ++ sampleToken ++ " ").toList →
        (Text.splitFirst '=' piece).map (fun parts => Text.trim parts.1) ≠
          some "token".toList := by
    decide +kernel
  have plain : sampleHeaders.all (·.all (·.all fun char =>
      Text.isGraphic char || char = ' ')) = true := by
    decide +kernel
  simp only [List.all_eq_true, Bool.or_eq_true, decide_eq_true_eq] at plain
  refine ⟨values_cookieFields rfl ?_, by decide +kernel, by decide +kernel, plain, ?_, ?_⟩
  · intro field inside
    simp only [List.mem_cons, List.not_mem_nil, or_false] at inside
    rcases inside with rfl | rfl
    · exact (by decide : "content-type" ≠ "cookie")
    · exact (by decide : "token" ≠ "cookie")
  · rintro named inside
    cases List.mem_singleton.mp inside
    exact ⟨_, List.mem_cons_of_mem _ List.mem_cons_self, _,
      List.mem_cons_of_mem _ List.mem_cons_self, cookie⟩
  · intro pieces header piece member
    by_cases same : piece = (" token =" ++ sampleToken ++ " ").toList
    · exact .inl ⟨_, List.mem_cons_self, same ▸ cookie⟩
    · refine .inr fun other inside named => ?_
      cases List.mem_singleton.mp inside
      exact others pieces header piece member same (named.splitFirst (by decide))

def cookieEngine : SessionEngine where
  config := { cookies := { sendCookie := true } }
  keys := sampleEngine.keys
  callbacks := { sampleEngine.callbacks with authenticator := some .ok }

/-- The cookies of a pair in two headers, the later one first, and with a foreign one. -/
def returnedHeaders (pair : TokenPair) : List (List (List Char)) :=
  [[("refresh_token" ++ "=" ++ pair.refreshToken).toList],
    ["theme=dark".toList, ("jwt" ++ "=" ++ pair.accessToken).toList]]

def returningRequest (pair : TokenPair) : Request where
  method := "GET"
  target := ⟨"/me", none⟩
  fields := cookieFields (returnedHeaders pair)

theorem graphic_joined (plainName : IsPlainText name) (plainValue : IsPlainText value) :
    ∀ char ∈ (name ++ "=" ++ value).toList, Text.isGraphic char = true ∧ char ≠ ';' := by
  have apart {text : String} (plain : IsPlainText text) {char : Char}
      (inside : char ∈ text.toList) : Text.isGraphic char = true ∧ char ≠ ';' :=
    ⟨plain.graphic char inside, fun same => plain.not_mem (by decide) (same ▸ inside)⟩
  intro char inside
  simp only [String.toList_append, List.mem_append] at inside
  rcases inside with (inside | sign) | inside
  · exact apart plainName inside
  · cases List.mem_singleton.mp sign
    decide
  · exact apart plainValue inside

theorem isCookie_joined (name value : String) :
    Request.IsCookie (name, value) (name ++ "=" ++ value).toList :=
  ⟨name.toList, value.toList, by simp, ⟨[], [], by simp, nofun, nofun⟩,
    ⟨[], [], by simp, nofun, nofun⟩⟩

theorem carriesCookies_returningRequest {pair : TokenPair} (access : IsPlainText pair.accessToken)
    (refresh : IsPlainText pair.refreshToken) :
    (returningRequest pair).CarriesCookies
      [("jwt", pair.accessToken), ("refresh_token", pair.refreshToken)] (returnedHeaders pair) := by
  have split {pieces : List (List Char)} (header : pieces ∈ returnedHeaders pair)
      {piece : List Char} (member : piece ∈ pieces) :
      piece = ("refresh_token" ++ "=" ++ pair.refreshToken).toList ∨ piece = "theme=dark".toList ∨
        piece = ("jwt" ++ "=" ++ pair.accessToken).toList := by
    simp only [returnedHeaders, List.mem_cons, List.not_mem_nil, or_false] at header
    rcases header with rfl | rfl
    · exact .inl (List.mem_singleton.mp member)
    · simp only [List.mem_cons, List.not_mem_nil, or_false] at member
      exact .inr member
  have graphic {pieces : List (List Char)} (header : pieces ∈ returnedHeaders pair)
      {piece : List Char} (member : piece ∈ pieces) :
      ∀ char ∈ piece, Text.isGraphic char = true ∧ char ≠ ';' := by
    rcases split header member with rfl | rfl | rfl
    · exact graphic_joined (by decide) refresh
    · have foreign : "theme=dark".toList.all (fun char => Text.isGraphic char && char ≠ ';') =
          true := by
        decide
      simpa only [List.all_eq_true, Bool.and_eq_true, decide_eq_true_eq] using foreign
    · exact graphic_joined (by decide) access
  have notAccess : ¬ Request.IsNamed "jwt" "theme=dark".toList := fun named =>
    absurd (named.splitFirst (by decide)) (by decide)
  have notRefresh : ¬ Request.IsNamed "refresh_token" "theme=dark".toList := fun named =>
    absurd (named.splitFirst (by decide)) (by decide)
  refine ⟨values_cookieFields (List.nil_append _).symm nofun, ?_, ?_, ?_, ?_, ?_⟩
  · simp [returnedHeaders]
  · exact fun pieces header piece member inside => (graphic header member ';' inside).2 rfl
  · exact fun pieces header piece member char inside => .inl (graphic header member char inside).1
  · intro cookie inside
    simp only [List.mem_cons, List.not_mem_nil, or_false] at inside
    rcases inside with rfl | rfl
    · exact ⟨_, List.mem_cons_of_mem _ List.mem_cons_self, _,
        List.mem_cons_of_mem _ List.mem_cons_self, isCookie_joined _ _⟩
    · exact ⟨_, List.mem_cons_self, _, List.mem_cons_self, isCookie_joined _ _⟩
  · intro pieces header piece member
    rcases split header member with rfl | rfl | rfl
    · exact .inl ⟨_, List.mem_cons_of_mem _ List.mem_cons_self, isCookie_joined _ _⟩
    · refine .inr fun cookie inside named => ?_
      simp only [List.mem_cons, List.not_mem_nil, or_false] at inside
      rcases inside with rfl | rfl
      · exact notAccess named
      · exact notRefresh named
    · exact .inl ⟨_, List.mem_cons_self, isCookie_joined _ _⟩

/-! ## The way there and back -/

/--
A token of an engine is found as it is, wherever a request carries it under a name
of a source.  In particular the cookies of a grant come back as its pair.
-/
theorem minted_tokens_survive_transport :
    (∀ {token name headName : String} {kind : SourceKind} {request : Request},
      Minted token → IsSourceName name → request.Carries name token headName kind →
        TokenSource.extract ⟨kind, name⟩ request headName = .ok token) ∧
    ∀ {engine : SessionEngine} {now : Instant} {store : Store} {call : Call}
      {grant : SessionGrant}, (engine.perform now store call).1 = .granted (.ok grant) →
        engine.config.cookies.Delivers → grant.ComesBack engine := by
  constructor
  · intro token name headName kind request minted named carries
    exact carries.extract named.isPlainText minted.isPlainText
  · intro engine now store call grant granted delivers
    have answer : (engine.perform now store call).1.pair? = some grant.pair := by rw [granted]; rfl
    obtain ⟨access, refresh⟩ := SessionEngine.minted_of_perform answer
    rw [SessionEngine.eq_grant_of_perform granted]
    exact SessionEngine.comesBack delivers access.isPlainText refresh.isPlainText

/-- A token that is carried everywhere at once, and a pair that comes back in its cookies. -/
theorem minted_tokens_survive_transport_sampled :
    (let bare := sampleCarrier "application/x-www-form-urlencoded; charset=utf-8"
      let form := bare.complete (some (Utf8.ofString sampleForm)) none
        ([("token", "other")] ++ [("token", sampleToken)])
      let object := (sampleCarrier "application/json").complete
        (some (Utf8.encode (Json.objectText [' '] sampleMembers ['\n']))) none []
      TokenSource.extract ⟨.header, "token"⟩ bare "JWT" = .ok sampleToken ∧
        TokenSource.extract ⟨.cookie, "token"⟩ bare "JWT" = .ok sampleToken ∧
        TokenSource.extract ⟨.query, "token"⟩ bare "JWT" = .ok sampleToken ∧
        TokenSource.extract ⟨.form, "token"⟩ form "JWT" = .ok sampleToken ∧
        TokenSource.extract ⟨.param, "token"⟩ form "JWT" = .ok sampleToken ∧
        TokenSource.extract ⟨.json, "token"⟩ object "JWT" = .ok sampleToken) ∧
    ∃ grant after, cookieEngine.login ⟨1700000000, 0⟩ (sampleDraw 251) (.string "alice") {} =
        (.ok grant, after) ∧
      TokenSource.extract ⟨.cookie, "jwt"⟩ (returningRequest grant.pair) "Bearer" =
        .ok grant.pair.accessToken ∧
      cookieEngine.refreshToken (returningRequest grant.pair) = .ok grant.pair.refreshToken := by
  obtain ⟨arrives, delivered⟩ := minted_tokens_survive_transport
  constructor
  · have minted : Minted sampleToken := .refresh (by decide)
    have named : IsSourceName "token" := by decide
    have type : (sampleCarrier "application/json").mediaType = "application/json" := by
      decide +kernel
    have formType : (sampleCarrier "application/x-www-form-urlencoded; charset=utf-8").mediaType =
        "application/x-www-form-urlencoded" := by
      decide +kernel
    exact ⟨arrives minted named (.header (by decide) (by decide +kernel)),
      arrives minted named (.cookie (carriesCookies_sampleCarrier _)),
      arrives minted named (.query rfl inForm_sampleForm),
      arrives minted named (.form formType inForm_sampleForm),
      arrives minted named (.param nofun),
      arrives minted named (.json type inObject_sampleMembers)⟩
  · set call : Call := .login (sampleDraw 251) (.string "alice") with callEq
    have made : (cookieEngine.login ⟨1700000000, 0⟩ (sampleDraw 251) (.string "alice")
        {}).1.toOption.isSome = true := by
      decide +kernel
    obtain ⟨grant, after, granted⟩ := exists_eq_ok made
    have performed : (cookieEngine.perform ⟨1700000000, 0⟩ {} call).1 = .granted (.ok grant) := by
      rw [callEq, SessionEngine.perform, granted]
      rfl
    have answer : (cookieEngine.perform ⟨1700000000, 0⟩ {} call).1.pair? = some grant.pair := by
      rw [performed]
      rfl
    have delivers : cookieEngine.config.cookies.Delivers :=
      ⟨rfl, by decide, by decide, by decide⟩
    have back : grant.ComesBack cookieEngine := delivered performed delivers
    obtain ⟨access, refresh⟩ := SessionEngine.minted_of_perform answer
    have carried := carriesCookies_returningRequest access.isPlainText refresh.isPlainText
    exact ⟨grant, after, granted, back.access _ _ (back.kept ▸ carried),
      back.renews rfl _ _ (back.kept ▸ carried)⟩

end SessionTokens
