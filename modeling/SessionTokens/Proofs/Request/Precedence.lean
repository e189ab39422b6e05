import SessionTokens.Proofs.Lookup
import SessionTokens.Proofs.Request.Field

/-!
# The first source with a token

A lookup is decided by the first of its sources that finds a token; when none
does, by the last one.  A header source finds what stands behind the scheme and
one blank in the first value of its field, and tells an empty value from one of
another form.
-/

namespace SessionTokens

/-! ## The first value of a field -/

namespace Request

variable {request : Request} {name text : String} {value : Bytes}

/-- The first value of a header field; names compare without regard to case. -/
def FirstValue (request : Request) (name : String) (value : Bytes) : Prop :=
  ∃ front back, request.fields = front ++ (lower name, value) :: back ∧
    ∀ field ∈ front, field.1 ≠ lower name

/-- The first value of a header field is written text. -/
def FirstText (request : Request) (name text : String) : Prop :=
  IsFieldText text ∧ request.FirstValue name (Utf8.ofString text)

/-- The ways in which a header field has no text to look at. -/
inductive LacksText (request : Request) (name : String) : Prop where
  | absent (absent : ∀ field ∈ request.fields, field.1 ≠ lower name)
  | garbled {value : Bytes} (first : request.FirstValue name value)
      (garbled : ∀ text, IsFieldText text → Utf8.ofString text ≠ value)
  | blank {text : String} (first : request.FirstText name text)
      (blank : ∀ char ∈ text.toList, Text.isBlank char = true)

theorem head?_values_eq_some_iff :
    (request.values name).head? = some value ↔ request.FirstValue name value := by
  rw [values, List.head?_map, List.head?_filter, Option.map_eq_some_iff]
  constructor
  · rintro ⟨field, found, rfl⟩
    obtain ⟨named, front, back, split, others⟩ := List.find?_eq_some_iff_append.mp found
    refine ⟨front, back, ?_, fun other inside => by simpa using others other inside⟩
    rw [split, ← of_decide_eq_true named]
  · rintro ⟨front, back, split, others⟩
    refine ⟨(lower name, value), List.find?_eq_some_iff_append.mpr ?_, rfl⟩
    exact ⟨decide_eq_true rfl, front, back, split,
      fun other inside => by simpa using others other inside⟩

theorem head?_values_eq_none_iff :
    (request.values name).head? = none ↔ ∀ field ∈ request.fields, field.1 ≠ lower name := by
  rw [values, List.head?_map, List.head?_filter, Option.map_eq_none_iff, List.find?_eq_none]
  simp

theorem FirstValue.unique {other : Bytes} (first : request.FirstValue name value)
    (second : request.FirstValue name other) : other = value :=
  Option.some.inj
    ((head?_values_eq_some_iff.mpr second).symm.trans (head?_values_eq_some_iff.mpr first))

theorem header?_eq_some_iff : request.header? name = some text ↔ request.FirstText name text := by
  rw [header?, Option.bind_eq_some_iff]
  constructor
  · rintro ⟨value, first, read⟩
    obtain ⟨isText, rfl⟩ := fieldText?_eq_some_iff.mp read
    exact ⟨isText, head?_values_eq_some_iff.mp first⟩
  · rintro ⟨isText, first⟩
    exact ⟨_, head?_values_eq_some_iff.mpr first, fieldText?_of_isFieldText isText⟩

theorem FirstText.unique {other : String} (first : request.FirstText name text)
    (second : request.FirstText name other) : other = text :=
  Option.some.inj ((header?_eq_some_iff.mpr second).symm.trans (header?_eq_some_iff.mpr first))

/-- There is no text to look at when the text of the field, if it has one, is blank. -/
theorem lacksText_iff : request.LacksText name ↔
    ∀ text, request.header? name = some text → Text.trim text.toList = [] := by
  simp only [header?_eq_some_iff, Text.trim_eq_nil_iff]
  constructor
  · intro lacks text found
    cases lacks with
    | absent absent =>
        obtain ⟨-, front, back, split, -⟩ := found
        have inside : (lower name, Utf8.ofString text) ∈ request.fields := by simp [split]
        exact absurd rfl (absent _ inside)
    | garbled first garbled =>
        exact absurd (first.unique found.2) (garbled text found.1)
    | blank first blank => exact (first.unique found) ▸ blank
  · intro blank
    cases first : (request.values name).head? with
    | none => exact .absent (head?_values_eq_none_iff.mp first)
    | some value =>
        have found := head?_values_eq_some_iff.mp first
        by_cases isText : ∃ text, IsFieldText text ∧ Utf8.ofString text = value
        · obtain ⟨text, isText, rfl⟩ := isText
          exact .blank ⟨isText, found⟩ (blank text ⟨isText, found⟩)
        · exact .garbled found fun text plain written => isText ⟨text, plain, written⟩

end Request

/-! ## One source -/

namespace TokenSource

variable {request : Request} {headName name token : String}

/-- What a header source makes of a request. -/
structure ReadsHeader (request : Request) (headName name : String) : Prop where
  /-- A token stands behind the scheme and exactly one blank. -/
  found : ∀ token, extract ⟨.header, name⟩ request headName = .ok token ↔
    ∃ text, request.FirstText name text ∧
      Text.trim text.toList = headName.toList ++ ' ' :: token.toList ∧
      token ≠ "" ∧ token.toList.head? ≠ some ' '
  empty : extract ⟨.header, name⟩ request headName = .error .emptyHeader ↔ request.LacksText name
  /-- Any other value is one of another form. -/
  otherwise : (∃ token, extract ⟨.header, name⟩ request headName = .ok token) ∨
    extract ⟨.header, name⟩ request headName = .error .emptyHeader ∨
    extract ⟨.header, name⟩ request headName = .error .invalidHeader

/-- The text of a field in which a token is found. -/
theorem ofHeader_eq_ok_iff {value : Option String} (unspaced : ' ' ∉ headName.toList) :
    ofHeader value headName = .ok token ↔
      ∃ text, value = some text ∧
        Text.trim text.toList = headName.toList ++ ' ' :: token.toList ∧
        token ≠ "" ∧ token.toList.head? ≠ some ' ' := by
  constructor
  · intro found
    rw [ofHeader] at found
    split at found
    · cases found
    · next trimmed kept =>
        obtain ⟨⟨text, present, rfl⟩, -⟩ :=
          (Option.filter_eq_some_iff.mp kept).imp_left Option.map_eq_some_iff.mp
        split at found
        · next scheme rest cut =>
            split at found
            · next accepted =>
                cases found
                obtain ⟨rfl, filled, single⟩ := accepted
                refine ⟨text, present, ?_, by simpa using filled, by simpa using single⟩
                rw [String.toList_ofList, String.toList_ofList]
                exact (Text.splitFirst_eq_some cut).1
            · cases found
        · cases found
  · rintro ⟨text, rfl, whole, filled, single⟩
    have rest : token.toList ≠ [] := by simpa using filled
    rw [ofHeader, Option.map_some, whole, Option.filter_some_pos (by simp)]
    simp only [Text.splitFirst_append unspaced]
    rw [if_pos ⟨String.ofList_toList, rest, single⟩, String.ofList_toList]

theorem ofHeader_eq_empty_iff {value : Option String} :
    ofHeader value headName = .error .emptyHeader ↔
      ∀ text, value = some text → Text.trim text.toList = [] := by
  rw [ofHeader]
  split
  · next nothing =>
      refine iff_of_true rfl fun text present => ?_
      rw [present, Option.map_some, Option.filter_eq_none_iff] at nothing
      simpa using nothing _ rfl
  · next trimmed kept =>
      obtain ⟨⟨text, present, rfl⟩, filled⟩ :=
        (Option.filter_eq_some_iff.mp kept).imp_left Option.map_eq_some_iff.mp
      refine iff_of_false ?_ fun blank => by simp [blank text present] at filled
      split
      · split <;> simp
      · simp

theorem ofHeader_cases (value : Option String) (headName : String) :
    (∃ token, ofHeader value headName = .ok token) ∨
      ofHeader value headName = .error .emptyHeader ∨
      ofHeader value headName = .error .invalidHeader := by
  rw [ofHeader]
  split
  · exact .inr (.inl rfl)
  · split
    · split
      · exact .inl ⟨_, rfl⟩
      · exact .inr (.inr rfl)
    · exact .inr (.inr rfl)

theorem readsHeader (request : Request) (unspaced : ' ' ∉ headName.toList) (name : String) :
    ReadsHeader request headName name := by
  constructor
  · intro token
    simp only [extract, ofHeader_eq_ok_iff unspaced, Request.header?_eq_some_iff]
  · rw [Request.lacksText_iff]
    exact ofHeader_eq_empty_iff
  · exact ofHeader_cases _ _

def Fails (source : TokenSource) (request : Request) (headName : String) : Prop :=
  ∃ error, source.extract request headName = .error error

theorem nonEmpty_error {value : Option String} {error fault : ExtractError}
    (failed : nonEmpty value error = .error fault) : fault = error := by
  rw [nonEmpty] at failed
  split at failed
  · cases failed
  · cases failed
    rfl

/-- No source complains that there are no sources. -/
theorem extract_ne_noSources (source : TokenSource) (request : Request) (headName : String) :
    source.extract request headName ≠ .error .noSources := by
  intro failed
  rw [extract] at failed
  split at failed
  · rcases ofHeader_cases (request.header? source.name) headName with ⟨token, found⟩ | other | other
    · cases failed.symm.trans found
    · cases failed.symm.trans other
    · cases failed.symm.trans other
  all_goals cases nonEmpty_error failed

end TokenSource

/-! ## Sources in order -/

namespace TokenLookup

variable {request : Request} {headName token : String} {complaint error : ExtractError}
variable {sources : List TokenSource}

/-- How the sources of a lookup decide what it finds. -/
structure DecidedInOrder (lookup : TokenLookup) (request : Request) (headName : String) :
    Prop where
  /-- The token of the first source that finds one. -/
  found : ∀ token, lookup.extract request headName = .ok token ↔
    ∃ front source back, lookup.sources = front ++ source :: back ∧
      (∀ earlier ∈ front, earlier.Fails request headName) ∧
      source.extract request headName = .ok token
  filled : ∀ token, lookup.extract request headName = .ok token → token ≠ ""
  failed : (∃ error, lookup.extract request headName = .error error) ↔
    ∀ source ∈ lookup.sources, source.Fails request headName
  /-- The complaint of the last source, unless there is none. -/
  complaint : ∀ error, lookup.extract request headName = .error error →
    lookup.sources = [] ∧ error = .noSources ∨
      ∃ front last, lookup.sources = front ++ [last] ∧
        last.extract request headName = .error error
  unlisted : lookup.extract request headName = .error .noSources ↔ lookup.sources = []
  /-- More sources behind are looked at when there is no token before. -/
  extended : ∀ more, more ≠ [] → extract ⟨lookup.sources ++ more⟩ request headName =
    (lookup.extract request headName <|> extract ⟨more⟩ request headName)

theorem extractFrom_of_ok {front back : List TokenSource} {source : TokenSource}
    (fail : ∀ earlier ∈ front, earlier.Fails request headName)
    (found : source.extract request headName = .ok token) :
    extractFrom request headName complaint (front ++ source :: back) = .ok token := by
  induction front generalizing complaint with
  | nil => simp only [List.nil_append, extractFrom, found]
  | cons first front ih =>
      obtain ⟨error, failed⟩ := fail first List.mem_cons_self
      simp only [List.cons_append, extractFrom, failed]
      exact ih fun earlier inside => fail earlier (List.mem_cons_of_mem _ inside)

theorem exists_split_of_extractFrom
    (found : extractFrom request headName complaint sources = .ok token) :
    ∃ front source back, sources = front ++ source :: back ∧
      (∀ earlier ∈ front, earlier.Fails request headName) ∧
      source.extract request headName = .ok token := by
  induction sources generalizing complaint with
  | nil => cases found
  | cons first rest ih =>
      cases outcome : first.extract request headName with
      | ok own =>
          simp only [extractFrom, outcome, Except.ok.injEq] at found
          exact ⟨[], first, rest, rfl, by simp, found ▸ outcome⟩
      | error error =>
          simp only [extractFrom, outcome] at found
          obtain ⟨front, source, back, rfl, fail, extracted⟩ := ih found
          refine ⟨first :: front, source, back, rfl, ?_, extracted⟩
          exact List.forall_mem_cons.mpr ⟨⟨error, outcome⟩, fail⟩

/-- Sources behind are looked at only when none before has a token. -/
theorem extractFrom_append (front back : List TokenSource) :
    extractFrom request headName complaint (front ++ back) =
      match extractFrom request headName complaint front with
      | .ok token => .ok token
      | .error last => extractFrom request headName last back := by
  induction front generalizing complaint with
  | nil => rfl
  | cons first front ih =>
      rw [List.cons_append, extractFrom, extractFrom]
      cases first.extract request headName with
      | ok token => rfl
      | error error => exact ih

/-- The complaint from before is forgotten at the first source. -/
theorem extractFrom_of_ne_nil (filled : sources ≠ []) (complaint other : ExtractError) :
    extractFrom request headName complaint sources =
      extractFrom request headName other sources := by
  cases sources with
  | nil => exact absurd rfl filled
  | cons first rest => rfl

theorem fails_of_extractFrom
    (failed : extractFrom request headName complaint sources = .error error)
    {source : TokenSource} (inside : source ∈ sources) : source.Fails request headName := by
  obtain ⟨front, back, rfl⟩ := List.append_of_mem inside
  rw [extractFrom_append] at failed
  split at failed
  · cases failed
  · rw [extractFrom] at failed
    split at failed
    · cases failed
    · next fault own => exact ⟨fault, own⟩

theorem complaint_of_extractFrom
    (failed : extractFrom request headName complaint sources = .error error) :
    sources = [] ∧ error = complaint ∨
      ∃ front last, sources = front ++ [last] ∧ last.extract request headName = .error error := by
  rcases List.eq_nil_or_concat' sources with rfl | ⟨front, last, rfl⟩
  · cases failed
    exact .inl ⟨rfl, rfl⟩
  · refine .inr ⟨front, last, rfl, ?_⟩
    obtain ⟨fault, own⟩ := fails_of_extractFrom failed List.mem_concat_self
    rw [extractFrom_append] at failed
    split at failed
    · cases failed
    · simp only [extractFrom, own] at failed
      rwa [← failed]

theorem decidedInOrder (lookup : TokenLookup) (request : Request) (headName : String) :
    lookup.DecidedInOrder request headName := by
  constructor
  · intro token
    constructor
    · exact exists_split_of_extractFrom
    · rintro ⟨front, source, back, split, fail, found⟩
      rw [extract, split]
      exact extractFrom_of_ok fail found
  · exact fun token => extract_ne
  · constructor
    · rintro ⟨error, failed⟩ source
      exact fails_of_extractFrom failed
    · intro fail
      cases outcome : lookup.extract request headName with
      | error error => exact ⟨error, rfl⟩
      | ok token =>
          obtain ⟨front, source, back, split, -, found⟩ := exists_split_of_extractFrom outcome
          obtain ⟨error, failed⟩ := fail source (by simp [split])
          cases found.symm.trans failed
  · exact fun error => complaint_of_extractFrom
  · constructor
    · intro failed
      rcases complaint_of_extractFrom failed with ⟨nothing, -⟩ | ⟨front, last, -, own⟩
      · exact nothing
      · exact absurd own (last.extract_ne_noSources request headName)
    · intro nothing
      rw [extract, nothing]
      rfl
  · intro more filled
    rw [extract, extractFrom_append, extract]
    cases extractFrom request headName .noSources lookup.sources with
    | ok token => rfl
    | error last => exact extractFrom_of_ne_nil filled last .noSources

end TokenLookup

/-! ## The whole of a lookup -/

/--
Tokens are looked up in order: the first source that finds one decides, and the
last one complains when none does.  A header source finds exactly what stands
behind the scheme and one blank in the first value of its field.
-/
theorem lookup_is_ordered_first_success (request : Request) {headName : String}
    (unspaced : ' ' ∉ headName.toList) :
    (∀ lookup : TokenLookup, lookup.DecidedInOrder request headName) ∧
      ∀ name, TokenSource.ReadsHeader request headName name :=
  ⟨fun lookup => lookup.decidedInOrder request headName,
    TokenSource.readsHeader request unspaced⟩

/-- A request whose first authorization value has one blank too many. -/
def crowdedRequest : Request where
  method := "GET"
  target := ⟨"/me", some "token=fourth"⟩
  fields := [("authorization", Utf8.ofString "Bearer  first"),
    ("authorization", Utf8.ofString "Bearer second"),
    ("x-token", Utf8.ofString " \tBearer third "), ("x-blank", Utf8.ofString "\t ")]

theorem lookup_is_ordered_first_success_crowded :
    ' ' ∉ "Bearer".toList ∧
      TokenLookup.DecidedInOrder ⟨[⟨.header, "Authorization"⟩, ⟨.query, "jwt"⟩,
        ⟨.header, "X-Token"⟩, ⟨.query, "token"⟩]⟩ crowdedRequest "Bearer" ∧
      TokenSource.ReadsHeader crowdedRequest "Bearer" "X-Token" ∧
      TokenLookup.extract ⟨[⟨.header, "Authorization"⟩, ⟨.query, "jwt"⟩,
        ⟨.header, "X-Token"⟩, ⟨.query, "token"⟩]⟩ crowdedRequest "Bearer" = .ok "third" ∧
      TokenLookup.extract ⟨[⟨.header, "X-Blank"⟩, ⟨.header, "Authorization"⟩]⟩ crowdedRequest
        "Bearer" = .error .invalidHeader ∧
      TokenLookup.extract ⟨[⟨.header, "Authorization"⟩, ⟨.header, "X-Blank"⟩]⟩ crowdedRequest
        "Bearer" = .error .emptyHeader := by
  have unspaced : ' ' ∉ "Bearer".toList := by decide +kernel
  obtain ⟨ordered, reads⟩ := lookup_is_ordered_first_success crowdedRequest unspaced
  exact ⟨unspaced, ordered _, reads _, by decide +kernel, by decide +kernel, by decide +kernel⟩

end SessionTokens
