import Mathlib.Data.List.Forall2
import SessionTokens.Lookup
import SessionTokens.Proofs.Json.Reading
import SessionTokens.Proofs.Outcome
import SessionTokens.Proofs.Text.Blank
import SessionTokens.Proofs.Text.Split
import SessionTokens.Settings.Sections

/-!
# Lookup rules read and print back

A text of rules is read exactly when each of its pieces is a rule, to the
sources of these rules in their order; otherwise the first piece that is no rule
is reported.  What was read is printed so that it is read again as it was.
-/

namespace SessionTokens

theorem SourceKind.ofName?_eq_some_iff {kind : SourceKind} {name : String} :
    ofName? name = some kind ↔ name = kind.name := by
  constructor
  · intro found
    have same := List.find?_some found
    exact (of_decide_eq_true same).symm
  · rintro rfl
    exact ofName?_name kind

/-! ## One rule -/

namespace TokenSource

variable {source : TokenSource} {piece : List Char}

theorem read_eq_ok_iff : read piece = .ok source ↔ source.HasRule piece := by
  constructor
  · intro found
    rw [read] at found
    split at found
    · cases found
    · next before after cut =>
        split at found
        · next kind named =>
            dsimp only at found
            split at found
            · cases found
            · next filled =>
                cases found
                obtain ⟨whole, first⟩ := Text.splitFirst_eq_some cut
                have same := congrArg String.toList (SourceKind.ofName?_eq_some_iff.mp named)
                rw [String.toList_ofList] at same
                refine ⟨before, after, whole, first, Text.trim_eq_iff.mp same,
                  Text.trim_eq_iff.mp (String.toList_ofList).symm, ?_⟩
                simpa using filled
        · cases found
  · rintro ⟨before, after, rfl, first, kindTrimmed, nameTrimmed, filled⟩
    have named : source.name.toList ≠ [] := by simpa using filled
    simp only [read, Text.splitFirst_append first, Text.trim_eq_iff.mpr kindTrimmed,
      Text.trim_eq_iff.mpr nameTrimmed, String.ofList_toList, SourceKind.ofName?_name]
    rw [if_neg named]

theorem read_eq_error_iff {error : ExtractError} :
    read piece = .error error ↔
      (∀ source : TokenSource, ¬ source.HasRule piece) ∧
        error = .invalidRule (String.ofList (Text.trim piece)) := by
  have only (fault : ExtractError) (failed : read piece = .error fault) :
      fault = .invalidRule (String.ofList (Text.trim piece)) := by
    rw [read] at failed
    split at failed
    · cases failed
      rfl
    · split at failed
      · dsimp only at failed
        split at failed
        · cases failed
          rfl
        · cases failed
      · cases failed
        rfl
  constructor
  · intro failed
    refine ⟨fun source rule => ?_, only error failed⟩
    cases failed.symm.trans (read_eq_ok_iff.mpr rule)
  · rintro ⟨none, rfl⟩
    cases outcome : read piece with
    | ok source => exact absurd (read_eq_ok_iff.mp outcome) (none source)
    | error fault => rw [only fault outcome]

/-- A rule is written so that it is a rule again, also behind a blank. -/
theorem HasRule.write (rule : source.HasRule piece) (blanks : List Char)
    (blank : ∀ char ∈ blanks, Text.isBlank char = true) :
    source.HasRule (blanks ++ source.write.toList) := by
  obtain ⟨before, after, -, -, kindTrimmed, nameTrimmed, filled⟩ := rule
  refine ⟨blanks ++ source.kind.name.toList, source.name.toList, ?_, ?_, ?_, ?_, filled⟩
  · simp [TokenSource.write]
  · intro inside
    rcases List.mem_append.mp inside with inBlanks | inKind
    · exact absurd (blank ':' inBlanks) (by decide)
    · revert inKind
      cases source.kind <;> decide
  · exact ⟨⟨blanks, [], by simp, blank, by simp⟩, kindTrimmed.first, kindTrimmed.last⟩
  · exact ⟨⟨[], [], by simp, by simp, by simp⟩, nameTrimmed.first, nameTrimmed.last⟩

/-- A rule between commas is written without a comma. -/
theorem HasRule.comma_not_mem (rule : source.HasRule piece) (apart : ',' ∉ piece) :
    ',' ∉ source.write.toList := by
  obtain ⟨before, after, rfl, -, -, ⟨⟨front, back, rfl, -, -⟩, -, -⟩, -⟩ := rule
  intro inside
  simp only [TokenSource.write, String.toList_append, List.mem_append] at inside
  rcases inside with (inKind | inColon) | inName
  · revert inKind
    cases source.kind <;> decide
  · revert inColon
    decide
  · exact apart (by simp [inName])

theorem HasRule.not_blank (rule : source.HasRule piece) : ¬ ∀ char ∈ piece, Text.isBlank char = true := by
  obtain ⟨before, after, rfl, -⟩ := rule
  intro blank
  exact absurd (blank ':' (by simp)) (by decide)

end TokenSource

/-! ## Rules between commas -/

namespace TokenLookup

open TokenSource (HasRule)

variable {rules : String} {lookup : TokenLookup}

structure ReadsRules (rules : String) : Prop where
  accepted : (∃ lookup, parse rules = .ok lookup) ↔
    ∀ piece ∈ pieces rules, ∃ source : TokenSource, source.HasRule piece
  /-- The sources are those of the rules, in their order. -/
  listed : ∀ lookup, parse rules = .ok lookup ↔
    List.Forall₂ (fun piece source => HasRule source piece) (pieces rules) lookup.sources
  /-- The complaint names the first piece that is no rule, without the blanks around it. -/
  refused : ∀ error, parse rules = .error error ↔
    ∃ front bad back, pieces rules = front ++ bad :: back ∧
      (∀ piece ∈ front, ∃ source : TokenSource, source.HasRule piece) ∧
      (∀ source : TokenSource, ¬ source.HasRule bad) ∧
      ∃ text : String, Text.IsTrimmed text.toList bad ∧ error = .invalidRule text

theorem parse_eq (rules : String) :
    parse rules = do
      let sources ← (pieces rules).mapM TokenSource.read
      return ⟨sources⟩ := by
  rw [parse, pieces, Text.splitAll_eq_splitOn]
  refine congrArg (fun kept => List.mapM TokenSource.read kept >>= _) ?_
  refine List.filter_congr fun piece _ => ?_
  rw [decide_not, Bool.eq_iff_iff, Bool.not_eq_true', Bool.not_eq_true', decide_eq_false_iff_not,
    Text.trim_eq_nil_iff, ← List.all_eq_true, Bool.not_eq_true]

theorem parse_eq_ok_iff : parse rules = .ok lookup ↔
    List.Forall₂ (fun piece source => HasRule source piece) (pieces rules) lookup.sources := by
  rw [parse_eq, bind_eq_ok]
  simp only [mapM_eq_ok_iff, TokenSource.read_eq_ok_iff]
  constructor
  · rintro ⟨sources, rules, same⟩
    cases same
    exact rules
  · exact fun rules => ⟨lookup.sources, rules, rfl⟩

theorem parse_eq_error_iff {error : ExtractError} : parse rules = .error error ↔
    ∃ front bad back, pieces rules = front ++ bad :: back ∧
      (∀ piece ∈ front, ∃ source : TokenSource, source.HasRule piece) ∧
      (∀ source : TokenSource, ¬ source.HasRule bad) ∧
      error = .invalidRule (String.ofList (Text.trim bad)) := by
  rw [parse_eq, bind_eq_error]
  simp only [mapM_eq_error_iff, TokenSource.read_eq_ok_iff, TokenSource.read_eq_error_iff]
  refine ⟨fun failed => failed.elim id ?_, .inl⟩
  rintro ⟨sources, -, impossible⟩
  cases impossible

/-- The piece that a source was read from. -/
theorem exists_rule_of_parse (read : parse rules = .ok lookup) :
    (∀ piece ∈ pieces rules, ∃ source : TokenSource, source.HasRule piece) ∧
      ∀ source ∈ lookup.sources, ∃ piece, source.HasRule piece ∧ ',' ∉ piece := by
  have apart : ∀ piece ∈ pieces rules, ',' ∉ piece := fun piece inside =>
    Text.not_mem_of_mem_splitOn (List.mem_of_mem_filter inside)
  have ruled := parse_eq_ok_iff.mp read
  generalize lookup.sources = sources at ruled
  generalize pieces rules = listed at apart ruled
  induction ruled with
  | nil => simp
  | cons rule _ ih =>
      rw [List.forall_mem_cons] at apart
      obtain ⟨sourced, pieced⟩ := ih apart.2
      exact ⟨List.forall_mem_cons.mpr ⟨⟨_, rule⟩, sourced⟩,
        List.forall_mem_cons.mpr ⟨⟨_, rule, apart.1⟩, pieced⟩⟩

theorem readsRules (rules : String) : ReadsRules rules := by
  constructor
  · constructor
    · rintro ⟨lookup, read⟩
      exact (exists_rule_of_parse read).1
    · intro each
      cases outcome : parse rules with
      | ok lookup => exact ⟨lookup, rfl⟩
      | error error =>
          obtain ⟨front, bad, back, split, -, none, -⟩ := parse_eq_error_iff.mp outcome
          obtain ⟨source, rule⟩ := each bad (by simp [split])
          exact absurd rule (none source)
  · exact fun lookup => parse_eq_ok_iff
  · intro error
    simp only [parse_eq_error_iff]
    refine exists_congr fun front => exists_congr fun bad => exists_congr fun back => ?_
    refine and_congr_right fun _ => and_congr_right fun _ => and_congr_right fun _ => ?_
    constructor
    · rintro rfl
      exact ⟨_, by rw [String.toList_ofList]; exact Text.isTrimmed_trim bad, rfl⟩
    · rintro ⟨text, trimmed, rfl⟩
      rw [Text.trim_eq_iff.mpr trimmed, String.ofList_toList]

/-! ## Printing -/

/-- What was read from rules comes back from the rules it is printed as. -/
structure ComesBack (lookup : TokenLookup) : Prop where
  reparsed : parse lookup.write = .ok lookup
  /-- The text of the lookup in a JSON document, read exactly or leniently. -/
  deserialized : ∀ strictness,
    ((Json.parse? (Json.write Json.escapePlain (.string lookup.write))).map Setting.ofJson).bind
      (TokenLookup.read? strictness) = some lookup
  reprinted : ∀ other, parse lookup.write = .ok other → other.write = lookup.write

/-- A rule between commas is printed as one, also behind a blank. -/
structure PrintsAs (source : TokenSource) (piece : List Char) : Prop where
  rule : source.HasRule piece
  apart : ',' ∉ piece
  visible : (!piece.all Text.isBlank) = true

theorem printsAs_of_hasRule {source : TokenSource} {piece : List Char} (rule : source.HasRule piece)
    (apart : ',' ∉ piece) (blanks : List Char) (blank : ∀ char ∈ blanks, char = ' ') :
    PrintsAs source (blanks ++ source.write.toList) := by
  have printed : source.HasRule (blanks ++ source.write.toList) :=
    rule.write blanks fun char inside => by rw [blank char inside]; rfl
  refine ⟨printed, ?_, ?_⟩
  · rw [List.mem_append, not_or]
    exact ⟨fun inside => absurd (blank _ inside) (by decide), rule.comma_not_mem apart⟩
  · rw [Bool.not_eq_true', ← Bool.not_eq_true, List.all_eq_true]
    exact printed.not_blank

/-- The pieces of printed rules are rules for the printed sources. -/
theorem hasRule_write {sources : List TokenSource}
    (ruled : ∀ source ∈ sources, ∃ piece, source.HasRule piece ∧ ',' ∉ piece) :
    List.Forall₂ (fun piece source => HasRule source piece) (pieces (write ⟨sources⟩)) sources := by
  cases sources with
  | nil => exact .nil
  | cons first rest =>
      rw [List.forall_mem_cons] at ruled
      obtain ⟨⟨piece, rule, apart⟩, others⟩ := ruled
      have printedFirst : PrintsAs first first.write.toList :=
        printsAs_of_hasRule rule apart [] (by simp)
      have printedRest (source) (inside : source ∈ rest) :
          PrintsAs source (' ' :: source.write.toList) := by
        obtain ⟨piece, rule, apart⟩ := others source inside
        exact printsAs_of_hasRule rule apart [' '] (by simp)
      have text : (write ⟨first :: rest⟩).toList = [','].intercalate
          (first.write.toList :: rest.map fun source => ' ' :: source.write.toList) := by
        have joined := Text.intercalate_blank ',' first.write.toList
          (rest.map fun source => source.write.toList)
        rw [List.map_map] at joined
        rw [write, String.toList_intercalate, List.map_map]
        exact joined
      have apart : ∀ part ∈ first.write.toList :: rest.map fun source => ' ' :: source.write.toList,
          ',' ∉ part :=
        List.forall_mem_cons.mpr ⟨printedFirst.apart,
          List.forall_mem_map.mpr fun source inside => (printedRest source inside).apart⟩
      have visible : ∀ part ∈ first.write.toList :: rest.map fun source =>
          ' ' :: source.write.toList, (!part.all Text.isBlank) = true :=
        List.forall_mem_cons.mpr ⟨printedFirst.visible,
          List.forall_mem_map.mpr fun source inside => (printedRest source inside).visible⟩
      rw [pieces, text, List.splitOn_intercalate ',' apart (List.cons_ne_nil _ _),
        List.filter_eq_self.mpr visible]
      refine .cons printedFirst.rule ?_
      rw [List.forall₂_map_left_iff, List.forall₂_same]
      exact fun source inside => (printedRest source inside).rule

theorem parse_write (read : parse rules = .ok lookup) : parse lookup.write = .ok lookup :=
  parse_eq_ok_iff.mpr (hasRule_write (exists_rule_of_parse read).2)

theorem comesBack (read : parse rules = .ok lookup) : lookup.ComesBack := by
  have reparsed := parse_write read
  refine ⟨reparsed, fun strictness => ?_, fun other again => ?_⟩
  · have document : Json.parse? (Json.write Json.escapePlain (.string lookup.write)) =
        some (.string lookup.write) := by
      rw [Json.parse?, Json.parseRaw?_write]
      rfl
    rw [document, Option.map_some, Option.bind_some, Setting.ofJson, TokenLookup.read?]
    cases strictness <;> simp [Setting.text?, reparsed]
  · cases reparsed.symm.trans again
    rfl

/-- The pieces of joined rules are the pieces of either. -/
theorem pieces_append (first second : String) :
    pieces (first ++ "," ++ second) = pieces first ++ pieces second := by
  have joined : (first ++ "," ++ second).toList = first.toList ++ ',' :: second.toList := by simp
  rw [pieces, joined, List.splitOn_append_cons_self, List.filter_append, pieces, pieces]

theorem parse_append (first second : String) :
    parse (first ++ "," ++ second) = do
      let front ← parse first
      let back ← parse second
      return ⟨front.sources ++ back.sources⟩ := by
  simp only [parse_eq, pieces_append, List.mapM_append, bind_assoc, pure_bind]

end TokenLookup

/-! ## The whole of rule texts -/

/--
Lookup rules are read by their grammar, to one source for each rule, and the
first piece that is no rule is reported; what was read is printed so that it
comes back; and rules joined by a comma are read one after the other.
-/
theorem lookup_rules_read_and_print_back :
    (∀ rules, TokenLookup.ReadsRules rules) ∧
      (∀ rules lookup, TokenLookup.parse rules = .ok lookup → lookup.ComesBack) ∧
      ∀ first second, TokenLookup.parse (first ++ "," ++ second) = do
        let front ← TokenLookup.parse first
        let back ← TokenLookup.parse second
        return ⟨front.sources ++ back.sources⟩ :=
  ⟨TokenLookup.readsRules, fun _ _ => TokenLookup.comesBack, TokenLookup.parse_append⟩

/-- Names keep their colons and inner blanks, and lose the blanks around them. -/
theorem lookup_rules_read_and_print_back_spaced :
    TokenLookup.parse " header : X:Y ,\t, json:\u00a0my field\u3000" =
        .ok ⟨[⟨.header, "X:Y"⟩, ⟨.json, "my field"⟩]⟩ ∧
      TokenLookup.ComesBack ⟨[⟨.header, "X:Y"⟩, ⟨.json, "my field"⟩]⟩ ∧
      TokenLookup.write ⟨[⟨.header, "X:Y"⟩, ⟨.json, "my field"⟩]⟩ =
        "header:X:Y, json:my field" ∧
      TokenLookup.parse "query:token, body : x , Header:Authorization" =
        .error (.invalidRule "body : x") := by
  have read : TokenLookup.parse " header : X:Y ,\t, json:\u00a0my field\u3000" =
      .ok ⟨[⟨.header, "X:Y"⟩, ⟨.json, "my field"⟩]⟩ := by decide +kernel
  obtain ⟨-, back, -⟩ := lookup_rules_read_and_print_back
  exact ⟨read, back _ _ read, by decide +kernel, by decide +kernel⟩

end SessionTokens
