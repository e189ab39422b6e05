import SessionTokens.Lookup

/-!
# Tokens that were found

No source and no lookup hands out an empty token.
-/

namespace SessionTokens

namespace TokenSource

theorem nonEmpty_ne {value : Option String} {error : ExtractError} {token : String}
    (found : nonEmpty value error = .ok token) : token ≠ "" := by
  rw [nonEmpty] at found
  split at found
  · next kept =>
      cases found
      simpa using (Option.filter_eq_some_iff.mp kept).2
  · cases found

theorem nonEmpty_some {value : String} (filled : value ≠ "") (error : ExtractError) :
    nonEmpty (some value) error = .ok value := by
  rw [nonEmpty, Option.filter_some_pos (by simpa using filled)]

theorem ofHeader_ne {value : Option String} {headName token : String}
    (found : ofHeader value headName = .ok token) : token ≠ "" := by
  rw [ofHeader] at found
  split at found
  · cases found
  · split at found
    · next text _ =>
        split at found
        · next named =>
            cases found
            intro empty
            have none : text = [] := by simpa using congrArg String.toList empty
            exact named.2.1 none
        · cases found
    · cases found

theorem extract_ne {source : TokenSource} {request : Request} {headName token : String}
    (found : source.extract request headName = .ok token) : token ≠ "" := by
  rw [extract] at found
  split at found
  · exact ofHeader_ne found
  all_goals exact nonEmpty_ne found

end TokenSource

namespace TokenLookup

theorem extractFrom_ne {request : Request} {headName token : String} {complaint : ExtractError}
    {sources : List TokenSource}
    (found : extractFrom request headName complaint sources = .ok token) : token ≠ "" := by
  induction sources generalizing complaint with
  | nil => cases found
  | cons source rest ih =>
      rw [extractFrom] at found
      split at found
      · next extracted =>
          cases found
          exact TokenSource.extract_ne extracted
      · exact ih found

theorem extract_ne {lookup : TokenLookup} {request : Request} {headName token : String}
    (found : lookup.extract request headName = .ok token) : token ≠ "" :=
  extractFrom_ne found

end TokenLookup

end SessionTokens
