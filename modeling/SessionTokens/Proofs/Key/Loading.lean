import SessionTokens.Key.Effective
import SessionTokens.Proofs.Outcome
import SessionTokens.Proofs.Text.Utf8

/-!
# Loading keys

Loading comes to what the material in effect says, and to nothing else: whatever
is shadowed by a file, belongs to another kind of algorithm or is an empty
passphrase does not count.  A file error is always that of a file in effect.
-/

namespace SessionTokens

variable {algorithm : Algorithm} {read other : FileReader} {config changed : KeyConfig}
  {half : KeyHalf} {error : KeyError}

/-! ## Halves -/

namespace KeyHalf

theorem isFileError_unreadable (half : KeyHalf) (path : String) (fault : FileFault) :
    (half.unreadable path fault).isFileError = true := by
  cases half <;> rfl

theorem isFileError_missing (half : KeyHalf) : half.missing.isFileError = false := by
  cases half <;> rfl

end KeyHalf

namespace KeyConfig

/-- A half that is lacking is a file error when its file cannot be read. -/
theorem Lacks.exists_file (lacks : config.Lacks read half error)
    (file : error.isFileError = true) :
    ∃ path fault, config.file? half = some path ∧ read path = .error fault := by
  cases lacks with
  | unreadable set failed => exact ⟨_, _, set, failed⟩
  | missing => rw [half.isFileError_missing] at file; cases file

/-- A half is provided alike by settings that agree in it, and by readers that agree on its file. -/
theorem Provides.transfer {octets : Bytes} (provides : config.Provides read half octets)
    (files : changed.file? half = config.file? half)
    (texts : config.file? half = none → changed.text? half = config.text? half)
    (same : ∀ path, config.file? half = some path → other path = read path) :
    changed.Provides other half octets := by
  cases provides with
  | file set found => exact .file (files.trans set) ((same _ set).trans found)
  | inline unset given => exact .inline (files.trans unset) ((texts unset).trans given)

/-- A half is lacking alike in settings that agree in it, and to readers that agree on its file. -/
theorem Lacks.transfer (lacks : config.Lacks read half error)
    (files : changed.file? half = config.file? half)
    (texts : config.file? half = none → changed.text? half = config.text? half)
    (same : ∀ path, config.file? half = some path → other path = read path) :
    changed.Lacks other half error := by
  cases lacks with
  | unreadable set failed => exact .unreadable (files.trans set) ((same _ set).trans failed)
  | missing unset ungiven => exact .missing (files.trans unset) ((texts unset).trans ungiven)

end KeyConfig

/-! ## Loading -/

namespace KeyManager

/-- The text of a half is what the half provides, and what the half lacks is the error. -/
theorem effectiveText_of_provides {octets : Bytes} (provides : config.Provides read half octets) :
    effectiveText read (config.file? half) (config.text? half) half.unreadable half.missing =
      .ok octets := by
  cases provides with
  | file set found => rw [set, effectiveText, found, mapError_ok]
  | inline unset given => rw [unset, given, effectiveText]

theorem effectiveText_of_lacks (lacks : config.Lacks read half error) :
    effectiveText read (config.file? half) (config.text? half) half.unreadable half.missing =
      .error error := by
  cases lacks with
  | unreadable set failed => rw [set, effectiveText, failed, mapError_error]
  | missing unset ungiven => rw [unset, ungiven, effectiveText]

/-- A half is provided or lacking. -/
theorem provides_or_lacks (config : KeyConfig) (read : FileReader) (half : KeyHalf) :
    (∃ octets, config.Provides read half octets) ∨ ∃ error, config.Lacks read half error := by
  cases set : config.file? half with
  | some path =>
      cases found : read path with
      | ok octets => exact .inl ⟨octets, .file set found⟩
      | error fault => exact .inr ⟨_, .unreadable set found⟩
  | none =>
      cases given : config.text? half with
      | some text => exact .inl ⟨_, .inline set given⟩
      | none => exact .inr ⟨_, .missing set given⟩

/-- A key pair is loaded half by half. -/
theorem load_of_paired (paired : algorithm.isSymmetric = false) :
    load read algorithm config = (do
      let privateKey ← effectiveText read (config.file? .privateHalf) (config.text? .privateHalf)
        KeyHalf.privateHalf.unreadable KeyHalf.privateHalf.missing
      let publicKey ← effectiveText read (config.file? .publicHalf) (config.text? .publicHalf)
        KeyHalf.publicHalf.unreadable KeyHalf.publicHalf.missing
      ofArmour algorithm privateKey config.passphrase? publicKey) := by
  rw [load, if_neg (by simp [paired])]
  rfl

theorem load_of_symmetric (symmetric : algorithm.isSymmetric = true) :
    load read algorithm config =
      if (config.secret.getD "") = "" then .error .missingSecret
      else .ok ⟨algorithm, .fixed (.secret (Utf8.ofString (config.secret.getD "")))
        (.secret (Utf8.ofString (config.secret.getD "")))⟩ := by
  rw [load, if_pos symmetric, ofSecret, if_neg (by simp [symmetric])]
  cases config.secret with
  | none => rfl
  | some text =>
      by_cases blank : text = ""
      · simp [blank, Utf8.ofString, Utf8.encode]
      · simp [blank, Utf8.ofString_ne_nil blank]

/-- Loading comes to what is in effect. -/
theorem load_of_loads {result : Except KeyError KeyManager}
    (loads : config.Loads read algorithm result) : load read algorithm config = result := by
  cases loads with
  | noSecret symmetric unset =>
      rw [load_of_symmetric symmetric]
      rcases unset with unset | unset <;> simp [unset]
  | secret symmetric set filled => simp [load_of_symmetric symmetric, set, filled]
  | noPrivate paired lacks =>
      rw [load_of_paired paired, effectiveText_of_lacks lacks]
      rfl
  | noPublic paired provides lacks =>
      rw [load_of_paired paired, effectiveText_of_provides provides, effectiveText_of_lacks lacks]
      rfl
  | pair paired signs verifies =>
      rw [load_of_paired paired, effectiveText_of_provides signs, effectiveText_of_provides verifies]
      rfl

/-- There is always something that loading comes to. -/
theorem exists_loads (config : KeyConfig) (read : FileReader) (algorithm : Algorithm) :
    ∃ result, config.Loads read algorithm result := by
  cases symmetric : algorithm.isSymmetric with
  | true =>
      cases set : config.secret with
      | none => exact ⟨_, .noSecret symmetric (.inl set)⟩
      | some text =>
          by_cases blank : text = ""
          · exact ⟨_, .noSecret symmetric (.inr (blank ▸ set))⟩
          · exact ⟨_, .secret symmetric set blank⟩
  | false =>
      obtain ⟨privateKey, signs⟩ | ⟨error, lacks⟩ := provides_or_lacks config read .privateHalf
      · obtain ⟨publicKey, verifies⟩ | ⟨error, lacks⟩ := provides_or_lacks config read .publicHalf
        · exact ⟨_, .pair symmetric signs verifies⟩
        · exact ⟨_, .noPublic symmetric signs lacks⟩
      · exact ⟨_, .noPrivate symmetric lacks⟩

theorem load_eq_iff_loads {result : Except KeyError KeyManager} :
    load read algorithm config = result ↔ config.Loads read algorithm result := by
  constructor
  · rintro rfl
    obtain ⟨result, loads⟩ := exists_loads config read algorithm
    rwa [load_of_loads loads]
  · exact load_of_loads

/-- Key texts that do not fit are no file error. -/
theorem isFileError_of_ofArmour {privateKey publicKey : Bytes} {passphrase : Option String}
    (failed : ofArmour algorithm privateKey passphrase publicKey = .error error) :
    error.isFileError = false := by
  rw [ofArmour] at failed
  split at failed
  · cases failed
    rfl
  obtain failed | ⟨signing, -, failed⟩ := bind_eq_error.mp failed
  · obtain ⟨fault, -, same⟩ := mapError_eq_error.mp failed
    cases same
    rfl
  obtain failed | ⟨verification, -, failed⟩ := bind_eq_error.mp failed
  · obtain ⟨fault, -, same⟩ := mapError_eq_error.mp failed
    cases same
    rfl
  · cases failed

/-- What loads is the same wherever the same material is in effect. -/
theorem loads_transfer {result : Except KeyError KeyManager}
    (loads : config.Loads read algorithm result)
    (material : config.SameMaterial changed algorithm)
    (same : ∀ path, config.FileInEffect read algorithm path → other path = read path) :
    changed.Loads other algorithm result := by
  cases material with
  | secret symmetric secret =>
      cases loads with
      | noSecret _ unset => exact .noSecret symmetric (secret ▸ unset)
      | secret _ set filled => exact .secret symmetric (secret.trans set) filled
      | noPrivate paired | noPublic paired | pair paired =>
          exact absurd (symmetric.symm.trans paired) (by decide)
  | pair paired files texts passphrase =>
      have privateSame (path : String) (set : config.file? .privateHalf = some path) :
          other path = read path := same path (.ofPrivate paired set)
      cases loads with
      | noSecret symmetric | secret symmetric =>
          exact absurd (symmetric.symm.trans paired) (by decide)
      | noPrivate _ lacks =>
          exact .noPrivate paired (lacks.transfer (files _) (texts _) privateSame)
      | noPublic _ provides lacks =>
          exact .noPublic paired (provides.transfer (files _) (texts _) privateSame)
            (lacks.transfer (files _) (texts _) fun path set =>
              same path (.ofPublic paired provides set))
      | pair _ signs verifies =>
          rw [← passphrase]
          exact .pair paired (signs.transfer (files _) (texts _) privateSame)
            (verifies.transfer (files _) (texts _) fun path set =>
              same path (.ofPublic paired signs set))

/-- Loading fails with a file error exactly when a file in effect cannot be read. -/
theorem isFileError_iff :
    (∃ error, load read algorithm config = .error error ∧ error.isFileError = true) ↔
      ∃ path fault, config.FileInEffect read algorithm path ∧ read path = .error fault := by
  constructor
  · rintro ⟨error, failed, file⟩
    obtain ⟨result, loads⟩ := exists_loads config read algorithm
    rw [load_of_loads loads] at failed
    cases loads with
    | noSecret =>
        cases failed
        cases file
    | secret => cases failed
    | noPrivate paired lacks =>
        cases failed
        obtain ⟨path, fault, set, unread⟩ := lacks.exists_file file
        exact ⟨path, fault, .ofPrivate paired set, unread⟩
    | noPublic paired provides lacks =>
        cases failed
        obtain ⟨path, fault, set, unread⟩ := lacks.exists_file file
        exact ⟨path, fault, .ofPublic paired provides set, unread⟩
    | pair => exact absurd file (by simp [isFileError_of_ofArmour failed])
  · rintro ⟨path, fault, inEffect, unread⟩
    cases inEffect with
    | ofPrivate paired set =>
        exact ⟨_, load_of_loads (.noPrivate paired (.unreadable set unread)),
          KeyHalf.isFileError_unreadable _ path fault⟩
    | ofPublic paired provides set =>
        exact ⟨_, load_of_loads (.noPublic paired provides (.unreadable set unread)),
          KeyHalf.isFileError_unreadable _ path fault⟩

end KeyManager

/--
Keys come from the material in effect, in order: what they are loaded to is said
by `KeyConfig.Loads` and by nothing else, so it is the same for settings and
files that agree in that material, and a file error is reported exactly when a
key file in effect cannot be read.
-/
theorem keys_come_from_effective_material (read : FileReader) (algorithm : Algorithm)
    (config : KeyConfig) :
    (∀ result, KeyManager.load read algorithm config = result ↔
        config.Loads read algorithm result) ∧
      (∀ changed other, config.SameMaterial changed algorithm →
        (∀ path, config.FileInEffect read algorithm path → other path = read path) →
          KeyManager.load other algorithm changed = KeyManager.load read algorithm config) ∧
      ((∃ error, KeyManager.load read algorithm config = .error error ∧
          error.isFileError = true) ↔
        ∃ path fault, config.FileInEffect read algorithm path ∧ read path = .error fault) := by
  refine ⟨fun result => KeyManager.load_eq_iff_loads, fun changed other material same => ?_,
    KeyManager.isFileError_iff⟩
  obtain ⟨result, loads⟩ := KeyManager.exists_loads config read algorithm
  have alike := KeyManager.loads_transfer loads material same
  rw [KeyManager.load_of_loads loads, KeyManager.load_of_loads alike]

end SessionTokens
