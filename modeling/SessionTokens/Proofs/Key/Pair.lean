import SessionTokens.Proofs.Key.Loading
import SessionTokens.Proofs.Signature.Curve
import SessionTokens.Proofs.Signature.Rsa

/-!
# Halves that belong together

What a private half signs is right under the public half that goes with it, for
every algorithm and every message.  A half that does not suit the algorithm
signs nothing, or verifies nothing.
-/

namespace SessionTokens

namespace Algorithm

variable {algorithm : Algorithm} {signing : SigningMaterial} {verification : VerificationMaterial}

/-- Both curves of the algorithms are standard ones. -/
theorem standard_of_curve? {curve : Curve} (chosen : algorithm.curve? = some curve) :
    curve.Standard := by
  cases algorithm <;> cases chosen <;> infer_instance

theorem family_of_curve? {curve : Curve} (chosen : algorithm.curve? = some curve) :
    algorithm.family = .curve := by
  cases algorithm <;> cases chosen <;> rfl

theorem Pairs.suits (pair : algorithm.Pairs signing verification) :
    algorithm.suits verification = true := by
  cases pair with
  | rsa family => simp [Algorithm.suits, family]
  | curve chosen => simp [Algorithm.suits, family_of_curve? chosen]

theorem sign_rsa_eq_ok {seed octets message signature : Bytes}
    (signed : algorithm.sign seed (.rsa octets) message = .ok signature) :
    algorithm.family = .rsa ∧ ∃ key, Rsa.PrivateKey.ofDer? octets = some key ∧
      (if algorithm.isMasked then
        Rsa.signMasked? algorithm.hash key (algorithm.salt seed) message
      else Rsa.signFixed? algorithm.hash key message) = some signature := by
  cases family : algorithm.family with
  | hmac | curve => simp [sign, family] at signed
  | rsa =>
      refine ⟨rfl, ?_⟩
      simp only [sign, family] at signed
      generalize found : Option.bind _ _ = made at signed
      cases made with
      | none => cases signed
      | some _ =>
          cases signed
          exact Option.bind_eq_some_iff.mp found

theorem sign_curve_eq_ok {seed octets message signature : Bytes}
    (signed : algorithm.sign seed (.curve octets) message = .ok signature) :
    ∃ curve, algorithm.curve? = some curve ∧ ∃ secret, curve.secret? octets = some secret ∧
      curve.sign? algorithm.hash secret seed message = some signature := by
  cases family : algorithm.family with
  | hmac | rsa => simp [sign, family] at signed
  | curve =>
      simp only [sign, family, Option.bind_eq_bind] at signed
      generalize found : Option.bind _ _ = made at signed
      cases made with
      | none => cases signed
      | some _ =>
          cases signed
          obtain ⟨curve, chosen, found⟩ := Option.bind_eq_some_iff.mp found
          exact ⟨curve, chosen, Option.bind_eq_some_iff.mp found⟩

theorem length_salt (algorithm : Algorithm) (seed : Bytes) :
    (algorithm.salt seed).length = algorithm.hash.size :=
  Bytes.length_ofNat _ _

/-- What the private half signs is right under the public half. -/
theorem Pairs.verify_of_sign (pair : algorithm.Pairs signing verification)
    {seed message signature : Bytes} (signed : algorithm.sign seed signing message = .ok signature) :
    algorithm.verify verification message signature = true := by
  cases pair with
  | @rsa secret shown key family read suits genuine same =>
      obtain ⟨-, other, otherRead, made⟩ := sign_rsa_eq_ok signed
      cases read.symm.trans otherRead
      simp only [verify, family, same]
      cases masked : algorithm.isMasked with
      | true =>
          rw [if_pos masked] at made
          exact Rsa.verifyMasked_apply genuine (algorithm.length_salt seed) made
      | false =>
          rw [if_neg (by simp [masked])] at made
          exact Rsa.verifyFixed_apply genuine made
  | @curve secret shown curve number chosen read same =>
      obtain ⟨other, otherChosen, otherNumber, otherRead, made⟩ := sign_curve_eq_ok signed
      cases chosen.symm.trans otherChosen
      cases read.symm.trans otherRead
      have standard := standard_of_curve? chosen
      simp only [verify, family_of_curve? chosen, chosen, same]
      exact Curve.verify_of_sign? made

end Algorithm

/-! ## Loading -/

namespace KeyManager

variable {algorithm : Algorithm} {privateKey publicKey : Bytes} {passphrase : Option String}
  {manager : KeyManager}

/-- A configuration makes no difference to what is accepted. -/
theorem fromPair_iff (paired : algorithm.isSymmetric = false) :
    manager.FromPair algorithm privateKey passphrase publicKey ↔
      ofArmour algorithm privateKey passphrase publicKey = .ok manager := by
  refine ⟨fun accepted => ?_, .armour⟩
  cases accepted with
  | armour accepted => exact accepted
  | config signs verifies opens accepted =>
      rwa [load_of_loads (.pair paired signs verifies), opens] at accepted

/-- What a configuration loads for key pairs comes from the texts that it provides. -/
theorem load_eq_ok_iff (paired : algorithm.isSymmetric = false) {read : FileReader}
    {config : KeyConfig} :
    load read algorithm config = .ok manager ↔
      ∃ privateKey publicKey, config.Provides read .privateHalf privateKey ∧
        config.Provides read .publicHalf publicKey ∧
          manager.FromPair algorithm privateKey config.passphrase? publicKey := by
  constructor
  · intro loaded
    have loads := load_eq_iff_loads.mp loaded
    generalize accepted : Except.ok manager = result at loads
    cases loads with
    | noSecret symmetric | secret symmetric =>
        exact absurd (symmetric.symm.trans paired) (by decide)
    | noPrivate | noPublic => cases accepted
    | pair _ signs verifies => exact ⟨_, _, signs, verifies, .armour accepted.symm⟩
  · rintro ⟨privateKey, publicKey, signs, verifies, accepted⟩
    rw [load_of_loads (.pair paired signs verifies)]
    exact (fromPair_iff paired).mp accepted

end KeyManager

end SessionTokens
