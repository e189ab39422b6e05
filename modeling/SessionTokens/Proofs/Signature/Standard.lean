import SessionTokens.Proofs.Number.Certificate
import SessionTokens.Proofs.Signature.Scaled

/-!
# The standard curves

The curves over primes of 256 and of 384 bits have smooth equations, and their
base points generate groups of prime order.
-/

namespace SessionTokens.Curve

/-- What signatures rely on: the base point has prime order, not much below the prime. -/
class Standard (curve : Curve) : Prop extends Smooth curve where
  orderPrime : curve.order.Prime
  inside : curve.contains curve.baseX curve.baseY = true
  annihilated : curve.annihilatesBase curve.order = true
  spacious : attempts < curve.order
  close : curve.prime < 2 * curve.order
  fits : curve.order ≤ 256 ^ curve.size

instance (curve : Curve) [standard : Standard curve] : Fact curve.order.Prime :=
  ⟨standard.orderPrime⟩

theorem discriminant_ne_zero {curve : Curve}
    (apart : 1728 % curve.prime ≠ 432 * curve.constant ^ 2 % curve.prime) :
    curve.equation.Δ ≠ 0 := by
  intro zero
  refine apart ((ZMod.natCast_eq_natCast_iff' _ _ _).mp ?_)
  push_cast
  simp only [WeierstrassCurve.Δ, WeierstrassCurve.b₂, WeierstrassCurve.b₄, WeierstrassCurve.b₆,
    WeierstrassCurve.b₈, equation] at zero
  linear_combination zero

def isStandard (curve : Curve) (primes : PrimeCertificate) : Bool :=
  PrimeCertificate.holds [] primes
    && (primes.map Prod.fst).contains curve.prime && (primes.map Prod.fst).contains curve.order
    && 3 < curve.prime && decide (1728 % curve.prime ≠ 432 * curve.constant ^ 2 % curve.prime)
    && curve.contains curve.baseX curve.baseY && curve.annihilatesBase curve.order
    && attempts < curve.order && curve.prime < 2 * curve.order && curve.order ≤ 256 ^ curve.size

theorem standard_of_isStandard {curve : Curve} (primes : PrimeCertificate)
    (shown : curve.isStandard primes = true) : Standard curve := by
  simp only [isStandard, Bool.and_eq_true, decide_eq_true_eq, List.contains_iff_mem] at shown
  obtain ⟨⟨⟨⟨⟨⟨⟨⟨⟨certified, prime⟩, order⟩, large⟩, apart⟩, inside⟩, annihilated⟩, spacious⟩,
    close⟩, fits⟩ := shown
  have isPrime {number : Nat} (listed : number ∈ primes.map Prod.fst) : number.Prime := by
    obtain ⟨entry, member, rfl⟩ := List.mem_map.mp listed
    exact PrimeCertificate.prime_of_holds (by simp) certified entry member
  exact {
    prime := isPrime prime
    large := large
    discriminant := discriminant_ne_zero apart
    orderPrime := isPrime order
    inside := inside
    annihilated := annihilated
    spacious := spacious
    close := close
    fits := fits }

def primes256 : PrimeCertificate :=
  [(704251, []),
  (78283, []),
  (46076956964474543, [704251, 78283]),
  (3677, []),
  (197, []),
  (66417393611, [3677, 197]),
  (11290956913871, [66417393611]),
  (774023187263532362759620327192479577272145303, [46076956964474543, 11290956913871]),
  (835945042244614951780389953367877943453916927241,
    [774023187263532362759620327192479577272145303]),
  (Curve.p256.prime, [835945042244614951780389953367877943453916927241]),
  (155317, []),
  (191039911, [155317]),
  (3023, []),
  (208150935158385979, [191039911, 3023]),
  (2624747550333869278416773953, [208150935158385979]),
  (104471, []),
  (3969899, [104471]),
  (1002328039319, [3969899]),
  (Curve.p256.order, [2624747550333869278416773953, 1002328039319])]

instance : Standard p256 := standard_of_isStandard primes256 (by decide +kernel)

def primes384 : PrimeCertificate :=
  [(363557, []),
  (532247449, [363557]),
  (44925942675193, [532247449]),
  (35581458644053887931343, [44925942675193]),
  (23964610537191310276190549303, [35581458644053887931343]),
  (862725979338887169942859774909, [23964610537191310276190549303]),
  (20705423504133292078628634597817, [862725979338887169942859774909]),
  (413244619895455989650825325680172591660047, [20705423504133292078628634597817]),
  (12397338596863679689524759770405177749801411, [413244619895455989650825325680172591660047]),
  (21407, []),
  (246608641, [21407]),
  (881, []),
  (211, []),
  (105957871, [881, 211]),
  (529709925838459440593, [246608641, 105957871]),
  (19173790298027098165721053155794528970226934547887232785722672956982046098136719667167519737147526097,
    [12397338596863679689524759770405177749801411,
      529709925838459440593]),
  (Curve.p384.prime,
    [19173790298027098165721053155794528970226934547887232785722672956982046098136719667167519737147526097]),
  (421, []),
  (233, []),
  (272109983, [421, 233]),
  (228572385721, [272109983]),
  (23314383343543, [228572385721]),
  (426632512014427833817, [23314383343543]),
  (1495199339761412565498084319, [426632512014427833817]),
  (17942392077136950785977011829, [1495199339761412565498084319]),
  (311, []),
  (9863677, [881, 311]),
  (37344768852931, [9863677]),
  (55942463741690639, [37344768852931]),
  (1059392654943455286185473617842338478315215895509773412096307,
    [17942392077136950785977011829,
      55942463741690639]),
  (3055465788140352002733946906144561090641249606160407884365391979704929268480326390471,
    [1059392654943455286185473617842338478315215895509773412096307]),
  (Curve.p384.order,
    [3055465788140352002733946906144561090641249606160407884365391979704929268480326390471])]

instance : Standard p384 := standard_of_isStandard primes384 (by decide +kernel)

end SessionTokens.Curve
