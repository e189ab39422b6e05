import Mathlib.Algebra.Order.Ring.Nat
import Mathlib.Data.List.Induction
import Mathlib.Tactic.Ring
import SessionTokens.Bytes

/-!
# Octets and numbers

A number that fits a width comes back from its octets, and octets come back from
their number.
-/

namespace SessionTokens.Bytes

theorem toNat_append (front back : Bytes) :
    toNat (front ++ back) = toNat front * 256 ^ back.length + toNat back := by
  have step (start : Nat) (bytes : Bytes) :
      bytes.foldl (fun number octet => number * 256 + octet.toNat) start =
        start * 256 ^ bytes.length + toNat bytes := by
    induction bytes generalizing start with
    | nil => simp [toNat]
    | cons octet rest ih =>
        rw [toNat, List.foldl_cons, List.foldl_cons, ih, ih (0 * 256 + octet.toNat),
          List.length_cons]
        ring
  rw [toNat, List.foldl_append, step]
  rfl

theorem toNat_singleton (octet : UInt8) : toNat [octet] = octet.toNat := by
  simp [toNat]

theorem toNat_cons (octet : UInt8) (rest : Bytes) :
    toNat (octet :: rest) = octet.toNat * 256 ^ rest.length + toNat rest := by
  rw [← List.singleton_append, toNat_append, toNat_singleton]

theorem toNat_lt (bytes : Bytes) : toNat bytes < 256 ^ bytes.length := by
  induction bytes with
  | nil => decide
  | cons octet rest ih =>
      have small := octet.toNat_lt
      rw [toNat_cons, List.length_cons, pow_succ']
      have : octet.toNat * 256 ^ rest.length ≤ 255 * 256 ^ rest.length :=
        Nat.mul_le_mul_right _ (by omega)
      omega

theorem toNat_ofNat (width number : Nat) : toNat (ofNat width number) = number % 256 ^ width := by
  induction width generalizing number with
  | zero =>
      rw [pow_zero, Nat.mod_one]
      rfl
  | succ width ih =>
      have low : (UInt8.ofNat number).toNat = number % 256 := UInt8.toNat_ofNat'
      rw [ofNat, toNat_append, ih, toNat_singleton, low, List.length_singleton, pow_one, pow_succ',
        Nat.mod_mul, Nat.mul_comm, Nat.add_comm]

theorem toNat_ofNat_of_lt {width number : Nat} (fits : number < 256 ^ width) :
    toNat (ofNat width number) = number := by
  rw [toNat_ofNat, Nat.mod_eq_of_lt fits]

theorem ofNat_toNat (bytes : Bytes) : ofNat bytes.length (toNat bytes) = bytes := by
  induction bytes using List.reverseRecOn with
  | nil => rfl
  | append_singleton front octet ih =>
      have small := octet.toNat_lt
      have last : UInt8.ofNat (toNat front * 256 + octet.toNat) = octet := by
        apply UInt8.toNat_inj.mp
        rw [UInt8.toNat_ofNat']
        omega
      have rest : (toNat front * 256 + octet.toNat) / 256 = toNat front := by omega
      rw [toNat_append, toNat_singleton, List.length_append, List.length_singleton, pow_one, ofNat,
        rest, last, ih]

theorem length_xor (left right : Bytes) :
    (xor left right).length = min left.length right.length :=
  List.length_zipWith

/-- Masking twice with one mask takes the mask off. -/
theorem xor_xor {left right : Bytes} (long : left.length ≤ right.length) :
    xor (xor left right) right = left := by
  induction left generalizing right with
  | nil => rfl
  | cons octet rest ih =>
      cases right with
      | nil => simp at long
      | cons other others =>
          simp only [List.length_cons, Nat.add_le_add_iff_right] at long
          have one : octet ^^^ other ^^^ other = octet := by
            rw [UInt8.xor_assoc, UInt8.xor_self, UInt8.xor_zero]
          have more : xor (xor rest others) others = rest := ih long
          simp only [xor, List.zipWith_cons_cons, one]
          exact congrArg _ more

theorem drop_xor (count : Nat) (left right : Bytes) :
    (xor left right).drop count = xor (left.drop count) (right.drop count) :=
  List.drop_zipWith

end SessionTokens.Bytes
