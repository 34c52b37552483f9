import LogEgress.Ip
import Mathlib.Algebra.GroupWithZero.Nat

set_option autoImplicit false

/-! # The sixteen octets of an address

An address of either family has sixteen octets: an IPv4 address has those of the IPv6 address that
maps it. Its 128-bit number is what these octets spell, the highest one first, so that comparing
numbers is comparing octets one after the other (`IpAddr.value_le_iff`).
-/

namespace LogEgress

/-- The number that octets spell after a number, the highest one first. -/
def numberAfter (n : Nat) (os : List UInt8) : Nat := os.foldl (fun n o => n * 256 + o.toNat) n

theorem numberAfter_lt {n bound : Nat} (h : n < bound) (os : List UInt8) :
    numberAfter n os < bound * 256 ^ os.length := by
  induction os generalizing n bound with
  | nil => simpa [numberAfter] using h
  | cons o os ih =>
    have ho : o.toNat < 256 := o.toNat_lt
    have hnext : n * 256 + o.toNat < bound * 256 := by omega
    calc
      numberAfter n (o :: os) = numberAfter (n * 256 + o.toNat) os := rfl
      _ < bound * 256 * 256 ^ os.length := ih hnext
      _ = bound * 256 ^ (o :: os).length := by
        rw [List.length_cons, Nat.pow_succ', Nat.mul_assoc]

/-- What stands before decides, whatever the octets are. -/
theorem numberAfter_lt_numberAfter {n m : Nat} {os ps : List UInt8} (h : n < m)
    (hlength : os.length = ps.length) : numberAfter n os < numberAfter m ps := by
  induction os generalizing n m ps with
  | nil =>
    obtain rfl : ps = [] := List.length_eq_zero_iff.mp hlength.symm
    exact h
  | cons o os ih =>
    cases ps with
    | nil => cases hlength
    | cons p ps =>
      have ho : o.toNat < 256 := o.toNat_lt
      have hnext : n * 256 + o.toNat < m * 256 + p.toNat := by omega
      have hrest : os.length = ps.length := Nat.succ.inj hlength
      exact ih (n := n * 256 + o.toNat) (m := m * 256 + p.toNat) hnext hrest

/-- As many octets on either side are in the order of their numbers. -/
theorem numberAfter_lt_iff {n : Nat} {os ps : List UInt8} (hlength : os.length = ps.length) :
    numberAfter n os < numberAfter n ps ↔ os < ps := by
  induction os generalizing n ps with
  | nil =>
    obtain rfl : ps = [] := List.length_eq_zero_iff.mp hlength.symm
    exact iff_of_false (Nat.lt_irrefl n) (List.lt_irrefl [])
  | cons o os ih =>
    cases ps with
    | nil => cases hlength
    | cons p ps =>
      have hrest : os.length = ps.length := Nat.succ.inj hlength
      rw [List.cons_lt_cons_iff]
      show numberAfter (n * 256 + o.toNat) os < numberAfter (n * 256 + p.toNat) ps ↔ _
      rcases Nat.lt_trichotomy o.toNat p.toNat with h | h | h
      · have hlt := numberAfter_lt_numberAfter (n := n * 256 + o.toNat) (m := n * 256 + p.toNat)
          (by omega) hrest
        exact iff_of_true hlt (.inl h)
      · obtain rfl : o = p := UInt8.toNat_inj.mp h
        rw [ih hrest]
        exact ⟨fun h => .inr ⟨rfl, h⟩,
          fun h => h.elim (fun h => absurd h (UInt8.lt_irrefl o)) (·.2)⟩
      · have hlt := numberAfter_lt_numberAfter (n := n * 256 + p.toNat) (m := n * 256 + o.toNat)
          (by omega) hrest.symm
        refine iff_of_false (Nat.lt_asymm hlt) ?_
        rintro (hless | ⟨rfl, -⟩)
        · exact Nat.lt_asymm h hless
        · exact Nat.lt_irrefl _ h

namespace Ipv6

theorem toNat_highOctet (g : UInt16) : (UInt8.ofNat (g.toNat / 256)).toNat = g.toNat / 256 := by
  have hbound : g.toNat < 65536 := g.toNat_lt
  exact UInt8.toNat_ofNat_of_lt' (show _ < 256 by omega)

theorem toNat_lowOctet (g : UInt16) : (UInt8.ofNat (g.toNat % 256)).toNat = g.toNat % 256 :=
  UInt8.toNat_ofNat_of_lt' (show _ < 256 by omega)

/-- The octets of an address, two in each group. -/
def octets (x : Ipv6) : List UInt8 :=
  x.groups.flatMap fun g => [UInt8.ofNat (g.toNat / 256), UInt8.ofNat (g.toNat % 256)]

theorem length_octets (x : Ipv6) : x.octets.length = 16 := by
  rw [octets, List.length_flatMap]
  simp only [List.length_cons, List.length_nil, List.map_const', List.sum_replicate_nat,
    x.length_eq]

theorem value_eq (x : Ipv6) : x.value = numberAfter 0 x.octets := by
  -- A group adds to the number what its two octets add one after the other.
  have hgroup (n : Nat) (g : UInt16) : n * 65536 + g.toNat =
      numberAfter n [UInt8.ofNat (g.toNat / 256), UInt8.ofNat (g.toNat % 256)] := by
    have hbound : g.toNat < 65536 := g.toNat_lt
    simp only [numberAfter, List.foldl_cons, List.foldl_nil, toNat_highOctet, toNat_lowOctet]
    omega
  rw [value, octets, numberAfter, List.foldl_flatMap]
  simp only [hgroup]
  rfl

end Ipv6

namespace IpAddr

/-- The octets by which addresses are compared. -/
def octets : IpAddr → List UInt8
  | v4 x => x.mapped.octets
  | v6 x => x.octets

theorem length_octets (x : IpAddr) : x.octets.length = 16 := by
  cases x with
  | v4 x => exact x.mapped.length_octets
  | v6 x => exact x.length_octets

theorem value_eq (x : IpAddr) : x.value = numberAfter 0 x.octets := by
  cases x with
  | v4 x => exact x.mapped.value_eq
  | v6 x => exact x.value_eq

theorem value_lt (x : IpAddr) : x.value < 2 ^ 128 := by
  have h := numberAfter_lt Nat.one_pos x.octets
  rw [← value_eq, length_octets] at h
  exact h

/-- **The order of numbers is that of octets.** -/
theorem value_le_iff {x y : IpAddr} : x.value ≤ y.value ↔ x.octets ≤ y.octets := by
  rw [value_eq, value_eq, ← Nat.not_lt, ← List.not_lt,
    numberAfter_lt_iff (y.length_octets.trans x.length_octets.symm)]

end IpAddr

end LogEgress
