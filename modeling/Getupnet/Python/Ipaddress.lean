import Getupnet.Python.Text
import Mathlib.Algebra.Group.Nat.Defs
import Mathlib.Data.List.Nodup
import Mathlib.Data.Nat.Basic

namespace python.ipaddress

/-- An address of version 4, as a number. -/
@[ext]
structure IPv4Address where
  value : Nat
  value_lt : value < 2 ^ 32
  deriving DecidableEq

theorem mod_lt (number : Nat) : number % 2 ^ 32 < 2 ^ 32 := Nat.mod_lt _ (Nat.two_pow_pos 32)

def IPv4Address.ofNat (number : Nat) : IPv4Address := ⟨number % 2 ^ 32, mod_lt number⟩

theorem IPv4Address.ofNat_value {number : Nat} (h : number < 2 ^ 32) : (IPv4Address.ofNat number).value = number :=
  Nat.mod_eq_of_lt h

/-- The four octets, the most significant one first. -/
def IPv4Address.octets (self : IPv4Address) : List Nat :=
  [self.value / 2 ^ 24, self.value / 2 ^ 16 % 2 ^ 8, self.value / 2 ^ 8 % 2 ^ 8, self.value % 2 ^ 8]

/-- `str(address)` -/
def IPv4Address.str (self : IPv4Address) : String := ".".intercalate (self.octets.map toString)

/-- The number of one octet: at most three digits, without a zero in front. -/
def parse_octet (digits : List Char) : Option Nat :=
  if digits.length ≤ 3 ∧ (digits = ['0'] ∨ digits.head? ≠ some '0') then
    (spelled digits).filter fun octet => decide (octet ≤ 255)
  else none

/-- `IPv4Address(text)` -/
def IPv4Address.parse (text : String) : Option IPv4Address :=
  match text.toList.splitOn '.' with
  | [first, second, third, fourth] => do
    let first ← parse_octet first
    let second ← parse_octet second
    let third ← parse_octet third
    let fourth ← parse_octet fourth
    return .ofNat (first * 2 ^ 24 + second * 2 ^ 16 + third * 2 ^ 8 + fourth)
  | _ => none

theorem octet_lt (address : IPv4Address) : ∀ octet ∈ address.octets, octet < 2 ^ 8 := by
  have hvalue := address.value_lt
  intro octet hoctet
  simp only [IPv4Address.octets, List.mem_cons, List.not_mem_nil, or_false] at hoctet
  obtain rfl | rfl | rfl | rfl := hoctet <;> omega

/-- An octet is read back from its digits. -/
theorem parse_octet_toDigits {octet : Nat} (h : octet < 2 ^ 8) : parse_octet (Nat.toDigits 10 octet) = some octet := by
  have hlength : (Nat.toDigits 10 octet).length ≤ 3 := by
    rw [Nat.length_toDigits_le_iff (by omega) (by omega)]
    omega
  have hhead : Nat.toDigits 10 octet = ['0'] ∨ (Nat.toDigits 10 octet).head? ≠ some '0' := by
    obtain rfl | hpos := Nat.eq_zero_or_pos octet
    · exact .inl (Nat.toDigits_zero 10)
    · obtain ⟨digit, digits, hdigits, hzero⟩ := toDigits_head hpos
      rw [hdigits, List.head?_cons]
      exact .inr fun heq => hzero (Option.some.inj heq)
  rw [parse_octet, if_pos ⟨hlength, hhead⟩, spelled_toDigits, Option.filter_some, if_pos]
  exact decide_eq_true (by omega)

/-- Between the dots of an address stand the digits of its octets. -/
theorem splitOn_str (address : IPv4Address) :
    address.str.toList.splitOn '.' = address.octets.map (Nat.toDigits 10) := by
  have hdot : ".".toList = ['.'] := rfl
  have htexts : (address.octets.map toString).map String.toList = address.octets.map (Nat.toDigits 10) := by
    rw [List.map_map]
    exact List.map_congr_left fun octet _ => Nat.toList_repr
  rw [IPv4Address.str, String.toList_intercalate, hdot, htexts, List.splitOn_intercalate]
  · intro digits hdigits hmem
    obtain ⟨octet, -, rfl⟩ := List.mem_map.mp hdigits
    have hdigit := Nat.isDigit_of_mem_toDigits (by omega) (by omega) hmem
    cases hdigit
  · simp [IPv4Address.octets]

/-- An address is read back from its text. -/
theorem IPv4Address.parse_str (address : IPv4Address) : IPv4Address.parse address.str = some address := by
  have hvalue := address.value_lt
  have hread : ∀ octet ∈ address.octets, parse_octet (Nat.toDigits 10 octet) = some octet :=
    fun octet hoctet => parse_octet_toDigits (octet_lt address octet hoctet)
  simp only [IPv4Address.octets, List.forall_mem_cons] at hread
  obtain ⟨hfirst, hsecond, hthird, hfourth, -⟩ := hread
  rw [IPv4Address.parse, splitOn_str]
  simp only [IPv4Address.octets, List.map_cons, List.map_nil, hfirst, hsecond, hthird, hfourth, Option.bind_eq_bind,
    Option.bind_some, Option.pure_def]
  refine congrArg some (IPv4Address.ext ?_)
  rw [IPv4Address.ofNat_value] <;> omega

theorem IPv4Address.str_injective : Function.Injective IPv4Address.str := by
  intro first second h
  have hparse := first.parse_str
  rw [h, second.parse_str] at hparse
  exact (Option.some.inj hparse).symm

/-- A network: its first address, and how many bits its addresses share. -/
structure IPv4Network where
  network_address : IPv4Address
  prefixlen : Nat
  prefixlen_le : prefixlen ≤ 32
  aligned : 2 ^ (32 - prefixlen) ∣ network_address.value

def IPv4Network.num_addresses (self : IPv4Network) : Nat := 2 ^ (32 - self.prefixlen)

/-- The places of the usable addresses: all of a network of one or two, and else all but
the first and the last. -/
def IPv4Network.host_places (self : IPv4Network) : List Nat :=
  if self.prefixlen = 32 then [0] else if self.prefixlen = 31 then [0, 1] else List.range' 1 (self.num_addresses - 2)

def IPv4Network.address (self : IPv4Network) (place : Nat) : IPv4Address :=
  .ofNat (self.network_address.value + place)

/-- `network.hosts()` -/
def IPv4Network.hosts (self : IPv4Network) : List IPv4Address := self.host_places.map self.address

theorem masked_lt (address : IPv4Address) (bits : Nat) : address.value / 2 ^ bits * 2 ^ bits < 2 ^ 32 :=
  Nat.lt_of_le_of_lt (Nat.div_mul_le_self _ _) address.value_lt

theorem masked_aligned (address : IPv4Address) (bits : Nat) : 2 ^ bits ∣ address.value / 2 ^ bits * 2 ^ bits :=
  Nat.dvd_mul_left _ _

/-- The network of an address, whose other bits are masked out. -/
def IPv4Network.of (address : IPv4Address) (prefixlen : Nat) (h : prefixlen ≤ 32) : IPv4Network where
  network_address := ⟨address.value / 2 ^ (32 - prefixlen) * 2 ^ (32 - prefixlen), masked_lt address _⟩
  prefixlen := prefixlen
  prefixlen_le := h
  aligned := masked_aligned address _

/-- The length of a prefix: a number, or an address that masks the network's bits or the
others. -/
def parse_prefixlen (mask : String) : Option Nat :=
  match spelled mask.toList with
  | some number => some number
  | none => do
    let address ← IPv4Address.parse mask
    ((List.range 33).find? fun prefixlen => decide (address.value = 2 ^ 32 - 2 ^ (32 - prefixlen))).or
      ((List.range 33).find? fun prefixlen => decide (address.value = 2 ^ (32 - prefixlen) - 1))

/-- `ip_network(text, strict=False)`, for a network of version 4. -/
def ip_network (text : String) : Option IPv4Network :=
  match (text.toList.splitOn '/').map String.ofList with
  | [addr] => do
    let address ← IPv4Address.parse addr
    return .of address 32 (Nat.le_refl 32)
  | [addr, mask] => do
    let address ← IPv4Address.parse addr
    let prefixlen ← parse_prefixlen mask
    if h : prefixlen ≤ 32 then some (.of address prefixlen h) else none
  | _ => none

section

variable (self : IPv4Network)

/-- A network ends before the addresses do. -/
theorem IPv4Network.end_le : self.network_address.value + self.num_addresses ≤ 2 ^ 32 := by
  obtain ⟨first, hfirst⟩ := self.aligned
  have hbits : 32 - self.prefixlen + self.prefixlen = 32 := Nat.sub_add_cancel self.prefixlen_le
  have hsize : 2 ^ (32 - self.prefixlen) * 2 ^ self.prefixlen = 2 ^ 32 := by rw [← Nat.pow_add, hbits]
  have hlt := self.network_address.value_lt
  rw [hfirst, ← hsize] at hlt
  have hsucc : first + 1 ≤ 2 ^ self.prefixlen := Nat.lt_of_mul_lt_mul_left hlt
  calc self.network_address.value + self.num_addresses = 2 ^ (32 - self.prefixlen) * (first + 1) := by
        rw [hfirst, Nat.mul_succ, IPv4Network.num_addresses]
    _ ≤ 2 ^ (32 - self.prefixlen) * 2 ^ self.prefixlen := Nat.mul_le_mul_left _ hsucc
    _ = 2 ^ 32 := hsize

theorem IPv4Network.address_value {place : Nat} (h : place < self.num_addresses) :
    (self.address place).value = self.network_address.value + place := by
  have hend := self.end_le
  exact IPv4Address.ofNat_value (by omega)

theorem IPv4Network.address_inj {first second : Nat} (hfirst : first < self.num_addresses)
    (hsecond : second < self.num_addresses) (h : self.address first = self.address second) : first = second := by
  have hvalue := congrArg IPv4Address.value h
  rw [self.address_value hfirst, self.address_value hsecond] at hvalue
  omega

theorem IPv4Network.host_places_lt : ∀ place ∈ self.host_places, place < self.num_addresses := by
  intro place hplace
  rw [IPv4Network.host_places] at hplace
  rw [IPv4Network.num_addresses]
  split at hplace
  · rename_i hlen
    rw [List.mem_singleton.mp hplace, hlen]
    exact Nat.two_pow_pos 0
  · split at hplace
    · rename_i hlen
      have hbits : 32 - self.prefixlen = 1 := by omega
      have hsize : 2 ^ (32 - self.prefixlen) = 2 := by rw [hbits, Nat.pow_one]
      simp only [List.mem_cons, List.not_mem_nil, or_false] at hplace
      omega
    · have hmem := List.mem_range'_1.mp hplace
      rw [IPv4Network.num_addresses] at hmem
      omega

theorem IPv4Network.host_places_nodup : self.host_places.Nodup := by
  rw [IPv4Network.host_places]
  split
  · exact List.nodup_singleton 0
  · split
    · simp
    · exact List.nodup_range'

/-- No address is listed twice. -/
theorem IPv4Network.hosts_nodup : self.hosts.Nodup :=
  (List.nodup_map_iff_inj_on self.host_places_nodup).mpr fun first hfirst second hsecond h =>
    self.address_inj (self.host_places_lt first hfirst) (self.host_places_lt second hsecond) h

theorem IPv4Network.hosts_of_single (h : self.prefixlen = 32) : self.hosts = [self.address 0] := by
  rw [IPv4Network.hosts, IPv4Network.host_places, if_pos h, List.map_singleton]

/-- Any other network has at least two. -/
theorem IPv4Network.exists_two_hosts (h : self.prefixlen ≠ 32) :
    ∃ first ∈ self.hosts, ∃ second ∈ self.hosts, first ≠ second := by
  have hplaces : ∃ place ∈ self.host_places, place + 1 ∈ self.host_places := by
    rw [IPv4Network.host_places, if_neg h]
    split
    · exact ⟨0, by simp, by simp⟩
    · have hlen := self.prefixlen_le
      have hsize : 2 ^ 2 ≤ self.num_addresses := Nat.pow_le_pow_right (by omega) (by omega)
      exact ⟨1, List.mem_range'_1.mpr (by omega), List.mem_range'_1.mpr (by omega)⟩
  obtain ⟨place, hplace, hnext⟩ := hplaces
  refine ⟨_, List.mem_map_of_mem hplace, _, List.mem_map_of_mem hnext, fun heq => ?_⟩
  have hsame := self.address_inj (self.host_places_lt place hplace) (self.host_places_lt _ hnext) heq
  omega

/-- The last octets of the usable addresses differ in a network of at most 256 addresses,
and in no larger one. -/
theorem IPv4Network.last_octets_nodup_iff :
    (self.hosts.map fun host => host.value % 2 ^ 8).Nodup ↔ 24 ≤ self.prefixlen := by
  rw [List.nodup_map_iff_inj_on self.hosts_nodup]
  constructor
  · intro hinj
    by_contra hnot
    have hsize : 2 ^ 9 ≤ self.num_addresses := Nat.pow_le_pow_right (by omega) (by omega)
    have hmem : ∀ place, 1 ≤ place → place ≤ 257 → self.address place ∈ self.hosts := by
      intro place hfirst hlast
      refine List.mem_map_of_mem ?_
      rw [IPv4Network.host_places, if_neg (by omega), if_neg (by omega), List.mem_range'_1]
      omega
    have hvalues := self.address_value (by omega : 1 < self.num_addresses)
    have hothers := self.address_value (by omega : 257 < self.num_addresses)
    have heq := hinj _ (hmem 1 (by omega) (by omega)) _ (hmem 257 (by omega) (by omega)) (by omega)
    have hplaces := self.address_inj (by omega) (by omega) heq
    omega
  · intro hlen
    have hsize : self.num_addresses ≤ 2 ^ 8 := Nat.pow_le_pow_right (by omega) (by omega)
    intro first hfirst second hsecond h
    obtain ⟨place, hplace, rfl⟩ := List.mem_map.mp hfirst
    obtain ⟨other, hother, rfl⟩ := List.mem_map.mp hsecond
    have hlt := self.host_places_lt place hplace
    have hothers := self.host_places_lt other hother
    rw [self.address_value hlt, self.address_value hothers] at h
    have heq : place = other := by omega
    rw [heq]

end

end python.ipaddress
