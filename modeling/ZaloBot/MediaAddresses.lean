import Mathlib

/-!
# Addresses that media are not downloaded from

The address filter of the media downloader, over 32-bit and 128-bit addresses
with the tests of the standard library that it uses.  Beside it stands the
purpose of the filter, in terms of address blocks: which addresses are set
aside, and which IPv6 addresses embed an IPv4 address.
-/

namespace ZaloBot

namespace Media

structure Ipv4Addr where
  bits : BitVec 32
deriving DecidableEq, Repr

structure Ipv6Addr where
  bits : BitVec 128
deriving DecidableEq, Repr

inductive IpAddr where
  | v4 (addr : Ipv4Addr)
  | v6 (addr : Ipv6Addr)
deriving DecidableEq, Repr

namespace Ipv4Addr

/-- `Ipv4Addr::new`. -/
def new (a b c d : Nat) : Ipv4Addr :=
  ⟨BitVec.ofNat 32 (a * 2 ^ 24 + b * 2 ^ 16 + c * 2 ^ 8 + d)⟩

/-- `octets()[index]`. -/
def octet (addr : Ipv4Addr) (index : Nat) : Nat :=
  addr.bits.toNat / 256 ^ (3 - index) % 256

/-- `is_private`. -/
def isPrivate (addr : Ipv4Addr) : Bool :=
  addr.octet 0 = 10 ||
    (addr.octet 0 = 172 && 16 ≤ addr.octet 1 && addr.octet 1 ≤ 31) ||
    (addr.octet 0 = 192 && addr.octet 1 = 168)

/-- `is_loopback`. -/
def isLoopback (addr : Ipv4Addr) : Bool :=
  addr.octet 0 = 127

/-- `is_link_local`. -/
def isLinkLocal (addr : Ipv4Addr) : Bool :=
  addr.octet 0 = 169 && addr.octet 1 = 254

/-- `is_multicast`. -/
def isMulticast (addr : Ipv4Addr) : Bool :=
  224 ≤ addr.octet 0 && addr.octet 0 ≤ 239

/-- `is_unspecified`. -/
def isUnspecified (addr : Ipv4Addr) : Bool :=
  addr = new 0 0 0 0

/-- `is_broadcast`. -/
def isBroadcast (addr : Ipv4Addr) : Bool :=
  addr = new 255 255 255 255

end Ipv4Addr

namespace Ipv6Addr

/-- `Ipv6Addr::new`. -/
def new (a b c d e f g h : Nat) : Ipv6Addr :=
  ⟨BitVec.ofNat 128 (a * 2 ^ 112 + b * 2 ^ 96 + c * 2 ^ 80 + d * 2 ^ 64 +
    e * 2 ^ 48 + f * 2 ^ 32 + g * 2 ^ 16 + h)⟩

/-- `segments()[index]`. -/
def segment (addr : Ipv6Addr) (index : Nat) : Nat :=
  addr.bits.toNat / 65536 ^ (7 - index) % 65536

/-- `to_ipv4_mapped`. -/
def toIpv4Mapped (addr : Ipv6Addr) : Option Ipv4Addr :=
  if addr.bits.toNat / 2 ^ 32 = 0xffff then
    some ⟨BitVec.ofNat 32 addr.bits.toNat⟩
  else
    none

/-- `is_loopback`. -/
def isLoopback (addr : Ipv6Addr) : Bool :=
  addr = new 0 0 0 0 0 0 0 1

/-- `is_unspecified`. -/
def isUnspecified (addr : Ipv6Addr) : Bool :=
  addr = new 0 0 0 0 0 0 0 0

/-- `is_multicast`: the leading segment under the mask `0xff00`. -/
def isMulticast (addr : Ipv6Addr) : Bool :=
  addr.segment 0 / 0x100 * 0x100 = 0xff00

/-- `is_unique_local`: the leading segment under the mask `0xfe00`. -/
def isUniqueLocal (addr : Ipv6Addr) : Bool :=
  addr.segment 0 / 0x200 * 0x200 = 0xfc00

/-- `is_unicast_link_local`: the leading segment under the mask `0xffc0`. -/
def isUnicastLinkLocal (addr : Ipv6Addr) : Bool :=
  addr.segment 0 / 0x40 * 0x40 = 0xfe80

end Ipv6Addr

section Filter

/-- `ipv4_prefix`. -/
def ipv4Prefix (addrBits : BitVec 32) (block : Ipv4Addr)
    (length : Nat) : Bool :=
  addrBits >>> (32 - length) = block.bits >>> (32 - length)

/-- `ipv6_prefix`. -/
def ipv6Prefix (addrBits : BitVec 128) (block : Ipv6Addr)
    (length : Nat) : Bool :=
  addrBits >>> (128 - length) = block.bits >>> (128 - length)

/-- `is_forbidden_v4`. -/
def isForbiddenV4 (addr : Ipv4Addr) : Bool :=
  addr.isPrivate || addr.isLoopback || addr.isLinkLocal ||
    addr.isMulticast || addr.isUnspecified || addr.isBroadcast ||
    addr = .new 169 254 169 254 ||
    ipv4Prefix addr.bits (.new 0 0 0 0) 8 ||
    ipv4Prefix addr.bits (.new 100 64 0 0) 10 ||
    ipv4Prefix addr.bits (.new 192 0 0 0) 24 ||
    ipv4Prefix addr.bits (.new 192 0 2 0) 24 ||
    ipv4Prefix addr.bits (.new 198 51 100 0) 24 ||
    ipv4Prefix addr.bits (.new 203 0 113 0) 24 ||
    ipv4Prefix addr.bits (.new 198 18 0 0) 15 ||
    ipv4Prefix addr.bits (.new 240 0 0 0) 4

/-- `is_forbidden_v6`. -/
def isForbiddenV6 (addr : Ipv6Addr) : Bool :=
  match addr.toIpv4Mapped with
  | some mapped => isForbiddenV4 mapped
  | none =>
      addr.isLoopback || addr.isUnspecified || addr.isMulticast ||
        addr.isUniqueLocal || addr.isUnicastLinkLocal ||
        ipv6Prefix addr.bits (.new 0xfec0 0 0 0 0 0 0 0) 10 ||
        ipv6Prefix addr.bits (.new 0x100 0 0 0 0 0 0 0) 64 ||
        ipv6Prefix addr.bits (.new 0x2001 0xdb8 0 0 0 0 0 0) 32 ||
        ipv6Prefix addr.bits (.new 0x3fff 0 0 0 0 0 0 0) 20 ||
        ipv6Prefix addr.bits (.new 0x2001 0 0 0 0 0 0 0) 23 ||
        !ipv6Prefix addr.bits (.new 0x2000 0 0 0 0 0 0 0) 3

/-- `is_forbidden_ip`. -/
def isForbiddenIp : IpAddr → Bool
  | .v4 addr => isForbiddenV4 addr
  | .v6 addr => isForbiddenV6 addr

end Filter

section Purposes

/-- The addresses of a block, given by its first address and its length. -/
def inBlock (width value first length : Nat) : Prop :=
  first ≤ value ∧ value < first + 2 ^ (width - length)

instance {width value first length : Nat} :
    Decidable (inBlock width value first length) :=
  inferInstanceAs (Decidable (_ ∧ _))

/-- Why an IPv4 address is set aside. -/
inductive Ipv4Purpose where
  | privateUse
  | loopback
  | linkLocal
  | shared
  | multicast
  | unspecified
  | broadcast
  | documentation
  | benchmarking
  | reserved

/-- The blocks of a purpose. -/
def Ipv4Purpose.blocks : Ipv4Purpose → List (Ipv4Addr × Nat)
  | privateUse =>
      [(.new 10 0 0 0, 8), (.new 172 16 0 0, 12), (.new 192 168 0 0, 16)]
  | loopback => [(.new 127 0 0 0, 8)]
  | linkLocal => [(.new 169 254 0 0, 16)]
  | shared => [(.new 100 64 0 0, 10)]
  | multicast => [(.new 224 0 0 0, 4)]
  | unspecified => [(.new 0 0 0 0, 32)]
  | broadcast => [(.new 255 255 255 255, 32)]
  | documentation =>
      [(.new 192 0 2 0, 24), (.new 198 51 100 0, 24), (.new 203 0 113 0, 24)]
  | benchmarking => [(.new 198 18 0 0, 15)]
  | reserved => [(.new 240 0 0 0, 4)]

/-- An IPv4 address that is set aside for some purpose. -/
def Ipv4Addr.IsSetAside (addr : Ipv4Addr) : Prop :=
  ∃ purpose : Ipv4Purpose, ∃ block ∈ purpose.blocks,
    inBlock 32 addr.bits.toNat block.1.bits.toNat block.2

/-- Why an IPv6 address is set aside. -/
inductive Ipv6Purpose where
  | loopback
  | unspecified
  | linkLocal
  | siteLocal
  | uniqueLocal
  | multicast
  | documentation

/-- The blocks of a purpose. -/
def Ipv6Purpose.blocks : Ipv6Purpose → List (Ipv6Addr × Nat)
  | loopback => [(.new 0 0 0 0 0 0 0 1, 128)]
  | unspecified => [(.new 0 0 0 0 0 0 0 0, 128)]
  | linkLocal => [(.new 0xfe80 0 0 0 0 0 0 0, 10)]
  | siteLocal => [(.new 0xfec0 0 0 0 0 0 0 0, 10)]
  | uniqueLocal => [(.new 0xfc00 0 0 0 0 0 0 0, 7)]
  | multicast => [(.new 0xff00 0 0 0 0 0 0 0, 8)]
  | documentation =>
      [(.new 0x2001 0xdb8 0 0 0 0 0 0, 32), (.new 0x3fff 0 0 0 0 0 0 0, 20)]

/-- How an IPv6 address embeds an IPv4 address. -/
inductive Ipv4Embedding where
  | mapped
  | compatible
  | nat64
  | sixToFour
deriving DecidableEq, Repr

namespace Ipv4Embedding

/-- The addresses that embed an IPv4 address in this way. -/
def block : Ipv4Embedding → Ipv6Addr × Nat
  | mapped => (.new 0 0 0 0 0 0xffff 0 0, 96)
  | compatible => (.new 0 0 0 0 0 0 0 0, 96)
  | nat64 => (.new 0x64 0xff9b 0 0 0 0 0 0, 96)
  | sixToFour => (.new 0x2002 0 0 0 0 0 0 0, 16)

/-- The embedded address. -/
def embedded (addr : Ipv6Addr) : Ipv4Embedding → Ipv4Addr
  | sixToFour => ⟨BitVec.ofNat 32 (addr.bits.toNat / 2 ^ 80)⟩
  | _ => ⟨BitVec.ofNat 32 addr.bits.toNat⟩

/-- An IPv6 address that embeds an IPv4 address that is set aside. -/
def Embeds (embedding : Ipv4Embedding) (addr : Ipv6Addr) : Prop :=
  inBlock 128 addr.bits.toNat embedding.block.1.bits.toNat
      embedding.block.2 ∧
    (embedding.embedded addr).IsSetAside

end Ipv4Embedding

/-- An IPv6 address that is set aside for some purpose. -/
def Ipv6Addr.IsSetAside (addr : Ipv6Addr) : Prop :=
  ∃ purpose : Ipv6Purpose, ∃ block ∈ purpose.blocks,
    inBlock 128 addr.bits.toNat block.1.bits.toNat block.2

/-- An address that must not be connected to. -/
def IpAddr.IsInternal : IpAddr → Prop
  | .v4 addr => addr.IsSetAside
  | .v6 addr => addr.IsSetAside ∨ ∃ embedding, Ipv4Embedding.Embeds embedding addr

end Purposes

section Coverage

theorem ipv4Prefix_iff {bits : BitVec 32} {block : Ipv4Addr} {length : Nat} :
    ipv4Prefix bits block length = true ↔
      bits.toNat / 2 ^ (32 - length) = block.bits.toNat / 2 ^ (32 - length) := by
  simp [ipv4Prefix, ← BitVec.toNat_inj, Nat.shiftRight_eq_div_pow]

theorem ipv6Prefix_iff {bits : BitVec 128} {block : Ipv6Addr}
    {length : Nat} :
    ipv6Prefix bits block length = true ↔
      bits.toNat / 2 ^ (128 - length) =
        block.bits.toNat / 2 ^ (128 - length) := by
  simp [ipv6Prefix, ← BitVec.toNat_inj, Nat.shiftRight_eq_div_pow]

theorem Ipv4Addr.eq_iff {addr other : Ipv4Addr} :
    addr = other ↔ addr.bits.toNat = other.bits.toNat := by
  rw [BitVec.toNat_inj]
  constructor
  · rintro rfl
    rfl
  · intro same
    cases addr
    cases other
    cases same
    rfl

/-- The filter for IPv4 addresses, as a condition on the number. -/
theorem isForbiddenV4_iff {addr : Ipv4Addr} :
    isForbiddenV4 addr = true ↔
      addr.bits.toNat / 2 ^ 24 = 0 ∨ addr.bits.toNat / 2 ^ 24 = 10 ∨
      addr.bits.toNat / 2 ^ 22 = 100 * 4 + 1 ∨
      addr.bits.toNat / 2 ^ 24 = 127 ∨
      addr.bits.toNat / 2 ^ 16 = 169 * 256 + 254 ∨
      addr.bits.toNat / 2 ^ 20 = 172 * 16 + 1 ∨
      addr.bits.toNat / 2 ^ 8 = 192 * 65536 ∨
      addr.bits.toNat / 2 ^ 8 = 192 * 65536 + 2 ∨
      addr.bits.toNat / 2 ^ 16 = 192 * 256 + 168 ∨
      addr.bits.toNat / 2 ^ 17 = 198 * 128 + 9 ∨
      addr.bits.toNat / 2 ^ 8 = 198 * 65536 + 51 * 256 + 100 ∨
      addr.bits.toNat / 2 ^ 8 = 203 * 65536 + 113 ∨
      224 ≤ addr.bits.toNat / 2 ^ 24 := by
  have bound := addr.bits.isLt
  simp only [isForbiddenV4, Ipv4Addr.isPrivate, Ipv4Addr.isLoopback,
    Ipv4Addr.isLinkLocal, Ipv4Addr.isMulticast, Ipv4Addr.isUnspecified,
    Ipv4Addr.isBroadcast, Bool.or_eq_true, Bool.and_eq_true,
    decide_eq_true_eq, ipv4Prefix_iff, Ipv4Addr.eq_iff]
  simp only [Ipv4Addr.octet, Ipv4Addr.new, BitVec.toNat_ofNat]
  omega

/-- Every IPv4 address that is set aside is forbidden. -/
theorem isForbiddenV4_of_isSetAside {addr : Ipv4Addr}
    (setAside : addr.IsSetAside) : isForbiddenV4 addr = true := by
  obtain ⟨purpose, block, member, within⟩ := setAside
  have bound := addr.bits.isLt
  rw [isForbiddenV4_iff]
  cases purpose <;>
    simp only [Ipv4Purpose.blocks, List.mem_cons, List.not_mem_nil,
      or_false] at member <;>
    rcases member with rfl | rfl | rfl <;>
    simp only [inBlock, Ipv4Addr.new, BitVec.toNat_ofNat] at within <;>
    omega

theorem Ipv6Addr.eq_iff {addr other : Ipv6Addr} :
    addr = other ↔ addr.bits.toNat = other.bits.toNat := by
  rw [BitVec.toNat_inj]
  constructor
  · rintro rfl
    rfl
  · intro same
    cases addr
    cases other
    cases same
    rfl

/-- The filter for IPv6 addresses that are not mapped, as a condition on the
number: everything outside `2000::/3`, and three blocks of it. -/
theorem isForbiddenV6_iff {addr : Ipv6Addr}
    (unmapped : addr.bits.toNat / 2 ^ 32 ≠ 0xffff) :
    isForbiddenV6 addr = true ↔
      addr.bits.toNat / 2 ^ 125 ≠ 1 ∨
      addr.bits.toNat / 2 ^ 96 = 0x20010db8 ∨
      addr.bits.toNat / 2 ^ 108 = 0x3fff0 ∨
      addr.bits.toNat / 2 ^ 105 = 0x2001 * 128 := by
  have bound := addr.bits.isLt
  have notMapped : addr.toIpv4Mapped = none := if_neg unmapped
  simp only [isForbiddenV6, notMapped, Ipv6Addr.isLoopback,
    Ipv6Addr.isUnspecified, Ipv6Addr.isMulticast, Ipv6Addr.isUniqueLocal,
    Ipv6Addr.isUnicastLinkLocal, Bool.or_eq_true, decide_eq_true_eq,
    Bool.not_eq_true', ← Bool.not_eq_true, ipv6Prefix_iff, Ipv6Addr.eq_iff]
  simp only [Ipv6Addr.segment, Ipv6Addr.new, BitVec.toNat_ofNat]
  omega

/-- Every IPv6 address that is set aside is forbidden. -/
theorem isForbiddenV6_of_isSetAside {addr : Ipv6Addr}
    (setAside : addr.IsSetAside) : isForbiddenV6 addr = true := by
  obtain ⟨purpose, block, member, within⟩ := setAside
  have bound := addr.bits.isLt
  have unmapped : addr.bits.toNat / 2 ^ 32 ≠ 0xffff := by
    cases purpose <;>
      simp only [Ipv6Purpose.blocks, List.mem_cons, List.not_mem_nil,
        or_false] at member <;>
      rcases member with rfl | rfl <;>
      simp only [inBlock, Ipv6Addr.new, BitVec.toNat_ofNat] at within <;>
      omega
  rw [isForbiddenV6_iff unmapped]
  cases purpose <;>
    simp only [Ipv6Purpose.blocks, List.mem_cons, List.not_mem_nil,
      or_false] at member <;>
    rcases member with rfl | rfl <;>
    simp only [inBlock, Ipv6Addr.new, BitVec.toNat_ofNat] at within <;>
    omega

/-- A `6to4` address is never forbidden. -/
theorem isForbiddenV6_sixToFour {addr : Ipv6Addr}
    (within : inBlock 128 addr.bits.toNat
      Ipv4Embedding.sixToFour.block.1.bits.toNat
      Ipv4Embedding.sixToFour.block.2) :
    isForbiddenV6 addr = false := by
  simp only [inBlock, Ipv4Embedding.block, Ipv6Addr.new,
    BitVec.toNat_ofNat] at within
  have unmapped : addr.bits.toNat / 2 ^ 32 ≠ 0xffff := by omega
  rw [← Bool.not_eq_true, isForbiddenV6_iff unmapped]
  omega

/-- Addresses that embed an address that is set aside are forbidden, unless
they are `6to4` addresses. -/
theorem isForbiddenV6_of_embeds {addr : Ipv6Addr} {embedding : Ipv4Embedding}
    (embeds : Ipv4Embedding.Embeds embedding addr)
    (other : embedding ≠ .sixToFour) : isForbiddenV6 addr = true := by
  obtain ⟨within, setAside⟩ := embeds
  simp only [inBlock, Ipv4Embedding.block, Ipv6Addr.new] at within
  cases embedding with
  | mapped =>
      simp only [BitVec.toNat_ofNat] at within
      have isMapped : addr.toIpv4Mapped =
          some (Ipv4Embedding.mapped.embedded addr) :=
        if_pos (by omega)
      rw [isForbiddenV6, isMapped]
      exact isForbiddenV4_of_isSetAside setAside
  | compatible =>
      simp only [BitVec.toNat_ofNat] at within
      rw [isForbiddenV6_iff (by omega)]
      omega
  | nat64 =>
      simp only [BitVec.toNat_ofNat] at within
      rw [isForbiddenV6_iff (by omega)]
      omega
  | sixToFour => contradiction

/-- The filter forbids an internal address unless it is a `6to4` address that
embeds an address that is set aside. -/
theorem isForbiddenIp_covers_iff {addr : IpAddr} :
    (addr.IsInternal → isForbiddenIp addr = true) ↔
      ∀ inner, addr = .v6 inner → ¬ Ipv4Embedding.sixToFour.Embeds inner := by
  constructor
  · rintro covered inner rfl embeds
    have forbidden := covered (Or.inr ⟨_, embeds⟩)
    rw [isForbiddenIp, isForbiddenV6_sixToFour embeds.1] at forbidden
    contradiction
  · intro other internal
    cases addr with
    | v4 addr => exact isForbiddenV4_of_isSetAside internal
    | v6 addr =>
        rcases internal with setAside | ⟨embedding, embeds⟩
        · exact isForbiddenV6_of_isSetAside setAside
        · refine isForbiddenV6_of_embeds embeds ?_
          rintro rfl
          exact other addr rfl embeds

end Coverage

end Media

end ZaloBot
