import OvsdbClient.Proofs.DecimalNumbers
import OvsdbClient.Proofs.NormalAddresses

/-!
# Spellings of an address

An IPv4 address has one spelling, and so one stored form.  An IPv6 address has
many, and each of them is stored as it is.
-/

namespace OvsdbClient

namespace IpAddress

open Text

variable {text rest : List Char} {number : Nat} {bits : BitVec 32}

/-- What octets are written with after the first: each in decimal, after a
dot. -/
def dotted (octets : List Nat) : List Char :=
  octets.flatMap fun octet => '.' :: Nat.toDigits 10 octet

theorem spelling_of_readOctet?
    (read : readOctet? text = some (number, rest)) :
    number ≤ 255 ∧ text = Nat.toDigits 10 number ++ rest := by
  unfold readOctet? at read
  dsimp only [Option.bind_eq_bind] at read
  obtain ⟨_, sized, read⟩ := Option.bind_eq_some_iff.mp read
  obtain ⟨_, unpadded, read⟩ := Option.bind_eq_some_iff.mp read
  obtain ⟨value, digits, read⟩ := Option.bind_eq_some_iff.mp read
  obtain ⟨_, bounded, read⟩ := Option.bind_eq_some_iff.mp read
  rw [Option.guard_eq_some'] at sized unpadded bounded
  cases read
  refine ⟨bounded, ?_⟩
  rw [← eq_toDigits_of_digits? digits sized.1 unpadded]
  exact List.takeWhile_append_dropWhile.symm

theorem spelling_of_readOctets? {count start : Nat}
    (read : readOctets? count start text = some (number, rest)) :
    ∃ octets : List Nat, octets.length = count ∧
      (∀ octet ∈ octets, octet ≤ 255) ∧
      number = octets.foldl (· * 256 + ·) start ∧
      text = dotted octets ++ rest := by
  induction count generalizing start text with
  | zero =>
      cases read
      exact ⟨[], rfl, nofun, rfl, rfl⟩
  | succ count induction =>
      unfold readOctets? at read
      split at read
      case h_1 => contradiction
      case h_2 body same =>
        obtain rfl := Nat.succ.inj same
        obtain ⟨⟨octet, middle⟩, first, later⟩ :=
          Option.bind_eq_some_iff.mp read
        obtain ⟨octets, length, bounded, total, rfl⟩ := induction later
        obtain ⟨low, rfl⟩ := spelling_of_readOctet? first
        refine ⟨octet :: octets, congrArg (· + 1) length,
          List.forall_mem_cons.mpr ⟨low, bounded⟩, total, ?_⟩
        simp [dotted]
      case h_3 => cases read

theorem spelling_of_readV4? (read : readV4? text = some (number, rest)) :
    ∃ a b c d : Nat, a ≤ 255 ∧ b ≤ 255 ∧ c ≤ 255 ∧ d ≤ 255 ∧
      number = ((a * 256 + b) * 256 + c) * 256 + d ∧
      text = Nat.toDigits 10 a ++ dotted [b, c, d] ++ rest := by
  obtain ⟨⟨a, middle⟩, first, later⟩ := Option.bind_eq_some_iff.mp read
  obtain ⟨low, rfl⟩ := spelling_of_readOctet? first
  obtain ⟨octets, length, bounded, total, rfl⟩ :=
    spelling_of_readOctets? later
  obtain ⟨b, c, d, rfl⟩ := List.length_eq_three.mp length
  exact ⟨a, b, c, d, low, bounded b (by simp), bounded c (by simp),
    bounded d (by simp), total, (List.append_assoc ..).symm⟩

theorem readV4?_of_ofChars? (denotes : ofChars? text = some (.v4 bits)) :
    ∃ number, readV4? text = some (number, []) ∧
      bits = BitVec.ofNat 32 number := by
  unfold ofChars? at denotes
  split at denotes
  case h_1 number rest read =>
    split at denotes
    case isTrue whole =>
      cases denotes
      rw [List.isEmpty_iff.mp whole] at read
      exact ⟨number, read, rfl⟩
    case isFalse => cases denotes
  case h_2 =>
    split at denotes
    case h_1 address rest read =>
      obtain ⟨⟨_, rfl⟩, _⟩ := reads_of_readV6? read
      split at denotes <;> cases denotes
    case h_2 => cases denotes

/-- An IPv4 address has one spelling only. -/
theorem spelling_unique {other : List Char}
    (first : ofChars? text = some (.v4 bits))
    (second : ofChars? other = some (.v4 bits)) : text = other := by
  obtain ⟨number, read, rfl⟩ := readV4?_of_ofChars? first
  obtain ⟨count, reread, same⟩ := readV4?_of_ofChars? second
  obtain ⟨a, b, c, d, _, _, _, _, rfl, rfl⟩ := spelling_of_readV4? read
  obtain ⟨p, q, r, s, _, _, _, _, rfl, rfl⟩ := spelling_of_readV4? reread
  have numbers := congrArg BitVec.toNat same
  simp only [BitVec.toNat_ofNat] at numbers
  obtain ⟨rfl, rfl, rfl, rfl⟩ : a = p ∧ b = q ∧ c = r ∧ d = s := by omega
  rfl

end IpAddress

namespace Address

variable {first second key other : String} {address : IpAddress}

/-- Addresses are stored alike just if they are spelled alike. -/
theorem stored_eq_iff (isFirst : bracketed first = .ok key)
    (isSecond : bracketed second = .ok other)
    (denotes : Denotes (bareOf first.toList) address none) :
    key = other ↔ bareOf first.toList = bareOf second.toList := by
  constructor
  · rintro rfl
    rw [← toList_unbracketed isFirst, toList_unbracketed isSecond]
  · intro alike
    have same := denotes.bracketed_eq alike.symm
    rw [isSecond, ← denotes.bracketed_eq rfl, isFirst] at same
    exact (Except.ok.inj same).symm

theorem bareOf_eq_of_v4 (isV4 : address.isV6 = false)
    (denotes : Denotes (bareOf first.toList) address none)
    (also : Denotes (bareOf second.toList) address none) :
    bareOf first.toList = bareOf second.toList := by
  cases address with
  | v6 => cases isV4
  | v4 bits =>
      exact IpAddress.spelling_unique (denotes_none_iff.mp denotes)
        (denotes_none_iff.mp also)

end Address

end OvsdbClient
