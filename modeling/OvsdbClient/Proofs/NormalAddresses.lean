import OvsdbClient.Proofs.MappingEntries

/-!
# The normal form of addresses

An address is accepted if it is one without the blanks and the pair of brackets
around it, and its stored form is all that is left of how it was given.  Storing
the stored form again changes nothing, and neither does taking off the brackets
in between.
-/

namespace OvsdbClient.Address

open Text

/-- A text is an address, which a slash may follow with the length of a network
that the family of the address allows. -/
inductive Denotes : List Char → IpAddress → Option (List Char) → Prop where
  | host {host : List Char} {address : IpAddress} :
      IpAddress.ofChars? host = some address →
      Denotes host address none
  | network {host length : List Char} {address : IpAddress} {number : Nat} :
      IpAddress.ofChars? host = some address →
      numeral? address.maxNetworkLength length = some number →
      Denotes (host ++ '/' :: length) address (some length)

variable {bare : List Char} {address other : IpAddress}
  {length? another? : Option (List Char)} {text key : String}

/-! ## Reading an address and a length -/

theorem denotes_none_iff :
    Denotes bare address none ↔ IpAddress.ofChars? bare = some address := by
  constructor
  · rintro (denotes | _)
    exact denotes
  · exact .host

theorem slash_notMem_of_ofChars? {host : List Char}
    (denotes : IpAddress.ofChars? host = some address) : '/' ∉ host := by
  intro member
  have spells := IpAddress.spells_of_ofChars? denotes '/' member
  cases address with
  | v4 => exact absurd spells (by simp [IpAddress.Spells, IpAddress.IsV4Char])
  | v6 =>
      have noDigit : IpAddress.isHexDigit '/' = false := by decide
      exact absurd spells
        (by simp [IpAddress.Spells, IpAddress.IsV6Char, noDigit])

theorem cut?_of_ofChars? {host : List Char}
    (denotes : IpAddress.ofChars? host = some address) :
    cut? '/' host = none :=
  cut?_eq_none_iff.mpr (slash_notMem_of_ofChars? denotes)

theorem cut?_append_of_ofChars? {host : List Char}
    (denotes : IpAddress.ofChars? host = some address) (length : List Char) :
    cut? '/' (host ++ '/' :: length) = some (host, length) :=
  cut?_eq_some_iff.mpr ⟨rfl, slash_notMem_of_ofChars? denotes⟩

theorem Denotes.ofBare?_eq (denotes : Denotes bare address length?) :
    ofBare? bare = some ⟨address, bare⟩ := by
  cases denotes with
  | host denotes =>
      simp only [ofBare?, cut?_of_ofChars? denotes, denotes, Option.map_some]
  | network denotes counts =>
      simp only [ofBare?, cut?_append_of_ofChars? denotes, denotes,
        Option.bind_eq_bind, Option.bind_some, counts]
      rfl

theorem Denotes.length?_eq (denotes : Denotes bare address length?) :
    length? = (cut? '/' bare).map Prod.snd := by
  cases denotes with
  | host denotes => rw [cut?_of_ofChars? denotes, Option.map_none]
  | network denotes counts =>
      rw [cut?_append_of_ofChars? denotes, Option.map_some]

/-- A text denotes one address, with one text of a length. -/
theorem Denotes.unique (first : Denotes bare address length?)
    (second : Denotes bare other another?) :
    other = address ∧ another? = length? := by
  have same := second.ofBare?_eq.symm.trans first.ofBare?_eq
  exact ⟨congrArg Spelled.address (Option.some.inj same),
    second.length?_eq.trans first.length?_eq.symm⟩

theorem ofBare?_eq_some_iff {spelled : Spelled} :
    ofBare? bare = some spelled ↔
      ∃ address length?, Denotes bare address length? ∧
        spelled = ⟨address, bare⟩ := by
  constructor
  · intro read
    unfold ofBare? at read
    split at read
    case h_1 =>
      obtain ⟨address, denotes, rfl⟩ := Option.map_eq_some_iff.mp read
      exact ⟨address, none, .host denotes, rfl⟩
    case h_2 host length cut =>
      obtain ⟨address, denotes, read⟩ := Option.bind_eq_some_iff.mp read
      obtain ⟨number, counts, same⟩ := Option.bind_eq_some_iff.mp read
      obtain ⟨rfl, _⟩ := cut?_eq_some_iff.mp cut
      cases same
      exact ⟨address, some length, .network denotes counts, rfl⟩
  · rintro ⟨address, length?, denotes, rfl⟩
    exact denotes.ofBare?_eq

/-! ## Characters -/

theorem Denotes.isPlain (denotes : Denotes bare address length?) :
    ∀ char ∈ bare, IsPlain char :=
  isPlain_of_ofBare? denotes.ofBare?_eq

theorem Denotes.colon_notMem (denotes : Denotes bare address length?)
    (isV4 : address.isV6 = false) : ':' ∉ bare := by
  have unmarked : ∀ {host : List Char},
      IpAddress.ofChars? host = some address → ':' ∉ host := by
    intro host denotes member
    have spells := IpAddress.spells_of_ofChars? denotes ':' member
    cases address with
    | v4 =>
        exact absurd spells (by simp [IpAddress.Spells, IpAddress.IsV4Char])
    | v6 => cases isV4
  cases denotes with
  | host denotes => exact unmarked denotes
  | network denotes counts =>
      intro member
      rcases List.mem_append.mp member with inHost | inLength
      · exact unmarked denotes inHost
      · rcases List.mem_cons.mp inLength with isSlash | inLength
        · exact absurd isSlash (by decide)
        · have written := digit_or_plus_of_numeral? counts ':' inLength
          exact absurd written (by decide)

/-! ## Blanks and brackets -/

theorem bareOf_of_plain (plain : ∀ char ∈ bare, IsPlain char) :
    bareOf bare = bare := by
  have trimmed : trim bare = bare :=
    trim_eq_self
      (fun char first => (plain char (List.mem_of_head? first)).1)
      fun char last => (plain char (List.mem_of_getLast? last)).1
  rw [bareOf, trimmed, unbracket_of_plain plain]

theorem bareOf_bracketed (bare : List Char) :
    bareOf ('[' :: bare ++ [']']) = bare := by
  have trimmed : trim ('[' :: bare ++ [']']) = '[' :: bare ++ [']'] := by
    refine trim_eq_self ?_ ?_
    · rintro char first
      cases first
      decide
    · intro char last
      rw [List.getLast?_concat] at last
      cases last
      decide
  rw [bareOf, trimmed, unbracket_bracketed]

/-- An address is stored as it is, in brackets if it is an IPv6 address. -/
theorem Denotes.bareOf_stored (denotes : Denotes bare address length?) :
    bareOf (Spelled.stored ⟨address, bare⟩) = bare := by
  unfold Spelled.stored
  split
  · exact bareOf_bracketed bare
  · exact bareOf_of_plain denotes.isPlain

/-! ## Stored addresses -/

theorem bracketed_eq_ok_iff_denotes :
    bracketed text = .ok key ↔
      ∃ address length?, Denotes (bareOf text.toList) address length? ∧
        key = String.ofList (Spelled.stored ⟨address, bareOf text.toList⟩) := by
  rw [bracketed_eq_ok_iff]
  constructor
  · rintro ⟨spelled, read, rfl⟩
    obtain ⟨address, length?, denotes, rfl⟩ := ofBare?_eq_some_iff.mp read
    exact ⟨address, length?, denotes, rfl⟩
  · rintro ⟨address, length?, denotes, rfl⟩
    exact ⟨_, denotes.ofBare?_eq, rfl⟩

/-- The stored form of an address is stored for every text that what is between
its blanks and brackets denotes the address. -/
theorem Denotes.bracketed_eq (denotes : Denotes bare address length?)
    (same : bareOf text.toList = bare) :
    bracketed text =
      .ok (String.ofList (Spelled.stored ⟨address, bare⟩)) := by
  subst same
  exact bracketed_eq_ok_iff_denotes.mpr ⟨address, length?, denotes, rfl⟩

theorem eq_invalidAddress_of_bracketed {fault : Fault}
    (refused : bracketed text = .error fault) :
    fault = .invalidAddress text := by
  unfold bracketed at refused
  split at refused
  · cases refused
  · cases refused
    rfl

/-- What is stored for a text whose part between blanks and brackets denotes an
address. -/
structure IsNormalForm (bare : List Char) (address : IpAddress)
    (length? : Option (List Char)) (key : String) : Prop where
  v6 : address.isV6 = true → key.toList = '[' :: bare ++ [']']
  v4 : address.isV6 = false → key.toList = bare ∧
    ∀ char ∈ key.toList, char ≠ '[' ∧ char ≠ ']' ∧ char ≠ ':'
  /-- It is stored for itself. -/
  stable : bracketed key = .ok key
  unbracketed : (unbracketed key).toList = bare
  rebracketed : bracketed (String.ofList bare) = .ok key
  /-- It is not stored for any other address or length. -/
  separates : ∀ other, bracketed other = .ok key →
    ∀ denoted another?, Denotes (bareOf other.toList) denoted another? ↔
      denoted = address ∧ another? = length?

theorem Denotes.isNormalForm (denotes : Denotes (bareOf text.toList) address
    length?) (accepted : bracketed text = .ok key) :
    IsNormalForm (bareOf text.toList) address length? key := by
  have stored := denotes.bracketed_eq rfl
  rw [accepted] at stored
  obtain rfl := Except.ok.inj stored
  have plain := denotes.isPlain
  refine ⟨?v6, ?v4, ?stable, toList_unbracketed accepted, ?rebracketed,
    ?separates⟩
  case v6 =>
    intro isV6
    rw [String.toList_ofList, Spelled.stored, if_pos isV6]
  case v4 =>
    intro isV4
    have same : Spelled.stored ⟨address, bareOf text.toList⟩ =
        bareOf text.toList := if_neg (by simp [isV4])
    rw [String.toList_ofList, same]
    refine ⟨rfl, fun char member => ?_⟩
    obtain ⟨_, opening, closing⟩ := plain char member
    refine ⟨opening, closing, ?_⟩
    rintro rfl
    exact denotes.colon_notMem isV4 member
  case stable =>
    refine denotes.bracketed_eq ?_
    rw [String.toList_ofList, denotes.bareOf_stored]
  case rebracketed =>
    refine denotes.bracketed_eq ?_
    rw [String.toList_ofList, bareOf_of_plain plain]
  case separates =>
    intro other also denoted another?
    have same : bareOf other.toList = bareOf text.toList := by
      rw [← toList_unbracketed also, toList_unbracketed accepted]
    rw [same]
    constructor
    · exact denotes.unique
    · rintro ⟨rfl, rfl⟩
      exact denotes

/-- A text is accepted just if the part between its blanks and brackets is an
address, with the length of a network that the family of the address allows or
without, and it is refused as it was given otherwise.  What is stored for it is
its normal form. -/
theorem address_has_normal_form (text : String) :
    let bare := bareOf text.toList
    Encloses text.toList bare ∧
      ((∃ key, bracketed text = .ok key) ↔
        ∃ address length?, Denotes bare address length?) ∧
      (∀ fault, bracketed text = .error fault →
        fault = .invalidAddress text) ∧
      ∀ key, bracketed text = .ok key → ∃ address length?,
        Denotes bare address length? ∧
          IsNormalForm bare address length? key := by
  intro bare
  refine ⟨encloses_bareOf text.toList, ?accepted,
    fun fault => eq_invalidAddress_of_bracketed, ?form⟩
  case accepted =>
    constructor
    · rintro ⟨key, accepted⟩
      obtain ⟨address, length?, denotes, _⟩ :=
        bracketed_eq_ok_iff_denotes.mp accepted
      exact ⟨address, length?, denotes⟩
    · rintro ⟨address, length?, denotes⟩
      exact ⟨_, denotes.bracketed_eq rfl⟩
  case form =>
    intro key accepted
    obtain ⟨address, length?, denotes, _⟩ :=
      bracketed_eq_ok_iff_denotes.mp accepted
    exact ⟨address, length?, denotes, denotes.isNormalForm accepted⟩

theorem bracketed_network_has_normal_form :
    bracketed "\u00a0[2001:DB8::/32]\n" = .ok "[2001:DB8::/32]" ∧
      ∃ address, address.isV6 = true ∧
        Denotes "2001:DB8::/32".toList address (some "32".toList) ∧
        IsNormalForm "2001:DB8::/32".toList address (some "32".toList)
          "[2001:DB8::/32]" ∧
        bracketed "2001:DB8::/129" =
          .error (.invalidAddress "2001:DB8::/129") := by
  have accepted : bracketed "\u00a0[2001:DB8::/32]\n" =
      .ok "[2001:DB8::/32]" := by decide +kernel
  have same : bareOf "\u00a0[2001:DB8::/32]\n".toList =
      "2001:DB8::/32".toList := by decide +kernel
  obtain ⟨_, _, _, forms⟩ :=
    address_has_normal_form "\u00a0[2001:DB8::/32]\n"
  obtain ⟨address, length?, denotes, form⟩ := forms _ accepted
  rw [same] at denotes form
  obtain rfl : length? = some "32".toList :=
    denotes.length?_eq.trans (by decide)
  have isV6 : address.isV6 = true := by
    by_contra isV4
    exact denotes.colon_notMem (by simpa using isV4) (by decide)
  refine ⟨accepted, address, isV6, denotes, form, by decide +kernel⟩

end OvsdbClient.Address
