import Mathlib.Data.List.Induction
import Mathlib.Data.List.TakeWhile
import OvsdbClient.Address.Bracketed

/-!
# The characters of addresses

An address that can be read consists of digits, dots and colons, so that it
holds neither blanks nor brackets.  The blanks and brackets around it can
therefore be told from the address itself, and taking the brackets off a stored
address gives what was put into them.
-/

namespace OvsdbClient

namespace Text

/-- Every character of a text is of a kind or among those that are left of
it. -/
def Reads (kind : Char → Prop) (text rest : List Char) : Prop :=
  ∀ char ∈ text, kind char ∨ char ∈ rest

variable {kind other : Char → Prop} {text middle rest : List Char}

theorem Reads.refl (kind : Char → Prop) (text : List Char) :
    Reads kind text text :=
  fun _ member => .inr member

theorem Reads.trans (first : Reads kind text middle)
    (second : Reads kind middle rest) : Reads kind text rest :=
  fun char member => (first char member).elim .inl (second char)

theorem Reads.mono (reads : Reads kind text rest)
    (wider : ∀ char, kind char → other char) : Reads other text rest :=
  fun char member => (reads char member).imp_left (wider char)

theorem Reads.cons {char : Char} (isKind : kind char)
    (reads : Reads kind text rest) : Reads kind (char :: text) rest := by
  intro other member
  rcases List.mem_cons.mp member with rfl | later
  · exact .inl isKind
  · exact reads other later

theorem reads_dropWhile (test : Char → Bool) (text : List Char) :
    Reads (test · = true) text (text.dropWhile test) := by
  intro char member
  rw [← List.takeWhile_append_dropWhile (p := test) (l := text),
    List.mem_append] at member
  exact member.imp_left List.mem_takeWhile_imp

theorem Reads.all (reads : Reads kind text []) : ∀ char ∈ text, kind char :=
  fun char member => (reads char member).resolve_right List.not_mem_nil

/-! ## Numerals -/

theorem isSome_digit?_of_digits? {base number : Nat}
    (read : digits? base text = some number) :
    ∀ char ∈ text, (digit? base char).isSome := by
  unfold digits? at read
  generalize some 0 = total at read
  -- The number is built from the front, and so its last digit comes last.
  induction text using List.reverseRecOn generalizing number with
  | nil => exact nofun
  | append_singleton text char induction =>
      rw [List.foldl_append, List.foldl_cons, List.foldl_nil] at read
      obtain ⟨before, earlier, rest⟩ := Option.bind_eq_some_iff.mp read
      obtain ⟨value, last, _⟩ := Option.bind_eq_some_iff.mp rest
      intro other member
      rcases List.mem_append.mp member with among | final
      · exact induction earlier other among
      · rw [List.mem_singleton.mp final, last]
        rfl

/-- A numeral is written with digits, of which a plus sign may come first. -/
theorem digit_or_plus_of_numeral? {limit number : Nat}
    (read : numeral? limit text = some number) :
    ∀ char ∈ text, (digit? 10 char).isSome ∨ char = '+' := by
  unfold numeral? at read
  split at read
  case h_1 rest =>
    dsimp only at read
    split at read
    · cases read
    · obtain ⟨digits, _⟩ := Option.filter_eq_some_iff.mp read
      intro char member
      rcases List.mem_cons.mp member with rfl | later
      · exact .inr rfl
      · exact .inl (isSome_digit?_of_digits? digits char later)
  case h_2 =>
    dsimp only at read
    split at read
    · cases read
    · obtain ⟨digits, _⟩ := Option.filter_eq_some_iff.mp read
      exact fun char member =>
        .inl (isSome_digit?_of_digits? digits char member)

/-- A character that is neither blank nor a bracket. -/
def IsPlain (char : Char) : Prop :=
  isBlank char = false ∧ char ≠ '[' ∧ char ≠ ']'

instance (char : Char) : Decidable (IsPlain char) :=
  inferInstanceAs (Decidable (_ ∧ _ ∧ _))

theorem isPlain_of_digit? {base : Nat} {char : Char}
    (digit : (digit? base char).isSome) : IsPlain char := by
  obtain ⟨value, read⟩ := Option.isSome_iff_exists.mp digit
  have ranges : ('0' ≤ char ∧ char ≤ '9') ∨ ('a' ≤ char ∧ char ≤ 'z') ∨
      ('A' ≤ char ∧ char ≤ 'Z') := by
    unfold digit? at read
    grind
  have codes : (48 ≤ char.toNat ∧ char.toNat ≤ 57) ∨
      (97 ≤ char.toNat ∧ char.toNat ≤ 122) ∨
      (65 ≤ char.toNat ∧ char.toNat ≤ 90) := ranges
  refine ⟨?blank, ?opening, ?closing⟩
  case blank =>
    simp only [isBlank, Bool.or_eq_false_iff, Bool.and_eq_false_iff,
      decide_eq_false_iff_not, beq_eq_false_iff_ne]
    omega
  all_goals
    rintro rfl
    revert codes
    decide

/-! ## Blanks and brackets -/

/-- Trimming takes blanks from both ends. -/
theorem exists_append_trim (text : List Char) :
    ∃ before after, text = before ++ trim text ++ after ∧
      ∀ char ∈ before ++ after, isBlank char := by
  let begun := text.dropWhile isBlank
  let ending := begun.reverse.takeWhile isBlank
  have ends : begun = trim text ++ ending.reverse := by
    have split := List.takeWhile_append_dropWhile (p := isBlank)
      (l := begun.reverse)
    rw [← List.reverse_reverse begun, ← split, List.reverse_append]
    rfl
  refine ⟨text.takeWhile isBlank, ending.reverse, ?_, ?_⟩
  · rw [List.append_assoc, ← ends, List.takeWhile_append_dropWhile]
  · intro char member
    rcases List.mem_append.mp member with front | back
    · exact List.mem_takeWhile_imp front
    · exact List.mem_takeWhile_imp (List.mem_reverse.mp back)

theorem dropWhile_isBlank_of_head?
    (opens : ∀ char, text.head? = some char → isBlank char = false) :
    text.dropWhile isBlank = text := by
  cases text with
  | nil => rfl
  | cons first rest =>
      exact List.dropWhile_cons_of_neg (by simp [opens first rfl])

theorem trim_eq_self
    (opens : ∀ char, text.head? = some char → isBlank char = false)
    (closes : ∀ char, text.getLast? = some char → isBlank char = false) :
    trim text = text := by
  have ends : text.reverse.dropWhile isBlank = text.reverse :=
    dropWhile_isBlank_of_head? fun char last =>
      closes char (List.head?_reverse.symm.trans last)
  rw [trim, dropWhile_isBlank_of_head? opens, ends, List.reverse_reverse]

theorem isBlank_of_getLast?_trim {char : Char}
    (last : (trim text).getLast? = some char) : isBlank char = false := by
  rw [trim, List.getLast?_reverse] at last
  have first := List.head?_dropWhile_not isBlank
    (text.dropWhile isBlank).reverse
  rwa [last] at first

/-- A text has the brackets that are taken off it or is unchanged. -/
theorem unbracket_cases (text : List Char) :
    text = unbracket text ∨ text = '[' :: unbracket text ++ [']'] := by
  unfold unbracket
  split
  case h_1 inner =>
    split
    case isTrue closed =>
      obtain ⟨middle, rfl⟩ := List.getLast?_eq_some_iff.mp closed
      exact .inr (by simp)
    case isFalse => exact .inl rfl
  case h_2 => exact .inl rfl

theorem unbracket_bracketed (inner : List Char) :
    unbracket ('[' :: inner ++ [']']) = inner := by
  simp [unbracket]

theorem unbracket_of_plain (plain : ∀ char ∈ text, IsPlain char) :
    unbracket text = text := by
  unfold unbracket
  split
  case h_1 => exact absurd rfl (plain '[' List.mem_cons_self).2.1
  case h_2 => rfl

end Text

namespace IpAddress

open Text

/-- The characters of an IPv4 address. -/
def IsV4Char (char : Char) : Prop :=
  char.isDigit ∨ char = '.'

/-- The characters of an IPv6 address. -/
def IsV6Char (char : Char) : Prop :=
  isHexDigit char ∨ char = '.' ∨ char = ':'

/-- The characters that an address of a family is written with. -/
def Spells : IpAddress → Char → Prop
  | .v4 _ => IsV4Char
  | .v6 _ => IsV6Char

variable {text rest : List Char} {number : Nat}

theorem reads_of_readOctet? (read : readOctet? text = some (number, rest)) :
    Reads (Char.isDigit ·) text rest := by
  unfold readOctet? at read
  obtain ⟨_, _, read⟩ := Option.bind_eq_some_iff.mp read
  obtain ⟨_, _, read⟩ := Option.bind_eq_some_iff.mp read
  obtain ⟨_, _, read⟩ := Option.bind_eq_some_iff.mp read
  obtain ⟨_, _, read⟩ := Option.bind_eq_some_iff.mp read
  cases read
  exact reads_dropWhile Char.isDigit text

theorem reads_of_readOctets? {count start : Nat}
    (read : readOctets? count start text = some (number, rest)) :
    Reads IsV4Char text rest := by
  induction count generalizing start text with
  | zero =>
      cases read
      exact .refl _ _
  | succ count induction =>
      unfold readOctets? at read
      split at read
      case h_1 => contradiction
      case h_2 body same =>
        obtain rfl := Nat.succ.inj same
        obtain ⟨⟨octet, middle⟩, first, later⟩ :=
          Option.bind_eq_some_iff.mp read
        dsimp only at later
        exact (((reads_of_readOctet? first).mono fun _ => .inl).trans
          (induction later)).cons (.inr rfl)
      case h_3 => cases read

theorem reads_of_readV4? (read : readV4? text = some (number, rest)) :
    Reads IsV4Char text rest := by
  obtain ⟨⟨octet, middle⟩, first, later⟩ := Option.bind_eq_some_iff.mp read
  exact ((reads_of_readOctet? first).mono fun _ => .inl).trans
    (reads_of_readOctets? later)

theorem reads_of_readGroup? (read : readGroup? text = some (number, rest)) :
    Reads (isHexDigit ·) text rest := by
  unfold readGroup? at read
  obtain ⟨_, _, read⟩ := Option.bind_eq_some_iff.mp read
  obtain ⟨_, _, read⟩ := Option.bind_eq_some_iff.mp read
  cases read
  exact reads_dropWhile isHexDigit text

theorem isHexDigit_of_isDigit {char : Char} (digit : char.isDigit) :
    isHexDigit char := by
  simp only [Char.isDigit, Bool.and_eq_true, decide_eq_true_eq] at digit
  have bounds : '0' ≤ char ∧ char ≤ '9' := digit
  have small : char.toNat ≤ 57 := bounds.2
  rw [isHexDigit, digit?, if_pos bounds, Option.filter_some, if_pos]
  · rfl
  · simp only [Char.reduceToNat, decide_eq_true_eq]
    omega

theorem isV6Char_of_isV4Char (char : Char) (isV4 : IsV4Char char) :
    IsV6Char char :=
  isV4.imp isHexDigit_of_isDigit .inl

theorem reads_readGroups (room : Nat) (first : Bool) (text : List Char) :
    Reads IsV6Char text (readGroups room first text).rest := by
  induction room generalizing first text with
  | zero => exact .refl _ _
  | succ room induction =>
      unfold readGroups
      split
      case h_1 => exact .refl _ _
      case h_2 body begins =>
        -- Only a group that is not the first one has a colon before it.
        have mark : Reads IsV6Char text body := by
          split at begins
          · cases begins
            exact .refl _ _
          · obtain ⟨mark, isFirst, begins⟩ := Option.bind_eq_some_iff.mp begins
            obtain ⟨tail, rfl⟩ := List.head?_eq_some_iff.mp isFirst
            split at begins
            case isTrue colon =>
              cases begins
              exact (Reads.refl _ _).cons (.inr (.inr colon))
            case isFalse => cases begins
        split
        case h_1 number rest read =>
          split at read
          case isTrue => cases read
          case isFalse =>
            exact mark.trans ((reads_of_readV4? read).mono isV6Char_of_isV4Char)
        case h_2 =>
          split
          case h_1 group rest read =>
            exact mark.trans (((reads_of_readGroup? read).mono
              fun _ => .inl).trans (induction false rest))
          case h_2 => exact .refl _ _

theorem reads_of_readV6? {address : IpAddress}
    (read : readV6? text = some (address, rest)) :
    (∃ bits, address = .v6 bits) ∧ Reads IsV6Char text rest := by
  have front := reads_readGroups 8 true text
  unfold readV6? at read
  dsimp only at read
  split at read
  · cases read
    exact ⟨⟨_, rfl⟩, front⟩
  · split at read
    · cases read
    · split at read
      case h_1 middle same =>
        cases read
        rw [same] at front
        have gap : Reads IsV6Char (':' :: ':' :: middle) middle :=
          ((Reads.refl _ middle).cons (.inr (.inr rfl))).cons (.inr (.inr rfl))
        exact ⟨⟨_, rfl⟩, (front.trans gap).trans (reads_readGroups _ _ _)⟩
      case h_2 => cases read

/-- An address is written with the characters of its family. -/
theorem spells_of_ofChars? {address : IpAddress}
    (read : ofChars? text = some address) :
    ∀ char ∈ text, address.Spells char := by
  unfold ofChars? at read
  split at read
  case h_1 number rest v4 =>
    split at read
    case isTrue whole =>
      cases read
      rw [List.isEmpty_iff.mp whole] at v4
      exact (reads_of_readV4? v4).all
    case isFalse => cases read
  case h_2 =>
    split at read
    case h_1 found rest v6 =>
      split at read
      case isTrue whole =>
        cases read
        rw [List.isEmpty_iff.mp whole] at v6
        obtain ⟨⟨_, rfl⟩, reads⟩ := reads_of_readV6? v6
        exact reads.all
      case isFalse => cases read
    case h_2 => cases read

theorem isPlain_of_spells {address : IpAddress} {char : Char}
    (spells : address.Spells char) : IsPlain char := by
  have digits : isHexDigit char → IsPlain char := isPlain_of_digit?
  cases address with
  | v4 =>
      rcases spells with digit | rfl
      · exact digits (isHexDigit_of_isDigit digit)
      · decide
  | v6 =>
      rcases spells with digit | rfl | rfl
      · exact digits digit
      · decide
      · decide

end IpAddress

namespace Address

open Text

variable {bare text : List Char} {spelled : Spelled}

/-- A text that blanks surround, in brackets or without. -/
def Encloses (text bare : List Char) : Prop :=
  ∃ before after, (∀ char ∈ before ++ after, isBlank char) ∧
    (text = before ++ bare ++ after ∨
      text = before ++ ('[' :: bare ++ [']']) ++ after)

theorem encloses_bareOf (text : List Char) : Encloses text (bareOf text) := by
  obtain ⟨before, after, split, blank⟩ := exists_append_trim text
  refine ⟨before, after, blank, ?_⟩
  rcases unbracket_cases (trim text) with same | brackets
  · exact .inl (split.trans (by rw [bareOf, ← same]))
  · exact .inr (split.trans (by rw [bareOf, ← brackets]))

/-- An address with its network length has no blanks and no brackets. -/
theorem isPlain_of_ofBare? (read : ofBare? bare = some spelled) :
    ∀ char ∈ bare, IsPlain char := by
  unfold ofBare? at read
  split at read
  case h_1 =>
    obtain ⟨address, denotes, _⟩ := Option.map_eq_some_iff.mp read
    intro char member
    exact IpAddress.isPlain_of_spells
      (IpAddress.spells_of_ofChars? denotes char member)
  case h_2 host length cut =>
    obtain ⟨address, denotes, read⟩ := Option.bind_eq_some_iff.mp read
    obtain ⟨_, counts, _⟩ := Option.bind_eq_some_iff.mp read
    obtain ⟨rfl, _⟩ := cut?_eq_some_iff.mp cut
    intro char member
    rcases List.mem_append.mp member with inHost | inLength
    · exact IpAddress.isPlain_of_spells
        (IpAddress.spells_of_ofChars? denotes char inHost)
    · rcases List.mem_cons.mp inLength with rfl | inLength
      · decide
      · rcases digit_or_plus_of_numeral? counts char inLength with digit | rfl
        · exact isPlain_of_digit? digit
        · decide

end Address

end OvsdbClient
