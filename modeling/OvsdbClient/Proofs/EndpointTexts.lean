import Mathlib.Data.List.Basic
import OvsdbClient.Endpoint
import OvsdbClient.Proofs.AddressTexts
import OvsdbClient.Proofs.DecimalNumbers
import OvsdbClient.Proofs.Rows

/-!
# The texts of endpoints

An endpoint is written so that it can be told from every other one: the last
colon stands before the port, and only a host with colons has brackets that are
not its own.  Reading what was written gives the endpoint again, unless its host
begins with an opening bracket that the reader takes for one of those.
-/

namespace OvsdbClient

namespace Text

/-- Texts are the same if they are so before and after their last marks. -/
theorem append_mark_inj {mark : Char} {before after front back : List Char}
    (isLast : mark ∉ after) (isLast' : mark ∉ back)
    (same : before ++ mark :: after = front ++ mark :: back) :
    before = front ∧ after = back := by
  -- From the back, the last mark is the first one.
  have cut : ∀ left right, mark ∉ right →
      cut? mark (left ++ mark :: right).reverse =
        some (right.reverse, left.reverse) := by
    intro left right isLast
    exact cut?_eq_some_iff.mpr ⟨by simp, by simpa using isLast⟩
  have parts := cut before after isLast
  rw [same, cut front back isLast'] at parts
  simpa [and_comm, eq_comm] using parts

theorem isBlank_of_mem_toDigits {char : Char} {number : Nat}
    (member : char ∈ Nat.toDigits 10 number) : isBlank char = false := by
  have isDigit : char.isDigit = true :=
    Nat.isDigit_of_mem_toDigits (by decide) (by decide) member
  exact (isPlain_of_digit? (IpAddress.isHexDigit_of_isDigit isDigit)).1

end Text

namespace Endpoint

open Text

variable {endpoint : Endpoint} {chars host rest : List Char} {port : Nat}

/-! ## Writing -/

/-- A host as it is written, a host with colons in brackets. -/
def label (host : List Char) : List Char :=
  if ':' ∈ host then '[' :: host ++ [']'] else host

def location : Endpoint → List Char
  | .tcp host port | .ssl host port =>
      label host.toList ++ ':' :: Nat.toDigits 10 port
  | .unix path => path.toList

theorem toList_hostPortText (host : String) (port : Nat) :
    (hostPortText host port).toList =
      label host.toList ++ ':' :: Nat.toDigits 10 port := by
  simp only [hostPortText, label, List.contains_iff_mem]
  split <;> simp

theorem toList_text (endpoint : Endpoint) :
    endpoint.text.toList =
      endpoint.scheme.toList ++ ':' :: endpoint.location := by
  cases endpoint <;>
    simp [text, scheme, location, toList_hostPortText]

theorem cut?_text (endpoint : Endpoint) :
    cut? ':' endpoint.text.toList =
      some (endpoint.scheme.toList, endpoint.location) := by
  refine cut?_eq_some_iff.mpr ⟨endpoint.toList_text, ?_⟩
  cases endpoint <;> simp [scheme]

theorem label_injective : Function.Injective label := by
  have colons : ∀ host, ':' ∈ label host ↔ ':' ∈ host := by
    intro host
    unfold label
    split <;> simp [*]
  intro host other same
  have both : ':' ∈ host ↔ ':' ∈ other := by rw [← colons, same, colons]
  unfold label at same
  by_cases colon : ':' ∈ host
  · rw [if_pos colon, if_pos (both.mp colon)] at same
    simpa using same
  · rwa [if_neg colon, if_neg (colon ∘ both.mpr)] at same

theorem labels_inj {host other : String} {port number : Nat}
    (same : label host.toList ++ ':' :: Nat.toDigits 10 port =
      label other.toList ++ ':' :: Nat.toDigits 10 number) :
    host = other ∧ port = number := by
  obtain ⟨hosts, ports⟩ := append_mark_inj (notMem_toDigits rfl port)
    (notMem_toDigits rfl number) same
  exact ⟨String.toList_inj.mp (label_injective hosts),
    toDigits_injective ports⟩

theorem text_injective : Function.Injective Endpoint.text := by
  intro endpoint other same
  have parts := endpoint.cut?_text
  rw [same, other.cut?_text, Option.some.injEq, Prod.mk.injEq] at parts
  obtain ⟨schemes, locations⟩ := parts
  cases endpoint <;> cases other
  case tcp.tcp | ssl.ssl =>
    obtain ⟨rfl, rfl⟩ := labels_inj locations
    rfl
  case unix.unix => rw [String.toList_inj.mp locations]
  all_goals exact absurd schemes (by simp [scheme])

/-! ## Reading a host -/

/-- A host that can be read: either nothing closes the brackets that it is given
in before it ends, or it has none, holds no colon and does not begin with a
bracket of its own. -/
def IsHost (host : List Char) : Prop :=
  host ≠ [] ∧ (']' ∉ host ∨ ':' ∉ host ∧ host.head? ≠ some '[')

/-- A host that is written without brackets although it begins with one. -/
def IsOpen (host : List Char) : Prop :=
  host.head? = some '[' ∧ ':' ∉ host

theorem splitHost?_of_head?_ne (opens : chars.head? ≠ some '[') :
    splitHost? chars =
      match cut? ':' chars with
      | some (host, port) => some (host, some port)
      | none => some (chars, none) := by
  unfold splitHost?
  split
  case h_1 => exact absurd rfl opens
  case h_2 => rfl

theorem isHost_of_splitHost? {port? : Option (List Char)}
    (split : splitHost? chars = some (host, port?)) (nonempty : host ≠ []) :
    IsHost host := by
  refine ⟨nonempty, ?_⟩
  by_cases opens : chars.head? = some '['
  · obtain ⟨inner, rfl⟩ := List.head?_eq_some_iff.mp opens
    rw [splitHost?] at split
    split at split
    case h_1 cut | h_2 cut =>
      cases split
      exact .inl (cut?_eq_some_iff.mp cut).2
    case h_3 => cases split
  · rw [splitHost?_of_head?_ne opens] at split
    split at split
    case h_1 cut =>
      cases split
      obtain ⟨rfl, unmarked⟩ := cut?_eq_some_iff.mp cut
      rw [List.head?_append_of_ne_nil _ nonempty] at opens
      exact .inr ⟨unmarked, opens⟩
    case h_2 cut =>
      cases split
      exact .inr ⟨cut?_eq_none_iff.mp cut, opens⟩

/-- A host that is not open is read where it is written. -/
theorem splitHost?_label (isHost : IsHost host) (closed : ¬IsOpen host)
    (port : List Char) :
    splitHost? (label host ++ ':' :: port) = some (host, some port) := by
  obtain ⟨nonempty, kinds⟩ := isHost
  by_cases colon : ':' ∈ host
  case pos =>
    have unclosed : ']' ∉ host :=
      kinds.elim id fun bare => absurd colon bare.1
    have found : cut? ']' (host ++ [']'] ++ ':' :: port) =
        some (host, ':' :: port) :=
      cut?_eq_some_iff.mpr ⟨by simp, unclosed⟩
    rw [label, if_pos colon, List.cons_append, List.cons_append, splitHost?,
      found]
    rfl
  case neg =>
    have opens : (host ++ ':' :: port).head? ≠ some '[' := by
      rw [List.head?_append_of_ne_nil _ nonempty]
      exact fun opens => closed ⟨opens, colon⟩
    have found : cut? ':' (host ++ ':' :: port) = some (host, port) :=
      cut?_eq_some_iff.mpr ⟨rfl, colon⟩
    rw [label, if_neg colon, splitHost?_of_head?_ne opens, found]

/-- The bracket that an open host begins with is never closed. -/
theorem splitHost?_label_of_isOpen (isHost : IsHost host)
    (isOpen : IsOpen host) {port : List Char} (unclosed : ']' ∉ port) :
    splitHost? (label host ++ ':' :: port) = none := by
  obtain ⟨opens, colon⟩ := isOpen
  have unclosed : ']' ∉ host ++ ':' :: port := by
    have inHost : ']' ∉ host :=
      isHost.2.elim id fun bare => absurd opens bare.2
    simp [inHost, unclosed]
  obtain ⟨inner, rfl⟩ := List.head?_eq_some_iff.mp opens
  have missed : cut? ']' (inner ++ ':' :: port) = none :=
    cut?_eq_none_iff.mpr (List.not_mem_of_not_mem_cons unclosed)
  rw [label, if_neg colon, List.cons_append, splitHost?, missed]

/-! ## Reading a host and a port -/

theorem isHost_of_readHostPort? {name : String}
    (read : readHostPort? chars = some (name, port)) :
    IsHost name.toList ∧ port ≤ maxPort := by
  obtain ⟨⟨host, port?⟩, split, read⟩ := Option.bind_eq_some_iff.mp read
  obtain ⟨_, nonempty, read⟩ := Option.bind_eq_some_iff.mp read
  have isHost : IsHost host := by
    refine isHost_of_splitHost? split fun empty => ?_
    cases (if_neg (not_not.mpr empty)).symm.trans nonempty
  cases port? with
  | none =>
      cases read
      exact ⟨by rwa [String.toList_ofList], by decide⟩
  | some digits =>
      obtain ⟨number, counts, same⟩ := Option.bind_eq_some_iff.mp read
      cases same
      exact ⟨by rwa [String.toList_ofList], le_of_numeral? counts⟩

theorem readHostPort?_label {name : String} (isHost : IsHost name.toList)
    (closed : ¬IsOpen name.toList) (low : port ≤ maxPort) :
    readHostPort? (label name.toList ++ ':' :: Nat.toDigits 10 port) =
      some (name, port) := by
  refine Option.bind_eq_some_iff.mpr
    ⟨_, splitHost?_label isHost closed _, ?_⟩
  refine Option.bind_eq_some_iff.mpr ⟨(), if_pos isHost.1, ?_⟩
  refine Option.bind_eq_some_iff.mpr ⟨port, numeral?_toDigits low, ?_⟩
  rw [String.ofList_toList]
  rfl

theorem readHostPort?_label_of_isOpen {name : String}
    (isHost : IsHost name.toList) (isOpen : IsOpen name.toList) (port : Nat) :
    readHostPort? (label name.toList ++ ':' :: Nat.toDigits 10 port) =
      none := by
  have unclosed : ']' ∉ Nat.toDigits 10 port :=
    notMem_toDigits (by decide) port
  rw [readHostPort?, splitHost?_label_of_isOpen isHost isOpen unclosed]
  rfl

/-! ## Reading an endpoint -/

/-- What is written behind the scheme of an endpoint that is read. -/
def IsReadFrom : Endpoint → List Char → Prop
  | .tcp host port, rest | .ssl host port, rest =>
      readHostPort? rest = some (host, port)
  | .unix path, rest => path.toList = rest ∧ rest ≠ []

theorem isReadFrom_of_ofChars (read : ofChars chars = .ok endpoint) :
    ∃ rest, cut? ':' chars = some (endpoint.scheme.toList, rest) ∧
      endpoint.IsReadFrom rest := by
  unfold ofChars at read
  split at read
  case h_1 => cases read
  case h_2 scheme rest cut =>
    refine ⟨rest, ?_⟩
    rw [cut]
    split at read
    case isTrue isTcp =>
      obtain ⟨⟨host, port⟩, found, rfl⟩ :=
        Option.map_eq_some_iff.mp (orFault_eq_ok_iff.mp read)
      exact ⟨by rw [isTcp]; rfl, found⟩
    case isFalse =>
      split at read
      case isTrue isSsl =>
        obtain ⟨⟨host, port⟩, found, rfl⟩ :=
          Option.map_eq_some_iff.mp (orFault_eq_ok_iff.mp read)
        exact ⟨by rw [isSsl]; rfl, found⟩
      case isFalse =>
        dsimp only at read
        split at read
        case isTrue isUnix =>
          obtain ⟨rfl, nonempty⟩ := isUnix
          cases read
          exact ⟨rfl, String.toList_ofList, nonempty⟩
        case isFalse => cases read

theorem ofChars_of_isReadFrom
    (cut : cut? ':' chars = some (endpoint.scheme.toList, rest))
    (reads : endpoint.IsReadFrom rest) : ofChars chars = .ok endpoint := by
  simp only [ofChars, cut]
  cases endpoint with
  | tcp host port | ssl host port =>
      have found : readHostPort? rest = some (host, port) := reads
      simp [scheme, found, orFault]
  | unix path =>
      obtain ⟨rfl, nonempty⟩ := reads
      simpa [scheme] using nonempty

def IsRemote : Endpoint → Prop
  | .tcp host port | .ssl host port => IsHost host.toList ∧ port ≤ maxPort
  | .unix path => path.toList ≠ [] ∧
      ∀ char, path.toList.getLast? = some char → isBlank char = false

/-- An endpoint whose host is taken for one in brackets. -/
def HasOpenHost : Endpoint → Prop
  | .tcp host _ | .ssl host _ => IsOpen host.toList
  | .unix _ => False

def invalid (text : String) : Fault :=
  .configuration ("invalid OVSDB remote '" ++ text ++ "'")

theorem isRemote_of_ofText {raw : String}
    (read : ofText raw = .ok endpoint) : endpoint.IsRemote := by
  obtain ⟨rest, cut, reads⟩ := isReadFrom_of_ofChars read
  cases endpoint with
  | tcp host port | ssl host port => exact isHost_of_readHostPort? reads
  | unix path =>
      obtain ⟨rfl, nonempty⟩ := reads
      obtain ⟨split, _⟩ := cut?_eq_some_iff.mp cut
      have ending : (trim raw.toList).getLast? = path.toList.getLast? := by
        rw [split, ← List.concat_append,
          List.getLast?_append_of_ne_nil _ nonempty]
      exact ⟨nonempty, fun char last =>
        isBlank_of_getLast?_trim (ending.trans last)⟩

theorem IsRemote.ends (isRemote : endpoint.IsRemote) :
    endpoint.location ≠ [] ∧
      ∀ char, endpoint.location.getLast? = some char →
        isBlank char = false := by
  cases endpoint with
  | tcp host port | ssl host port =>
      refine ⟨by simp [location], fun char last => ?_⟩
      rw [location, List.append_cons,
        List.getLast?_append_of_ne_nil _ Nat.toDigits_ne_nil] at last
      exact isBlank_of_mem_toDigits (List.mem_of_getLast? last)
  | unix path => exact isRemote

theorem trim_text (isRemote : endpoint.IsRemote) :
    trim endpoint.text.toList = endpoint.text.toList := by
  obtain ⟨nonempty, ends⟩ := isRemote.ends
  rw [toList_text]
  refine trim_eq_self ?opens ?closes
  case opens => cases endpoint <;> simp [scheme] <;> decide
  case closes =>
    rwa [List.append_cons, List.getLast?_append_of_ne_nil _ nonempty]

theorem ofText_text (isRemote : endpoint.IsRemote)
    (closed : ¬endpoint.HasOpenHost) :
    ofText endpoint.text = .ok endpoint := by
  rw [ofText, trim_text isRemote]
  refine ofChars_of_isReadFrom endpoint.cut?_text ?_
  cases endpoint with
  | tcp host port | ssl host port =>
      exact readHostPort?_label isRemote.1 closed isRemote.2
  | unix path => exact ⟨rfl, isRemote.1⟩

theorem ofText_text_of_hasOpenHost (isRemote : endpoint.IsRemote)
    (isOpen : endpoint.HasOpenHost) :
    ofText endpoint.text = .error (invalid endpoint.text) := by
  rw [ofText, trim_text isRemote]
  simp only [ofChars, cut?_text, String.ofList_toList]
  cases endpoint with
  | tcp host port | ssl host port =>
      simp [location,
        readHostPort?_label_of_isOpen isRemote.1 isOpen port, orFault, invalid,
        scheme]
  | unix path => cases isOpen

/-- An endpoint that was read is read again as it is written, unless its host is
taken for one in brackets, which is refused. -/
theorem text_reads_back_iff {raw : String} (read : ofText raw = .ok endpoint) :
    (ofText endpoint.text = .ok endpoint ↔ ¬endpoint.HasOpenHost) ∧
      (endpoint.HasOpenHost →
        ofText endpoint.text = .error (.configuration
          ("invalid OVSDB remote '" ++ endpoint.text ++ "'"))) := by
  have isRemote := isRemote_of_ofText read
  refine ⟨⟨fun again isOpen => ?_, ofText_text isRemote⟩,
    ofText_text_of_hasOpenHost isRemote⟩
  cases again.symm.trans (ofText_text_of_hasOpenHost isRemote isOpen)

theorem bracketed_host_reads_back :
    ofText "\tssl:[2001:db8::[10]:+06642 " =
        .ok (.ssl "2001:db8::[10" 6642) ∧
      text (.ssl "2001:db8::[10" 6642) = "ssl:[2001:db8::[10]:6642" ∧
      ofText "ssl:[2001:db8::[10]:6642" = .ok (.ssl "2001:db8::[10" 6642) := by
  have read : ofText "\tssl:[2001:db8::[10]:+06642 " =
      .ok (.ssl "2001:db8::[10" 6642) := by decide +kernel
  have again := (text_reads_back_iff read).1.mpr fun isOpen =>
    absurd isOpen.1 (by decide)
  exact ⟨read, by decide +kernel, again⟩

theorem open_host_is_refused :
    ofText "tcp:[[a]" = .ok (.tcp "[a" 6640) ∧
      text (.tcp "[a" 6640) = "tcp:[a:6640" ∧
      ofText "tcp:[a:6640" =
        .error (.configuration "invalid OVSDB remote 'tcp:[a:6640'") := by
  decide +kernel

end Endpoint

end OvsdbClient
