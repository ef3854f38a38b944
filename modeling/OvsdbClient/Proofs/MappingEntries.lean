import OvsdbClient.Proofs.AddressTexts
import OvsdbClient.Proofs.MappingsReadBack

/-!
# Stored mapping entries

A mapping is stored as its port and its bracketed source with a colon between
them.  The cut at the first colon finds both again for the ports that are not
empty and have no colon, and for no others, although colons are part of IPv6
addresses.
-/

namespace OvsdbClient

namespace Address

variable {address stored : String}

theorem bracketed_eq_ok_iff :
    bracketed address = .ok stored ↔
      ∃ spelled, ofBare? (bareOf address.toList) = some spelled ∧
        stored = String.ofList spelled.stored := by
  unfold bracketed
  cases read : ofBare? (bareOf address.toList) with
  | none => simp
  | some spelled => simp [eq_comm]

theorem toList_unbracketed (accepted : bracketed address = .ok stored) :
    (unbracketed stored).toList = bareOf address.toList := by
  obtain ⟨spelled, read, rfl⟩ := bracketed_eq_ok_iff.mp accepted
  obtain ⟨_, same⟩ := ne_nil_of_ofBare? read
  rw [unbracketed, String.toList_ofList, String.toList_ofList, Spelled.stored,
    same]
  split
  · exact Text.unbracket_bracketed _
  · exact Text.unbracket_of_plain (isPlain_of_ofBare? read)

theorem encloses_unbracketed (accepted : bracketed address = .ok stored) :
    Encloses address.toList (unbracketed stored).toList ∧
      ∀ char ∈ (unbracketed stored).toList, Text.IsPlain char := by
  obtain ⟨spelled, read, _⟩ := bracketed_eq_ok_iff.mp accepted
  rw [toList_unbracketed accepted]
  exact ⟨encloses_bareOf _, isPlain_of_ofBare? read⟩

end Address

namespace PortMapping

variable {key value port source : String} {mapping : PortMapping}

/-- An entry with a source is decoded to what it was made of just if its port is
not empty and has no colon. -/
theorem ofEntry_entry_eq_iff (nonempty : source.toList ≠ []) :
    ofEntry key (entry port source) = .ok ⟨key, port, source⟩ ↔
      port ≠ "" ∧ ':' ∉ port.toList := by
  constructor
  · intro decoded
    obtain ⟨first, rest, spelled, _⟩ :=
      (exists_ofEntry_iff nonempty).mp ⟨_, decoded⟩
    refine ⟨?_, (eq_of_ofEntry_iff decoded).mp rfl⟩
    rintro rfl
    cases spelled
  · rintro ⟨named, unmarked⟩
    have readable : Readable port := by
      cases spelled : port.toList with
      | nil => exact absurd (String.toList_eq_nil_iff.mp spelled) named
      | cons first rest =>
          refine ⟨first, rest, spelled, ?_⟩
          rintro rfl
          exact unmarked (spelled ▸ List.mem_cons_self)
    obtain ⟨mapping, decoded⟩ := (exists_ofEntry_iff nonempty).mpr readable
    rwa [← (eq_of_ofEntry_iff decoded).mpr unmarked]

theorem entry_of_ofEntry (decoded : ofEntry key value = .ok mapping) :
    entry mapping.port mapping.source = value := by
  obtain ⟨before, after, split, _, _, _, rfl⟩ := ofEntry_eq_ok_iff.mp decoded
  apply String.toList_inj.mp
  rw [toList_entry, split, String.toList_ofList, String.toList_ofList]

/-- The entry of a port and an accepted source is decoded to just these if and
only if the port is not empty and has no colon, and the source address is then
the given source without the blanks and brackets around it.  Conversely, what an
entry is decoded to is encoded as that entry again. -/
theorem entry_reads_back_iff (key : String) :
    (∀ port source stored, Address.bracketed source = .ok stored →
      let mapping : PortMapping := ⟨key, port, stored⟩
      (ofEntry key (entry port stored) = .ok mapping ↔
        port ≠ "" ∧ ':' ∉ port.toList) ∧
      Address.Encloses source.toList mapping.sourceAddress.toList ∧
      ∀ char ∈ mapping.sourceAddress.toList, Text.IsPlain char) ∧
    ∀ value mapping, ofEntry key value = .ok mapping →
      entry mapping.port mapping.source = value ∧ mapping.backend = key := by
  constructor
  · intro port source stored accepted mapping
    exact ⟨ofEntry_entry_eq_iff (Address.ne_nil_of_bracketed accepted),
      Address.encloses_unbracketed accepted⟩
  · intro value mapping decoded
    exact ⟨entry_of_ofEntry decoded, backend_of_ofEntry decoded⟩

theorem bracketed_source_reads_back :
    Address.bracketed "\t[fd00::2/64] " = .ok "[fd00::2/64]" ∧
    ofEntry "10.0.0.5" "web:[fd00::2/64]" =
      .ok ⟨"10.0.0.5", "web", "[fd00::2/64]"⟩ ∧
    Address.Encloses "\t[fd00::2/64] ".toList "fd00::2/64".toList ∧
    entry "web" "[fd00::2/64]" = "web:[fd00::2/64]" := by
  have accepted : Address.bracketed "\t[fd00::2/64] " = .ok "[fd00::2/64]" := by
    decide +kernel
  obtain ⟨forth, back⟩ := entry_reads_back_iff "10.0.0.5"
  obtain ⟨decodes, encloses, _⟩ := forth "web" _ _ accepted
  have decoded := decodes.mpr (by decide)
  exact ⟨accepted, decoded, encloses, (back _ _ decoded).1⟩

end PortMapping

end OvsdbClient
