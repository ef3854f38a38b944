import OvsdbClient.Proofs.Bootstrapping
import OvsdbClient.Proofs.CallPreservation
import OvsdbClient.Proofs.RowWaits

/-!
# Settings that are valid

Remotes and TLS files are checked where settings are validated and again where a
connection is made.  Both checks agree, so that valid settings make connections
which fail only on account of servers, whatever becomes of the network in the
meantime, and what else is wrong with other settings is in their times.
-/

namespace OvsdbClient

/-- A fault lies in the settings. -/
def Fault.IsConfiguration (fault : Fault) : Prop :=
  ∃ reason, fault = .configuration reason

theorem mapError_eq_ok_iff {ε ε' α : Type} {change : ε → ε'}
    {result : Except ε α} {value : α} :
    result.mapError change = .ok value ↔ result = .ok value := by
  cases result <;> simp [Except.mapError]

/-! ## The two checks of remotes -/

theorem Endpoint.ne_nil_of_listOfText {raw : String} {remotes : List Endpoint}
    (listed : listOfText raw = .ok remotes) : remotes ≠ [] := by
  obtain ⟨endpoints, _, rest⟩ := bind_eq_ok_iff.mp listed
  dsimp only at rest
  split at rest
  case isTrue => cases rest
  case isFalse some =>
    cases rest
    rintro rfl
    exact some rfl

theorem ConnectionSettings.checkTls_eq_ok_iff {settings : ConnectionSettings} :
    settings.checkTls = .ok () ↔
      (settings.remotes.any Endpoint.isSsl = true →
        ∃ files, settings.tls = some files ∧ files.validate = .ok ()) := by
  unfold checkTls
  by_cases secured : settings.remotes.any Endpoint.isSsl = true
  · rw [if_pos secured]
    cases settings.tls with
    | none => simp [secured]
    | some files => exact mapError_eq_ok_iff.trans (by simp [secured])
  · rw [if_neg secured]
    simp [secured]

namespace OvnSettings

variable {settings : OvnSettings} {raw schema : String} {tables : List String}
  {tls : Option TlsFiles} {lock : Option String} {objection : Objection}
  {made : ConnectionSettings}

theorem validateRemotes_eq_ok_iff_of_listed {remotes : List Endpoint}
    (listed : Endpoint.listOfText raw = .ok remotes) :
    validateRemotes raw tls = .ok () ↔
      (remotes.any Endpoint.isSsl = true →
        ∃ files, tls = some files ∧ files.validate = .ok ()) := by
  have checked : validateRemotes raw tls =
      if remotes.any Endpoint.isSsl then
        tls.elim (.error .tlsMissing) TlsFiles.validate
      else .ok () := by
    unfold validateRemotes
    rw [listed]
    cases tls <;> rfl
  rw [checked]
  by_cases secured : remotes.any Endpoint.isSsl = true
  · rw [if_pos secured]
    cases tls <;> simp [secured]
  · rw [if_neg secured]
    simp [secured]

theorem validateRemotes_of_connection
    (makes : settings.connection raw schema tables tls lock = .ok made)
    (checked : made.checkTls = .ok ()) : validateRemotes raw tls = .ok () := by
  obtain ⟨remotes, listed, same⟩ := bind_eq_ok_iff.mp makes
  cases same
  exact (validateRemotes_eq_ok_iff_of_listed listed).mpr
    (ConnectionSettings.checkTls_eq_ok_iff.mp checked)

/-- Remotes that pass validation make a connection that does not lack files. -/
theorem exists_connection_of_validateRemotes (settings : OvnSettings)
    (schema : String) (tables : List String) (lock : Option String)
    (valid : validateRemotes raw tls = .ok ()) :
    ∃ made, settings.connection raw schema tables tls lock = .ok made ∧
      made.remotes ≠ [] ∧ made.checkTls = .ok () := by
  obtain ⟨remotes, listed, _⟩ := bind_eq_ok_iff.mp valid
  have listed := mapError_eq_ok_iff.mp listed
  refine ⟨_, by rw [connection, listed]; rfl,
    Endpoint.ne_nil_of_listOfText listed, ?_⟩
  exact ConnectionSettings.checkTls_eq_ok_iff.mpr
    ((validateRemotes_eq_ok_iff_of_listed listed).mp valid)

/-! ## What else is validated -/

/-- An objection to the times in settings. -/
inductive BadTimes (settings : OvnSettings) : Objection → Prop where
  | timeout : settings.timeoutSecs = 0 → BadTimes settings .zeroTimeout
  | probe : 0 < settings.probeMillis → settings.probeMillis < 1000 →
      BadTimes settings .shortProbeInterval
  | bootstrapRetry {cause : Objection} :
      settings.bootstrapRetry.validate = .error cause →
      BadTimes settings (.within "bootstrap_retry" cause)
  | rowRetry {cause : Objection} :
      settings.rowRetry.validate = .error cause →
      BadTimes settings (.within "row_retry" cause)

theorem part_eq_error_iff {field : String} {verdict : Except Objection Unit} :
    part field verdict = .error objection ↔
      ∃ cause, verdict = .error cause ∧ objection = .within field cause := by
  cases verdict with
  | error cause => simp [part, Except.mapError, eq_comm]
  | ok => simp [part, Except.mapError]

theorem remotes_of_validate (valid : settings.validate = .ok ()) :
    validateRemotes settings.northRemotes settings.northTls = .ok () ∧
      validateRemotes settings.southRemotes settings.southTls = .ok () := by
  obtain ⟨_, north, rest⟩ := bind_eq_ok_iff.mp valid
  obtain ⟨_, south, _⟩ := bind_eq_ok_iff.mp rest
  exact ⟨part_eq_ok_iff.mp north, part_eq_ok_iff.mp south⟩

/-- Where there is nothing wrong with the remotes, there is with the times. -/
theorem badTimes_of_validate
    (north : validateRemotes settings.northRemotes settings.northTls = .ok ())
    (south : validateRemotes settings.southRemotes settings.southTls = .ok ())
    (refused : settings.validate = .error objection) :
    settings.BadTimes objection := by
  rw [validate, north, south] at refused
  change (if settings.timeoutSecs = 0 then _ else _) = _ at refused
  split at refused
  case isTrue zero =>
    cases refused
    exact .timeout zero
  change (if _ then _ else _) = _ at refused
  split at refused
  case isTrue short =>
    cases refused
    exact .probe (Nat.pos_of_ne_zero short.1) short.2
  change part "bootstrap_retry" settings.bootstrapRetry.validate >>= _ = _
    at refused
  cases bootstrap : settings.bootstrapRetry.validate with
  | error cause =>
      rw [bootstrap] at refused
      cases refused
      exact .bootstrapRetry bootstrap
  | ok =>
      rw [bootstrap] at refused
      obtain ⟨cause, row, rfl⟩ := part_eq_error_iff.mp refused
      exact .rowRetry row

end OvnSettings

/-! ## How connecting fails -/

namespace Network

variable {network later : Network} {settings : ConnectionSettings}
  {schema : String} {endpoint : Endpoint} {remotes : List Endpoint}
  {last : Option Fault} {fault : Fault}

/-- Asking remotes for a schema can end with a fault, if the network may be
another one whenever a remote is asked. -/
inductive CanMiss (schema : String) :
    Option Fault → List Endpoint → Fault → Prop where
  | none_left (last : Option Fault) :
      CanMiss schema last [] (last.getD
        (.configuration ("no remotes configured for " ++ schema)))
  | pass {last : Option Fault} {network : Network} {endpoint : Endpoint}
      {remotes : List Endpoint} {missed fault : Fault} :
      (network.fetchSchema endpoint schema).1 = .error missed →
      missed.isConnectivity = true →
      CanMiss schema (some missed) remotes fault →
      CanMiss schema last (endpoint :: remotes) fault
  | refuse {last : Option Fault} {network : Network} {endpoint : Endpoint}
      {remotes : List Endpoint} {fault : Fault} :
      (network.fetchSchema endpoint schema).1 = .error fault →
      CanMiss schema last (endpoint :: remotes) fault

/-- Connecting can end with a fault, if the network may be another one at every
step. -/
inductive CanFail (settings : ConnectionSettings) : Fault → Prop where
  | refused {fault : Fault} :
      settings.checkTls = .error fault → CanFail settings fault
  | missed {fault : Fault} :
      CanMiss settings.schema none settings.remotes fault →
      CanFail settings fault
  | unstarted {network : Network} {number : Nat} {fault : Fault} :
      (network.start number).1 = .error fault → CanFail settings fault

theorem canMiss_of_askRemotes
    (failed : (network.askRemotes schema last remotes).1 = .error fault) :
    CanMiss schema last remotes fault := by
  induction remotes generalizing network last with
  | nil =>
      cases failed
      exact .none_left last
  | cons endpoint remotes induction =>
      rw [askRemotes_cons] at failed
      cases answer : (network.fetchSchema endpoint schema).1 with
      | ok selection =>
          rw [answer] at failed
          cases failed
      | error missed =>
          rw [answer] at failed
          dsimp only at failed
          split at failed
          case isTrue connectivity =>
            exact .pass answer connectivity (induction failed)
          case isFalse =>
            cases failed
            exact .refuse answer

theorem canFail_of_connect? {fuel : Nat} {draws : Draws}
    (failed : network.connect? settings fuel draws =
      some (.error fault, later)) :
    CanFail settings fault := by
  unfold connect? at failed
  split at failed
  case h_1 => cases failed
  case h_3 => exact .unstarted (congrArg Prod.fst (Option.some.inj failed))
  case h_2 found network bootstrapped =>
    cases failed
    unfold bootstrap? at bootstrapped
    split at bootstrapped
    case h_1 refused =>
      cases bootstrapped
      exact .refused refused
    case h_2 =>
      dsimp only at bootstrapped
      split at bootstrapped
      case h_1 => cases bootstrapped
      case h_3 => cases bootstrapped
      case h_2 state ran =>
        cases bootstrapped
        obtain ⟨_, _, round, _, _, attempt⟩ :=
          Retriable.run?_eq_some_iff.mp ran
        exact .missed (canMiss_of_askRemotes (congrArg Prod.fst attempt))

theorem not_isConfiguration_of_reach
    (failed : network.reach endpoint schema = .error fault) :
    ¬fault.IsConfiguration := by
  rintro ⟨reason, rfl⟩
  unfold reach orFault at failed
  cases located : network.serverAt? endpoint <;>
    rw [located] at failed <;> cases failed

theorem not_isConfiguration_of_fetchSchema
    (failed : (network.fetchSchema endpoint schema).1 = .error fault) :
    ¬fault.IsConfiguration := by
  unfold fetchSchema at failed
  cases reached : network.reach endpoint schema with
  | error missed =>
      rw [reached] at failed
      cases failed
      exact not_isConfiguration_of_reach reached
  | ok number =>
      rw [reached] at failed
      rintro ⟨reason, rfl⟩
      dsimp only [withServer] at failed
      split at failed
      case h_2 => cases failed
      case h_1 server here =>
        dsimp only [Server.fetchSchema] at failed
        split at failed
        · cases failed
        · split at failed <;> cases failed

theorem not_isConfiguration_of_openSession {selection : Selection}
    {options : SessionOptions}
    (failed : (network.openSession endpoint selection options).1 =
      .error fault) : ¬fault.IsConfiguration := by
  unfold openSession at failed
  cases reached : network.reach endpoint selection.schema.name with
  | error missed =>
      rw [reached] at failed
      cases failed
      exact not_isConfiguration_of_reach reached
  | ok number =>
      rw [reached] at failed
      rintro ⟨reason, rfl⟩
      dsimp only [withServer] at failed
      split at failed <;> cases failed

theorem not_isConfiguration_of_start {number : Nat}
    (failed : (network.start number).1 = .error fault) :
    ¬fault.IsConfiguration := by
  rcases network.start_cases number with ⟨_, same⟩ |
    ⟨connector, _, ⟨_, _, same⟩ | ⟨_, ⟨other, unopened, same⟩ |
      ⟨_, _, _, same, _⟩⟩⟩
  · rw [same] at failed
    cases failed
    rintro ⟨_, ⟨⟩⟩
  · rw [same] at failed
    cases failed
  · rw [same] at failed
    cases failed
    exact not_isConfiguration_of_openSession unopened
  · rw [same] at failed
    cases failed

/-- Only a list without remotes is to blame for that none is left. -/
theorem CanMiss.not_isConfiguration (misses : CanMiss schema last remotes fault)
    (before : ∀ missed, last = some missed → ¬missed.IsConfiguration)
    (given : last = none → remotes ≠ []) : ¬fault.IsConfiguration := by
  induction misses with
  | none_left last =>
      cases last with
      | none => exact absurd rfl (given rfl)
      | some missed => exact before missed rfl
  | pass failed _ _ induction =>
      refine induction (fun missed same => ?_) nofun
      cases same
      exact not_isConfiguration_of_fetchSchema failed
  | refuse failed => exact not_isConfiguration_of_fetchSchema failed

end Network

/-! ## Settings that can be used -/

/-- Settings name a remote and the TLS files that they need, and connecting with
them never fails because of them: not on any network as it evolves by itself,
and not on one that anybody changes between the steps. -/
structure ConnectionSettings.Usable (settings : ConnectionSettings) : Prop where
  remotes : settings.remotes ≠ []
  tls : settings.checkTls = .ok ()
  connects : ∀ (network : Network) fuel draws fault later,
    network.connect? settings fuel draws = some (.error fault, later) →
      ¬fault.IsConfiguration
  evolves : ∀ fault, Network.CanFail settings fault → ¬fault.IsConfiguration

theorem ConnectionSettings.usable_of_checkTls {settings : ConnectionSettings}
    (remotes : settings.remotes ≠ []) (tls : settings.checkTls = .ok ()) :
    settings.Usable := by
  have never : ∀ fault, Network.CanFail settings fault →
      ¬fault.IsConfiguration := by
    intro fault fails
    cases fails with
    | refused refused => cases tls.symm.trans refused
    | missed misses => exact misses.not_isConfiguration nofun fun _ => remotes
    | unstarted failed => exact Network.not_isConfiguration_of_start failed
  exact ⟨remotes, tls, fun network fuel draws fault later failed =>
    never fault (Network.canFail_of_connect? failed), never⟩

namespace OvnSettings

/-- Valid settings make usable ones for both connections, with any lock.  If
both connections can be made and lack no TLS files, then whatever validation
has against the settings is about their times. -/
theorem valid_settings_are_usable (settings : OvnSettings) :
    (settings.validate = .ok () → ∀ lock, ∃ north south,
      settings.northbound lock = .ok north ∧
        settings.southbound lock = .ok south ∧ north.Usable ∧ south.Usable) ∧
    ∀ lock other north south, settings.northbound lock = .ok north →
      settings.southbound other = .ok south → north.checkTls = .ok () →
        south.checkTls = .ok () →
          ∀ objection, settings.validate = .error objection →
            settings.BadTimes objection := by
  constructor
  · intro valid lock
    obtain ⟨north, south⟩ := remotes_of_validate valid
    obtain ⟨north, madeNorth, someNorth, safeNorth⟩ :=
      exists_connection_of_validateRemotes settings northboundSchema
        northboundTables lock north
    obtain ⟨south, madeSouth, someSouth, safeSouth⟩ :=
      exists_connection_of_validateRemotes settings southboundSchema
        southboundTables lock south
    exact ⟨north, south, madeNorth, madeSouth,
      ConnectionSettings.usable_of_checkTls someNorth safeNorth,
      ConnectionSettings.usable_of_checkTls someSouth safeSouth⟩
  · intro lock other north south madeNorth madeSouth safeNorth safeSouth
      objection refused
    exact badTimes_of_validate
      (validateRemotes_of_connection madeNorth safeNorth)
      (validateRemotes_of_connection madeSouth safeSouth) refused

/-- The standard settings, with one more remote in the north that is reached
over TLS. -/
def secured : OvnSettings :=
  { standard with
    northRemotes := " tcp:127.0.0.1:6641, ,ssl:[::1]:6641 "
    northTls := some ⟨"key.pem", "cert.pem", "ca.pem"⟩ }

theorem secured_settings_are_usable :
    secured.validate = .ok () ∧ (∃ north south,
      secured.northbound (some "leader") = .ok north ∧
        secured.southbound (some "leader") = .ok south ∧
          north.Usable ∧ south.Usable) ∧
    ∃ objection, { secured with timeoutSecs := 0 }.validate = .error objection ∧
      { secured with timeoutSecs := 0 }.BadTimes objection := by
  have valid : secured.validate = .ok () := by decide +kernel
  refine ⟨valid, (valid_settings_are_usable secured).1 valid _, ?_⟩
  let hurried : OvnSettings := { secured with timeoutSecs := 0 }
  obtain ⟨validNorth, validSouth⟩ := remotes_of_validate valid
  obtain ⟨north, madeNorth, _, safeNorth⟩ :=
    exists_connection_of_validateRemotes hurried northboundSchema
      northboundTables none validNorth
  obtain ⟨south, madeSouth, _, safeSouth⟩ :=
    exists_connection_of_validateRemotes hurried southboundSchema
      southboundTables none validSouth
  have refused : hurried.validate = .error .zeroTimeout := by decide +kernel
  exact ⟨_, refused, (valid_settings_are_usable hurried).2 _ _ north south
    madeNorth madeSouth safeNorth safeSouth _ refused⟩

end OvnSettings

end OvsdbClient
