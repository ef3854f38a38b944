import OvsdbClient.Fault

/-!
# Objections

What validation has against settings.  `Objection.message` holds every wording.
-/

namespace OvsdbClient

/-- A reason not to accept settings. -/
inductive Objection where
  /-- A TLS file is not named. -/
  | emptyFile (field : String)
  /-- There are TLS remotes but no TLS files. -/
  | tlsMissing
  /-- The remotes cannot be read. -/
  | badRemotes (fault : Fault)
  | zeroTimeout
  | shortProbeInterval
  | zeroInitialInterval
  /-- The longest interval is shorter than the first. -/
  | intervalsShrink
  | multiplierBelowOne
  | randomizationOutOfRange
  /-- An objection to the part of the settings with a name. -/
  | within (field : String) (cause : Objection)
deriving DecidableEq, Inhabited

namespace Objection

def message : Objection → String
  | .emptyFile field => field ++ " should not be empty"
  | .tlsMissing => "ssl remote requires TLS files"
  | .badRemotes fault => fault.message
  | .zeroTimeout => "ovsdb_connection_timeout_secs must be greater than 0"
  | .shortProbeInterval => "ovsdb_probe_interval_ms must be 0 or at least 1000"
  | .zeroInitialInterval => "initial_interval_ms must be greater than 0"
  | .intervalsShrink =>
      "max_interval_ms must not be smaller than initial_interval_ms"
  | .multiplierBelowOne => "multiplier must be at least 1.0"
  | .randomizationOutOfRange => "randomization_factor must be in [0.0, 1.0)"
  | .within field cause => field ++ ": " ++ cause.message

end Objection

end OvsdbClient
