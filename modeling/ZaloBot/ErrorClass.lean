import Mathlib

/-!
# Identifiers, clock values and error classes

The scalar types every table and every operation shares, and the stable
error classes with their redaction-safe identifiers.
-/

namespace ZaloBot

/-- A UUID, represented by its canonical hyphenated text. -/
structure Uuid where
  text : String
deriving DecidableEq, Repr

/-- A `TIMESTAMPTZ` value in microseconds since the epoch. -/
abbrev Timestamp := Int

/-- `seconds * INTERVAL '1 second'`. -/
def intervalSeconds (seconds : Int) : Int :=
  seconds * 1000000

/-- `hours * INTERVAL '1 hour'`. -/
def intervalHours (hours : Int) : Int :=
  intervalSeconds (hours * 3600)

/-- `days * INTERVAL '1 day'` in a session whose time zone is UTC. -/
def intervalDays (days : Int) : Int :=
  intervalHours (days * 24)

/-- Stable redaction-safe error class identifiers. -/
inductive ErrorClass where
  | validation
  | notFound
  | conflict
  | forbidden
  | consentRequired
  | quotaExceeded
  | unsupported
  | duplicate
  | auth
  | rateLimited
  | timeout
  | providerError
  | providerAmbiguous
  | transient
  | killSwitch
  | internal
  | config
  | dependency
  | migration
  | permission
  | cancelled
  | preflightFailed
  | healthFailed
deriving DecidableEq, Repr

namespace ErrorClass

/-- `ErrorClass::as_str`. -/
def asStr : ErrorClass → String
  | validation => "validation"
  | notFound => "not_found"
  | conflict => "conflict"
  | forbidden => "forbidden"
  | consentRequired => "consent_required"
  | quotaExceeded => "quota_exceeded"
  | unsupported => "unsupported"
  | duplicate => "duplicate"
  | auth => "auth"
  | rateLimited => "rate_limited"
  | timeout => "timeout"
  | providerError => "provider_error"
  | providerAmbiguous => "provider_ambiguous"
  | transient => "transient"
  | killSwitch => "kill_switch"
  | internal => "internal"
  | config => "config_error"
  | dependency => "dependency_error"
  | migration => "migration_error"
  | permission => "permission_error"
  | cancelled => "cancelled"
  | preflightFailed => "preflight_failed"
  | healthFailed => "health_failed"

end ErrorClass

/-- The failures of the stores: a class and a message. -/
structure StoreError where
  errorClass : ErrorClass
  message : String
deriving DecidableEq, Repr

namespace StoreError

def validation (message : String) : StoreError :=
  ⟨.validation, message⟩

def notFound (message : String) : StoreError :=
  ⟨.notFound, message⟩

def conflict (message : String) : StoreError :=
  ⟨.conflict, message⟩

def dependency (message : String) : StoreError :=
  ⟨.dependency, message⟩

def quotaExceeded (message : String) : StoreError :=
  ⟨.quotaExceeded, message⟩

def killSwitch (message : String) : StoreError :=
  ⟨.killSwitch, message⟩

end StoreError

end ZaloBot
