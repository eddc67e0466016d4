import Intake.Memory.Table
import Intake.Time.Instant

/-! Maps whose entries vanish when their time is up. -/

namespace Intake

/-- A value and the instant from which on it is gone. -/
structure Expiring (ν : Type) where
  value : ν
  expiresAt : Instant

/-- Whether the time of an entry is not up yet. -/
def Expiring.isLive {ν : Type} (entry : Expiring ν) (now : Instant) : Bool := now < entry.expiresAt

/-- A map of expiring values. Expired ones are removed when their key is looked up, and all of them
now and then. -/
structure ExpiringTable (κ ν : Type) where
  entries : Table κ (Expiring ν)
  lastSweep : Option Instant

namespace ExpiringTable

variable {κ ν : Type} [DecidableEq κ]

/-- The least time between two sweeps, in nanoseconds. -/
def sweepInterval : Int := 30000000000

/-- The map without entries, never swept. -/
def empty : ExpiringTable κ ν := ⟨Table.empty, none⟩

/-- Looks a key up, and removes its entry if its time is up. -/
def live (t : ExpiringTable κ ν) (key : κ) (now : Instant) :
    Option (Expiring ν) × ExpiringTable κ ν :=
  match t.entries.find? key with
  | some entry =>
    if entry.isLive now then (some entry, t)
    -- An entry whose time is up makes room for the next one.
    else (none, { t with entries := t.entries.erase key })
  | none => (none, t)

/-- Replaces the entry of a key, its expiry included. -/
def update (t : ExpiringTable κ ν) (key : κ) (entry : Expiring ν) : ExpiringTable κ ν :=
  { t with entries := t.entries.insert key entry }

/-- Whether the last sweep is long enough ago. -/
def sweepIsDue (t : ExpiringTable κ ν) (now : Instant) : Bool :=
  match t.lastSweep with
  | some last => sweepInterval ≤ now.since last
  -- A map that was never swept is due.
  | none => true

/-- Removes every entry whose time is up, if a sweep is due. -/
def sweep (t : ExpiringTable κ ν) (now : Instant) : ExpiringTable κ ν :=
  if t.sweepIsDue now then ⟨t.entries.filter (·.isLive now), some now⟩ else t

/-- Sets the value of a key for so long, after a sweep if one is due. -/
def insert (t : ExpiringTable κ ν) (key : κ) (value : ν) (now : Instant) (lifetime : Duration) :
    ExpiringTable κ ν :=
  (t.sweep now).update key ⟨value, now.plus lifetime⟩

/-- Removes the entry of a key, expired or not. -/
def remove (t : ExpiringTable κ ν) (key : κ) : ExpiringTable κ ν :=
  { t with entries := t.entries.erase key }

/-- The number of entries whose time is not up. -/
def liveCount (t : ExpiringTable κ ν) (now : Instant) : Nat :=
  (t.entries.filter (·.isLive now)).size

end ExpiringTable

end Intake
