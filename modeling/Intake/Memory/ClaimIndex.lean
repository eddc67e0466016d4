import Intake.Failure.Services
import Intake.Memory.Expiring

/-! The index of claims in memory. -/

namespace Intake

/-- The claim on every key, and how long claims live. -/
structure ClaimIndex where
  claims : ExpiringTable ClaimKey Claim
  lifetimes : ClaimLifetimes

namespace ClaimIndex

/-- The index without claims. -/
def empty (lifetimes : ClaimLifetimes) : ClaimIndex := ⟨ExpiringTable.empty, lifetimes⟩

/-- Looks up the claim on a key. -/
def get (index : ClaimIndex) (key : ClaimKey) (now : Instant) : Option Claim × ClaimIndex :=
  match index.claims.live key now with
  | (entry, claims) => (entry.map (·.value), { index with claims })

/-- The number of live claims. -/
def size (index : ClaimIndex) (now : Instant) : Nat := index.claims.liveCount now

/-- Claims a key with a pending claim, unless it is claimed. -/
def claim (index : ClaimIndex) (key : ClaimKey) (fingerprint : Fingerprint) (proposed : ServerId)
    (now : Instant) : ClaimOutcome × ClaimIndex :=
  match index.claims.live key now with
  | (some entry, claims) => (.existing entry.value, { index with claims })
  | (none, claims) =>
    -- The caller's own candidate becomes the identifier of the claim.
    (.created proposed, { index with
      claims := claims.insert key ⟨proposed, fingerprint, .pending⟩ now index.lifetimes.pending })

/-- Marks the claim on a key as committed, and refuses if it is committed to another message. -/
def commit (index : ClaimIndex) (key : ClaimKey) (serverId : ServerId) (fingerprint : Fingerprint)
    (now : Instant) : Except ClaimError Unit × ClaimIndex :=
  let committed (claims : ExpiringTable ClaimKey Claim) : ClaimIndex := { index with
    claims := claims.insert key ⟨serverId, fingerprint, .committed⟩ now index.lifetimes.committed }
  match index.claims.live key now with
  | (some ⟨claim, _⟩, claims) =>
    if claim.isCommitted then
      -- Committing again is fine for the same message, and does not extend the claim's life.
      if claim.serverId = serverId then (.ok (), { index with claims })
      else (.error (.committedMismatch key claim.serverId serverId), { index with claims })
    else (.ok (), committed claims)
  -- Without a live claim one is made, as the message is stored.
  | (none, claims) => (.ok (), committed claims)

/-- Gives a pending claim of the given fingerprint another identifier, its expiry unchanged. -/
def rename (index : ClaimIndex) (key : ClaimKey) (fingerprint : Fingerprint) (serverId : ServerId)
    (now : Instant) : Bool × ClaimIndex :=
  match index.claims.live key now with
  | (some ⟨claim, expiresAt⟩, claims) =>
    if claim.status ≠ .pending ∨ claim.fingerprint ≠ fingerprint then (false, { index with claims })
    else
      (true, { index with claims := claims.update key ⟨{ claim with serverId }, expiresAt⟩ })
  | (none, claims) => (false, { index with claims })

/-- Shortens the life of a pending claim. -/
def rollBack (index : ClaimIndex) (key : ClaimKey) (now : Instant) : ClaimIndex :=
  match index.claims.live key now with
  | (some ⟨claim, expiresAt⟩, claims) =>
    -- A stored message keeps its claim for as long as it would have lived.
    if claim.isCommitted then { index with claims }
    else
      -- A claim never lives longer for being rolled back.
      let expiresAt := expiresAt.earlier (now.plus index.lifetimes.rollback)
      { index with claims := claims.update key ⟨claim, expiresAt⟩ }
  | (none, claims) => { index with claims }

end ClaimIndex

end Intake
