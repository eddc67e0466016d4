import Intake.Proofs.Memory.ClaimIndex
import Intake.Proofs.Samples
import Intake.Proofs.Time.Instant

/-! The life of a claim: absent, then pending, then committed, whatever calls are made on the index in
whatever order. Each key has a machine of its own, which the calls on other keys do not touch. -/

namespace Intake

/-- A call on the index of claims. -/
inductive ClaimCall where
  | claim (key : ClaimKey) (fingerprint : Fingerprint) (proposed : ServerId)
  | commit (key : ClaimKey) (serverId : ServerId) (fingerprint : Fingerprint)
  | rename (key : ClaimKey) (fingerprint : Fingerprint) (serverId : ServerId)
  | rollBack (key : ClaimKey)
  | get (key : ClaimKey)

/-- What a call on the index is answered with. -/
inductive ClaimReply where
  | claimed (outcome : ClaimOutcome)
  | committed (outcome : Except ClaimError Unit)
  | renamed (done : Bool)
  | rolledBack
  | found (claim : Option Claim)
deriving DecidableEq

namespace ClaimCall

/-- The key that a call is on. -/
def key : ClaimCall → ClaimKey
  | .claim key _ _ | .commit key _ _ | .rename key _ _ | .rollBack key | .get key => key

/-- The machine of a single key: what a call at a time is answered with where a claim is live or none
is, and the claim that it leaves. -/
def act (lifetimes : ClaimLifetimes) (now : Instant) :
    ClaimCall → Option (Expiring Claim) → ClaimReply × Option (Expiring Claim)
  -- A claim is made where there is none.
  | .claim _ fingerprint proposed, none =>
    (.claimed (.created proposed),
      some ⟨⟨proposed, fingerprint, .pending⟩, now.plus lifetimes.pending⟩)
  | .claim _ _ _, some entry => (.claimed (.existing entry.value), some entry)
  -- A committed claim is final, and any other one gives way to it.
  | .commit key serverId _, some ⟨⟨committed, fingerprint, .committed⟩, expiresAt⟩ =>
    (.committed (if committed = serverId then .ok ()
      else .error (.committedMismatch key committed serverId)),
      some ⟨⟨committed, fingerprint, .committed⟩, expiresAt⟩)
  | .commit _ serverId fingerprint, _ =>
    (.committed (.ok ()),
      some ⟨⟨serverId, fingerprint, .committed⟩, now.plus lifetimes.committed⟩)
  -- A pending claim of the fingerprint gets the new identifier.
  | .rename _ fingerprint serverId, some ⟨⟨old, own, .pending⟩, expiresAt⟩ =>
    if own = fingerprint then (.renamed true, some ⟨⟨serverId, own, .pending⟩, expiresAt⟩)
    else (.renamed false, some ⟨⟨old, own, .pending⟩, expiresAt⟩)
  | .rename _ _ _, entry => (.renamed false, entry)
  -- A pending claim is shortened.
  | .rollBack _, some ⟨⟨serverId, fingerprint, .pending⟩, expiresAt⟩ =>
    (.rolledBack, some ⟨⟨serverId, fingerprint, .pending⟩,
      expiresAt.earlier (now.plus lifetimes.rollback)⟩)
  | .rollBack _, entry => (.rolledBack, entry)
  | .get _, entry => (.found (entry.map (·.value)), entry)

end ClaimCall

namespace ClaimIndex

variable {index : ClaimIndex} {key other : ClaimKey} {now : Instant}

/-- Answers a call, and gives the index after it. -/
def answer (index : ClaimIndex) (now : Instant) : ClaimCall → ClaimReply × ClaimIndex
  | .claim key fingerprint proposed =>
    match index.claim key fingerprint proposed now with
    | (outcome, index) => (.claimed outcome, index)
  | .commit key serverId fingerprint =>
    match index.commit key serverId fingerprint now with
    | (outcome, index) => (.committed outcome, index)
  | .rename key fingerprint serverId =>
    match index.rename key fingerprint serverId now with
    | (done, index) => (.renamed done, index)
  | .rollBack key => (.rolledBack, index.rollBack key now)
  | .get key =>
    match index.get key now with
    | (claim, index) => (.found claim, index)

/-- The claim on a key and when it expires, as long as its time is not up. -/
def entry (index : ClaimIndex) (key : ClaimKey) (now : Instant) : Option (Expiring Claim) :=
  index.claims.liveEntry key now

/-- A call is answered as the machine of its key answers it. -/
theorem answer_reply (index : ClaimIndex) (now : Instant) (call : ClaimCall) :
    (index.answer now call).1 = (call.act index.lifetimes now (index.entry call.key now)).1 := by
  -- The look-up of the key gives its live entry, and that is all that a call decides by.
  obtain ⟨after, looked, _⟩ := index.claims.live_keeps call.key now
  unfold entry
  cases call with
  | claim key fingerprint proposed =>
    simp only [ClaimCall.key] at looked ⊢
    simp only [answer, claim, looked]
    cases index.claims.liveEntry key now <;> rfl
  | commit key serverId fingerprint =>
    simp only [ClaimCall.key] at looked ⊢
    simp only [answer, commit, looked]
    rcases index.claims.liveEntry key now with _ | ⟨⟨committed, own, _ | _⟩, expiresAt⟩
    · rfl
    · rfl
    -- A committed claim may be committed again, but only to the message that it is for.
    · by_cases same : committed = serverId
      · simp [ClaimCall.act, Claim.isCommitted, same]
      · simp [ClaimCall.act, Claim.isCommitted, same]
  | rename key fingerprint serverId =>
    simp only [ClaimCall.key] at looked ⊢
    simp only [answer, rename, looked]
    rcases index.claims.liveEntry key now with _ | ⟨⟨old, own, _ | _⟩, expiresAt⟩
    · rfl
    -- Only the content that was claimed may be renamed.
    · by_cases same : own = fingerprint
      · simp [ClaimCall.act, same]
      · simp [ClaimCall.act, same]
    · simp [ClaimCall.act]
  | rollBack key =>
    simp only [ClaimCall.key]
    rcases index.claims.liveEntry key now with _ | ⟨⟨serverId, fingerprint, _ | _⟩, expiresAt⟩ <;> rfl
  | get key =>
    simp only [ClaimCall.key] at looked ⊢
    simp only [answer, get, looked]
    rfl

/-- A call leaves what the machine of its key leaves, as long as that lives. -/
theorem entry_answer (index : ClaimIndex) (now : Instant) (call : ClaimCall) :
    (index.answer now call).2.entry call.key now =
      (call.act index.lifetimes now (index.entry call.key now)).2.filter (·.isLive now) := by
  obtain ⟨after, looked, kept⟩ := index.claims.live_keeps call.key now
  have unchanged := kept call.key
  -- What is left as it was has been live, and so it still is.
  rw [← ExpiringTable.liveEntry_filter index.claims] at unchanged
  unfold entry
  cases call with
  | claim key fingerprint proposed =>
    simp only [ClaimCall.key] at looked unchanged ⊢
    simp only [answer, claim, looked]
    cases state : index.claims.liveEntry key now with
    | none => exact ExpiringTable.liveEntry_of_found now (ExpiringTable.find?_insert_self _ _ _ _ _)
    | some entry => rw [unchanged, state]; rfl
  | commit key serverId fingerprint =>
    simp only [ClaimCall.key] at looked unchanged ⊢
    simp only [answer, commit, looked]
    -- A commit enters a new claim, unless one is committed already.
    rcases state : index.claims.liveEntry key now with _ | ⟨⟨committed, own, _ | _⟩, expiresAt⟩
    · exact ExpiringTable.liveEntry_of_found now (ExpiringTable.find?_insert_self _ _ _ _ _)
    · exact ExpiringTable.liveEntry_of_found now (ExpiringTable.find?_insert_self _ _ _ _ _)
    · rw [state] at unchanged
      by_cases same : committed = serverId
      · simpa [ClaimCall.act, Claim.isCommitted, same] using unchanged
      · simpa [ClaimCall.act, Claim.isCommitted, same] using unchanged
  | rename key fingerprint serverId =>
    simp only [ClaimCall.key] at looked unchanged ⊢
    simp only [answer, rename, looked]
    -- A rename replaces a claim that is there, and does not extend its life.
    rcases state : index.claims.liveEntry key now with _ | ⟨⟨old, own, _ | _⟩, expiresAt⟩
    · rw [unchanged, state]; rfl
    · rw [state] at unchanged
      by_cases same : own = fingerprint
      · simp only [ClaimCall.act, same, ne_eq, not_true_eq_false, or_self, ↓reduceIte]
        exact ExpiringTable.liveEntry_of_found now (ExpiringTable.find?_update_self _ _ _)
      · simpa [ClaimCall.act, same] using unchanged
    · rw [state] at unchanged
      simpa [ClaimCall.act] using unchanged
  | rollBack key =>
    simp only [ClaimCall.key] at looked unchanged ⊢
    simp only [answer, rollBack, looked]
    rcases state : index.claims.liveEntry key now with _ | ⟨⟨serverId, fingerprint, _ | _⟩, expiresAt⟩
    · rw [unchanged, state]; rfl
    · exact ExpiringTable.liveEntry_of_found now (ExpiringTable.find?_update_self _ _ _)
    · rw [state] at unchanged
      simpa [ClaimCall.act, Claim.isCommitted] using unchanged
  | get key =>
    simp only [ClaimCall.key] at looked unchanged ⊢
    simp only [answer, get, looked]
    exact unchanged

/-- A call leaves the claims on all other keys alone. -/
theorem entry_answer_of_ne (index : ClaimIndex) (now : Instant) (call : ClaimCall) {other : ClaimKey}
    (differ : other ≠ call.key) : (index.answer now call).2.entry other now = index.entry other now := by
  obtain ⟨after, looked, kept⟩ := index.claims.live_keeps call.key now
  have unchanged := kept other
  -- A claim is entered under its own key only, whatever was looked up before.
  have entered : ∀ claim lifetime,
      (after.insert call.key claim now lifetime).liveEntry other now = after.liveEntry other now :=
    fun claim lifetime => after.liveEntry_insert_of_ne claim now lifetime differ
  -- A claim that is replaced keeps its place, so that not even a sweep comes before it.
  have replaced : ∀ entry, (after.update call.key entry).liveEntry other now =
      after.liveEntry other now :=
    fun entry => ExpiringTable.liveEntry_of_kept now (after.find?_update_of_ne entry differ)
  unfold entry
  rw [← unchanged]
  cases call with
  | claim key fingerprint proposed =>
    simp only [ClaimCall.key] at looked entered
    simp only [answer, claim, looked]
    cases index.claims.liveEntry key now with
    | none => exact entered _ _
    | some found => rfl
  | commit key serverId fingerprint =>
    simp only [ClaimCall.key] at looked entered
    simp only [answer, commit, looked]
    cases index.claims.liveEntry key now with
    | none => exact entered _ _
    | some found =>
      dsimp only
      split
      · split <;> rfl
      · exact entered _ _
  | rename key fingerprint serverId =>
    simp only [ClaimCall.key] at looked replaced
    simp only [answer, rename, looked]
    cases index.claims.liveEntry key now with
    | none => rfl
    | some found =>
      dsimp only
      split
      · rfl
      · exact replaced _
  | rollBack key =>
    simp only [ClaimCall.key] at looked replaced
    simp only [answer, rollBack, looked]
    cases index.claims.liveEntry key now with
    | none => rfl
    | some found =>
      dsimp only
      split
      · rfl
      · exact replaced _
  | get key =>
    simp only [ClaimCall.key] at looked
    simp only [answer, get, looked]

/-- A call leaves the lifetimes of claims alone. -/
theorem lifetimes_answer (index : ClaimIndex) (now : Instant) (call : ClaimCall) :
    (index.answer now call).2.lifetimes = index.lifetimes := by
  -- Every call changes the table of claims at most.
  cases call with
  | claim key fingerprint proposed => exact lifetimes_claim fingerprint proposed
  | commit key serverId fingerprint => exact lifetimes_commit serverId fingerprint
  | rename key fingerprint serverId =>
    simp only [answer, rename]
    split
    · split <;> rfl
    · rfl
  | rollBack key =>
    simp only [answer, rollBack]
    split
    · split <;> rfl
    · rfl
  | get key => rfl

/-- From now on a key has the given claim, until that expires. -/
def Holds (index : ClaimIndex) (key : ClaimKey) (now : Instant) (state : Option (Expiring Claim)) :
    Prop :=
  ∀ later, now ≤ later → index.entry key later = state.filter (·.isLive later)

/-- What holds of a key now holds of it from any later time on. -/
theorem Holds.later {state : Option (Expiring Claim)} (holds : index.Holds key now state)
    {later : Instant} (order : now ≤ later) : index.Holds key later state :=
  fun last order' => holds last (Instant.le_trans order order')

/-- The index after calls at their times, one after the other. -/
def follow (index : ClaimIndex) (calls : List (Instant × ClaimCall)) : ClaimIndex :=
  calls.foldl (fun index input => (index.answer input.1 input.2).2) index

end ClaimIndex

namespace ClaimCall

/-- The machine of a key after a call. One on another key does not touch it. -/
def follow (lifetimes : ClaimLifetimes) (key : ClaimKey) (state : Option (Expiring Claim))
    (input : Instant × ClaimCall) : Option (Expiring Claim) :=
  if input.2.key = key then (input.2.act lifetimes input.1 (state.filter (·.isLive input.1))).2
  else state

end ClaimCall

namespace ClaimIndex

variable {index : ClaimIndex} {key : ClaimKey} {start now : Instant}

end ClaimIndex

/-- How far a key has come: no claim, a pending one, a committed one. -/
def ClaimCall.stage : Option (Expiring Claim) → Nat
  | none => 0
  | some ⟨⟨_, _, .pending⟩, _⟩ => 1
  | some ⟨⟨_, _, .committed⟩, _⟩ => 2

namespace ClaimCall

variable {lifetimes : ClaimLifetimes} {now : Instant}

end ClaimCall

namespace ClaimIndex

variable {index : ClaimIndex} {key : ClaimKey} {now time : Instant} {calls : List (Instant × ClaimCall)}

end ClaimIndex

end Intake
