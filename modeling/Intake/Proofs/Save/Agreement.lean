import Intake.Proofs.Memory.Ledger
import Intake.Proofs.Save.ExactlyOnce

/-! The claims and the message store agree while saves run: a committed claim is one for the message
that is stored under its key, and all of both is as it was submitted. -/

namespace Intake

variable {submitted : ClaimKey → Fingerprint → Prop}

/-- What a reply shows to its caller of rows and claims: a row that is found or in the way is one that was
seen, and so is the one of a committed claim. -/
def Shows (submitted : ClaimKey → Fingerprint → Prop) :
    (request : Service.Request) → Service.Reply request → List (ClaimKey × Message) → Prop
  | .insert message, .ok (), seen => (message.key, message) ∈ seen
  | .insert message, .error (.duplicateClientMessage _), seen => ∃ row, (message.key, row) ∈ seen
  | .findByKey key, .ok (some row), seen => (key, row) ∈ seen ∧ submitted key row.fingerprint
  | .findByKey key, .ok none, seen => ∀ row, (key, row) ∉ seen
  | .claim key _ _, .ok (.existing claim), seen => submitted key claim.fingerprint ∧
    (claim.status = .committed → ∃ row, (key, row) ∈ seen)
  -- Watermarks are never found to be inconsistent.
  | .reserve _ _, .error (.inconsistent _ _), _ | .raiseIssued _ _, .error (.inconsistent _ _), _
  | .raiseCommitted _ _, .error (.inconsistent _ _), _
  | .raiseRetained _ _, .error (.inconsistent _ _), _
  | .loadWatermarks _, .error (.inconsistent _ _), _ => False
  | _, _, _ => True

/-- Savers claim keys for what was submitted under them, and store nothing else under them. They
commit a claim only to a row that they have seen. -/
def vouching (submitted : ClaimKey → Fingerprint → Prop) :
    Protocol services (List (ClaimKey × Message)) where
  permits
    | .claim key fingerprint _, _ => submitted key fingerprint
    | .insert message, _ => submitted message.key message.fingerprint
    | .commitClaim key serverId fingerprint, seen =>
      ∃ row, (key, row) ∈ seen ∧ row.serverId = serverId ∧ row.fingerprint = fingerprint
    | _, _ => True
  moves request seen reply after := seen ⊆ after ∧ Shows submitted request reply after

/-- The failure of a service that could not do what it was asked for shows nothing. -/
theorem shows_of_disturbed {request : Service.Request} {reply : Service.Reply request}
    (disturbed : Service.Disturbed request reply) (seen : List (ClaimKey × Message)) :
    Shows submitted request reply seen := by
  -- The failures that would show something are verdicts of their services.
  obtain ⟨failed, verdict⟩ := disturbed
  cases request
  case insert =>
    obtain ⟨failure, rfl⟩ := failed
    cases failure <;> first | trivial | exact absurd trivial verdict
  case reserve | raiseIssued | raiseCommitted | raiseRetained | loadWatermarks =>
    obtain ⟨failure, rfl⟩ := failed
    cases failure <;> first | trivial | exact absurd trivial verdict
  case findByKey => obtain ⟨failure, rfl⟩ := failed; trivial
  case claim => obtain ⟨failure, rfl⟩ := failed; trivial
  all_goals trivial

/-- All claims and rows are of what was submitted, a committed claim is for the row under its key, and
every row that anyone has seen is stored. -/
structure ClaimsAgree (submitted : ClaimKey → Fingerprint → Prop) (w : World)
    (holdings : List (List (ClaimKey × Message))) : Prop where
  rows : RowsStored w holdings
  stored : ∀ key row, w.store.findByKey key = some row → submitted key row.fingerprint
  claimed : ∀ key entry, w.claims.claims.entries.find? key = some entry →
    submitted key entry.value.fingerprint
  committed : ∀ key entry, w.claims.claims.entries.find? key = some entry →
    entry.value.status = .committed → ∃ row, w.store.findByKey key = some row ∧
      row.serverId = entry.value.serverId ∧ row.fingerprint = entry.value.fingerprint

namespace ClaimsAgree

variable {w after : World} {holdings : List (List (ClaimKey × Message))} {place : Nat}
  {seen : List (ClaimKey × Message)}

/-- Where nothing is claimed and nothing stored, there is nothing to disagree. -/
theorem opening (clock : Instant) (lifetimes : ClaimLifetimes) (ready : List ServerId) :
    ClaimsAgree submitted (.fresh clock lifetimes ready) [] where
  -- There is nothing yet to be consistent with.
  rows := ⟨MessageStore.consistent_empty, by simp⟩
  stored := fun _ _ found => by cases found
  claimed := fun _ _ found => by cases found
  committed := fun _ _ found => by cases found

/-- A saver may join that has seen nothing. -/
theorem join (agree : ClaimsAgree submitted w holdings) :
    ClaimsAgree submitted w (holdings ++ [[]]) where
  -- The caller that joins has been shown nothing, so that only the earlier ones count.
  rows := by
    refine ⟨agree.rows.consistent, fun seen member key row known => ?_⟩
    rcases List.mem_append.mp member with earlier | new
    · exact agree.rows.stored seen earlier key row known
    · obtain rfl := List.mem_singleton.mp new
      cases known
  stored := agree.stored
  claimed := agree.claimed
  committed := agree.committed

/-- A saver may come to remember rows that are stored. -/
theorem remember (agree : ClaimsAgree submitted w holdings) (atPlace : holdings[place]? = some seen)
    {shown : List (ClaimKey × Message)}
    (stored : ∀ key row, (key, row) ∈ shown → w.store.findByKey key = some row) :
    ClaimsAgree submitted w (holdings.set place (shown ++ seen)) where
  -- The services are as before. Only what one of the callers has been shown grows.
  rows := agree.rows.remember atPlace stored
  stored := agree.stored
  claimed := agree.claimed
  committed := agree.committed

/-- Taking effect, a call that is permitted leaves claims and rows in agreement. -/
theorem effect (agree : ClaimsAgree submitted w holdings) (atPlace : holdings[place]? = some seen)
    {request : Service.Request} (permitted : (vouching submitted).permits request seen) :
    ClaimsAgree submitted (World.answer request w).2 holdings where
  rows := agree.rows.answer request
  stored := by
    -- A row is one from before, or the one that is inserted.
    intro key row found
    rcases World.answer_store request w with same | ⟨message, rfl, inserted⟩
    · exact agree.stored key row (same ▸ found)
    · rw [inserted] at found
      rcases MessageStore.findByKey_of_insert agree.rows.consistent found with before | ⟨rfl, rfl⟩
      · exact agree.stored key row before
      · exact permitted
  claimed := by
    -- A claim is one from before, or made for what was submitted, or committed to a row.
    intro key entry found
    rcases World.answer_claims found with
      ⟨earlier, before, same, _⟩ | ⟨fingerprint, proposed, rfl, made⟩ |
      ⟨serverId, fingerprint, rfl, made⟩
    · exact same ▸ agree.claimed key earlier before
    · rw [made]
      exact permitted
    · obtain ⟨row, known, _, rfl⟩ := permitted
      rw [made]
      exact agree.stored key row
        (agree.rows.stored seen (List.mem_of_getElem? atPlace) key row known)
  committed := by
    intro key entry found status
    rcases World.answer_claims found with
      ⟨earlier, before, _, same⟩ | ⟨fingerprint, proposed, rfl, made⟩ |
      ⟨serverId, fingerprint, rfl, made⟩
    · obtain ⟨row, stored, matches_⟩ := agree.committed key earlier before (same status ▸ status)
      exact ⟨row, World.findByKey_answer stored request, same status ▸ matches_⟩
    · rw [made] at status
      cases status
    · obtain ⟨row, known, rfl, rfl⟩ := permitted
      rw [made]
      exact ⟨row, World.findByKey_answer
        (agree.rows.stored seen (List.mem_of_getElem? atPlace) key row known) _, rfl, rfl⟩

/-- A claim that is committed to a row that was seen is not committed to anything else. -/
theorem commits (agree : ClaimsAgree submitted w holdings) (atPlace : holdings[place]? = some seen)
    {key : ClaimKey} {row : Message} (known : (key, row) ∈ seen) :
    (World.answer (.commitClaim key row.serverId row.fingerprint) w).1 = .ok () := by
  -- A claim that is committed already is for the row under its key, which is this one.
  have stored := agree.rows.stored seen (List.mem_of_getElem? atPlace) key row known
  simp only [World.answer]
  unfold ClaimIndex.commit
  rcases w.claims.claims.live_cases key w.clock with
    ⟨⟨claim, expiresAt⟩, alive, looked⟩ | ⟨_, _, looked, _⟩
  · rw [looked]
    dsimp only
    split
    · rename_i isCommitted
      obtain ⟨other, found, same, _⟩ := agree.committed key _
        (ExpiringTable.liveEntry_eq_some.mp alive).1 (by simpa [Claim.isCommitted] using isCommitted)
      rw [stored] at found
      cases found
      rw [if_pos same.symm]
    · rfl
  · rw [looked]

/-- No claim on the key of a row that was seen is found committed to anything else. -/
theorem never_mismatched (agree : ClaimsAgree submitted w holdings)
    (atPlace : holdings[place]? = some seen) {key : ClaimKey} {row : Message}
    (known : (key, row) ∈ seen) {reply : Service.Reply (.commitClaim key row.serverId row.fingerprint)}
    (reacted : World.Reacts Service.Disturbed (.commitClaim key row.serverId row.fingerprint) w reply
      after) (mismatched : ClaimKey) (claimed attempted : ServerId) :
    reply ≠ .error (.committedMismatch mismatched claimed attempted) := by
  -- A mismatch would be a verdict, which only an answer may give.
  intro same
  cases reacted with
  | answers =>
    rw [agree.commits atPlace known] at same
    cases same
  | failsBefore disturbed => subst same; exact disturbed.2 trivial
  | failsAfter disturbed => subst same; exact disturbed.2 trivial

/-- What an answer shows of rows is stored right after it. -/
theorem answer_shows (agree : ClaimsAgree submitted w holdings)
    (atPlace : holdings[place]? = some seen) (request : Service.Request) :
    ∃ shown : List (ClaimKey × Message),
      (∀ key row, (key, row) ∈ shown →
        (World.answer request w).2.store.findByKey key = some row) ∧
      Shows submitted request (World.answer request w).1 (shown ++ seen) := by
  -- Rows are shown by inserts and look-ups, and by claims that are committed.
  have single : ∀ {key : ClaimKey} {row : Message},
      (World.answer request w).2.store.findByKey key = some row →
      ∀ key' row', (key', row') ∈ [(key, row)] →
        (World.answer request w).2.store.findByKey key' = some row' := by
    intro key row stored key' row' member
    obtain ⟨rfl, rfl⟩ := Prod.mk.inj (List.mem_singleton.mp member)
    exact stored
  cases request
  case insert message =>
    cases inserted : (w.store.insert message).1 with
    | ok done =>
      refine ⟨[(message.key, message)], single (MessageStore.findByKey_of_inserted inserted), ?_⟩
      simp only [World.answer, inserted, Shows]
      exact List.mem_cons_self
    | error failure =>
      simp only [World.answer, inserted]
      cases failure
      case duplicateClientMessage key =>
        obtain ⟨row, taken⟩ := agree.rows.consistent.taken_of_refused inserted
        exact ⟨[(message.key, row)], single (MessageStore.findByKey_insert taken message),
          row, List.mem_cons_self⟩
      all_goals exact ⟨[], by simp, trivial⟩
  case findByKey key =>
    simp only [World.answer]
    cases found : w.store.findByKey key with
    | some row =>
      exact ⟨[(key, row)], single found, List.mem_cons_self, agree.stored key row found⟩
    -- Under a key that nothing is stored under no row was seen.
    | none =>
      refine ⟨[], by simp, fun row known => ?_⟩
      have stored := agree.rows.stored seen (List.mem_of_getElem? atPlace) key row known
      rw [found] at stored
      cases stored
  case claim key fingerprint proposed =>
    cases lives : w.claims.liveClaim key w.clock with
    | none =>
      simp only [World.answer, ClaimIndex.claim_of_gone lives]
      exact ⟨[], by simp, trivial⟩
    | some claim =>
      obtain ⟨entry, alive, rfl⟩ := Option.map_eq_some_iff.mp lives
      have found := (ExpiringTable.liveEntry_eq_some.mp alive).1
      have claimed := agree.claimed key entry found
      simp only [World.answer, ClaimIndex.claim_of_live lives]
      by_cases status : entry.value.status = .committed
      · obtain ⟨row, stored, _⟩ := agree.committed key entry found status
        exact ⟨[(key, row)], single stored, claimed, fun _ => ⟨row, List.mem_cons_self⟩⟩
      · exact ⟨[], by simp, claimed, fun committed => absurd committed status⟩
  case reserve conversation count =>
    refine ⟨[], by simp, ?_⟩
    rcases w.ledger.reserve_cases conversation count w.clock with
      ⟨segment, later, reserved, _⟩ | ⟨later, refused, _⟩
    · simp only [World.answer, reserved]
      trivial
    · simp only [World.answer, refused]
      trivial
  all_goals exact ⟨[], by simp, trivial⟩

/-- Whatever a permitted call comes to, claims and rows agree. -/
theorem reacts (agree : ClaimsAgree submitted w holdings) (atPlace : holdings[place]? = some seen)
    {request : Service.Request} {reply : Service.Reply request}
    (permitted : (vouching submitted).permits request seen)
    (reacted : World.Reacts Service.Disturbed request w reply after) :
    ∃ later, (vouching submitted).moves request seen reply later ∧
      ClaimsAgree submitted after (holdings.set place later) := by
  -- A failed call may have taken effect, but it has shown nothing.
  have effect := agree.effect atPlace permitted
  cases reacted with
  | answers =>
    obtain ⟨shown, stored, shows⟩ := agree.answer_shows atPlace request
    exact ⟨_, ⟨List.subset_append_right shown seen, shows⟩, effect.remember atPlace stored⟩
  | failsBefore disturbed =>
    exact ⟨[] ++ seen, ⟨List.Subset.refl seen, shows_of_disturbed disturbed _⟩,
      agree.remember atPlace (by simp)⟩
  | failsAfter disturbed =>
    exact ⟨[] ++ seen, ⟨List.Subset.refl seen, shows_of_disturbed disturbed _⟩,
      effect.remember atPlace (by simp)⟩

/-- Claims that are lost leave the others in agreement with the rows. -/
theorem drifts (agree : ClaimsAgree submitted w holdings) (drifted : World.Drifts w after) :
    ClaimsAgree submitted after holdings where
  -- Drifting keeps the store and can only drop claims, and each claim that is left was there before.
  rows := agree.rows.drifts drifted
  stored := by rw [drifted.store]; exact agree.stored
  claimed := fun key entry found => agree.claimed key entry (drifted.claims key entry found)
  committed := by
    rw [drifted.store]
    exact fun key entry found => agree.committed key entry (drifted.claims key entry found)

end ClaimsAgree

end Intake
