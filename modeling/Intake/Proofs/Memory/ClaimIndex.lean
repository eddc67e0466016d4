import Intake.Memory.ClaimIndex
import Intake.Proofs.Memory.Expiring

/-! Laws of the index of claims: what claiming a key answers and leaves. -/

namespace Intake

namespace ClaimIndex

variable {index : ClaimIndex} {key : ClaimKey} {now : Instant}

/-- The claim on a key, as long as its time is not up. -/
def liveClaim (index : ClaimIndex) (key : ClaimKey) (now : Instant) : Option Claim :=
  (index.claims.liveEntry key now).map (·.value)

/-- A key with a live claim is not claimed again. -/
theorem claim_of_live {claim : Claim} (lives : index.liveClaim key now = some claim)
    (fingerprint : Fingerprint) (proposed : ServerId) :
    index.claim key fingerprint proposed now = (.existing claim, index) := by
  -- The claim that the look-up answers is the live one.
  obtain ⟨entry, alive, rfl⟩ := Option.map_eq_some_iff.mp lives
  unfold ClaimIndex.claim
  rw [ExpiringTable.live_of_alive alive]

/-- A key without a live claim is claimed for the proposed identifier. -/
theorem claim_of_gone (gone : index.liveClaim key now = none) (fingerprint : Fingerprint)
    (proposed : ServerId) :
    (index.claim key fingerprint proposed now).1 = .created proposed := by
  -- Whatever the look-up drops, the claim that is entered is a new one.
  obtain ⟨after, looked, _⟩ := ExpiringTable.live_of_gone (Option.map_eq_none_iff.mp gone)
  unfold ClaimIndex.claim
  rw [looked]

/-- A claim that claiming a key finds there is live. -/
theorem live_of_existing {fingerprint : Fingerprint} {proposed : ServerId} {claim : Claim}
    (found : (index.claim key fingerprint proposed now).1 = .existing claim) :
    index.liveClaim key now = some claim := by
  -- A claim is answered as existing only where one was live, and then it is that one.
  cases lives : index.liveClaim key now with
  | none =>
    rw [claim_of_gone lives] at found
    cases found
  | some live =>
    rw [claim_of_live lives] at found
    cases found
    rfl

/-- After a key was claimed, a claim is one from before, or a new one on that key. -/
theorem find?_of_claim {fingerprint : Fingerprint} {proposed : ServerId} {other : ClaimKey}
    {entry : Expiring Claim}
    (found : (index.claim key fingerprint proposed now).2.claims.entries.find? other = some entry) :
    index.claims.entries.find? other = some entry ∨
      (other = key ∧ entry.value = ⟨proposed, fingerprint, .pending⟩) := by
  -- A live claim is left as it is, and where none lives the new one is entered.
  unfold ClaimIndex.claim at found
  rcases index.claims.live_cases key now with
    ⟨claimed, _, looked⟩ | ⟨after, _, looked, lost, others⟩
  · rw [looked] at found
    exact .inl found
  · rw [looked] at found
    by_cases same : other = key
    · subst same
      simp only [ExpiringTable.find?_insert_self, Option.some.injEq] at found
      subst found
      exact .inr ⟨rfl, rfl⟩
    · have before := ExpiringTable.find?_of_insert same found
      rw [others other same] at before
      exact .inl before

/-- After a claim was committed, a claim is one from before, or a committed one on that key. -/
theorem find?_of_commit {serverId : ServerId} {fingerprint : Fingerprint} {other : ClaimKey}
    {entry : Expiring Claim}
    (found : (index.commit key serverId fingerprint now).2.claims.entries.find? other =
      some entry) :
    index.claims.entries.find? other = some entry ∨
      (other = key ∧ entry.value = ⟨serverId, fingerprint, .committed⟩) := by
  -- A claim that is committed already is left as it is, and any other one is replaced.
  have replaced : ∀ {base : ExpiringTable ClaimKey Claim}, index.claims.Forgets base →
      (base.insert key ⟨serverId, fingerprint, .committed⟩ now
        index.lifetimes.committed).entries.find? other = some entry →
      index.claims.entries.find? other = some entry ∨
        (other = key ∧ entry.value = ⟨serverId, fingerprint, .committed⟩) := by
    intro base forgets found
    by_cases same : other = key
    · subst same
      simp only [ExpiringTable.find?_insert_self, Option.some.injEq] at found
      subst found
      exact .inr ⟨rfl, rfl⟩
    · exact .inl (forgets _ _ (ExpiringTable.find?_of_insert same found))
  unfold ClaimIndex.commit at found
  rcases index.claims.live_cases key now with
    ⟨⟨claim, expiresAt⟩, _, looked⟩ | ⟨after, _, looked, lost, others⟩
  · rw [looked] at found
    dsimp only at found
    split at found
    · split at found <;> exact .inl found
    · exact replaced (.refl _) found
  · rw [looked] at found
    exact replaced (.of_lost lost others) found

/-- After a claim was renamed, a claim is one from before, or a pending one that has a new
identifier. -/
theorem find?_of_rename {fingerprint : Fingerprint} {serverId : ServerId} {other : ClaimKey}
    {entry : Expiring Claim}
    (found : (index.rename key fingerprint serverId now).2.claims.entries.find? other =
      some entry) :
    index.claims.entries.find? other = some entry ∨
      ∃ earlier, index.claims.entries.find? other = some earlier ∧
        earlier.value.status = .pending ∧ entry.value = { earlier.value with serverId } := by
  -- Only a pending claim is replaced.
  unfold ClaimIndex.rename at found
  rcases index.claims.live_cases key now with
    ⟨⟨claim, expiresAt⟩, alive, looked⟩ | ⟨after, _, looked, lost, others⟩
  · rw [looked] at found
    dsimp only at found
    split at found
    · exact .inl found
    · rename_i pending
      by_cases same : other = key
      · subst same
        simp only [ExpiringTable.find?_update_self, Option.some.injEq] at found
        subst found
        refine .inr ⟨_, (ExpiringTable.liveEntry_eq_some.mp alive).1, ?_, rfl⟩
        simp only [ne_eq, not_or, Decidable.not_not] at pending
        exact pending.1
      · exact .inl (by rwa [ExpiringTable.find?_update_of_ne _ _ same] at found)
  · rw [looked] at found
    exact .inl (ExpiringTable.Forgets.of_lost lost others _ _ found)

/-- After a claim was rolled back, every claim is one from before, with another end at the most. -/
theorem find?_of_rollBack {other : ClaimKey} {entry : Expiring Claim}
    (found : (index.rollBack key now).claims.entries.find? other = some entry) :
    ∃ earlier, index.claims.entries.find? other = some earlier ∧ entry.value = earlier.value := by
  -- Only a pending claim is replaced, by one that ends earlier.
  unfold ClaimIndex.rollBack at found
  rcases index.claims.live_cases key now with
    ⟨⟨claim, expiresAt⟩, alive, looked⟩ | ⟨after, _, looked, lost, others⟩
  · rw [looked] at found
    dsimp only at found
    split at found
    · exact ⟨entry, found, rfl⟩
    · by_cases same : other = key
      · subst same
        simp only [ExpiringTable.find?_update_self, Option.some.injEq] at found
        subst found
        exact ⟨_, (ExpiringTable.liveEntry_eq_some.mp alive).1, rfl⟩
      · exact ⟨entry, by rwa [ExpiringTable.find?_update_of_ne _ _ same] at found, rfl⟩
  · rw [looked] at found
    exact ⟨entry, ExpiringTable.Forgets.of_lost lost others _ _ found, rfl⟩

/-- Claiming a key keeps the live claims on the others. -/
theorem liveClaim_claim_of_ne {other : ClaimKey} (fingerprint : Fingerprint) (proposed : ServerId)
    (differ : other ≠ key) :
    (index.claim key fingerprint proposed now).2.liveClaim other now = index.liveClaim other now := by
  -- A claim is set after a look-up of its own key, or the one there is left as it was.
  have looked := ExpiringTable.liveEntry_of_kept now (index.claims.find?_live_of_ne now differ)
  unfold liveClaim ClaimIndex.claim
  split
  · rename_i live
    rw [live] at looked
    rw [looked]
  · rename_i live
    rw [live] at looked
    rw [ExpiringTable.liveEntry_insert_of_ne _ _ _ _ differ, looked]

/-- A key that is claimed anew has no claim that is committed. -/
theorem pending_of_claimed (gone : index.liveClaim key now = none) (fingerprint : Fingerprint)
    (proposed : ServerId) {claim : Claim}
    (lives : (index.claim key fingerprint proposed now).2.liveClaim key now = some claim) :
    claim.status = .pending := by
  -- A claim from before would have to live, so it is the new one.
  obtain ⟨entry, alive, rfl⟩ := Option.map_eq_some_iff.mp lives
  obtain ⟨found, live⟩ := ExpiringTable.liveEntry_eq_some.mp alive
  rcases find?_of_claim found with earlier | ⟨_, same⟩
  · have alive' := ExpiringTable.liveEntry_eq_some.mpr ⟨earlier, live⟩
    rw [Option.map_eq_none_iff.mp gone] at alive'
    cases alive'
  · rw [same]

/-- Committing a claim keeps the live claims on the other keys. -/
theorem liveClaim_commit_of_ne {other : ClaimKey} (serverId : ServerId) (fingerprint : Fingerprint)
    (differ : other ≠ key) :
    (index.commit key serverId fingerprint now).2.liveClaim other now =
      index.liveClaim other now := by
  -- The committed claim is set after a look-up of its own key, or the one there is left as it was.
  have looked := ExpiringTable.liveEntry_of_kept now (index.claims.find?_live_of_ne now differ)
  unfold liveClaim ClaimIndex.commit
  dsimp only
  split
  · rename_i live
    rw [live] at looked
    split
    · split <;> rw [looked]
    · rw [ExpiringTable.liveEntry_insert_of_ne _ _ _ _ differ, looked]
  · rename_i live
    rw [live] at looked
    rw [ExpiringTable.liveEntry_insert_of_ne _ _ _ _ differ, looked]

/-- After a claim that was not committed yet is, it lives if committed ones do. -/
theorem liveClaim_commit (pending : ∀ claim, index.liveClaim key now = some claim →
      claim.status = .pending) (fresh : now < now.plus index.lifetimes.committed)
    (serverId : ServerId) (fingerprint : Fingerprint) :
    (index.commit key serverId fingerprint now).2.liveClaim key now =
      some ⟨serverId, fingerprint, .committed⟩ := by
  -- Whether the pending claim still lives or not, the committed one is set in its place.
  have set : ∀ base : ExpiringTable ClaimKey Claim,
      ((base.insert key ⟨serverId, fingerprint, .committed⟩ now
        index.lifetimes.committed).liveEntry key now).map (·.value) =
          some ⟨serverId, fingerprint, .committed⟩ := by
    intro base
    rw [ExpiringTable.liveEntry_of_set (ExpiringTable.find?_insert_self _ _ _ _ _), if_pos fresh]
    rfl
  unfold liveClaim ClaimIndex.commit
  dsimp only
  rcases index.claims.live_cases key now with ⟨entry, alive, looked⟩ | ⟨after, _, looked, _, _⟩
  · have isPending := pending entry.value (Option.map_eq_some_iff.mpr ⟨entry, alive, rfl⟩)
    rw [looked]
    simp only [Claim.isCommitted, isPending, reduceCtorEq, decide_false, Bool.false_eq_true,
      ↓reduceIte]
    exact set _
  · rw [looked]
    exact set _

/-- Claiming a key leaves the lifetimes of claims alone. -/
theorem lifetimes_claim (fingerprint : Fingerprint) (proposed : ServerId) :
    (index.claim key fingerprint proposed now).2.lifetimes = index.lifetimes := by
  unfold ClaimIndex.claim
  split <;> rfl

/-- Committing a claim leaves the lifetimes of claims alone. -/
theorem lifetimes_commit (serverId : ServerId) (fingerprint : Fingerprint) :
    (index.commit key serverId fingerprint now).2.lifetimes = index.lifetimes := by
  -- Every branch changes the table of claims at most.
  unfold ClaimIndex.commit
  dsimp only
  split
  · split
    · split <;> rfl
    · rfl
  · rfl

end ClaimIndex

end Intake
