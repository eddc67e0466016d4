import Intake.Proofs.Concurrency.Solo
import Intake.Proofs.Memory.Shelf
import Intake.Proofs.Save.Course
import Intake.Proofs.Save.FatalFailures
import Intake.Proofs.Save.Preparation
import Intake.Proofs.Save.Resend

/-! What a save without failures makes up for once its message is stored: the claim is committed in any
case, but the mark of what is stored rises only with the save that stores the message. -/

namespace Intake

namespace ClaimIndex

/-- A key has a live claim that is committed. -/
def Committed (index : ClaimIndex) (key : ClaimKey) (now : Instant) : Prop :=
  ∃ entry, index.entry key now = some entry ∧ entry.value.status = .committed

/-- After a commit a key has a live claim that is committed, if it had one before or a new one lives at
all. -/
theorem committed_commit_iff (index : ClaimIndex) (key : ClaimKey) (serverId : ServerId)
    (fingerprint : Fingerprint) (now : Instant) :
    (index.commit key serverId fingerprint now).2.Committed key now ↔
      index.Committed key now ∨ now < now.plus index.lifetimes.committed := by
  have left := index.entry_answer now (.commit key serverId fingerprint)
  simp only [answer, ClaimCall.key] at left
  unfold Committed
  rw [left]
  -- A claim that was committed before is kept, and in any other case the new one takes its place.
  rcases before : index.entry key now with _ | ⟨⟨old, own, _ | _⟩, expiresAt⟩
  · simp [ClaimCall.act, Option.filter_eq_some_iff, Expiring.isLive, and_assoc]
  · simp [ClaimCall.act, Option.filter_eq_some_iff, Expiring.isLive, and_assoc]
  · have lives : Expiring.isLive (⟨⟨old, own, .committed⟩, expiresAt⟩ : Expiring Claim) now = true :=
      (ExpiringTable.liveEntry_eq_some.mp before).2
    simp [ClaimCall.act, Option.filter_eq_some_iff, and_assoc, lives]

end ClaimIndex

namespace World

/-- What is left when a save ends with a receipt and no call has failed: a committed claim, and a mark
that has risen to the message only if this save has stored it. -/
structure Booked (origin : Origin) (fingerprint : Fingerprint) (before : World) (receipt : Receipt)
    (after : World) : Prop where
  clock : after.clock = before.clock
  lifetimes : after.claims.lifetimes = before.claims.lifetimes
  /-- The claim is committed, unless committed claims do not live at all. -/
  claimed : after.claims.Committed (.ofOrigin origin) before.clock ↔
    before.claims.Committed (.ofOrigin origin) before.clock ∨
      before.clock < before.clock.plus before.claims.lifetimes.committed
  /-- A message that was stored before leaves all marks where they were. -/
  stored : ∃ row, after.store.findByKey (.ofOrigin origin) = some row ∧ row.receipt = receipt ∧
    row.fingerprint = fingerprint ∧
    ((before.store.findByKey (.ofOrigin origin) = none ∧
        row.sequence.value ≤ (after.ledger.storedMarks row.conversation).1) ∨
      (before.store.findByKey (.ofOrigin origin) = some row ∧ ∀ conversation,
        after.ledger.storedMarks conversation = before.ledger.storedMarks conversation))

namespace Prepared

variable {origin : Origin} {before after : World}

/-- While a message is prepared its claim stays committed, or does not become so. -/
theorem committed_iff (prepared : before.Prepared origin after) :
    after.claims.Committed (.ofOrigin origin) before.clock ↔
      before.claims.Committed (.ofOrigin origin) before.clock := by
  -- Preparing may add a pending claim or take one away, but a committed entry stays the same.
  unfold ClaimIndex.Committed
  constructor
  · rintro ⟨entry, found, status⟩
    exact ⟨entry, (prepared.committed_entry_iff _ status).mpr found, status⟩
  · rintro ⟨entry, found, status⟩
    exact ⟨entry, (prepared.committed_entry_iff _ status).mp found, status⟩

/-- Once the claim is committed that was prepared, it is committed if it was before, or if committed
claims live at all. -/
theorem committed_commit_iff (prepared : before.Prepared origin after) (serverId : ServerId)
    (fingerprint : Fingerprint) :
    (after.claims.commit (.ofOrigin origin) serverId fingerprint after.clock).2.Committed
        (.ofOrigin origin) before.clock ↔
      before.claims.Committed (.ofOrigin origin) before.clock ∨
        before.clock < before.clock.plus before.claims.lifetimes.committed := by
  -- The table that the commit finds agrees with the one before in what is committed.
  rw [prepared.others.clock, ClaimIndex.committed_commit_iff, prepared.committed_iff,
    prepared.lifetimes]

end Prepared

end World

namespace Save

variable {config : SaveConfig} {w : World}

/-- Where no call fails, a claim that is promoted has been committed. -/
theorem promote_commits (key : ClaimKey) (stored : Message) :
    (promote config key stored).Ensures Plan.Waits (Plan.Answered (I := services) World.answer)
      (fun _ after =>
        after = (World.answer (.commitClaim key stored.serverId stored.fingerprint) w).2) w := by
  -- A call takes no time, so that no deadline cuts it.
  refine .bind (.withDeadline_call rfl Plan.not_waits_done (fun reply after moved => ?_) nofun)
  exact .done (congrArg Prod.snd moved).symm

/-- Where no call fails, a save whose message is stored ends with its claim committed and its number
marked as stored. -/
theorem finish_marks (message : Message) :
    (finish config message).Ensures Plan.Waits (Plan.Answered (I := services) World.answer)
      (fun receipt after => receipt = message.receipt ∧
        after = (World.answer (.raiseCommitted message.conversation message.sequence)
          (World.answer (.commitClaim message.key message.serverId message.fingerprint) w).2).2) w := by
  -- Neither of the two calls is cut while time stands still. The commit comes first.
  refine .bind ((promote_commits message.key message).mono fun _ between committed => ?_)
  subst committed
  refine .bind (.withDeadline_call rfl Plan.not_waits_done (fun reply after moved => ?_) nofun)
  exact .done ⟨rfl, (congrArg Prod.snd moved).symm⟩

/-- A save none of whose calls fails goes through its course with the books in order. -/
theorem course_booked (config : SaveConfig) (origin : Origin) (fingerprint : Fingerprint)
    (before : World) :
    Course Plan.Waits (Plan.Answered (I := services) World.answer) config origin fingerprint
      (before.Prepared origin)
      (fun w => before.Prepared origin w ∧ before.claims.Committed (.ofOrigin origin) before.clock)
      (before.Booked origin fingerprint) where
  uncut := Plan.not_waits_done
  prepares := by
    intro request held reply after prepares prepared moved
    obtain rfl := congrArg Prod.snd moved
    exact prepared.trans (.answer prepares held)
  refused := by
    intro message held failure after _ prepared moved
    have refused : (held.store.insert message).1 = .error failure := congrArg Prod.fst moved
    obtain rfl := congrArg Prod.snd moved
    have answered : World.Reacts Service.Failed (.insert message) held _ _ := .answers
    exact prepared.trans (.insert answered (MessageStore.kept_of_refused refused))
  inserted := by
    intro message held after own same prepared moved
    subst own
    have done : (held.store.insert message).1 = .ok () := congrArg Prod.fst moved
    obtain rfl := congrArg Prod.snd moved
    refine (finish_marks message).mono fun receipt last ended => ?_
    obtain ⟨rfl, rfl⟩ := ended
    -- The store was as before, so that the key was free at the start.
    have free := MessageStore.free_of_stored done
    rw [prepared.store] at free
    exact {
      clock := prepared.others.clock
      lifetimes := (ClaimIndex.lifetimes_commit _ _).trans prepared.lifetimes
      claimed := prepared.committed_commit_iff _ _
      stored := ⟨message, MessageStore.findByKey_of_inserted done, rfl, same,
        .inl ⟨free, Ledger.le_raiseCommitted _ _ _ _⟩⟩ }
  found := by
    intro row held after prepared moved same
    have found : held.store.findByKey (.ofOrigin origin) = some row :=
      Except.ok.inj (congrArg Prod.fst moved)
    obtain rfl := congrArg Prod.snd moved
    refine (promote_commits _ row).mono fun _ last committed => ?_
    subst committed
    exact {
      clock := prepared.others.clock
      lifetimes := (ClaimIndex.lifetimes_commit _ _).trans prepared.lifetimes
      claimed := prepared.committed_commit_iff _ _
      stored := ⟨row, found, rfl, same, .inr ⟨prepared.store ▸ found, prepared.storedMarks⟩⟩ }
  sees := by
    intro claim proposed held after prepared moved status
    have shown : (held.claims.claim (.ofOrigin origin) fingerprint proposed held.clock).1 =
        .existing claim := Except.ok.inj (congrArg Prod.fst moved)
    obtain rfl := congrArg Prod.snd moved
    refine ⟨prepared.trans (.answer (by exact rfl) held), prepared.committed_iff.mp ?_⟩
    -- The claim that was there is the one that lives.
    obtain ⟨entry, alive, rfl⟩ := Option.map_eq_some_iff.mp (ClaimIndex.live_of_existing shown)
    exact ⟨entry, prepared.others.clock ▸ alive, status⟩
  looks := by
    intro held reply after holds moved
    obtain rfl := congrArg Prod.snd moved
    exact holds
  replays := by
    intro row held after holds moved same
    obtain ⟨prepared, committed⟩ := holds
    have found : held.store.findByKey (.ofOrigin origin) = some row :=
      Except.ok.inj (congrArg Prod.fst moved)
    obtain rfl := congrArg Prod.snd moved
    exact {
      clock := prepared.others.clock
      lifetimes := prepared.lifetimes
      claimed := iff_of_true (prepared.committed_iff.mpr committed) (.inl committed)
      stored := ⟨row, found, rfl, same, .inr ⟨prepared.store ▸ found, prepared.storedMarks⟩⟩ }
  lets := fun held holds => holds.1

end Save

namespace World

/-- Whatever a call comes to, the watermarks stay in order. -/
theorem Reacts.ledger_inOrder {fails : (request : Service.Request) → Service.Reply request → Prop}
    {request : Service.Request} {w after : World} {reply : Service.Reply request}
    (order : w.ledger.InOrder) (reacted : Reacts fails request w reply after) :
    after.ledger.InOrder := by
  -- Four requests move watermarks, and every other one leaves the ledger alone.
  have effect : (World.answer request w).2.ledger.InOrder := by
    cases request
    case reserve conversation count => exact order.reserve conversation count w.clock
    case raiseIssued conversation floor => exact order.raiseIssued conversation floor w.clock
    case raiseCommitted conversation stored => exact order.raiseCommitted conversation stored w.clock
    case raiseRetained conversation floor => exact order.raiseRetained conversation floor w.clock
    all_goals exact order
  cases reacted with
  | answers => exact effect
  | failsBefore _ => exact order
  | failsAfter _ => exact effect

end World

/-- Where claims and rows agree, the live claim on the key of a row is committed to that row if it is
committed at all. -/
theorem ClaimsAgree.committed_to_stored {submitted : ClaimKey → Fingerprint → Prop} {w : World}
    {holdings : List (List (ClaimKey × Message))} (agree : ClaimsAgree submitted w holdings)
    {key : ClaimKey} {row : Message} (stored : w.store.findByKey key = some row) {now : Instant} :
    w.claims.liveClaim key now = some ⟨row.serverId, row.fingerprint, .committed⟩ ↔
      w.claims.Committed key now := by
  -- A committed claim always names the row stored under its key, and there is at most one such row.
  constructor
  · intro lives
    obtain ⟨entry, alive, same⟩ := Option.map_eq_some_iff.mp lives
    exact ⟨entry, alive, by rw [same]⟩
  · rintro ⟨entry, alive, status⟩
    obtain ⟨other, found, sameId, sameFingerprint⟩ :=
      agree.committed key entry (ExpiringTable.liveEntry_eq_some.mp alive).1 status
    obtain rfl := Option.some.inj (stored.symm.trans found)
    have same : entry.value = ⟨row.serverId, row.fingerprint, .committed⟩ := by
      rw [sameId, sameFingerprint, ← status]
    exact Option.map_eq_some_iff.mpr ⟨entry, alive, same⟩

namespace Site

variable {site : Site Intake.services World fun _ : SaveJob => Except SaveError Receipt}

/-- At every point of every run all watermarks are in order. -/
theorem ledger_inOrder {clock : Instant} {lifetimes : ClaimLifetimes} {ready : List ServerId}
    (reached : Reached savingDisturbed (World.fresh clock lifetimes ready) site) :
    site.services.ledger.InOrder :=
  reached.services_keep .empty (fun _ _ _ _ order reacted => reacted.ledger_inOrder order)
    fun _ _ order drifted => drifted.ledger ▸ order

/-- A save may be carried out alone at any point of a run. -/
theorem reached_of_performed {services : World} (reached : Reached savingDisturbed services site)
    {job : SaveJob} {outcome : Except SaveError Receipt} {after : World}
    (performed : World.perform (savingDisturbed.begins job) site.services = (outcome, after)) :
    Reached savingDisturbed services ⟨after, site.callers ++ [⟨job, .done outcome⟩]⟩ := by
  -- Every call is answered, which is one of the ways in which the services may react.
  have runs : Plan.Runs Plan.Waits savingDisturbed.reacts (savingDisturbed.begins job) site.services
      (.done outcome) after := by
    refine (World.runs_of_perform performed).map id (fun _ waits => waits) fun _ _ _ _ moved => ?_
    obtain rfl := congrArg Prod.fst moved
    obtain rfl := congrArg Prod.snd moved
    exact .answers
  exact (reached.step (.starts site job)).leads (leads_of_runs runs)

end Site

/-- A save that ends with a receipt after calls that all succeed leaves its claim committed. But the mark
reaches the message only if it had before or this save has stored it. -/
theorem books_after_save {clock : Instant} {lifetimes : ClaimLifetimes} {ready : List ServerId}
    {site : Site services World fun _ : SaveJob => Except SaveError Receipt}
    (reached : Site.Reached savingDisturbed (World.fresh clock lifetimes ready) site) {job : SaveJob}
    {receipt : Receipt} {after : World}
    (performed : World.perform (save job.config job.allocator job.submission) site.services =
      (.ok receipt, after)) :
    ∃ row, after.store.findByKey job.key = some row ∧ row.receipt = receipt ∧
      row.fingerprint = job.submission.fingerprint ∧
      (after.claims.liveClaim job.key after.clock =
          some ⟨receipt.serverId, job.submission.fingerprint, .committed⟩ ↔
        site.services.claims.Committed job.key site.services.clock ∨
          after.clock < after.clock.plus after.claims.lifetimes.committed) ∧
      (receipt.sequence.value ≤ (after.ledger.storedMarks row.conversation).1 ∧
          receipt.sequence.value.toNat ≤ after.ledger.issued row.conversation ↔
        site.services.store.findByKey job.key = none ∨
          receipt.sequence.value ≤ (site.services.ledger.storedMarks row.conversation).1) := by
  have ends := (Save.course_booked job.config job.submission.origin job.submission.fingerprint
    site.services).save job.allocator (.refl _ _)
  have booked : site.services.Booked job.submission.origin job.submission.fingerprint receipt after :=
    ends _ _ (World.runs_of_perform performed)
  -- The save is the last one of a longer run, at the end of which claims and rows agree as well.
  have reached' := Site.reached_of_performed reached performed
  obtain ⟨holdings, agree, _⟩ := Site.savingDisturbed_upholds reached'
  have order := Site.ledger_inOrder reached'
  obtain ⟨row, found, rfl, same, marks⟩ := booked.stored
  refine ⟨row, found, rfl, same, ?claimed, ?marked⟩
  case claimed =>
    rw [booked.clock, booked.lifetimes, ← same]
    exact (agree.committed_to_stored found).trans booked.claimed
  case marked =>
    -- What is marked as stored was reserved, so that the first of the two marks decides.
    have reserved := order.stored_le_issued row.conversation
    constructor
    · rintro ⟨reached, _⟩
      rcases marks with ⟨new, _⟩ | ⟨_, unmoved⟩
      · exact .inl new
      · exact .inr (unmoved row.conversation ▸ reached)
    · intro known
      have reaches : row.sequence.value ≤ (after.ledger.storedMarks row.conversation).1 := by
        rcases marks with ⟨_, risen⟩ | ⟨stored, unmoved⟩
        · exact risen
        · rw [unmoved]
          exact known.resolve_left fun free => by cases stored.symm.trans free
      exact ⟨reaches, Nat.le_trans (UInt64.le_iff_toNat_le.mp reaches) reserved⟩

/-- The site where nobody has saved anything yet. -/
def quiet : Site services World fun _ : SaveJob => Except SaveError Receipt :=
  ⟨Sample.services, []⟩

/-- What the save of a greeting ends with that is alone at that site, and the services after it. -/
def helloAlone : Except SaveError Receipt × World :=
  World.perform (save .standard (.segmented .standard) Sample.hello) quiet.services

/-- A greeting that is saved alone is committed, and its number is marked as stored. -/
theorem helloAlone_booked :
    helloAlone.1 = .ok storedHello.receipt ∧
      helloAlone.2.claims.liveClaim helloJob.key helloAlone.2.clock =
        some ⟨storedHello.serverId, Sample.hello.fingerprint, .committed⟩ ∧
      ∃ row, helloAlone.2.store.findByKey helloJob.key = some row ∧
        row.receipt = storedHello.receipt ∧
        storedHello.sequence.value ≤ (helloAlone.2.ledger.storedMarks row.conversation).1 := by
  have reached : Site.Reached savingDisturbed (.fresh Sample.clock .standard []) quiet := .opens
  have answered : helloAlone.1 = .ok storedHello.receipt := by decide +kernel
  have performed : helloAlone = (.ok storedHello.receipt, helloAlone.2) := by rw [← answered]
  obtain ⟨row, found, receipted, _, claimed, marked⟩ :=
    @books_after_save _ _ _ _ reached helloJob _ _ performed
  -- Committed claims live for a while, and nothing was stored under the key before.
  have lives : helloAlone.2.clock < helloAlone.2.clock.plus helloAlone.2.claims.lifetimes.committed := by
    decide +kernel
  exact ⟨answered, claimed.mpr (.inr lives), row, found, receipted, (marked.mpr (.inl rfl)).1⟩

/-- Services in memory where no number is ever marked as stored. -/
def World.answerUnmarked : (request : Service.Request) → World → Service.Reply request × World
  | .raiseCommitted _ _, w => (.error (.unavailable "down"), w)
  | request, w => answer request w

/-- The save of a greeting whose number could not be marked as stored. -/
def helloUnmarked : Site services World fun _ : SaveJob => Except SaveError Receipt :=
  .roundRobin World.answerUnmarked savingDisturbed.begins Sample.services [helloJob] 60

set_option maxRecDepth 100000 in
/-- A greeting whose number could not be marked as stored is answered when it is sent again, and its number
is still not marked. -/
theorem helloUnmarked_resend_unmarked :
    Site.Reached savingDisturbed (.fresh Sample.clock .standard []) helloUnmarked ∧
      let resent := World.perform (save .standard (.segmented .standard) Sample.hello)
        helloUnmarked.services
      resent.1 = .ok storedHello.receipt ∧
        ¬ storedHello.sequence.value ≤ (resent.2.ledger.storedMarks Sample.conversation).1 := by
  refine ⟨Site.reached_roundRobin (fun request w => ?_) _ _ _, ?_⟩
  · -- A mark that is not set is one of the failures that may come.
    cases request
    case raiseCommitted conversation stored => exact .failsBefore ⟨⟨_, rfl⟩, nofun⟩
    all_goals exact .answers
  · decide +kernel

end Intake
