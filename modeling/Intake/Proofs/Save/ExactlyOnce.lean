import Intake.Proofs.Concurrency.Schedule
import Intake.Proofs.Concurrency.World
import Intake.Proofs.Memory.MessageStore
import Intake.Proofs.Samples
import Intake.Save.Commit

/-! Saves that run at the same time store a message once, and all of them answer its receipt. -/

namespace Intake

/-- A save that was asked for, with the settings of the node it runs on. -/
structure SaveJob where
  config : SaveConfig
  allocator : Allocator
  submission : Submission

/-- Saves over the services in memory, where any call may fail in any way. -/
def saving : Setting services World fun _ : SaveJob => Except SaveError Receipt where
  reacts := World.Reacts Service.Failed
  drifts := World.Drifts
  begins job := save job.config job.allocator job.submission

/-- The rows that a reply shows to be stored, each with the key it is stored under. -/
def shownRows : (request : Service.Request) → Service.Reply request → List (ClaimKey × Message)
  | .insert message, .ok () => [(message.key, message)]
  | .findByKey key, .ok (some row) => [(key, row)]
  | _, _ => []

/-- A saver may call on anything, and remembers every row that it has seen to be stored. -/
def seenRows : Protocol services (List (ClaimKey × Message)) where
  permits _ _ := True
  moves request seen reply after := after = shownRows request reply ++ seen

/-- A failed call shows no row. -/
theorem shownRows_of_failed {request : Service.Request} {reply : Service.Reply request}
    (failed : Service.Failed request reply) : shownRows request reply = [] := by
  -- Only the replies to an insert and to a look-up show rows, and only if they succeed.
  cases request
  case insert => obtain ⟨failure, rfl⟩ := failed; rfl
  case findByKey => obtain ⟨failure, rfl⟩ := failed; rfl
  all_goals rfl

/-- A row that an answer shows is stored right after it. -/
theorem shownRows_stored {request : Service.Request} {w : World} {key : ClaimKey} {row : Message}
    (shown : (key, row) ∈ shownRows request (World.answer request w).1) :
    (World.answer request w).2.store.findByKey key = some row := by
  -- An insert that is answered as done has entered its message, and a look-up found its own.
  cases request
  case insert message =>
    cases inserted : (w.store.insert message).1 with
    | error failure => simp [World.answer, inserted, shownRows] at shown
    | ok done =>
      simp only [World.answer, inserted, shownRows, List.mem_singleton, Prod.mk.injEq] at shown
      obtain ⟨rfl, rfl⟩ := shown
      exact MessageStore.findByKey_of_inserted inserted
  case findByKey sought =>
    cases found : w.store.findByKey sought with
    | none => simp [World.answer, found, shownRows] at shown
    | some stored =>
      simp only [World.answer, found, shownRows, List.mem_singleton, Prod.mk.injEq] at shown
      obtain ⟨rfl, rfl⟩ := shown
      exact found
  all_goals simp [shownRows] at shown

/-- Taking effect, a call keeps every row that is stored. -/
theorem World.findByKey_answer {w : World} {key : ClaimKey} {row : Message}
    (found : w.store.findByKey key = some row) (request : Service.Request) :
    (answer request w).2.store.findByKey key = some row := by
  -- Only an insert touches the store, and it takes nothing out.
  rcases answer_store request w with same | ⟨message, _, inserted⟩
  · rwa [same]
  · rw [inserted]
    exact MessageStore.findByKey_insert found message

/-- The store is consistent, and every row that anyone has seen is in it. -/
structure RowsStored (w : World) (holdings : List (List (ClaimKey × Message))) : Prop where
  consistent : w.store.Consistent
  stored : ∀ seen ∈ holdings, ∀ key row, (key, row) ∈ seen → w.store.findByKey key = some row

namespace RowsStored

variable {w after : World} {holdings : List (List (ClaimKey × Message))}

/-- A store that has only grown still holds every row that was seen. -/
theorem grow (rows : RowsStored w holdings) (consistent : after.store.Consistent)
    (kept : ∀ key row, w.store.findByKey key = some row → after.store.findByKey key = some row) :
    RowsStored after holdings where
  -- Rows may have come, but none has gone.
  consistent := consistent
  stored := fun seen member key row known => kept key row (rows.stored seen member key row known)

/-- Taking effect, a call keeps every row that was seen. -/
theorem answer (rows : RowsStored w holdings) (request : Service.Request) :
    RowsStored (World.answer request w).2 holdings := by
  -- Only an insert touches the store, and it keeps it consistent.
  refine rows.grow ?_ fun _ _ found => World.findByKey_answer found request
  rcases World.answer_store request w with same | ⟨message, _, inserted⟩
  · exact same ▸ rows.consistent
  · exact inserted ▸ rows.consistent.insert message

/-- A caller may remember rows that are stored. -/
theorem remember (rows : RowsStored w holdings) {place : Nat} {seen : List (ClaimKey × Message)}
    (atPlace : holdings[place]? = some seen) {shown : List (ClaimKey × Message)}
    (stored : ∀ key row, (key, row) ∈ shown → w.store.findByKey key = some row) :
    RowsStored w (holdings.set place (shown ++ seen)) where
  consistent := rows.consistent
  stored := by
  -- Only the one holding is extended, and only by rows that are stored.
    intro seen' member key row known
    rcases List.mem_or_eq_of_mem_set member with earlier | same
    · exact rows.stored seen' earlier key row known
    · subst same
      rcases List.mem_append.mp known with new | old
      · exact stored key row new
      · exact rows.stored seen (List.mem_of_getElem? atPlace) key row old

/-- Whatever a call comes to, the rows that anyone has seen are stored. -/
theorem reacts (rows : RowsStored w holdings) {place : Nat} {seen : List (ClaimKey × Message)}
    (atPlace : holdings[place]? = some seen) {request : Service.Request}
    {reply : Service.Reply request}
    (reacted : World.Reacts Service.Failed request w reply after) :
    RowsStored after (holdings.set place (shownRows request reply ++ seen)) := by
  -- Whether or not a failed call took effect, its caller has seen nothing new.
  cases reacted with
  | answers => exact (rows.answer request).remember atPlace fun _ _ => shownRows_stored
  | failsBefore failed => exact rows.remember atPlace (by simp [shownRows_of_failed failed])
  | failsAfter failed =>
    exact (rows.answer request).remember atPlace (by simp [shownRows_of_failed failed])

/-- Changes of the services by themselves leave the rows alone. -/
theorem drifts (rows : RowsStored w holdings) (drifted : World.Drifts w after) :
    RowsStored after holdings :=
  rows.grow (drifted.store ▸ rows.consistent) fun _ _ found => drifted.store ▸ found

end RowsStored

namespace Save

variable {config : SaveConfig} {seen : List (ClaimKey × Message)}

/-- A receipt is only answered for a row seen under the key with the fingerprint. -/
def Acknowledges (key : ClaimKey) (fingerprint : Fingerprint)
    (outcome : Except SaveError Receipt) (seen : List (ClaimKey × Message)) : Prop :=
  ∀ receipt, outcome = .ok receipt →
    ∃ row, (key, row) ∈ seen ∧ row.fingerprint = fingerprint ∧ row.receipt = receipt

/-- Whatever a plan does, no row that was seen is forgotten. -/
theorem keeps_seen {α : Type} (plan : Procedure α) {known : List (ClaimKey × Message)}
    (subset : known ⊆ seen) :
    plan.Keeps seenRows (fun after => known ⊆ after) (fun _ after => known ⊆ after) seen := by
  -- The induction is on the plan. Every reply adds what it shows to what was seen before.
  induction plan generalizing seen with
  | done value => exact ⟨subset, subset⟩
  | ask request next ih =>
    refine ⟨subset, trivial, fun reply after moved => ih reply ?_⟩
    rw [moved]
    exact fun _ member => List.mem_append_right _ (subset member)
  | sleep span next ih => exact ih subset
  | within limit body next ihBody ihNext =>
    exact (ihBody subset).mono (fun _ kept => ihNext none kept) fun value _ kept =>
      ihNext (some value) kept

/-- A seen row with the key and the fingerprint may be acknowledged, then and later. -/
theorem acknowledges_row {key : ClaimKey} {row : Message} (known : (key, row) ∈ seen)
    {after : List (ClaimKey × Message)} (kept : seen ⊆ after) :
    Acknowledges key row.fingerprint (.ok row.receipt) after := by
  -- The row itself is the witness: it was shown, and a receipt is read off it.
  intro receipt same
  cases same
  exact ⟨row, kept known, rfl, rfl⟩

/-- A failure acknowledges nothing. -/
theorem acknowledges_error {key : ClaimKey} {fingerprint : Fingerprint} {failure : SaveError} :
    Acknowledges key fingerprint (.error failure) seen := by
  intro receipt same
  cases same

/-- A row that is found was seen under the key. -/
theorem findStored_keeps (context : SaveContext) (key : ClaimKey) :
    (findStored config context key).run.Keeps seenRows (fun _ => True)
      (fun outcome after => ∀ row, outcome = .ok (some row) → (key, row) ∈ after) seen := by
  -- Renaming failures adds no success, so only what the lookups themselves answer counts.
  suffices looked : (Plan.retryTransient config.retry config.callTimeout "find_by_client_message"
      (Procedure.findByKey key)).Keeps seenRows (fun _ => True)
      (fun outcome after => ∀ row, outcome = .ok (some row) → (key, row) ∈ after) seen from
    .adapt (looked.weaken fun _ _ _ shown row found =>
      shown row (Plan.ok_of_renamed found))
  refine .retryTransient (fun _ => True) (fun before _ => ?_) trivial
  refine .withDeadline (.call ⟨trivial, by simp⟩ trivial fun reply after moved => ?_)
  refine ⟨⟨trivial, by simp⟩, trivial, fun row found => ?_, fun _ _ => trivial⟩
  subst found
  have grown : after = shownRows (.findByKey key) (.ok (some row)) ++ before := moved
  simp [grown, shownRows]

/-- What a claim that was there leads to: only a receipt of a row seen to be stored is replayed. -/
def Replays (key : ClaimKey) (fingerprint : Fingerprint) (outcome : Except SaveError Claimed)
    (seen : List (ClaimKey × Message)) : Prop :=
  ∀ receipt, outcome = .ok (.replay receipt) → Acknowledges key fingerprint (.ok receipt) seen

/-- Going on from an earlier claim replays only what is stored. -/
theorem resume_keeps (context : SaveContext) (key : ClaimKey) (fingerprint : Fingerprint)
    (claim : Claim) :
    (resume config context key fingerprint claim).run.Keeps seenRows (fun _ => True)
      (Replays key fingerprint) seen := by
  -- The only way to a replay is a row that was looked up and has the right fingerprint.
  unfold resume
  dsimp only
  split
  · exact ⟨trivial, by simp [Replays]⟩
  refine .attempt (findStored_keeps context key) (by simp [Replays]) fun found after shown => ?_
  split
  · rename_i stored
    split
    · exact ⟨trivial, by simp [Replays]⟩
    rename_i same
    have known := shown stored rfl
    simp only [ne_eq, Decidable.not_not] at same
    subst same
    have replayed : ∀ {later}, after ⊆ later →
        Replays key stored.fingerprint (.ok (.replay stored.receipt)) later := by
      intro later kept receipt equal
      cases equal
      exact acknowledges_row known kept
    split
    · refine .lift ((keeps_seen _ (List.Subset.refl after)).mono (fun _ _ => trivial) ?_)
      exact fun _ later kept => ⟨trivial, replayed kept⟩
    · exact ⟨trivial, replayed (List.Subset.refl after)⟩
  · exact ⟨trivial, by simp [Replays]⟩
  · exact ⟨trivial, by simp [Replays]⟩

/-- Claiming a key replays only what is stored. -/
theorem claim_keeps (context : SaveContext) (key : ClaimKey) (fingerprint : Fingerprint) :
    (claim config context key fingerprint).run.Keeps seenRows (fun _ => True)
      (Replays key fingerprint) seen := by
  -- A claim that is made new replays nothing, and one that was there is gone on from.
  unfold claim
  refine .lift ((keeps_seen _ (List.Subset.refl seen)).mono (fun _ _ => trivial) ?_)
  intro proposed before _
  refine .attempt ((keeps_seen _ (List.Subset.refl before)).mono (fun _ _ => trivial)
    fun _ _ _ => trivial) (by simp [Replays]) fun outcome after _ => ?_
  cases outcome with
  | created serverId => exact ⟨trivial, by simp [Replays]⟩
  | existing claim => exact resume_keeps context key fingerprint claim

/-- Adopting a stored message acknowledges that message. -/
theorem adopt_keeps (draft : Draft) (winner : Message) (known : (draft.key, winner) ∈ seen) :
    (adopt config draft winner).run.Keeps seenRows (fun _ => True)
      (Acknowledges draft.key draft.fingerprint) seen := by
  -- The row is known to be stored, and marking the claim forgets nothing.
  unfold adopt
  dsimp only
  split
  · exact ⟨trivial, acknowledges_error⟩
  rename_i same
  simp only [ne_eq, Decidable.not_not] at same
  rw [← same]
  refine .lift ((keeps_seen _ (List.Subset.refl seen)).mono (fun _ _ => trivial) ?_)
  exact fun _ later kept => ⟨trivial, acknowledges_row known kept⟩

/-- A save that finds its key taken acknowledges what is stored under it. -/
theorem adoptWinner_keeps (draft : Draft) :
    (adoptWinner config draft).run.Keeps seenRows (fun _ => True)
      (Acknowledges draft.key draft.fingerprint) seen := by
  -- The row to adopt was looked up under the key of the draft.
  unfold adoptWinner
  refine .attempt (findStored_keeps draft.context draft.key)
    (fun _ _ _ => acknowledges_error) fun found after shown => ?_
  cases found with
  | none => exact ⟨trivial, acknowledges_error⟩
  | some winner => exact adopt_keeps draft winner (shown winner rfl)

/-- A change of identifier ends the save only with the receipt of what is stored under its key, and
otherwise leaves all of the draft but the identifier. -/
theorem rename_keeps (draft : Draft) :
    (rename config draft).run.Keeps seenRows (fun _ => True)
      (fun outcome after => (∀ receipt, outcome = .ok (.stored receipt) →
          Acknowledges draft.key draft.fingerprint (.ok receipt) after) ∧
        ∀ renamed, outcome = .ok (.draft renamed) →
          renamed.key = draft.key ∧ renamed.fingerprint = draft.fingerprint) seen := by
  -- A swap that succeeds changes the identifier alone. After one that fails the row is looked up.
  unfold rename
  refine .lift ((keeps_seen _ (List.Subset.refl seen)).mono (fun _ _ => trivial) ?_)
  intro candidate before _
  refine .attempt ((keeps_seen _ (List.Subset.refl before)).mono (fun _ _ => trivial)
    fun _ _ _ => trivial) (by simp) fun swapped after _ => ?_
  split
  · exact ⟨trivial, by simp, by intro renamed same; cases same; exact ⟨rfl, rfl⟩⟩
  refine .attempt (findStored_keeps draft.context draft.key) (by simp) fun found later shown => ?_
  cases found with
  | none => exact ⟨trivial, by simp, by simp⟩
  | some winner =>
    refine .attempt (adopt_keeps draft winner (shown winner rfl)) (by simp) ?_
    exact fun receipt last acknowledged =>
      ⟨trivial, by intro _ same; cases same; exact acknowledged, by simp⟩

/-- A save whose message is stored answers the receipt of it. -/
theorem finish_keeps (message : Message) (known : (message.key, message) ∈ seen) :
    (finish config message).Keeps seenRows (fun _ => True)
      (fun receipt after => Acknowledges message.key message.fingerprint (.ok receipt) after)
      seen := by
  -- What follows the insert may fail as it likes, as it forgets nothing.
  unfold finish
  refine .bind ((keeps_seen _ (List.Subset.refl seen)).mono (fun _ _ => trivial) ?_)
  intro _ before kept
  refine .bind ((keeps_seen _ kept).mono (fun _ _ => trivial) ?_)
  exact fun _ after kept => ⟨trivial, acknowledges_row known kept⟩

/-- A message whose insert is answered as done was seen to be stored. -/
theorem insert_keeps (message : Message) :
    (Plan.withDeadline "insert" config.callTimeout (Procedure.insert message)).Keeps seenRows
      (fun _ => True)
      (fun inserted after => inserted = .ok () → (message.key, message) ∈ after) seen := by
  -- A deadline that cuts the insert leaves no success to account for.
  refine .withDeadline (.call ⟨trivial, by simp⟩ trivial fun reply after moved => ?_)
  refine ⟨⟨trivial, by simp⟩, trivial, fun done => ?_⟩
  subst done
  have grown : after = shownRows (.insert message) (.ok ()) ++ seen := moved
  simp [grown, shownRows]

/-- Every way out of the rounds of inserting acknowledges only what is stored. -/
theorem insertIn_keeps (allocator : Allocator) (rounds : Nat) :
    ∀ (setbacks : Setbacks) (draft : Draft) (sequence : SequenceNumber)
      (seen : List (ClaimKey × Message)),
      (insertIn config allocator rounds setbacks draft sequence).run.Keeps seenRows (fun _ => True)
        (Acknowledges draft.key draft.fingerprint) seen := by
  -- The induction is on the rounds that are left. Every round keeps the draft's key and fingerprint.
  induction rounds with
  | zero => exact fun _ _ _ _ => ⟨trivial, acknowledges_error⟩
  | succ rounds ih =>
    intro setbacks draft sequence seen
    unfold insertIn
    refine .lift (.call trivial trivial fun now before _ => ⟨trivial, ?_⟩)
    refine .lift ((insert_keeps _).weaken fun inserted after _ stored => ?_)
    split
    -- The message is stored, and its key and fingerprint are those of the draft.
    · exact .liftLast (finish_keeps _ (stored rfl))
    -- The key is taken, and whoever took it is adopted or in conflict.
    · exact adoptWinner_keeps draft
    · dsimp only
      split
      · exact ⟨trivial, acknowledges_error⟩
      -- The identifier is taken: the claim may have moved on to a stored row, or another one is tried.
      refine .attempt (rename_keeps draft) (fun _ _ _ => acknowledges_error) ?_
      intro renamed later ended
      cases renamed with
      | stored receipt => exact ⟨trivial, ended.1 receipt rfl⟩
      | draft renamed =>
        obtain ⟨sameKey, sameFingerprint⟩ := ended.2 renamed rfl
        rw [← sameKey, ← sameFingerprint]
        exact ih _ _ _ _
    · dsimp only
      split
      · exact ⟨trivial, acknowledges_error⟩
      -- The number is taken: a higher one is allocated for the next round.
      refine .attempt ((keeps_seen _ (List.Subset.refl after)).mono (fun _ _ => trivial)
        fun _ _ _ => trivial) (fun _ _ _ => acknowledges_error) fun next later _ => ih _ _ _ _
    · split
      · dsimp only
        split
        · exact ⟨trivial, acknowledges_error⟩
        · exact .lift ⟨trivial, ih _ _ _ _⟩
      · exact ⟨trivial, acknowledges_error⟩

/-- Storing a draft acknowledges only what is stored. -/
theorem commit_keeps (allocator : Allocator) (draft : Draft) :
    (commit config allocator draft).run.Keeps seenRows (fun _ => True)
      (Acknowledges draft.key draft.fingerprint) seen := by
  -- An allocation shows no rows, and what follows it are the rounds of inserting.
  unfold commit
  refine .attempt ((keeps_seen _ (List.Subset.refl seen)).mono (fun _ _ => trivial)
    fun _ _ _ => trivial) (fun _ _ _ => acknowledges_error) fun sequence after _ => ?_
  exact insertIn_keeps allocator _ _ _ _ _

end Save

/-- A save acknowledges only what is stored under the key of its submission. -/
theorem save_keeps (job : SaveJob) (seen : List (ClaimKey × Message)) :
    (saving.begins job).Keeps seenRows (fun _ => True)
      (Save.Acknowledges (.ofOrigin job.submission.origin) job.submission.fingerprint) seen := by
  -- A replay was seen by the claiming, and any other receipt by the commit.
  show (save job.config job.allocator job.submission).Keeps _ _ _ _
  unfold save
  dsimp only
  refine .bind ((Save.claim_keeps _ _ _).weaken fun outcome after _ ended => ?_)
  split
  · exact ⟨trivial, Save.acknowledges_error⟩
  · exact ⟨trivial, ended _ rfl⟩
  · rename_i serverId
    refine .bind ((Save.commit_keeps _ _).weaken fun outcome later _ acknowledged => ?_)
    split
    · exact ⟨trivial, acknowledged⟩
    · refine .bind ((Save.keeps_seen _ (List.Subset.refl later)).mono (fun _ _ => trivial) ?_)
      exact fun _ _ _ => ⟨trivial, Save.acknowledges_error⟩

/-- The key a save is for. -/
def SaveJob.key (job : SaveJob) : ClaimKey := .ofOrigin job.submission.origin

/-- At every point of every run all that is seen is stored, and every saver goes on soundly. -/
theorem saving_upholds {clock : Instant} {lifetimes : ClaimLifetimes} {ready : List ServerId}
    {site : Site services World fun _ : SaveJob => Except SaveError Receipt}
    (reached : Site.Reached saving (World.fresh clock lifetimes ready) site) :
    site.Upholds seenRows (fun job => Save.Acknowledges job.key job.submission.fingerprint)
      RowsStored := by
  -- A save that begins has seen nothing, and every step keeps what is seen stored.
  refine Site.upholds_of_reached reached ⟨MessageStore.consistent_empty, by simp⟩ ?_ ?_ ?_
  · intro w holdings job rows
    refine ⟨[], save_keeps job [], rows.consistent, fun seen member key row known => ?_⟩
    rcases List.mem_append.mp member with earlier | new
    · exact rows.stored seen earlier key row known
    · simp at new; subst new; simp at known
  · exact fun _ _ _ _ _ _ _ rows atPlace _ reacted => ⟨_, rfl, rows.reacts atPlace reacted⟩
  · exact fun _ _ _ rows drifted => rows.drifts drifted

/-- A saver that answers a receipt leaves a row behind that the receipt is for. -/
theorem acknowledged_row {site : Site services World fun _ : SaveJob => Except SaveError Receipt}
    (upheld : site.Upholds seenRows
      (fun job => Save.Acknowledges job.key job.submission.fingerprint) RowsStored)
    {job : SaveJob} {receipt : Receipt} (answered : ⟨job, .done (.ok receipt)⟩ ∈ site.callers) :
    ∃ row, site.services.store.findByKey job.key = some row ∧
      row.fingerprint = job.submission.fingerprint ∧ row.receipt = receipt := by
  -- What a caller has seen to be stored is stored, and its receipt is for such a row.
  obtain ⟨holdings, rows, keep⟩ := upheld
  obtain ⟨place, atPlace⟩ := List.mem_iff_getElem?.mp answered
  obtain ⟨seen, atSeen, _, acknowledged⟩ := keep.held atPlace
  obtain ⟨row, known, same, receipted⟩ := acknowledged receipt rfl
  exact ⟨row, rows.stored seen (List.mem_of_getElem? atSeen) _ _ known, same, receipted⟩

/-- However saves are interleaved, and whatever fails or is lost: no two rows share a key, and all
receipts for a key are the one of the row that is stored under it. -/
theorem saves_store_exactly_once {clock : Instant} {lifetimes : ClaimLifetimes}
    {ready : List ServerId} {site : Site services World fun _ : SaveJob => Except SaveError Receipt}
    (reached : Site.Reached saving (World.fresh clock lifetimes ready) site) :
    (∀ first second one two, site.services.store.findByServerId first = some one →
      site.services.store.findByServerId second = some two → one.key = two.key →
      first = second ∧ one = two) ∧
    (∀ job receipt, ⟨job, .done (.ok receipt)⟩ ∈ site.callers →
      ∃ row, site.services.store.findByKey job.key = some row ∧ row.key = job.key ∧
        row.fingerprint = job.submission.fingerprint ∧ row.receipt = receipt) ∧
    (∀ job job' receipt receipt', ⟨job, .done (.ok receipt)⟩ ∈ site.callers →
      ⟨job', .done (.ok receipt')⟩ ∈ site.callers → job.key = job'.key → receipt = receipt') := by
  -- The store holds one row for a key, so the receipts of two saves are for the same row.
  have upheld := saving_upholds reached
  have consistent : site.services.store.Consistent := by
    obtain ⟨_, rows, _⟩ := upheld; exact rows.consistent
  refine ⟨fun _ _ _ _ => consistent.unique, ?_, ?_⟩
  · intro job receipt answered
    obtain ⟨row, found, same, receipted⟩ := acknowledged_row upheld answered
    exact ⟨row, found, consistent.key_of_found found, same, receipted⟩
  · intro job job' receipt receipt' answered answered' sameKey
    obtain ⟨row, found, _, rfl⟩ := acknowledged_row upheld answered
    obtain ⟨row', found', _, rfl⟩ := acknowledged_row upheld answered'
    rw [sameKey, found'] at found
    cases found
    rfl

/-- The save of a greeting. -/
def helloJob : SaveJob := ⟨.standard, .segmented .standard, Sample.hello⟩

/-- Two saves of a greeting that take turns until both are done. -/
def twoHellos : Site services World fun _ : SaveJob => Except SaveError Receipt :=
  .roundRobin World.answer saving.begins Sample.services [helloJob, helloJob] 60

set_option maxRecDepth 100000 in
/-- Two saves of a greeting that are interleaved are both answered, with the receipt of one row. -/
theorem twoHellos_store_one_row :
    ∃ receipt row, twoHellos.callers[0]? = some ⟨helloJob, .done (.ok receipt)⟩ ∧
      twoHellos.callers[1]? = some ⟨helloJob, .done (.ok receipt)⟩ ∧
      twoHellos.services.store.findByKey helloJob.key = some row ∧ row.receipt = receipt := by
  -- The second save finds the key claimed by the first one, or taken once it is stored.
  have reached : Site.Reached saving (.fresh Sample.clock .standard []) twoHellos :=
    Site.reached_roundRobin (fun _ _ => World.Reacts.answers) _ _ _
  let receipt : Receipt := ⟨⟨Uuid.ofNat 0x1001⟩, ⟨1⟩, Sample.clock⟩
  have first : twoHellos.callers[0]? = some ⟨helloJob, .done (.ok receipt)⟩ := rfl
  have second : twoHellos.callers[1]? = some ⟨helloJob, .done (.ok receipt)⟩ := rfl
  obtain ⟨row, found, _, _, same⟩ :=
    (saves_store_exactly_once reached).2.1 helloJob receipt (List.mem_of_getElem? first)
  exact ⟨receipt, row, first, second, found, same⟩

end Intake
