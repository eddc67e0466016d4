import Intake.Proofs.Memory.Shelf
import Intake.Proofs.Save.ExactlyOnce
import Intake.Proofs.Save.Resend
import Intake.Proofs.Save.Scope

/-! In which conversation an acknowledged message is found: that of the submission it was stored for,
which has the same key, but may go to another conversation. -/

namespace Intake

/-- The conversation that a save is for. -/
def SaveJob.conversation (job : SaveJob) : Conversation := .ofOrigin job.submission.origin

/-- A saver calls only on what concerns the message of one origin. -/
def concerning : Protocol services Origin where
  permits request origin := Service.Concerns origin request
  moves _ origin _ after := after = origin

/-- The store is in order, and every stored message is of an origin that was submitted. -/
structure OriginsSubmitted (submitted : Origin → Prop) (w : World) (holdings : List Origin) : Prop where
  consistent : w.store.Consistent
  shelved : w.store.Shelved
  stored : ∀ serverId row, w.store.findByServerId serverId = some row → submitted row.origin
  underWay : ∀ origin ∈ holdings, submitted origin

namespace OriginsSubmitted

variable {submitted : Origin → Prop} {w after : World} {holdings : List Origin}

/-- Services that hold nothing are in order. -/
theorem opening (clock : Instant) (lifetimes : ClaimLifetimes) (ready : List ServerId) :
    OriginsSubmitted submitted (.fresh clock lifetimes ready) [] where
  -- Nothing is stored yet, and no save is under way.
  consistent := MessageStore.consistent_empty
  shelved := MessageStore.shelved_empty
  stored := by simp [World.fresh, MessageStore.findByServerId, MessageStore.empty]
  underWay := by simp

/-- A saver may join with an origin that was submitted. -/
theorem join (origins : OriginsSubmitted submitted w holdings) {origin : Origin}
    (given : submitted origin) : OriginsSubmitted submitted w (holdings ++ [origin]) :=
  -- The store is as before, and the one new save is of a submitted origin.
  { origins with
    underWay := fun other member => by
      rcases List.mem_append.mp member with earlier | new
      · exact origins.underWay other earlier
      · rw [List.mem_singleton.mp new]
        exact given }

/-- Services with the same messages are in order as well. -/
theorem of_store (origins : OriginsSubmitted submitted w holdings) (same : after.store = w.store) :
    OriginsSubmitted submitted after holdings where
  -- Only the store is read here, beside the list of the saves under way.
  consistent := same ▸ origins.consistent
  shelved := same ▸ origins.shelved
  stored := same ▸ origins.stored
  underWay := origins.underWay

/-- Whatever a call comes to, the messages are of submitted origins. -/
theorem reacts (origins : OriginsSubmitted submitted w holdings) {origin : Origin}
    (underWay : origin ∈ holdings) {request : Service.Request} {reply : Service.Reply request}
    (permitted : Service.Concerns origin request)
    (reacted : World.Reacts Service.Failed request w reply after) :
    OriginsSubmitted submitted after holdings := by
  -- Only an insert touches the store, and it is of the message that the saver is at work on.
  rcases reacted.store with same | same
  · exact origins.of_store same
  · rcases World.answer_store request w with unchanged | ⟨message, rfl, inserted⟩
    · exact origins.of_store (same.trans unchanged)
    · rw [inserted] at same
      constructor
      · exact same ▸ origins.consistent.insert message
      · exact same ▸ origins.shelved.insert message
      · intro serverId row found
        rw [same] at found
        rcases MessageStore.findByServerId_of_insert found with before | ⟨rfl, _⟩
        · exact origins.stored serverId row before
        · have own : row.origin = origin := permitted
          exact own ▸ origins.underWay origin underWay
      · exact origins.underWay

end OriginsSubmitted

namespace Site

variable {site : Site Intake.services World fun _ : SaveJob => Except SaveError Receipt}

/-- At every point of every run the stored messages are of origins that were submitted. -/
theorem origins_submitted {clock : Instant} {lifetimes : ClaimLifetimes} {ready : List ServerId}
    (reached : Reached saving (World.fresh clock lifetimes ready) site) :
    ∃ holdings, OriginsSubmitted
      (fun origin => ∃ caller ∈ site.callers, caller.job.submission.origin = origin)
      site.services holdings := by
  -- Whatever was submitted until some point of the run was submitted in the end.
  have given : ∀ job ∈ site.callers.map (·.job),
      ∃ caller ∈ site.callers, caller.job.submission.origin = job.submission.origin := by
    intro job member
    obtain ⟨caller, there, rfl⟩ := List.mem_map.mp member
    exact ⟨caller, there, rfl⟩
  have upheld : site.Upholds concerning (fun _ _ _ => True) (OriginsSubmitted
      fun origin => ∃ caller ∈ site.callers, caller.job.submission.origin = origin) := by
    refine upholds_of_jobs reached given (.opening _ _ _) ?_ ?_ ?_
    · intro w holdings job given origins
      have keeps : (saving.begins job).Keeps concerning
          (fun after => after = job.submission.origin ∧ True)
          (fun _ after => after = job.submission.origin ∧ True) job.submission.origin :=
        (save_concerns job.config job.allocator job.submission).of_only
          fun request permitted => ⟨permitted, fun _ _ moved => moved⟩
      exact ⟨_, keeps.mono (fun _ _ => trivial) fun _ _ _ => trivial, origins.join given⟩
    · intro w holdings place origin request reply after origins atPlace permitted reacted
      obtain ⟨inside, here⟩ := List.getElem?_eq_some_iff.mp atPlace
      have unchanged : holdings.set place origin = holdings := here ▸ List.set_getElem_self inside
      exact ⟨origin, rfl, unchanged.symm ▸
        origins.reacts (List.mem_of_getElem? atPlace) permitted reacted⟩
    · exact fun _ _ _ origins drifted => origins.of_store drifted.store
  obtain ⟨holdings, origins, _⟩ := upheld
  exact ⟨holdings, origins⟩

end Site

/-- An acknowledged message is stored under its key and listed whenever its conversation is read. That is
the one of a submission with the key, though maybe not this one. -/
theorem acknowledged_message_listed {clock : Instant} {lifetimes : ClaimLifetimes}
    {ready : List ServerId} {site : Site services World fun _ : SaveJob => Except SaveError Receipt}
    (reached : Site.Reached saving (World.fresh clock lifetimes ready) site) {job : SaveJob}
    {receipt : Receipt} (answered : ⟨job, .done (.ok receipt)⟩ ∈ site.callers) :
    ∃ row, site.services.store.findByServerId receipt.serverId = some row ∧
      site.services.store.findByKey job.key = some row ∧ row.key = job.key ∧
      row.fingerprint = job.submission.fingerprint ∧ row.receipt = receipt ∧
      (∀ cursor limit, cursor.value < receipt.sequence.value →
        (site.services.store.shelf row.conversation).length ≤ limit →
        row ∈ site.services.store.findAfter row.conversation cursor limit) ∧
      (∃ caller ∈ site.callers, caller.job.key = job.key ∧ caller.job.conversation = row.conversation) ∧
      ((∀ caller ∈ site.callers, caller.job.key = job.key →
        caller.job.conversation = job.conversation) → row.conversation = job.conversation) ∧
      (row.conversation ≠ job.conversation → ∀ cursor limit,
        ∀ message ∈ site.services.store.findAfter job.conversation cursor limit,
          message.serverId ≠ receipt.serverId) := by
  obtain ⟨row, found, sameFingerprint, rfl⟩ := acknowledged_row (saving_upholds reached) answered
  obtain ⟨holdings, origins⟩ := Site.origins_submitted reached
  have sameKey := origins.consistent.key_of_found found
  -- The key leads to an identifier, which is that of the message.
  have byServerId : site.services.store.findByServerId row.serverId = some row := by
    obtain ⟨serverId, _, atId⟩ := Option.bind_eq_some_iff.mp found
    obtain ⟨named, _⟩ := origins.consistent.filed serverId row atId
    rw [named]
    exact atId
  obtain ⟨caller, there, sameOrigin⟩ := origins.stored _ _ byServerId
  have callerKey : caller.job.key = job.key := by
    rw [← sameKey, SaveJob.key, sameOrigin]
    rfl
  have callerConversation : caller.job.conversation = row.conversation := by
    rw [SaveJob.conversation, sameOrigin]
    rfl
  refine ⟨row, byServerId, found, sameKey, sameFingerprint, rfl, ?listed,
    ⟨caller, there, callerKey, callerConversation⟩, ?alike, ?elsewhere⟩
  case listed => exact fun cursor limit behind room => origins.shelved.listed byServerId behind room
  case alike => exact fun alike => callerConversation.symm.trans (alike caller there callerKey)
  case elsewhere =>
    -- Whatever is listed in a conversation belongs to it, and no two messages share an identifier.
    intro differ cursor limit message listed sameId
    have same : message.serverId = row.serverId := sameId
    obtain ⟨atId, here⟩ := origins.shelved.of_listed origins.consistent listed
    rw [same, byServerId] at atId
    cases atId
    exact differ here

/-- A greeting with the name of another one, to another conversation. -/
def movedHello : Submission :=
  { Sample.hello with origin :=
    { Sample.origin with conversation := ⟨"room", by decide, by decide, by decide⟩ } }

/-- A greeting that is sent again to another conversation is acknowledged with the receipt of the first
one, and the other conversation stays empty. -/
theorem movedHello_not_in_its_conversation :
    let moved := World.perform (save .standard (.segmented .standard) movedHello) helloSaved
    moved.1 = .ok storedHello.receipt ∧
      moved.2.store.findAfter (.ofOrigin movedHello.origin) .zero 10 = [] ∧
      ¬ ∃ message, moved.2.store.findByServerId storedHello.receipt.serverId = some message ∧
        message.conversation = .ofOrigin movedHello.origin ∧
        message.sequence = storedHello.receipt.sequence := by
  -- The row that answers for the identifier lies in the first conversation, and it is the only one.
  have stored : (World.perform (save .standard (.segmented .standard) movedHello)
      helloSaved).2.store.findByServerId storedHello.serverId = some storedHello := by
    decide +kernel
  refine ⟨by decide +kernel, by decide +kernel, ?_⟩
  rintro ⟨message, found, here, _⟩
  obtain rfl := Option.some.inj (stored.symm.trans found)
  exact absurd here (by decide +kernel)

/-- The save of a greeting to another conversation. -/
def movedJob : SaveJob := ⟨.standard, .segmented .standard, movedHello⟩

/-- Two saves of a greeting to two conversations, which take turns until both are done. -/
def helloAndMoved : Site services World fun _ : SaveJob => Except SaveError Receipt :=
  .roundRobin World.answer saving.begins Sample.services [helloJob, movedJob] 60

set_option maxRecDepth 100000 in
/-- Of two saves of a greeting to two conversations the second one is acknowledged as well, with the
message that is listed for the first one. -/
theorem helloAndMoved_listed :
    ⟨movedJob, .done (.ok storedHello.receipt)⟩ ∈ helloAndMoved.callers ∧
      ∃ row ∈ helloAndMoved.services.store.findAfter helloJob.conversation .zero 10,
        row.key = movedJob.key ∧ row.receipt = storedHello.receipt ∧
          row.conversation ≠ movedJob.conversation := by
  have reached : Site.Reached saving (.fresh Sample.clock .standard []) helloAndMoved :=
    Site.reached_roundRobin (fun _ _ => World.Reacts.answers) _ _ _
  have answered : ⟨movedJob, .done (.ok storedHello.receipt)⟩ ∈ helloAndMoved.callers :=
    List.mem_of_getElem? (i := 1) rfl
  obtain ⟨row, found, _, sameKey, _, _, listed, _⟩ := acknowledged_message_listed reached answered
  -- The row is found by its identifier, which makes it the first message.
  have stored : helloAndMoved.services.store.findByServerId storedHello.serverId =
      some storedHello := rfl
  obtain rfl := Option.some.inj (stored.symm.trans found)
  exact ⟨answered, storedHello, listed .zero 10 (by decide) (by decide +kernel), sameKey, rfl,
    by decide +kernel⟩

end Intake
