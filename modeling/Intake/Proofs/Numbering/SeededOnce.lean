import Mathlib.Data.List.Basic
import Mathlib.Data.List.Pairwise
import Intake.Proofs.Concurrency.Schedule
import Intake.Proofs.Numbering.ColdStart
import Intake.Proofs.Samples

/-! Cold starts at the same time: one caller alone starts the counter, the numbers that are counted
follow on the one it was started at, and every lock that is taken is released by its owner. -/

namespace Intake

namespace CountStage

variable {conversation : Conversation} {exchange : Exchange services World} {stage next : CountStage}
  {token : LockToken}

/-- The range that an allocation has. -/
def range : CountStage → Option NumberRange
  | .counted range => some range
  | _ => none

/-- The token of the lock that an allocation has. -/
def holds : CountStage → Option LockToken
  | .locked token | .read token _ => some token
  | _ => none

namespace Turns

/-- A range comes from an increment. -/
theorem range_eq (turns : Turns conversation exchange.request stage exchange.reply next) :
    next.range.toList = stage.range.toList ++ exchange.counted.toList := by
  -- The one turn that brings a range begins without one.
  obtain ⟨place, request, reply, before, after⟩ := exchange
  dsimp only at turns
  cases turns <;> rfl

/-- A lock is taken under the token drawn for it, and is then at hand. -/
theorem of_locked (turns : Turns conversation exchange.request stage exchange.reply next)
    (locked : exchange.locked = some token) : stage = .drew token ∧ next.holds = some token := by
  -- Of all turns one alone has such a call and such a reply.
  obtain ⟨place, request, reply, before, after⟩ := exchange
  dsimp only at turns
  cases turns <;> cases locked
  exact ⟨rfl, rfl⟩

/-- A lock is released only by an allocation that has it. -/
theorem of_unlocks (turns : Turns conversation exchange.request stage exchange.reply next)
    (unlocks : exchange.unlocks = some token) : stage.holds = some token := by
  -- There is one turn that unlocks, and it is taken at a stage that holds the lock.
  obtain ⟨place, request, reply, before, after⟩ := exchange
  dsimp only at turns
  cases turns <;> cases unlocks
  rfl

/-- A counter is started only at a number that was read. -/
theorem of_seeds (turns : Turns conversation exchange.request stage exchange.reply next)
    {value : UInt64} (seeds : exchange.seeds = some value) : ∃ token, stage = .read token ⟨value⟩ := by
  -- The one turn with such a call is at the stage that a reading leads to.
  obtain ⟨place, request, reply, before, after⟩ := exchange
  dsimp only at turns
  cases turns with
  | seeds token same =>
    cases seeds
    subst same
    exact ⟨token, rfl⟩
  | counts | misses | countFails | stamps | draws | locks | waits | lockFails | reads | readFails
  | unlocks => cases seeds

/-- A lock that is at hand was at hand before, or has been taken. -/
theorem holds_before (turns : Turns conversation exchange.request stage exchange.reply next)
    (holds : next.holds = some token) : stage.holds = some token ∨ exchange.locked = some token := by
  -- One turn brings the lock, and three keep it.
  obtain ⟨place, request, reply, before, after⟩ := exchange
  dsimp only at turns
  cases turns with
  | locks => exact .inr holds
  | reads | readFails | seeds => exact .inl holds
  | counts | misses | countFails | stamps | draws | waits | lockFails | unlocks => cases holds

/-- A lock that was at hand is still, or its release was asked for. -/
theorem holds_after (turns : Turns conversation exchange.request stage exchange.reply next)
    (holds : stage.holds = some token) : next.holds = some token ∨ exchange.unlocks = some token := by
  -- One turn gives the lock away, and three keep it.
  obtain ⟨place, request, reply, before, after⟩ := exchange
  dsimp only at turns
  cases turns with
  | unlocks => exact .inr holds
  | reads | readFails | seeds => exact .inl holds
  | counts | misses | countFails | stamps | draws | locks | waits | lockFails => cases holds

/-- A token is at hand after it was drawn. -/
theorem drawn (turns : Turns conversation exchange.request stage exchange.reply (.drew token)) :
    exchange.drawn = some token := by
  -- Only drawing a token leads to the stage at which one was drawn.
  obtain ⟨place, request, reply, before, after⟩ := exchange
  dsimp only at turns
  cases turns
  rfl

/-- A number to start from is at hand after it was read. -/
theorem marked {floor : SequenceNumber}
    (turns : Turns conversation exchange.request stage exchange.reply (.read token floor)) :
    exchange.mark = some floor := by
  -- Only reading the watermarks leads to the stage at which they were read.
  obtain ⟨place, request, reply, before, after⟩ := exchange
  dsimp only at turns
  cases turns
  rfl

end Turns

variable {own earlier later : List (Exchange services World)} {first : CountStage}
  {past : List (Exchange services World)} {holdings : List CountStage}

/-- An allocation has the range of its own increment, and no other one of its increments has brought
any. -/
theorem counted_of_follows (follows : Site.Follows (counting conversation) .idle own stage) :
    own.filterMap Exchange.counted = stage.range.toList := by
  -- The induction is on the calls, of which the one that brings the range is made without one at hand.
  induction follows with
  | begins => rfl
  | @goesOn own exchange _ _ _ _ turns ih =>
    rw [List.filterMap_append, ih, turns.range_eq]
    cases counted : exchange.counted <;> simp [counted]

/-- A lock at hand has been taken. -/
theorem locked_of_follows (follows : Site.Follows (counting conversation) .idle own stage)
    (holds : stage.holds = some token) : ∃ lock ∈ own, lock.locked = some token := by
  -- The induction is on the calls, the last of which may be the one that has taken the lock.
  induction follows with
  | begins => cases holds
  | @goesOn own exchange _ _ _ _ turns ih =>
    rcases turns.holds_before holds with before | locked
    · obtain ⟨lock, member, locked⟩ := ih before
      exact ⟨lock, List.mem_append_left _ member, locked⟩
    · exact ⟨exchange, by simp, locked⟩

/-- A lock that was at hand is still, or its release was asked for since then. -/
theorem released_of_follows (follows : Site.Follows (counting conversation) first own stage)
    (holds : first.holds = some token) :
    stage.holds = some token ∨ ∃ release ∈ own, release.unlocks = some token := by
  -- The induction is on the calls since then, whatever stage they began at.
  induction follows with
  | begins => exact .inl holds
  | @goesOn own exchange _ _ _ _ turns ih =>
    rcases ih with before | ⟨release, member, unlocks⟩
    · rcases turns.holds_after before with still | unlocks
      · exact .inl still
      · exact .inr ⟨exchange, by simp, unlocks⟩
    · exact .inr ⟨release, List.mem_append_left _ member, unlocks⟩

/-- The token at hand was drawn last. -/
theorem drawn_of_follows (follows : Site.Follows (counting conversation) .idle own (.drew token)) :
    ∃ draw, own.getLast? = some draw ∧ draw.drawn = some token := by
  cases follows with
  | goesOn _ _ turns => exact ⟨_, List.getLast?_concat, Turns.drawn turns⟩

/-- The number at hand to start from was read last. -/
theorem marked_of_follows {floor : SequenceNumber}
    (follows : Site.Follows (counting conversation) .idle own (.read token floor)) :
    ∃ read, own.getLast? = some read ∧ read.mark = some floor := by
  -- A caller is at this stage only after a turn that has read the mark.
  cases follows with
  | goesOn _ _ turns => exact ⟨_, List.getLast?_concat, Turns.marked turns⟩

/-- A lock is released by a caller that has taken it before. -/
theorem locked_of_unlocks
    (follows : Site.Follows (counting conversation) .idle (earlier ++ exchange :: later) stage)
    (unlocks : exchange.unlocks = some token) : ∃ lock ∈ earlier, lock.locked = some token := by
  -- The lock was at hand when the call was made.
  obtain ⟨_, _, before, turns, _⟩ := follows.at_call
  exact locked_of_follows before (Turns.of_unlocks turns unlocks)

/-- A lock is taken by a caller that has drawn its token before. -/
theorem drawn_of_locked
    (follows : Site.Follows (counting conversation) .idle (earlier ++ exchange :: later) stage)
    (locked : exchange.locked = some token) : ∃ draw ∈ earlier, draw.drawn = some token := by
  -- The token was at hand when the call was made, so it was drawn right before.
  obtain ⟨_, _, before, turns, _⟩ := follows.at_call
  obtain ⟨rfl, _⟩ := Turns.of_locked turns locked
  obtain ⟨draw, last, drawn⟩ := drawn_of_follows before
  exact ⟨draw, List.mem_of_getLast? last, drawn⟩

/-- A lock is released by a caller that has drawn its token before. -/
theorem drawn_of_unlocks
    (follows : Site.Follows (counting conversation) .idle (earlier ++ exchange :: later) stage)
    (unlocks : exchange.unlocks = some token) : ∃ draw ∈ earlier, draw.drawn = some token := by
  -- The token was drawn before the lock was taken, and the lock taken before.
  obtain ⟨lock, member, locked⟩ := locked_of_unlocks follows unlocks
  obtain ⟨before, between, rfl⟩ := List.append_of_mem member
  obtain ⟨_, upTo, _⟩ := follows.split
  obtain ⟨draw, member, drawn⟩ := drawn_of_locked upTo locked
  exact ⟨draw, List.mem_append_left _ member, drawn⟩

/-- A lock that was taken has been released when nothing is at hand any more. -/
theorem released_of_locked
    (follows : Site.Follows (counting conversation) .idle (earlier ++ exchange :: later) stage)
    (locked : exchange.locked = some token) (free : stage.holds = none) :
    ∃ release ∈ later, release.unlocks = some token := by
  -- The lock was at hand right after it was taken, from where the later calls lead on.
  obtain ⟨_, _, _, turns, after⟩ := follows.at_call
  obtain ⟨_, holds⟩ := Turns.of_locked turns locked
  rcases released_of_follows after holds with still | released
  · rw [free] at still
    cases still
  · exact released

/-- Every call in the record was made at some stage of its caller. -/
theorem turns_of_mem (follow : Site.AllFollow (counting conversation) .idle past holdings)
    {exchange : Exchange services World} (member : exchange ∈ past) :
    ∃ stage next, Turns conversation exchange.request stage exchange.reply next := by
  -- The exchange is a call of its caller, whose calls follow the turns one by one.
  obtain ⟨earlier, later, rfl⟩ := List.append_of_mem member
  have own := follow exchange.place
  rw [Site.callsOf_split] at own
  obtain ⟨stage, next, _, turns, _⟩ := own.at_call
  exact ⟨stage, next, turns⟩

/-- A token under which a lock was taken or is to be released was drawn by the same caller. -/
theorem drawn_of_mem (follow : Site.AllFollow (counting conversation) .idle past holdings)
    (member : exchange ∈ past)
    (named : exchange.locked = some token ∨ exchange.unlocks = some token) :
    ∃ draw ∈ past, draw.place = exchange.place ∧ draw.drawn = some token := by
  -- The earlier calls of the same caller are among all the earlier ones.
  obtain ⟨earlier, later, rfl⟩ := List.append_of_mem member
  have own := follow exchange.place
  rw [Site.callsOf_split] at own
  obtain ⟨draw, member, drawn⟩ := named.elim (drawn_of_locked own) (drawn_of_unlocks own)
  obtain ⟨member, place⟩ := Site.mem_callsOf.mp member
  exact ⟨draw, List.mem_append_left _ member, place, drawn⟩

end CountStage

/-- One call alone has started the counter. -/
structure StartedBy (conversation : Conversation) (past earlier later : List (Exchange services World))
    (seeding : Exchange services World) : Prop where
  record : past = earlier ++ seeding :: later
  starts : seeding.Starts conversation
  alone : ∀ other ∈ earlier ++ later, ¬ other.Starts conversation

/-- The numbers that are counted in a record, in the order of the increments. -/
def countedNumbers (past : List (Exchange services World)) : List Nat :=
  ((past.filterMap Exchange.counted).flatMap NumberRange.numbers).map (·.value.toNat)

/-- One call alone has started the counter, at the number that its caller had read from the ledger last,
and the numbers counted since then follow on that one without gap and overlap. -/
structure SeededBy (conversation : Conversation) (past earlier later : List (Exchange services World))
    (seeding : Exchange services World) (floor : UInt64) : Prop
    extends StartedBy conversation past earlier later seeding where
  reading : ∃ read, (Site.callsOf seeding.place earlier).getLast? = some read ∧
    read.mark = some ⟨floor⟩ ∧ floor = read.before.ledger.highWater conversation
  tiles : ∃ amount, countedNumbers past = List.range' (floor.toNat + 1) amount

/-- An allocation that has returned has the range of its only increment to succeed, or none if it has
failed, and has asked for the release of every lock it took. -/
structure Returned (conversation : Conversation) (now : World) (own : List (Exchange services World))
    (need : UInt64) (outcome : Except AllocationError Grant) : Prop where
  granted : ∀ grant, outcome = .ok grant →
    own.filterMap Exchange.counted = [grant.range] ∧ grant.range.count = need
  failed : ∀ failure, outcome = .error failure → own.filterMap Exchange.counted = []
  /-- No lock is left behind under its token, unless the call that was to release it has failed. -/
  released : ∀ earlier lock later token, own = earlier ++ lock :: later → lock.locked = some token →
    ∃ release ∈ later, release.unlocks = some token ∧
      (release.Fails ∨ now.liveLock conversation ≠ some token)

/-- Whoever asks for the release of a lock has taken it before, and a lock that lives under the token of
another caller is left to that one. -/
structure ReleasedByOwner (conversation : Conversation) (past : List (Exchange services World)) :
    Prop where
  owned : ∀ earlier release later token, past = earlier ++ release :: later →
    release.unlocks = some token → ∃ lock ∈ earlier, lock.place = release.place ∧
      lock.locked = some token
  spared : ∀ lock ∈ past, ∀ release ∈ past, ∀ owner token, lock.locked = some owner →
    release.unlocks = some token → lock.place ≠ release.place →
    release.before.liveLock conversation = some owner →
    release.after.liveLock conversation = some owner

/-- One call alone has started the counter at a number, and those up to a value were counted since. -/
structure CountedFrom (conversation : Conversation)
    (past earlier later : List (Exchange services World)) (seeding : Exchange services World)
    (floor value : UInt64) : Prop extends StartedBy conversation past earlier later seeding where
  seeds : seeding.seeds = some floor
  above : floor.toNat ≤ value.toNat
  tiles : countedNumbers past = List.range' (floor.toNat + 1) (value.toNat - floor.toNat)

/-- What the calls made so far have done to the counter: it was not started and nothing was counted, or
one call has started it and the numbers up to its value were counted since. -/
def Tallied (conversation : Conversation) (past : List (Exchange services World)) (w : World) : Prop :=
  ((∀ exchange ∈ past, ¬ exchange.Starts conversation) ∧ past.filterMap Exchange.counted = [] ∧
    w.liveCounter conversation = none) ∨
  ∃ earlier seeding later floor value, CountedFrom conversation past earlier later seeding floor value ∧
    w.liveCounter conversation = some value

/-- A call that does not start the counter leaves it to the one that did. -/
theorem StartedBy.append {conversation : Conversation}
    {past earlier later : List (Exchange services World)} {seeding last : Exchange services World}
    (started : StartedBy conversation past earlier later seeding)
    (idle : ¬ last.Starts conversation) :
    StartedBy conversation (past ++ [last]) earlier (later ++ [last]) seeding where
  -- The one more exchange starts no counter, so that the seeding stays the only one.
  record := by simp [started.record]
  starts := started.starts
  alone := by simpa [or_imp, forall_and, and_assoc] using And.intro started.alone idle

/-- A call without a range counts no numbers. -/
theorem countedNumbers_append_none {past : List (Exchange services World)}
    {last : Exchange services World} (uncounted : last.counted = none) :
    countedNumbers (past ++ [last]) = countedNumbers past := by
  simp [countedNumbers, uncounted]

/-- A call with a range counts its numbers after the others. -/
theorem countedNumbers_append_some {past : List (Exchange services World)}
    {last : Exchange services World} {range : NumberRange} (counted : last.counted = some range) :
    countedNumbers (past ++ [last]) = countedNumbers past ++ range.numbers.map (·.value.toNat) := by
  simp [countedNumbers, counted]

/-- A call is tallied by what it does to the counter. -/
theorem Tallied.calls {conversation : Conversation} {past : List (Exchange services World)}
    {stage next : CountStage} {last : Exchange services World}
    (tallied : Tallied conversation past last.before)
    (turns : CountStage.Turns conversation last.request stage last.reply next)
    (reacted : (coldStarting conversation).reacts last.request last.before last.reply last.after) :
    Tallied conversation (past ++ [last]) last.after := by
  -- There is one case for each thing that a call may do to the counter.
  rcases last.counter_cases turns reacted with
    ⟨kept, uncounted⟩ | ⟨value, gone, begun, seeds, uncounted⟩ |
    ⟨value, sum, range, alive, raised, counted, upward, numbers⟩
  · -- The counter is as it was, and so is what was counted.
    have idle : ¬ last.Starts conversation := fun starts => starts.2 (kept.trans starts.1)
    rcases tallied with ⟨none', nothing, gone⟩ |
      ⟨earlier, seeding, later, floor, value, counted, alive⟩
    · refine .inl ⟨?_, by simp [nothing, uncounted], kept.trans gone⟩
      simpa [or_imp, forall_and] using ⟨none', idle⟩
    · exact .inr ⟨earlier, seeding, later ++ [last], floor, value, {
        counted.toStartedBy.append idle with
        seeds := counted.seeds
        above := counted.above
        tiles := (countedNumbers_append_none uncounted).trans counted.tiles }, kept.trans alive⟩
  · rcases tallied with ⟨none', nothing, _⟩ | ⟨_, _, _, _, _, _, alive⟩
    · -- The call is the first to start the counter, and nothing was counted before it.
      refine .inr ⟨past, last, [], value, value, {
        record := rfl
        starts := ⟨gone, by simp [begun]⟩
        alone := by simpa using none'
        seeds
        above := Nat.le_refl _
        tiles := ?_ }, begun⟩
      rw [countedNumbers_append_none uncounted, countedNumbers, nothing, Nat.sub_self]
      rfl
    · -- There was a counter already, so this call has not started it.
      rw [gone] at alive
      cases alive
  · rcases tallied with ⟨_, _, gone⟩ | ⟨earlier, seeding, later, floor, _, before, alive'⟩
    · rw [alive] at gone
      cases gone
    · cases alive.symm.trans alive'
      have idle : ¬ last.Starts conversation := by
        intro starts
        cases starts.1.symm.trans alive
      refine .inr ⟨earlier, seeding, later ++ [last], floor, sum, {
        before.toStartedBy.append idle with
        seeds := before.seeds
        above := Nat.le_trans before.above upward
        tiles := ?_ }, raised⟩
      -- The range of this call goes on where the ones before it end.
      have above := before.above
      have joins : value.toNat + 1 = floor.toNat + 1 + (value.toNat - floor.toNat) := by omega
      have total : sum.toNat - floor.toNat =
          (value.toNat - floor.toNat) + (sum.toNat - value.toNat) := by omega
      rw [countedNumbers_append_some counted, before.tiles, numbers, total, ← List.range'_append_1,
        ← joins]

/-- Two calls do not draw the same token. -/
def DrawnApart (draw other : Exchange services World) : Prop :=
  ∀ token, draw.drawn = some token → other.drawn ≠ some token

instance : Std.Symm DrawnApart := ⟨fun _ _ apart token drawn drawn' => apart token drawn' drawn⟩

/-- What cold starts keep: tokens are drawn once, a lock that was released is not found again, and the
counter is as tallied. -/
structure ColdStarted (conversation : Conversation) (past : List (Exchange services World))
    (w : World) : Prop where
  made : ∀ draw ∈ past, ∀ token, draw.drawn = some token →
    ∃ serial, token = .made serial ∧ serial < w.tokens
  apart : past.Pairwise DrawnApart
  released : ∀ release ∈ past, ∀ token, release.unlocks = some token → ¬ release.Fails →
    ∀ entry, w.counters.locks.entries.find? conversation = some entry → entry.value ≠ token
  tallied : Tallied conversation past w

section Run

variable {conversation : Conversation} {past : List (Exchange services World)} {w : World}
  {holdings : List CountStage} {stage next : CountStage} {token : LockToken}

namespace ColdStarted

/-- A token that was drawn just now is not one under which a lock was ever to be released. -/
theorem ne_of_drew (started : ColdStarted conversation past w)
    (follow : Site.AllFollow (counting conversation) .idle past holdings) {place : Nat}
    (follows : Site.Follows (counting conversation) .idle (Site.callsOf place past) (.drew token))
    {release : Exchange services World} (member : release ∈ past) {other : LockToken}
    (unlocks : release.unlocks = some other) : token ≠ other := by
  -- The draw is the caller's last call, so that it comes behind every release of its own.
  obtain ⟨draw, last, drawn⟩ := CountStage.drawn_of_follows follows
  obtain ⟨drawMember, atPlace⟩ := Site.mem_callsOf.mp (List.mem_of_getLast? last)
  -- The other token was drawn before its release was asked for, and by the same caller.
  have own := follow release.place
  obtain ⟨earlier, later, split⟩ := List.append_of_mem (Site.mem_callsOf.mpr ⟨member, rfl⟩)
  rw [split] at own
  obtain ⟨draw', earlierMember, drawn'⟩ := CountStage.drawn_of_unlocks own unlocks
  obtain ⟨drawMember', atPlace'⟩ : draw' ∈ past ∧ draw'.place = release.place := by
    rw [← Site.mem_callsOf, split]
    exact List.mem_append_left _ earlierMember
  by_cases same : place = release.place
  · -- The caller has drawn anew since that release, so its earlier token is another one.
    subst same
    have apart := started.apart.filter (·.place = release.place)
    rw [← Site.callsOf, split, List.pairwise_append] at apart
    rw [split, List.getLast?_append_cons] at last
    rintro rfl
    exact apart.2.2 draw' earlierMember draw (List.mem_of_getLast? last) token drawn' drawn
  · -- Calls of two callers are two calls, so they have not drawn the same token.
    have differ : draw ≠ draw' := by
      rintro rfl
      exact same (atPlace.symm.trans atPlace')
    rintro rfl
    exact started.apart.forall drawMember drawMember' differ token drawn drawn'

/-- Nothing was done before the first call. -/
theorem opening (absent : w.liveCounter conversation = none) : ColdStarted conversation [] w where
  made := by simp
  apart := .nil
  released := by simp
  tallied := .inl ⟨by simp, rfl, absent⟩

/-- What the services may do by themselves keeps what cold starts do. -/
theorem drifts (started : ColdStarted conversation past w) {after : World}
    (drifted : w.KeepsCounter conversation after) : ColdStarted conversation past after where
  -- What drifts adds no token, no lock and no counter.
  made := by
    intro draw member token drawn
    obtain ⟨serial, made, below⟩ := started.made draw member token drawn
    exact ⟨serial, made, Nat.lt_of_lt_of_le below drifted.tokens⟩
  apart := started.apart
  released := fun release member token unlocks succeeds entry found =>
    started.released release member token unlocks succeeds entry (drifted.lock entry found)
  tallied := by
    have tallied := started.tallied
    unfold Tallied at tallied ⊢
    rwa [drifted.counter]

/-- A call that a caller may make at its stage keeps what cold starts do. -/
theorem calls {last : Exchange services World} (started : ColdStarted conversation past last.before)
    (follow : Site.AllFollow (counting conversation) .idle past holdings)
    (follows : Site.Follows (counting conversation) .idle (Site.callsOf last.place past) stage)
    (turns : CountStage.Turns conversation last.request stage last.reply next)
    (reacted : (coldStarting conversation).reacts last.request last.before last.reply last.after) :
    ColdStarted conversation (past ++ [last]) last.after := by
  obtain ⟨grown, drawn⟩ := last.drawn_made turns reacted
  refine ⟨?_, ?_, ?_, ?_⟩
  · intro draw member token drew
    rcases List.mem_append.mp member with earlier | latest
    · obtain ⟨serial, made, below⟩ := started.made draw earlier token drew
      exact ⟨serial, made, Nat.lt_of_lt_of_le below grown⟩
    · obtain rfl := List.mem_singleton.mp latest
      obtain ⟨made, below⟩ := drawn token drew
      exact ⟨_, made, below⟩
  · -- A token is made of the supply at hand, which has given out only smaller ones.
    refine List.pairwise_append.mpr ⟨started.apart, List.pairwise_singleton _ _, ?_⟩
    intro draw member other latest token drew drew'
    obtain rfl := List.mem_singleton.mp latest
    obtain ⟨serial, made, below⟩ := started.made draw member token drew
    rw [(drawn token drew').1] at made
    cases made
    exact Nat.lt_irrefl _ below
  · intro release member token unlocks succeeds entry found
    rcases List.mem_append.mp member with earlier | latest
    · -- The lock found now was there before, or it was taken just now under a new token.
      rcases last.lock_found turns reacted found with before | rfl
      · exact started.released release earlier token unlocks succeeds entry before
      · exact started.ne_of_drew follow follows earlier unlocks
    · obtain rfl := List.mem_singleton.mp latest
      exact release.lock_released turns reacted unlocks succeeds found
  · exact started.tallied.calls turns reacted

/-- Whatever cold starts have come to, they have kept all that, and every caller is at the stage to
which its own calls lead. -/
theorem upheld {start : World} {site : Site services World fun _ : CountJob =>
      Except AllocationError Grant}
    (traced : Site.Traced (coldStarting conversation) start past site)
    (absent : start.liveCounter conversation = none) :
    ColdStarted conversation past site.services ∧ ∃ holdings,
      Site.CallersKeep (counting conversation) (fun job => CountStage.Ends job.need) site.callers
        holdings ∧ Site.AllFollow (counting conversation) .idle past holdings := by
  -- Where a call is permitted there is a turn for the reply it gets, and each turn keeps all of it.
  refine traced.upholds (fun job => SingleCounter.allocate_keeps job.config conversation job.need)
    (.opening absent) ?_ fun _ _ _ started drifted => started.drifts drifted
  intro past holdings stage last started follow atStage permitted reacted
  obtain ⟨next, turns⟩ := permitted last.reply
  exact ⟨⟨next, turns⟩, started.calls follow (follow.held atStage) turns reacted⟩

/-- The one call that has started the counter did so at the number that its caller had read last. -/
theorem seededBy (started : ColdStarted conversation past w)
    (follow : Site.AllFollow (counting conversation) .idle past holdings)
    (reacted : ∀ exchange ∈ past, (coldStarting conversation).reacts exchange.request exchange.before
      exchange.reply exchange.after) :
    ((∀ exchange ∈ past, ¬ exchange.Starts conversation) ∧
      past.filterMap Exchange.counted = []) ∨
    ∃ earlier seeding later floor, SeededBy conversation past earlier later seeding floor := by
  rcases started.tallied with ⟨none', nothing, _⟩ |
    ⟨earlier, seeding, later, floor, value, counted, _⟩
  · exact .inl ⟨none', nothing⟩
  · refine .inr ⟨earlier, seeding, later, floor, {
      counted.toStartedBy with reading := ?_, tiles := ⟨_, counted.tiles⟩ }⟩
    -- The caller was at the stage to which only a reading of the ledger leads.
    have own := follow seeding.place
    rw [counted.record, Site.callsOf_split] at own
    obtain ⟨_, _, before, turns, _⟩ := own.at_call
    obtain ⟨_, rfl⟩ := CountStage.Turns.of_seeds turns counted.seeds
    obtain ⟨read, last, marked⟩ := CountStage.marked_of_follows before
    refine ⟨read, last, marked, ?_⟩
    -- The reading was a call of its own, which the ledger answered.
    have member : read ∈ past := by
      rw [counted.record]
      exact List.mem_append_left _ (Site.mem_callsOf.mp (List.mem_of_getLast? last)).1
    obtain ⟨_, _, turns⟩ := CountStage.turns_of_mem follow member
    exact read.mark_eq turns (reacted read member) marked

/-- A caller that has returned is settled by its own calls. -/
theorem returned (started : ColdStarted conversation past w) {place : Nat} {need : UInt64}
    {outcome : Except AllocationError Grant}
    (follows : Site.Follows (counting conversation) .idle (Site.callsOf place past) stage)
    (ended : CountStage.Ends need outcome stage) :
    Returned conversation w (Site.callsOf place past) need outcome where
  granted := by
    rintro grant rfl
    obtain ⟨rfl, count⟩ := ended
    exact ⟨CountStage.counted_of_follows follows, count⟩
  failed := by
    rintro failure rfl
    obtain rfl : stage = .idle := ended
    exact CountStage.counted_of_follows follows
  released := by
    intro earlier lock later token own locked
    -- Nothing is at hand when an allocation returns but a range.
    have free : stage.holds = none := by
      rcases outcome with failure | grant
      · obtain rfl : stage = .idle := ended
        rfl
      · obtain ⟨rfl, _⟩ := ended
        rfl
    obtain ⟨release, member, unlocks⟩ := CountStage.released_of_locked (own ▸ follows) locked free
    refine ⟨release, member, unlocks, Classical.or_iff_not_imp_left.mpr fun succeeds alive => ?_⟩
    have ownMember : release ∈ Site.callsOf place past := by
      rw [own]
      exact List.mem_append_right _ (List.mem_cons_of_mem _ member)
    have inPast := (Site.mem_callsOf.mp ownMember).1
    obtain ⟨entry, live, same⟩ := Option.map_eq_some_iff.mp alive
    exact started.released release inPast token unlocks succeeds entry
      (ExpiringTable.liveEntry_eq_some.mp live).1 same

/-- Every release is asked for by the owner of the lock, and spares those of other callers. -/
theorem releasedByOwner (started : ColdStarted conversation past w)
    (follow : Site.AllFollow (counting conversation) .idle past holdings)
    (reacted : ∀ exchange ∈ past, (coldStarting conversation).reacts exchange.request exchange.before
      exchange.reply exchange.after) : ReleasedByOwner conversation past where
  owned := by
    intro earlier release later token record unlocks
    have own := follow release.place
    rw [record, Site.callsOf_split] at own
    obtain ⟨lock, member, locked⟩ := CountStage.locked_of_unlocks own unlocks
    obtain ⟨member, place⟩ := Site.mem_callsOf.mp member
    exact ⟨lock, member, place, locked⟩
  spared := by
    intro lock member release member' owner token locked unlocks differ owned
    obtain ⟨_, _, turns⟩ := CountStage.turns_of_mem follow member'
    refine release.lock_spared turns (reacted release member') unlocks owned ?_
    -- Each of the two callers has drawn its own token.
    obtain ⟨draw, inPast, place, drew⟩ := CountStage.drawn_of_mem follow member (.inl locked)
    obtain ⟨draw', inPast', place', drew'⟩ := CountStage.drawn_of_mem follow member' (.inr unlocks)
    have apart : draw ≠ draw' := by
      rintro rfl
      exact differ (place.symm.trans place')
    rintro rfl
    exact started.apart.forall inPast inPast' apart owner drew drew'

end ColdStarted

end Run

/-- However allocations from an absent counter are interleaved, one of them at most starts it, and the
ranges counted since then tile the numbers after the mark it had read. -/
theorem cold_starts_seed_once {conversation : Conversation} {start : World}
    {past : List (Exchange services World)}
    {site : Site services World fun _ : CountJob => Except AllocationError Grant}
    (traced : Site.Traced (coldStarting conversation) start past site)
    (absent : start.liveCounter conversation = none) :
    (∀ exchange ∈ past, exchange.Seeded → exchange.Starts conversation) ∧
    (((∀ exchange ∈ past, ¬ exchange.Starts conversation) ∧
        past.filterMap Exchange.counted = []) ∨
      ∃ earlier seeding later floor, SeededBy conversation past earlier later seeding floor) ∧
    (∀ place job outcome, site.callers[place]? = some ⟨job, .done outcome⟩ →
      Returned conversation site.services (Site.callsOf place past) job.need outcome) ∧
    ReleasedByOwner conversation past := by
  -- One invariant of the run and the stages of its callers give all four parts.
  obtain ⟨started, holdings, keep, follow⟩ := ColdStarted.upheld traced absent
  have reacted := fun exchange (member : exchange ∈ past) => traced.reacted member
  refine ⟨fun exchange member seeded => ?_, started.seededBy follow reacted, ?_,
    started.releasedByOwner follow reacted⟩
  · obtain ⟨_, _, turns⟩ := CountStage.turns_of_mem follow member
    exact exchange.starts_of_seeded turns (reacted exchange member) seeded
  · intro place job outcome atPlace
    obtain ⟨stage, atStage, ends⟩ := keep.held atPlace
    exact started.returned (follow.held atStage) ends.2

/-- A call that sets nothing that has expired by then may just be answered. -/
theorem coldStarting_answers {conversation : Conversation} (request : Service.Request) (w : World)
    (lasts : w.lasts request = true) :
    (coldStarting conversation).reacts request w (World.answer request w).1
      (World.answer request w).2 := by
  -- An increment fails only where its sum does not fit, and then leaves all as it was.
  refine ⟨.answers, lasts, ?_⟩
  cases request
  case increment other amount lifetime =>
    rcases World.increment_cases other amount (of_decide_eq_true lasts) with
      ⟨_, answered, _⟩ | ⟨_, _, _, _, answered, _⟩ | ⟨_, failed⟩
    · rw [answered]; trivial
    · rw [answered]; trivial
    · rw [failed]; rfl
  all_goals trivial

/-- Calls for two numbers and for three. -/
def twoAndThreeCounted : List CountJob := [⟨.standard, 2⟩, ⟨.standard, 3⟩]

/-- The call for two numbers has read the ledger under the lock, but the lock is lost. -/
def lockLost : Site services World fun _ : CountJob => Except AllocationError Grant :=
  let held := [0, 0, 0, 0].foldl (Site.turn World.answer) ⟨Sample.services,
    twoAndThreeCounted.map fun job => ⟨job, (coldStarting Sample.conversation).begins job⟩⟩
  let counters := held.services.counters
  { held with services :=
    { held.services with counters :=
      { counters with locks := counters.locks.remove Sample.conversation } } }

/-- The turns in which the call for three numbers takes the lock and starts the counter, before the
other one tries to. -/
def overtaking : List Nat := [1, 1, 1, 1, 1, 0, 0, 1, 1, 1, 0, 0]

/-- Both calls are done, the one that was overtaken after the other one. -/
def seederOvertaken : Site services World fun _ : CountJob => Except AllocationError Grant :=
  overtaking.foldl (Site.turn World.answer) lockLost

/-- The two calls come there when the lock is lost in between. -/
theorem seederOvertaken_reached :
    Site.Reached (coldStarting Sample.conversation) Sample.services seederOvertaken := by
  have opening : Site.Reached (coldStarting Sample.conversation) Sample.services
      ⟨Sample.services, []⟩ := .opens
  -- The seeder is stopped right before it seeds, loses its lock, and is then overtaken.
  have held := (opening.begin twoAndThreeCounted).leads
    (Site.leads_of_turns_passed coldStarting_answers [0, 0, 0, 0] _ (by decide +kernel))
  have lost : Site.Reached (coldStarting Sample.conversation) Sample.services lockLost :=
    held.step (.drifts ⟨rfl, fun entry found => by simp at found, Nat.le_refl _⟩)
  exact lost.leads (Site.leads_of_turns_passed coldStarting_answers overtaking _ (by decide +kernel))

set_option maxRecDepth 100000 in
/-- A caller whose lock is lost is overtaken by another one, which starts the counter in its place. The
numbers of both tile those after the one that the counter was started at. -/
theorem seederOvertaken_seeds_once :
    ∃ past, Site.Traced (coldStarting Sample.conversation) Sample.services past seederOvertaken ∧
      (∃ earlier seeding later floor,
        SeededBy Sample.conversation past earlier later seeding floor) ∧
      (Site.callsOf 0 past).filterMap Exchange.counted = [⟨⟨4⟩, 2⟩] ∧
      (Site.callsOf 1 past).filterMap Exchange.counted = [⟨⟨1⟩, 3⟩] := by
  -- The ledger is empty, so the counter is started at zero, and the second call counts first.
  have first : seederOvertaken.callers[0]? =
      some ⟨⟨.standard, 2⟩, .done (.ok ⟨⟨⟨4⟩, 2⟩, Sample.clock⟩)⟩ := rfl
  have second : seederOvertaken.callers[1]? =
      some ⟨⟨.standard, 3⟩, .done (.ok ⟨⟨⟨1⟩, 3⟩, Sample.clock⟩)⟩ := rfl
  obtain ⟨past, traced⟩ := seederOvertaken_reached.traced
  obtain ⟨_, seeded, returned, _⟩ := cold_starts_seed_once traced rfl
  have counted := ((returned 0 _ _ first).granted _ rfl).1
  refine ⟨past, traced, ?_, counted, ((returned 1 _ _ second).granted _ rfl).1⟩
  rcases seeded with ⟨_, nothing⟩ | seeded
  · -- Numbers were counted, so the counter was started.
    have own : (Site.callsOf 0 past).Sublist past := List.filter_sublist
    have empty := own.filterMap Exchange.counted
    rw [nothing, counted] at empty
    cases empty
  · exact seeded

end Intake
