import Intake.Proofs.Numbering.Drawing
import Intake.Proofs.Numbering.SegmentedUnique

/-! When allocation from cached blocks hands out numbers in the order of time: only as long as no block
below the numbers granted so far is cached or about to be cached. A caller that reserved such a block
long ago caches it once the newer block is lost. -/

namespace Intake

/-- The range of an allocation starts above all that its caller expects to be above. -/
def Drawn (conversation other : Conversation) (outcome : Except AllocationError Grant)
    (held : Draw) : Prop :=
  held.block = none ∧
    (other = conversation → ∀ grant, outcome = .ok grant → held.above < grant.range.span.first)

namespace Segmented

variable {conversation : Conversation} {held : Draw}

/-- A range that is taken starts above what its caller expects. -/
theorem take_draws (other : Conversation) (need : UInt64) (empty : held.block = none) :
    (Attempt.onCache (Procedure.take other need)).run.Keeps (drawing conversation) (fun _ => True)
      (fun outcome after => after.block = none ∧ ∀ range, outcome = .ok (.taken range) →
        other = conversation → after.above < range.span.first) held := by
  -- Whatever is answered, the caller holds no block after it.
  refine .adapt (.call trivial empty fun reply after moved => ⟨trivial, ?_, fun range taken => ?_⟩)
  · obtain ⟨rfl, _⟩ := moved
    rfl
  · obtain ⟨rfl, above⟩ := moved
    have answered := Plan.ok_of_renamed taken
    subst answered
    exact above

/-- A block that is reserved is the one that the caller holds. -/
theorem reserve_draws (other : Conversation) (count : UInt64) (empty : held.block = none) :
    (Attempt.onLedger (Procedure.reserve other count)).run.Keeps (drawing conversation)
      (fun _ => True) (fun outcome after => match outcome with
        | .ok segment => after.block = if other = conversation then some segment else none
        | .error _ => after.block = none) held := by
  -- A failure leaves nothing to hold.
  refine .adapt (.call trivial empty fun reply after moved => ⟨trivial, ?_⟩)
  obtain ⟨rfl, _⟩ := moved
  rcases reply with failure | segment <;> rfl

/-- The block that the caller holds may be given to the cache. -/
theorem install_draws {other : Conversation} {segment : Segment} (lifetime : Duration)
    (holds : held.block = if other = conversation then some segment else none) :
    (Attempt.onCache (Procedure.install other segment lifetime)).run.Keeps (drawing conversation)
      (fun _ => True) (fun _ after => after.block = none) held := by
  -- It is given away whatever is answered.
  refine .adapt (.call trivial holds fun reply after moved => ⟨trivial, ?_⟩)
  obtain ⟨rfl, _⟩ := moved
  rfl

/-- A range that was taken is granted when the clock has been read. -/
theorem grant_draws {other : Conversation} {range : NumberRange} (empty : held.block = none)
    (above : other = conversation → held.above < range.span.first) :
    (do return ⟨range, ← ExceptT.lift Procedure.now⟩ : Attempt AllocationError Grant).run.Keeps
      (drawing conversation) (fun _ => True) (Drawn conversation other) held := by
  -- Reading the clock hands out nothing.
  refine .lift (.call trivial empty fun now after moved => ⟨trivial, trivial, ?_⟩)
  obtain ⟨rfl, _⟩ := moved
  refine ⟨rfl, fun same grant granted => ?_⟩
  cases granted
  exact above same

/-- A failed allocation has drawn nothing. -/
theorem drawn_error {other : Conversation} {failure : AllocationError} (empty : held.block = none) :
    Drawn conversation other (.error failure) held :=
  ⟨empty, fun _ _ granted => by cases granted⟩

/-- Every way out of the rounds of an allocation grants only what starts above what is expected. -/
theorem allocateIn_draws (config : SegmentConfig) (other : Conversation) (need : UInt64)
    (rounds : Nat) : ∀ held : Draw, held.block = none →
      (allocateIn config other need rounds).run.Keeps (drawing conversation) (fun _ => True)
        (Drawn conversation other) held := by
  -- The induction is on the rounds that are left, of which each begins without a block.
  induction rounds with
  | zero => exact fun held empty => ⟨trivial, drawn_error empty⟩
  | succ rounds ih =>
    intro held empty
    unfold allocateIn
    refine .attempt (take_draws other need empty) (fun _ _ took => drawn_error took.1)
      fun outcome after took => ?_
    split
    · rename_i range
      exact grant_draws took.1 (took.2 range rfl)
    refine .attempt (reserve_draws other _ took.1) (fun _ _ reserved => drawn_error reserved)
      fun segment later reserved => ?_
    -- The block that was reserved is the next thing that is given to the cache.
    refine .attempt (install_draws config.lifetime reserved) (fun _ _ empty => drawn_error empty)
      fun _ installed empty => ?_
    refine .attempt (take_draws other need empty) (fun _ _ took => drawn_error took.1)
      fun outcome last took => ?_
    split
    · rename_i range
      exact grant_draws took.1 (took.2 range rfl)
    · exact ih last took.1

end Segmented

/-- What a call on an allocator leaves its caller with: no block, and of an allocation a range that
starts above what is expected. -/
def SegmentedJob.Draws (conversation : Conversation) :
    (job : SegmentedJob) → job.Answer → Draw → Prop
  | ⟨_, .allocate other _⟩, outcome, held => Drawn conversation other outcome held
  | ⟨_, .reconcile _ _⟩, _, held | ⟨_, .recordCommitted _ _⟩, _, held => held.block = none

/-- Every call on an allocator leaves its caller without a block. -/
theorem SegmentedJob.Draws.emptied {conversation : Conversation} {job : SegmentedJob}
    {outcome : job.Answer} {held : Draw} (draws : job.Draws conversation outcome held) :
    held.block = none := by
  -- Whatever the job is, it ends with its block handed on.
  obtain ⟨config, call⟩ := job
  cases call with
  | allocate other need => exact draws.1
  | reconcile other floor => exact draws
  | recordCommitted other stored => exact draws

/-- A call that hands out nothing leaves its caller without a block. -/
theorem drawing_call {conversation : Conversation} {held : Draw} {request : Service.Request}
    (permitted : (drawing conversation).permits request held)
    (nothing : ∀ reply, reservedBlock conversation request reply = none) :
    (Plan.ask request .done : Procedure (Service.Reply request)).Keeps (drawing conversation)
      (fun _ => True) (fun _ after => after.block = none) held := by
  -- A reply hands out a block only in answer to a reservation.
  refine .call trivial permitted fun reply after moved => ⟨trivial, ?_⟩
  obtain ⟨rfl, _⟩ := moved
  exact nothing reply

/-- Every call on an allocator that begins without a block draws above what is expected. -/
theorem SegmentedJob.begin_draws (conversation : Conversation) (job : SegmentedJob) {held : Draw}
    (empty : held.block = none) :
    job.begin.Keeps (drawing conversation) (fun _ => True) (job.Draws conversation) held := by
  -- Only an allocation draws anything.
  obtain ⟨config, call⟩ := job
  cases call with
  | allocate other need =>
    show (Segmented.allocate config other need).run.Keeps _ _ _ _
    unfold Segmented.allocate
    split
    · exact ⟨trivial, Segmented.drawn_error empty⟩
    · exact Segmented.allocateIn_draws config other need _ held empty
  | reconcile other floor =>
    have raised : (Attempt.onLedger (Procedure.raiseIssued other floor)).run.Keeps
        (drawing conversation) (fun _ => True) (fun _ after => after.block = none) held :=
      .adapt (drawing_call empty fun _ => rfl)
    refine raised.attempt (fun _ _ empty => empty) fun _ _ empty => ?_
    exact .adapt (drawing_call empty fun _ => rfl)
  | recordCommitted other stored => exact .adapt (drawing_call empty fun _ => rfl)

/-- A plan whose caller holds a block asks for it to be installed next, or ends with it. -/
theorem Plan.installs_of_held {conversation : Conversation} {α : Type} {plan : Procedure α}
    {cut : Draw → Prop} {ends : α → Draw → Prop} {held : Draw} {segment : Segment}
    (keeps : plan.Keeps (drawing conversation) cut ends held) (holds : held.block = some segment) :
    (∃ (ready rest : Procedure α) (lifetime : Duration) (reply : Except CacheError InstallOutcome),
      Relation.ReflTransGen Passes plan ready ∧
        Calls (Service.Request.install conversation segment lifetime) reply ready rest) ∨
    ∃ value, Relation.ReflTransGen Passes plan (.done value) ∧ ends value held := by
  -- The induction is on the plan. A bounded part ends before what follows it begins.
  induction plan generalizing cut with
  | done value => exact .inr ⟨value, .refl, keeps.2⟩
  | ask request next ih =>
    have permitted := keeps.2.1
    cases request
    case install other installed lifetime =>
      -- The only call that is permitted is the one for the block that is held.
      have same : held.block = if other = conversation then some installed else none := permitted
      rw [holds] at same
      split at same <;> cases same
      rename_i same
      subst same
      exact .inl ⟨_, _, lifetime, .ok .installed, .refl, .ask next⟩
    all_goals exact absurd (holds.symm.trans permitted) (by simp)
  | sleep span next ih =>
    rcases ih keeps with ⟨ready, rest, lifetime, reply, passed, called⟩ | ⟨value, passed, ended⟩
    · exact .inl ⟨ready, rest, lifetime, reply, passed.head (.wakes span next), called⟩
    · exact .inr ⟨value, passed.head (.wakes span next), ended⟩
  | within limit body next ihBody ihNext =>
    have lift : ∀ {part rest}, Relation.ReflTransGen Passes part rest → Relation.ReflTransGen Passes
        (Plan.within limit part next) (Plan.within limit rest next) := fun passed =>
      passed.lift (fun part => Plan.within limit part next) fun _ _ => .within limit next
    have bounded : body.Keeps (drawing conversation) _ _ held := keeps
    rcases ihBody bounded with ⟨ready, rest, lifetime, reply, passed, called⟩ | ⟨value, passed, ended⟩
    · exact .inl ⟨_, _, lifetime, reply, lift passed, .within limit next called⟩
    · have inTime := (lift passed).tail (.inTime limit value next)
      rcases ihNext (some value) ended with
        ⟨ready, rest, lifetime, reply, passed, called⟩ | ⟨value, passed, ended⟩
      · exact .inl ⟨ready, rest, lifetime, reply, inTime.trans passed, called⟩
      · exact .inr ⟨value, inTime.trans passed, ended⟩

namespace Site

variable {site : Site Intake.services World SegmentedJob.Answer} {conversation : Conversation}

/-- Some caller makes a call next that is to cache a block. -/
def AboutToInstall (site : Site Intake.services World SegmentedJob.Answer) (conversation : Conversation)
    (segment : Segment) : Prop :=
  ∃ (place : Nat) (job : SegmentedJob) (plan ready rest : Procedure job.Answer)
    (lifetime : Duration) (reply : Except CacheError InstallOutcome),
    site.callers[place]? = some ⟨job, plan⟩ ∧ Relation.ReflTransGen Plan.Passes plan ready ∧
      Plan.Calls (Service.Request.install conversation segment lifetime) reply ready rest

/-- Numbers below a given one may still be handed out: a block that ends below it is cached, at some
time not expired, and has numbers left, or a caller is about to cache such a block. -/
def Lags (site : Site Intake.services World SegmentedJob.Answer) (conversation : Conversation)
    (mark : SequenceNumber) : Prop :=
  (∃ slot now, site.services.segments.liveEntry conversation now = some slot ∧
    slot.value.entry.current < slot.value.entry.last ∧ slot.value.entry.last < mark.value) ∨
  ∃ segment, site.AboutToInstall conversation segment ∧ segment.last.value < mark.value

/-- From a block that is cached, and not expired at some time, the next caller may be granted the first
number that is left. -/
theorem grants_next {slot : Expiring SegmentSlot} {now : Instant}
    (alive : site.services.segments.liveEntry conversation now = some slot)
    (room : slot.value.entry.current.toNat < slot.value.entry.last.toNat) :
    ∃ site' grant, Relation.ReflTransGen (Step numberingSegmented) site site' ∧
      site'.callers[site.callers.length]? =
        some ⟨⟨.standard, .allocate conversation 1⟩, .done (.ok grant)⟩ ∧
      grant.range.span =
        ⟨slot.value.entry.current.toNat + 1, slot.value.entry.current.toNat + 1⟩ := by
  obtain ⟨w, callers⟩ := site
  let job : SegmentedJob := ⟨.standard, .allocate conversation 1⟩
  let timed : World := { w with clock := now }
  rcases CachedSegment.take_cases (Nat.le_of_lt room) 1 now with
    ⟨_, _, range, rest, taken, _, spans, _⟩ | ⟨short, _⟩
  · have answered : (World.answer (.take conversation 1) timed).1 = .ok (.taken range) := by
      simp only [timed, World.answer, SegmentCache.take, ExpiringTable.live_of_alive alive, taken]
    let left : World := (World.answer (.take conversation 1) timed).2
    let reading : Procedure job.Answer := .ask Service.Request.now fun now => .done (.ok ⟨range, now⟩)
    let granted : Procedure job.Answer := .done (.ok ⟨range, left.clock⟩)
    -- The clock is set to that time, and a caller begins, takes the number, and reads the clock.
    have drifted : Step numberingSegmented ⟨w, callers⟩ ⟨timed, callers⟩ :=
      .drifts ⟨rfl, rfl, rfl, rfl, rfl, .refl _, .refl _, .refl _, .refl _⟩
    have began : Step numberingSegmented ⟨timed, callers⟩ ⟨timed, callers ++ [⟨job, job.begin⟩]⟩ :=
      .starts ⟨timed, callers⟩ job
    have took : Step numberingSegmented ⟨timed, callers ++ [⟨job, job.begin⟩]⟩
        ⟨left, callers ++ [⟨job, reading⟩]⟩ := by
      have reacted : World.Reacts Service.Failed (.take conversation 1) timed
        (.ok (.taken range)) left := answered ▸ .answers
      exact .calls_last (.ask _) reacted
    have read : Step numberingSegmented ⟨left, callers ++ [⟨job, reading⟩]⟩
        ⟨left, callers ++ [⟨job, granted⟩]⟩ := .calls_last (.ask _) .answers
    exact ⟨_, ⟨range, left.clock⟩, (((Relation.ReflTransGen.single drifted).tail began).tail took).tail
      read, by simp [granted, job], spans⟩
  · simp only [UInt64.toNat_one] at short
    omega

/-- A block that a caller is about to cache may come to be cached with all of its numbers left. -/
theorem caches_block {segment : Segment} (about : site.AboutToInstall conversation segment)
    (positive : 0 < segment.span.first) :
    ∃ site' slot now, Relation.ReflTransGen (Step numberingSegmented) site site' ∧
      site'.callers.length = site.callers.length ∧
      site'.services.segments.liveEntry conversation now = some slot ∧
      slot.value.entry.span = segment.span := by
  obtain ⟨place, job, plan, ready, _, lifetime, _, atPlace, passed, called⟩ := about
  obtain ⟨w, callers⟩ := site
  -- What is cached is lost, and the clock set so late that whatever is cached from then on lives.
  let cleared : World := { w with segments := w.segments.remove conversation, clock := .latest }
  have drifted : Step numberingSegmented ⟨w, callers⟩ ⟨cleared, callers⟩ :=
    .drifts ⟨rfl, rfl, rfl, rfl, rfl, w.segments.remove_forgets conversation, .refl _, .refl _,
      .refl _⟩
  have goesOn : Relation.ReflTransGen (Step numberingSegmented) ⟨cleared, callers⟩
      ⟨cleared, callers.set place ⟨job, ready⟩⟩ := leads_of_passes atPlace passed
  obtain ⟨rest, called⟩ :=
    called.any_reply (World.answer (.install conversation segment lifetime) cleared).1
  have inside : place < callers.length := (List.getElem?_eq_some_iff.mp atPlace).1
  have installs : Step numberingSegmented ⟨cleared, callers.set place ⟨job, ready⟩⟩
      ⟨(World.answer (.install conversation segment lifetime) cleared).2,
        (callers.set place ⟨job, ready⟩).set place ⟨job, rest⟩⟩ :=
    .calls (List.getElem?_set_self inside) called .answers
  rcases SegmentCache.install_cases cleared.segments conversation segment lifetime cleared.clock with
    ⟨_, base, _, answered⟩ | ⟨_, _, alive, _, _⟩
  · have stored : (World.answer (.install conversation segment lifetime) cleared).2.segments =
        base.insert conversation ⟨.fresh segment .latest, lifetime⟩ .latest lifetime := by
      simp only [World.answer, answered]
      rfl
    refine ⟨_, ⟨⟨.fresh segment .latest, lifetime⟩, .latest⟩, .earliest,
      (goesOn.head drifted).tail installs, by simp, ?_, CachedSegment.span_fresh .latest positive⟩
    rw [stored]
    exact base.liveEntry_insert_latest conversation _ lifetime
  -- Nothing was cached any more that could have stood in the way.
  · have gone : cleared.segments.entries.find? conversation = none :=
      w.segments.find?_remove_self conversation
    rw [(ExpiringTable.liveEntry_eq_some.mp alive).1] at gone
    cases gone

/-- At every point of every run what callers are granted lies above what they expect. -/
theorem numberingSegmented_draws (conversation : Conversation) {services : World}
    (empty : services.segments.entries.find? conversation = none)
    (reached : Reached numberingSegmented services site) :
    site.Upholds (drawing conversation) (SegmentedJob.Draws conversation)
      (DrawnAbove conversation 0 0) := by
  -- A call that begins holds no block, and every step leaves all that may be handed out above zero.
  apply upholds_of_reached reached (.opening empty)
  · exact fun _ _ job drawn => ⟨_, job.begin_draws conversation rfl, drawn.join⟩
  · exact fun _ _ _ _ _ _ _ drawn atPlace permitted reacted =>
      drawn.reacts atPlace permitted reacted
  · exact fun _ _ _ drawn drifted => drawn.drifts drifted

/-- Where nothing lags behind the last number of a grant, all that may still be handed out lies above
that number. -/
theorem drawnAbove_of_granted {services : World}
    (empty : services.segments.entries.find? conversation = none)
    (reached : Reached numberingSegmented services site) {place : Nat} {config : SegmentConfig}
    {need : UInt64} {grant : Grant} (done : site.callers[place]? =
      some ⟨⟨config, .allocate conversation need⟩, .done (.ok grant)⟩)
    (caughtUp : ¬ site.Lags conversation grant.range.last) :
    site.Upholds (drawing conversation) (SegmentedJob.Draws conversation)
      (DrawnAbove conversation grant.range.last.value.toNat site.callers.length) := by
  obtain ⟨owned, numbered, keep⟩ := numberingSegmented_upholds conversation empty reached
  obtain ⟨draws, drawn, keep'⟩ := numberingSegmented_draws conversation empty reached
  obtain ⟨held, atHeld, member, positive, rfl, start, last⟩ := granted_numbers numbered keep done
  have bound := site.services.ledger.issued_lt_size conversation
  unfold Grant.start at start last
  have ends := NumberRange.last_toNat positive (by omega)
  -- The last number of the grant is the caller's, so that no block that is left holds it.
  have holds : grant.range.span.holds grant.range.last.value.toNat = true := by
    simp only [Span.holds_eq_true, NumberRange.span]
    omega
  refine ⟨draws, ?_, keep'⟩
  constructor
  · exact drawn.cached
  · omega
  -- A cached block that ends above a number it does not hold starts above it as well.
  · intro slot now alive room
    have above : ¬ slot.value.entry.last < grant.range.last.value := fun below =>
      caughtUp (.inl ⟨slot, now, alive, UInt64.lt_iff_toNat_lt.mpr room, below⟩)
    have apart := numbered.apart_cached atHeld member
      (ExpiringTable.liveEntry_eq_some.mp alive).1 holds
    rw [UInt64.lt_iff_toNat_lt] at above
    rw [Bool.eq_false_iff, ne_eq, Span.holds_eq_true] at apart
    simp only [CachedSegment.span] at apart
    omega
  -- So does a block that some other caller is about to cache.
  · intro draw drawMember segment reserved
    obtain ⟨place', atDraw⟩ := List.getElem?_of_mem drawMember
    have inside : place' < site.callers.length := by
      rw [← keep'.1]; exact (List.getElem?_eq_some_iff.mp atDraw).1
    have atPlace := List.getElem?_eq_getElem inside
    rcases Plan.installs_of_held (keep'.2 place' _ _ atPlace atDraw) reserved with
      ⟨ready, rest, lifetime, reply, passed, called⟩ | ⟨_, _, ended⟩
    · have above : ¬ segment.last.value < grant.range.last.value := fun below =>
        caughtUp (.inr ⟨segment, ⟨place', _, _, ready, rest, lifetime, reply, atPlace, passed,
          called⟩, below⟩)
      -- A caller that is done holds no block, so it is not the one that was granted the number.
      have differ : place ≠ place' := by
        rintro rfl
        have emptied := (keep'.2 place _ _ done atDraw).2.emptied
        rw [reserved] at emptied
        cases emptied
      obtain ⟨held', atHeld', keeps⟩ := keep.held atPlace
      obtain ⟨permitted, _⟩ := (keeps.passes_run passed).calls called
      obtain ⟨member', ordered⟩ := permitted rfl
      have apart := numbered.apart differ atHeld atHeld' member member' holds
      have reservedLast := numbered.held_bounds atHeld' member' (n := segment.span.last)
        (by simp [ordered])
      rw [UInt64.lt_iff_toNat_lt] at above
      rw [Bool.eq_false_iff, ne_eq, Span.holds_eq_true] at apart
      refine ⟨?_, ordered, reservedLast.2⟩
      simp only [Segment.span] at apart ⊢
      omega
    · rw [ended.emptied] at reserved
      cases reserved
  · exact fun draw drawMember => Nat.le_trans (drawn.expected draw drawMember) (Nat.zero_le _)
  · exact Nat.le_of_eq keep'.1.symm
  · intro place' draw behind atDraw
    have inside := (List.getElem?_eq_some_iff.mp atDraw).1
    have aligned := keep'.1
    omega

/-- The numbers of a grant are those from its start to its last one, and it has some. -/
theorem granted_listed {services : World}
    (empty : services.segments.entries.find? conversation = none)
    (reached : Reached numberingSegmented services site) {place : Nat} {config : SegmentConfig}
    {need : UInt64} {grant : Grant} (done : site.callers[place]? =
      some ⟨⟨config, .allocate conversation need⟩, .done (.ok grant)⟩) :
    grant.range.span.first ≤ grant.range.last.value.toNat ∧
      ∀ number, number ∈ grant.range.numbers ↔ grant.range.span.first ≤ number.value.toNat ∧
        number.value.toNat ≤ grant.range.last.value.toNat := by
  -- A grant is of reserved numbers, so that it neither is empty nor wraps around.
  obtain ⟨_, numbered, keep⟩ := numberingSegmented_upholds conversation empty reached
  obtain ⟨_, _, _, positive, rfl, _, last⟩ := granted_numbers numbered keep done
  have bound := site.services.ledger.issued_lt_size conversation
  unfold Grant.start at last
  have ends := NumberRange.last_toNat positive (by omega)
  refine ⟨?_, fun number => ?_⟩
  · rw [ends]
    exact Nat.le_add_right _ _
  · rw [← NumberRange.holds_span positive (by omega), Span.holds_eq_true, ends]
    simp only [NumberRange.span]
    omega

/-- Where a block lags behind a number, some call that begins later may be granted a lower one. -/
theorem grants_below {services : World}
    (empty : services.segments.entries.find? conversation = none)
    (reached : Reached numberingSegmented services site) {mark : SequenceNumber}
    (lags : site.Lags conversation mark) :
    ∃ site' grant', Relation.ReflTransGen (Step numberingSegmented) site site' ∧
      site'.callers[site.callers.length]? =
        some ⟨⟨.standard, .allocate conversation 1⟩, .done (.ok grant')⟩ ∧
      ∃ number ∈ grant'.range.numbers, number.value < mark.value := by
  -- A block that is about to be cached may be, with no call begun until then.
  obtain ⟨middle, slot, now, run, aligned, alive, room, below⟩ : ∃ middle slot now,
      Relation.ReflTransGen (Step numberingSegmented) site middle ∧
      middle.callers.length = site.callers.length ∧
      middle.services.segments.liveEntry conversation now = some slot ∧
      slot.value.entry.current.toNat < slot.value.entry.last.toNat ∧
      slot.value.entry.last.toNat < mark.value.toNat := by
    rcases lags with ⟨slot, now, alive, room, below⟩ | ⟨segment, about, below⟩
    · exact ⟨site, slot, now, .refl, rfl, alive, UInt64.lt_iff_toNat_lt.mp room,
        UInt64.lt_iff_toNat_lt.mp below⟩
    · obtain ⟨_, numbered, keep⟩ := numberingSegmented_upholds conversation empty reached
      obtain ⟨place, job, plan, ready, rest, lifetime, reply, atPlace, passed, called⟩ := id about
      obtain ⟨held, atHeld, keeps⟩ := keep.held atPlace
      obtain ⟨member, ordered⟩ := ((keeps.passes_run passed).calls called).1 rfl
      have reserved := numbered.held_bounds atHeld member (n := segment.span.first) (by simp [ordered])
      obtain ⟨middle, slot, now, run, aligned, alive, spans⟩ := caches_block about reserved.1
      rw [UInt64.lt_iff_toNat_lt] at below
      simp only [CachedSegment.span, Segment.span, Span.mk.injEq] at spans ordered
      exact ⟨middle, slot, now, run, aligned, alive, by omega, by omega⟩
  obtain ⟨site', grant', granting, done, spans⟩ := grants_next alive room
  rw [aligned] at done
  obtain ⟨some', listed⟩ := granted_listed empty (reached.leads (run.trans granting)) done
  refine ⟨site', grant', run.trans granting, done, grant'.range.start,
    (listed _).mpr ⟨Nat.le_refl _, some'⟩, ?_⟩
  have start : grant'.range.start.value.toNat = slot.value.entry.current.toNat + 1 :=
    congrArg Span.first spans
  rw [UInt64.lt_iff_toNat_lt]
  omega

end Site

/-- However calls are interleaved, and whatever fails or is lost: the numbers of a grant lie below all
that are granted to later calls exactly if no block lags behind it. -/
theorem segmented_order_iff {clock : Instant} {lifetimes : ClaimLifetimes} {ready : List ServerId}
    {ledger : Ledger} {site : Site services World SegmentedJob.Answer}
    (reached : Site.Reached numberingSegmented { World.fresh clock lifetimes ready with ledger } site)
    {conversation : Conversation} {place : Nat} {config : SegmentConfig} {need : UInt64}
    {grant : Grant} (done : site.callers[place]? =
      some ⟨⟨config, .allocate conversation need⟩, .done (.ok grant)⟩) :
    (∀ site', Relation.ReflTransGen (Site.Step numberingSegmented) site site' →
      ∀ (place' : Nat) config' need' grant', site.callers.length ≤ place' →
        site'.callers[place']? =
          some ⟨⟨config', .allocate conversation need'⟩, .done (.ok grant')⟩ →
        ∀ number ∈ grant.range.numbers, ∀ number' ∈ grant'.range.numbers,
          number.value < number'.value) ↔
      ¬ site.Lags conversation grant.range.last := by
  obtain ⟨some', listed⟩ := Site.granted_listed rfl reached done
  constructor
  -- From a block that lags a number below the last one is granted to some call that begins later.
  · intro ordered lags
    obtain ⟨site', grant', run, done', number, member, below⟩ := Site.grants_below rfl reached lags
    have above := ordered site' run _ _ _ grant' (Nat.le_refl _) done' _
      ((listed _).mpr ⟨some', Nat.le_refl _⟩) number member
    rw [UInt64.lt_iff_toNat_lt] at above below
    omega
  -- If none does, a call that begins later is granted numbers above the last one.
  · intro caughtUp site' run place' config' need' grant' later done' number member number' member'
    have upheld := Site.drawnAbove_of_granted rfl reached done caughtUp
    obtain ⟨draws, drawn, keep⟩ := upheld.leads run
      (fun _ _ job drawn => ⟨_, job.begin_draws conversation rfl, drawn.join⟩)
      (fun _ _ _ _ _ _ _ drawn atPlace permitted reacted => drawn.reacts atPlace permitted reacted)
      (fun _ _ _ drawn drifted => drawn.drifts drifted)
    obtain ⟨draw, atDraw, keeps⟩ := keep.held done'
    have above := keeps.2.2 rfl grant' rfl
    rw [drawn.later _ _ later atDraw] at above
    have bound := (listed number).mp member
    have bound' := ((Site.granted_listed rfl (reached.leads run) done').2 number').mp member'
    rw [UInt64.lt_iff_toNat_lt]
    omega

/-- A call for one number. -/
def oneNumber : SegmentedJob := ⟨.standard, .allocate Sample.conversation 1⟩

/-- A call for one number that has run alone until it was done. -/
def oneGranted : Site services World SegmentedJob.Answer :=
  .roundRobin World.answer numberingSegmented.begins Sample.services [oneNumber] 5

set_option maxRecDepth 100000 in
/-- After a call that ran alone no block lags behind its number, and all that is granted to later
calls lies above it. -/
theorem oneGranted_leads_to_greater : ¬ oneGranted.Lags Sample.conversation ⟨1⟩ ∧
    ∀ site', Relation.ReflTransGen (Site.Step numberingSegmented) oneGranted site' →
      ∀ (place' : Nat) config' need' grant', 1 ≤ place' →
        site'.callers[place']? =
          some ⟨⟨config', .allocate Sample.conversation need'⟩, .done (.ok grant')⟩ →
        ∀ number' ∈ grant'.range.numbers, 1 < number'.value := by
  have reached : Site.Reached numberingSegmented
      { World.fresh Sample.clock .standard [] with ledger := .empty } oneGranted :=
    Site.reached_roundRobin (fun _ _ => World.Reacts.answers) _ _ _
  have callers : oneGranted.callers =
      [⟨oneNumber, .done (.ok ⟨⟨⟨1⟩, 1⟩, Sample.clock⟩)⟩] := rfl
  have done : oneGranted.callers[0]? = some ⟨⟨.standard, .allocate Sample.conversation 1⟩,
      .done (.ok ⟨⟨⟨1⟩, 1⟩, Sample.clock⟩)⟩ := rfl
  have stored : oneGranted.services.segments.entries.find? Sample.conversation = some
      ⟨⟨⟨1, 256, Sample.clock⟩, Duration.ofSeconds 3600⟩,
        Sample.clock.plus (Duration.ofSeconds 3600)⟩ := rfl
  -- The one cached block ends above the number, and the one caller is done.
  have caughtUp : ¬ oneGranted.Lags Sample.conversation ⟨1⟩ := by
    intro lags
    rcases lags with ⟨slot, now, alive, _, below⟩ | ⟨segment, about, _⟩
    · have found := (ExpiringTable.liveEntry_eq_some.mp alive).1
      rw [stored] at found
      cases found
      exact absurd below (by decide)
    · obtain ⟨place, job, plan, ready, rest, lifetime, reply, atPlace, passed, called⟩ := about
      rw [callers, List.getElem?_singleton] at atPlace
      split at atPlace <;> cases atPlace
      cases passed.cases_head with
      | inl same => subst same; cases called
      | inr more => obtain ⟨_, passes, _⟩ := more; cases passes
  refine ⟨caughtUp, fun site' run place' config' need' grant' later done' => ?_⟩
  exact (segmented_order_iff reached done).mpr caughtUp site' run place' config' need' grant' later
    done' ⟨1⟩ (by decide)

/-- Two calls for one number, of which the first has reserved a block but not cached it yet when the
second one begins, and is granted a number of the block after that. -/
def overtaken : Site services World SegmentedJob.Answer :=
  [0, 0, 1, 1, 1, 1, 1].foldl (Site.turn World.answer)
    ⟨Sample.services, [oneNumber, oneNumber].map fun job => ⟨job, numberingSegmented.begins job⟩⟩

/-- The cached block is lost, and a third call begins. It takes its number from the block that the
first call had reserved, and caches only now. -/
def reinstalled : Site services World SegmentedJob.Answer :=
  [0, 2, 2].foldl (Site.turn World.answer)
    ⟨{ overtaken.services with
        segments := overtaken.services.segments.remove Sample.conversation },
      overtaken.callers ++ [⟨oneNumber, numberingSegmented.begins oneNumber⟩]⟩

set_option maxRecDepth 100000 in
/-- A block that is reserved, overtaken, and cached after the newer block is lost, makes a call that
begins after another one is done be granted a lower number. -/
theorem reinstalled_grants_lower :
    Site.Reached numberingSegmented Sample.services overtaken ∧
      Relation.ReflTransGen (Site.Step numberingSegmented) overtaken reinstalled ∧
      overtaken.callers.length = 2 ∧
      ∃ grant grant',
        overtaken.callers[1]? =
          some ⟨⟨.standard, .allocate Sample.conversation 1⟩, .done (.ok grant)⟩ ∧
        reinstalled.callers[2]? =
          some ⟨⟨.standard, .allocate Sample.conversation 1⟩, .done (.ok grant')⟩ ∧
        grant.range.numbers = [⟨257⟩] ∧ grant'.range.numbers = [⟨1⟩] := by
  have answers : ∀ request w, numberingSegmented.reacts request w (World.answer request w).1
      (World.answer request w).2 := fun _ _ => World.Reacts.answers
  refine ⟨(Site.Reached.opens.begin [oneNumber, oneNumber]).leads
    (Site.leads_of_turns answers _ _), ?_, rfl, ⟨⟨⟨257⟩, 1⟩, Sample.clock⟩,
    ⟨⟨⟨1⟩, 1⟩, Sample.clock⟩, rfl, rfl, by decide, by decide⟩
  -- The block is lost by itself, and the third call begins before the first one goes on.
  have lost : Site.Step numberingSegmented overtaken
      { overtaken with services := { overtaken.services with
          segments := overtaken.services.segments.remove Sample.conversation } } :=
    .drifts ⟨rfl, rfl, rfl, rfl, rfl, ExpiringTable.remove_forgets _ _, .refl _, .refl _, .refl _⟩
  exact ((Relation.ReflTransGen.single lost).tail (.starts _ oneNumber)).trans
    (Site.leads_of_turns answers _ _)

end Intake
