import Mathlib.Data.List.Nodup
import Intake.Proofs.Plan.Lockstep
import Intake.Proofs.Samples
import Intake.Proofs.Save.Naming
import Intake.Proofs.Save.Preparation

/-! Tenants do not notice each other: whatever the others save, and however they name things, a save of a
tenant comes to what it would have come to without them. -/

namespace Intake

/-- What may happen by itself between two calls: the clock reads a time, or a cache loses the entry of a
conversation or all that it holds. -/
inductive Happening where
  | clockReads (reading : Instant)
  | losesSegment (conversation : Conversation)
  | losesSegments
  | losesCounter (conversation : Conversation)
  | losesCounters

/-- A conversation of one tenant is not that of a message of another. -/
theorem Conversation.ne_of_foreign {tenant : TenantId} {origin : Origin} (foreign : origin.tenant ≠ tenant)
    (conversation : Conversation) (own : conversation.tenant = tenant) :
    conversation ≠ .ofOrigin origin := by
  rintro rfl
  exact foreign own

/-- A key of one tenant is not that of a message of another. -/
theorem ClaimKey.ne_of_foreign {tenant : TenantId} {origin : Origin} (foreign : origin.tenant ≠ tenant)
    (key : ClaimKey) (own : key.tenant = tenant) : key ≠ .ofOrigin origin := by
  rintro rfl
  exact foreign own

namespace World

/-- The services after something has happened. The clock never goes back. -/
def undergo (w : World) : Happening → World
  | .clockReads reading => { w with clock := if w.clock ≤ reading then reading else w.clock }
  | .losesSegment conversation => { w with segments := w.segments.remove conversation }
  | .losesSegments => { w with segments := .empty }
  | .losesCounter conversation => { w with counters := w.counters.drop conversation }
  | .losesCounters => { w with counters := .empty }

/-- The services after things have happened, one after the other. -/
def undergoAll (w : World) (happenings : List Happening) : World := happenings.foldl undergo w

/-- Two worlds show a tenant the same: one clock, and the same marks, blocks, counters, locks, claims and
messages in all that is the tenant's. -/
structure AlikeFor (tenant : TenantId) (w v : World) : Prop where
  clock : w.clock = v.clock
  ledger : Ledger.Agree (·.tenant = tenant) w.ledger v.ledger
  segments : ExpiringTable.Agree (·.tenant = tenant) w.clock w.segments v.segments
  counters : CounterCache.Agree (·.tenant = tenant) w.clock w.counters v.counters
  claims : ClaimIndex.Agree (·.tenant = tenant) w.clock w.claims v.claims
  store : MessageStore.Agree (·.tenant = tenant) (·.tenant = tenant) w.store v.store

namespace AlikeFor

variable {tenant : TenantId} {w v u : World}

/-- A world shows a tenant what it shows. -/
theorem refl (tenant : TenantId) (w : World) : AlikeFor tenant w w where
  -- Each part agrees with itself.
  clock := rfl
  ledger := fun _ _ => rfl
  segments := fun _ _ => rfl
  counters := ⟨fun _ _ => rfl, fun _ _ => rfl⟩
  claims := ⟨rfl, fun _ _ => rfl⟩
  store := ⟨fun _ _ => rfl, fun _ _ => rfl⟩

/-- What shows a tenant the same as a second world shows it the same as a third, if the second one does. -/
theorem trans (first : w.AlikeFor tenant v) (second : v.AlikeFor tenant u) : w.AlikeFor tenant u := by
  -- The later agreement is stated at the clock of the middle world, which is that of the first.
  obtain ⟨clock, ledger, segments, counters, claims, store⟩ := second
  rw [← first.clock] at clock segments counters claims
  exact {
    clock
    ledger := fun key own => (first.ledger key own).trans (ledger key own)
    segments := fun key own => (first.segments key own).trans (segments key own)
    counters := ⟨fun key own => (first.counters.counters key own).trans (counters.counters key own),
      fun key own => (first.counters.locks key own).trans (counters.locks key own)⟩
    claims := ⟨first.claims.lifetimes.trans claims.lifetimes,
      fun key own => (first.claims.entries key own).trans (claims.entries key own)⟩
    store := ⟨fun key own => (first.store.byKey key own).trans (store.byKey key own),
      fun key own => (first.store.shelf key own).trans (store.shelf key own)⟩ }

/-- Showing a tenant the same goes both ways. -/
theorem symm (alike : w.AlikeFor tenant v) : v.AlikeFor tenant w := by
  -- What is live is judged at a clock, and that has to be the other world's now.
  obtain ⟨clock, ledger, segments, counters, claims, store⟩ := alike
  rw [clock] at segments counters claims
  exact {
    clock := clock.symm
    ledger := fun key own => (ledger key own).symm
    segments := fun key own => (segments key own).symm
    counters := ⟨fun key own => (counters.counters key own).symm,
      fun key own => (counters.locks key own).symm⟩
    claims := ⟨claims.lifetimes.symm, fun key own => (claims.entries key own).symm⟩
    store := ⟨fun key own => (store.byKey key own).symm, fun key own => (store.shelf key own).symm⟩ }

/-- What happens leaves worlds showing the tenant the same. -/
theorem undergo (alike : w.AlikeFor tenant v) (happening : Happening) :
    (w.undergo happening).AlikeFor tenant (v.undergo happening) := by
  obtain ⟨clock, ledger, segments, counters, claims, store⟩ := alike
  cases happening with
  | clockReads reading =>
    have same : (w.undergo (.clockReads reading)).clock = (v.undergo (.clockReads reading)).clock := by
      simp only [World.undergo, clock]
    -- The clock stays where it is, or goes on to the reading.
    have order : w.clock ≤ (w.undergo (.clockReads reading)).clock := by
      simp only [World.undergo]
      split
      · assumption
      · exact Instant.le_refl _
    exact ⟨same, ledger, segments.later order, counters.later order, claims.later order, store⟩
  | losesSegment conversation =>
    exact ⟨clock, ledger, segments.remove conversation, counters, claims, store⟩
  | losesSegments => exact ⟨clock, ledger, fun _ _ => rfl, counters, claims, store⟩
  | losesCounter conversation =>
    exact ⟨clock, ledger, segments, counters.drop conversation, claims, store⟩
  | losesCounters =>
    exact ⟨clock, ledger, segments, ⟨fun _ _ => rfl, fun _ _ => rfl⟩, claims, store⟩

/-- Whatever happens leaves worlds showing the tenant the same. -/
theorem undergoAll (alike : w.AlikeFor tenant v) (happenings : List Happening) :
    (w.undergoAll happenings).AlikeFor tenant (v.undergoAll happenings) := by
  -- The induction is on the happenings, which come over both worlds at once.
  induction happenings generalizing w v with
  | nil => exact alike
  | cons happening happenings ih => exact ih (alike.undergo happening)

end AlikeFor

/-- Two worlds show a tenant the same, and give the next candidate and the next token alike. -/
structure TwinsFor (tenant : TenantId) (w v : World) : Prop extends AlikeFor tenant w v where
  ids : w.ids = v.ids
  tokens : w.tokens = v.tokens

variable {belongs : ServerId → ClaimKey → Prop} {origin : Origin} {request : Service.Request}

/-- A call of a save is answered the same by worlds that show its tenant the same, and leaves them so. -/
theorem TwinsFor.answer (exclusive : Exclusive belongs) {w v : World}
    (twins : w.TwinsFor origin.tenant v) (named : w.Named belongs) (named' : v.Named belongs)
    (names : Service.Names belongs origin request) :
    (World.answer request w).1 = (World.answer request v).1 ∧
      (World.answer request w).2.TwinsFor origin.tenant (World.answer request v).2 := by
  -- What concerns the message is its tenant's.
  have here : ∀ conversation : Conversation, conversation = .ofOrigin origin →
      conversation.tenant = origin.tenant := fun _ same => congrArg Conversation.tenant same
  have mine : ∀ key : ClaimKey, key = .ofOrigin origin → key.tenant = origin.tenant :=
    fun _ same => congrArg ClaimKey.tenant same
  have free : ∀ message : Message, belongs message.serverId message.key → _ → _ :=
    fun message => named.id_free exclusive
  have free' : ∀ message : Message, belongs message.serverId message.key → _ → _ :=
    fun message => named'.id_free exclusive
  have sound := named.consistent
  have sound' := named'.consistent
  obtain ⟨clock, ledger, segments, counters, claims, store, ids, tokens⟩ := w
  obtain ⟨clock', ledger', segments', counters', claims', store', ids', tokens'⟩ := v
  obtain ⟨⟨sameClock, marks, blocks, counts, claimed, stored⟩, sameIds, sameTokens⟩ := twins
  dsimp only at *
  subst sameClock sameIds sameTokens
  cases request
  case now | freshToken | freshServerId =>
    exact ⟨rfl, ⟨rfl, marks, blocks, counts, claimed, stored⟩, rfl, rfl⟩
  -- The rows of the tenant are the same on both sides, and so is what is made of them.
  case reserve conversation count =>
    obtain ⟨same, still⟩ := Ledger.reserve_agree marks (here _ names) count clock
    exact ⟨same, ⟨rfl, still, blocks, counts, claimed, stored⟩, rfl, rfl⟩
  case raiseIssued conversation floor =>
    exact ⟨rfl, ⟨rfl, marks.raiseIssued (here _ names) floor clock, blocks, counts, claimed, stored⟩,
      rfl, rfl⟩
  case raiseCommitted conversation number =>
    exact ⟨rfl, ⟨rfl, marks.raiseCommitted (here _ names) number clock, blocks, counts, claimed, stored⟩,
      rfl, rfl⟩
  case loadWatermarks conversation =>
    exact ⟨congrArg Except.ok (marks _ (here _ names)),
      ⟨rfl, marks, blocks, counts, claimed, stored⟩, rfl, rfl⟩
  -- Of a cache only what lives is the same. What has expired may be there on one side only.
  case take conversation need =>
    obtain ⟨same, still⟩ := SegmentCache.take_agree blocks (here _ names) need
    exact ⟨congrArg Except.ok same, ⟨rfl, marks, still, counts, claimed, stored⟩, rfl, rfl⟩
  case install conversation segment lifetime =>
    obtain ⟨same, still⟩ := SegmentCache.install_agree blocks (here _ names) segment lifetime
    exact ⟨congrArg Except.ok same, ⟨rfl, marks, still, counts, claimed, stored⟩, rfl, rfl⟩
  case dropSegment conversation =>
    exact ⟨rfl, ⟨rfl, marks, blocks.remove conversation, counts, claimed, stored⟩, rfl, rfl⟩
  case increment conversation amount lifetime =>
    obtain ⟨same, still⟩ := CounterCache.increment_agree counts (here _ names) amount lifetime
    exact ⟨same, ⟨rfl, marks, blocks, still, claimed, stored⟩, rfl, rfl⟩
  case seedCounter conversation value lifetime =>
    obtain ⟨same, still⟩ := CounterCache.seed_agree counts (here _ names) value lifetime
    exact ⟨congrArg Except.ok same, ⟨rfl, marks, blocks, still, claimed, stored⟩, rfl, rfl⟩
  case lock conversation token lifetime =>
    obtain ⟨same, still⟩ := CounterCache.lock_agree counts (here _ names) token lifetime
    exact ⟨congrArg Except.ok same, ⟨rfl, marks, blocks, still, claimed, stored⟩, rfl, rfl⟩
  case unlock conversation token =>
    obtain ⟨same, still⟩ := CounterCache.unlock_agree counts (here _ names) token
    exact ⟨congrArg Except.ok same, ⟨rfl, marks, blocks, still, claimed, stored⟩, rfl, rfl⟩
  case dropCounter conversation =>
    exact ⟨rfl, ⟨rfl, marks, blocks, counts.drop conversation, claimed, stored⟩, rfl, rfl⟩
  -- The claims are a machine for each key, whose answer to a call is that of the call itself.
  case claim key fingerprint proposed =>
    have own : (ClaimCall.claim key fingerprint proposed).key.tenant = origin.tenant := mine _ names.1
    obtain ⟨same, still⟩ := ClaimIndex.answer_agree claimed own
    exact ⟨congrArg Except.ok (ClaimReply.claimed.inj same),
      ⟨rfl, marks, blocks, counts, still, stored⟩, rfl, rfl⟩
  case commitClaim key serverId fingerprint =>
    have own : (ClaimCall.commit key serverId fingerprint).key.tenant = origin.tenant := mine _ names.1
    obtain ⟨same, still⟩ := ClaimIndex.answer_agree claimed own
    exact ⟨ClaimReply.committed.inj same, ⟨rfl, marks, blocks, counts, still, stored⟩, rfl, rfl⟩
  case rollBackClaim key =>
    have own : (ClaimCall.rollBack key).key.tenant = origin.tenant := mine _ names
    obtain ⟨_, still⟩ := ClaimIndex.answer_agree claimed own
    exact ⟨rfl, ⟨rfl, marks, blocks, counts, still, stored⟩, rfl, rfl⟩
  -- An identifier might be taken by a message of any tenant, and both stores have to be free of it.
  case insert message =>
    obtain ⟨rfl, own⟩ := names
    obtain ⟨same, still⟩ := MessageStore.insert_agree stored sound sound' (mine _ rfl) (here _ rfl)
      (free message own) (free' message own)
    exact ⟨same, ⟨rfl, marks, blocks, counts, claimed, still⟩, rfl, rfl⟩
  case findByKey key =>
    exact ⟨congrArg Except.ok (stored.byKey _ (mine _ names)),
      ⟨rfl, marks, blocks, counts, claimed, stored⟩, rfl, rfl⟩
  case greatestSequence conversation =>
    have same := stored.shelf _ (here _ names)
    refine ⟨congrArg Except.ok ?_, ⟨rfl, marks, blocks, counts, claimed, stored⟩, rfl, rfl⟩
    simp only [MessageStore.greatestSequence, same]
  case renameClaim | raiseRetained => exact names.elim

/-- What prepares a message of another tenant changes nothing that the tenant is shown. -/
theorem Prepared.alikeFor {tenant : TenantId} {before after : World}
    (prepared : Prepared origin before after) (foreign : origin.tenant ≠ tenant) :
    before.AlikeFor tenant after := by
  -- What is the tenant's is another conversation and another key than those of the message.
  have apart : ∀ other : Conversation, other.tenant = tenant → other ≠ .ofOrigin origin :=
    fun other own => other.ne_of_foreign foreign own
  have apart' : ∀ other : ClaimKey, other.tenant = tenant → other ≠ .ofOrigin origin :=
    fun other own => other.ne_of_foreign foreign own
  have stored : after.store = before.store := prepared.store
  exact {
    clock := prepared.others.clock.symm
    ledger := fun other own => (prepared.others.ledger other (apart other own)).symm
    segments := fun other own => (prepared.others.segments other (apart other own)).symm
    counters := ⟨fun other own => (prepared.others.counters other (apart other own)).symm,
      fun other own => (prepared.locks other (apart other own)).symm⟩
    claims := ⟨prepared.lifetimes.symm,
      fun other own => (prepared.claims other (apart' other own)).symm⟩
    store := ⟨fun _ _ => by rw [stored], fun _ _ => by rw [stored]⟩ }

/-- A call of another tenant's save changes nothing that the tenant is shown. -/
theorem alike_answer {tenant : TenantId} {w : World} (foreign : origin.tenant ≠ tenant)
    (named : w.Named belongs) (names : Service.Names belongs origin request) :
    w.AlikeFor tenant (answer request w).2 := by
  have same := AlikeFor.refl tenant w
  -- Three calls do more than to prepare a message, each of them to one service only.
  cases request
  case insert message =>
    obtain ⟨rfl, _⟩ := names
    obtain ⟨byKey, shelf⟩ := MessageStore.insert_keeps_others named.consistent message
    exact { same with store := ⟨fun other own => byKey other (other.ne_of_foreign foreign own),
      fun other own => shelf other (other.ne_of_foreign foreign own)⟩ }
  case commitClaim key serverId fingerprint =>
    obtain ⟨rfl, _⟩ := names
    refine { same with claims := ?_ }
    exact w.claims.agree_answer w.clock (.commit _ serverId fingerprint) fun other own =>
      other.ne_of_foreign foreign own
  case raiseCommitted conversation number =>
    obtain rfl := names
    exact { same with ledger := fun other own =>
      (w.ledger.load_raiseCommitted_of_ne number w.clock (other.ne_of_foreign foreign own)).symm }
  case claim => exact (Prepared.answer (by exact names.1) w).alikeFor foreign
  case renameClaim | raiseRetained => exact names.elim
  all_goals exact (Prepared.answer (by exact names) w).alikeFor foreign

/-- What happens leaves what is stored and claimed as it is. -/
theorem Named.undergoAll {w : World} (named : w.Named belongs) (happenings : List Happening) :
    (w.undergoAll happenings).Named belongs := by
  -- The induction is on the happenings. None of them adds a row or a claim.
  induction happenings generalizing w with
  | nil => exact named
  | cons happening happenings ih =>
    refine ih ?_
    cases happening <;> exact ⟨named.consistent, named.stored, named.claimed⟩

/-- What happens leaves the supplies of candidates and of tokens as they are. -/
theorem supplies_undergoAll (w : World) (happenings : List Happening) :
    (w.undergoAll happenings).ids = w.ids ∧ (w.undergoAll happenings).tokens = w.tokens := by
  -- The induction is on the happenings, none of which draws.
  induction happenings generalizing w with
  | nil => exact ⟨rfl, rfl⟩
  | cons happening happenings ih =>
    obtain ⟨ids, tokens⟩ := ih (w.undergo happening)
    cases happening <;> exact ⟨ids, tokens⟩

/-- Whatever happens leaves twins twins. -/
theorem TwinsFor.undergoAll {tenant : TenantId} {w v : World} (twins : w.TwinsFor tenant v)
    (happenings : List Happening) :
    (w.undergoAll happenings).TwinsFor tenant (v.undergoAll happenings) := by
  -- The services stay alike, and the supplies are not touched on either side.
  obtain ⟨ids, tokens⟩ := supplies_undergoAll w happenings
  obtain ⟨ids', tokens'⟩ := supplies_undergoAll v happenings
  exact ⟨twins.toAlikeFor.undergoAll happenings, by rw [ids, ids', twins.ids],
    by rw [tokens, tokens', twins.tokens]⟩

/-- Only a call for a candidate draws one. -/
theorem ids_answer {drawn : Bool} (w : World)
    (undrawn : Service.hasDrawn request drawn = false) :
    drawn = false ∧ (answer request w).2.ids = w.ids := by
  -- Drawing an identifier is the one request that changes the supply, and it counts as drawn.
  cases request
  case freshServerId => nomatch undrawn
  all_goals exact ⟨undrawn, rfl⟩

end World

/-- The services during a save, and what is still to happen before each of its calls. -/
structure Moment where
  services : World
  ahead : List (List Happening)

namespace Moment

/-- Answers a call after what is to happen before it. -/
def answer (request : Service.Request) (moment : Moment) : Service.Reply request × Moment :=
  let (reply, services) :=
    World.answer request (moment.services.undergoAll (moment.ahead.headD []))
  (reply, ⟨services, moment.ahead.tail⟩)

/-- The services after all that is still to happen. -/
def settled (moment : Moment) : World := moment.services.undergoAll moment.ahead.flatten

/-- What is to happen before the next call and what is to happen after it is all that is to happen. -/
theorem undergo_ahead (w : World) (ahead : List (List Happening)) :
    (w.undergoAll (ahead.headD [])).undergoAll ahead.tail.flatten = w.undergoAll ahead.flatten := by
  -- With nothing ahead there is nothing to undergo, before or after.
  cases ahead with
  | nil => rfl
  | cons next ahead => exact List.foldl_append.symm

variable {belongs : ServerId → ClaimKey → Prop} {origin : Origin}

/-- Two moments of a save in worlds that show its tenant the same, with the same to happen. -/
structure Twins (belongs : ServerId → ClaimKey → Prop) (origin : Origin) (drawn : Bool)
    (moment other : Moment) : Prop where
  services : moment.services.TwinsFor origin.tenant other.services
  named : moment.services.Named belongs
  named' : other.services.Named belongs
  ahead : moment.ahead = other.ahead
  candidate : drawn = false → belongs moment.services.ids.next.1 (.ofOrigin origin)

/-- Two such moments answer the save alike. -/
theorem answers_twins (exclusive : Exclusive belongs) :
    Plan.AnswersAlike (Service.naming belongs origin) answer (Twins belongs origin) := by
  intro request drawn moment other permitted twins
  obtain ⟨names, undrawn⟩ := permitted
  -- What happens before the call happens in both.
  have services := twins.services.undergoAll (moment.ahead.headD [])
  have named := twins.named.undergoAll (moment.ahead.headD [])
  have named' := twins.named'.undergoAll (moment.ahead.headD [])
  have candidate : drawn = false →
      belongs (moment.services.undergoAll (moment.ahead.headD [])).ids.next.1 (.ofOrigin origin) := by
    rw [(World.supplies_undergoAll _ _).1]
    exact twins.candidate
  obtain ⟨same, still⟩ := services.answer exclusive named named' names
  unfold answer
  rw [← twins.ahead]
  refine ⟨same, Service.hasDrawn request drawn,
    ⟨named.tells exclusive names fun asks => candidate (undrawn asks), rfl⟩,
    ⟨still, named.answer names, named'.answer names, rfl, fun left => ?_⟩⟩
  obtain ⟨before, kept⟩ := World.ids_answer (moment.services.undergoAll (moment.ahead.headD [])) left
  rw [kept]
  exact candidate before

/-- A moment of another tenant's save, in a world that shows a tenant what a second one does, which will
come to the target through what is still to happen. -/
structure Foreign (belongs : ServerId → ClaimKey → Prop) (origin : Origin) (tenant : TenantId)
    (target : World) (drawn : Bool) (moment other : Moment) : Prop where
  same : moment = other
  named : moment.services.Named belongs
  alike : ∃ v, moment.services.AlikeFor tenant v ∧ v.undergoAll moment.ahead.flatten = target
  candidate : drawn = false → belongs moment.services.ids.next.1 (.ofOrigin origin)

/-- The other tenant's save goes on to leave the world showing the tenant the same. -/
theorem answers_foreign (exclusive : Exclusive belongs) {tenant : TenantId}
    (foreign : origin.tenant ≠ tenant) (target : World) :
    Plan.AnswersAlike (Service.naming belongs origin) answer
      (Foreign belongs origin tenant target) := by
  intro request drawn moment other permitted before
  obtain ⟨names, undrawn⟩ := permitted
  obtain ⟨rfl, named, ⟨v, alike, reaches⟩, candidate⟩ := before
  have named' := named.undergoAll (moment.ahead.headD [])
  have candidate' : drawn = false →
      belongs (moment.services.undergoAll (moment.ahead.headD [])).ids.next.1 (.ofOrigin origin) := by
    rw [(World.supplies_undergoAll _ _).1]
    exact candidate
  -- What happens before the call happens in the second world too, and the call changes the first alone.
  have alike' := alike.undergoAll (moment.ahead.headD [])
  have changed := World.alike_answer foreign named' names
  unfold answer
  refine ⟨rfl, Service.hasDrawn request drawn,
    ⟨named'.tells exclusive names fun asks => candidate' (undrawn asks), rfl⟩,
    ⟨rfl, named'.answer names, ⟨_, changed.symm.trans alike', ?_⟩, fun left => ?_⟩⟩
  · rw [← reaches]
    exact undergo_ahead v moment.ahead
  · obtain ⟨earlier, kept⟩ := World.ids_answer (moment.services.undergoAll (moment.ahead.headD [])) left
    rw [kept]
    exact candidate' earlier

end Moment

/-- A submission that is handed in, the supplies of candidates and of tokens that its save draws from, and
what happens before each of the calls of the save, or after the last one. -/
structure Visit where
  submission : Submission
  ids : IdSupply
  tokens : Nat
  meanwhile : List (List Happening)

namespace Visit

variable (visit : Visit) (config : SaveConfig) (allocator : Allocator)

/-- The tenant who hands the submission in. -/
def tenant : TenantId := visit.submission.origin.tenant

/-- The candidate that the save draws first. -/
def candidate : ServerId := visit.ids.next.1

/-- The services as the save finds them. -/
def begin (w : World) : Moment :=
  ⟨{ w with ids := visit.ids, tokens := visit.tokens }, visit.meanwhile⟩

/-- Saves the submission, and lets the rest happen. -/
def take (w : World) : Except SaveError Receipt × World :=
  let (outcome, line) := ((save config allocator visit.submission).run fun request =>
    Timed.transform (Moment.answer request)).start (visit.begin w)
  (outcome, line.state.settled)

/-- Lets happen what happens, without the save. -/
def pass (w : World) : World := w.undergoAll visit.meanwhile.flatten

end Visit

/-- Takes those visits that are admitted, one after the other, and passes the others over. Answers which
visits were taken, and what each came to. -/
def serve (config : SaveConfig) (allocator : Allocator) (admits : Visit → Bool) :
    List Visit → World → List (Visit × Except SaveError Receipt)
  | [], _ => []
  | visit :: visits, w =>
    if admits visit then
      match visit.take config allocator w with
      | (outcome, after) => (visit, outcome) :: serve config allocator admits visits after
    else serve config allocator admits visits (visit.pass w)

namespace Visit

variable {belongs : ServerId → ClaimKey → Prop} {config : SaveConfig} {allocator : Allocator}
  {visit : Visit} {w v : World}

/-- A visit of a tenant comes to the same in worlds that show the tenant the same. -/
theorem take_alike (exclusive : Exclusive belongs)
    (own : belongs visit.candidate (.ofOrigin visit.submission.origin))
    (alike : w.AlikeFor visit.tenant v) (named : w.Named belongs) (named' : v.Named belongs) :
    (visit.take config allocator w).1 = (visit.take config allocator v).1 ∧
      (visit.take config allocator w).2.AlikeFor visit.tenant (visit.take config allocator v).2 ∧
      (visit.take config allocator w).2.Named belongs ∧
      (visit.take config allocator v).2.Named belongs := by
  -- The save runs in lockstep in both worlds, which goes for what happens after its last call as well.
  have start : Moment.Twins belongs visit.submission.origin false (visit.begin w) (visit.begin v) :=
    ⟨⟨⟨alike.clock, alike.ledger, alike.segments, alike.counters, alike.claims, alike.store⟩, rfl, rfl⟩,
      ⟨named.consistent, named.stored, named.claimed⟩,
      ⟨named'.consistent, named'.stored, named'.claimed⟩, rfl, fun _ => own⟩
  obtain ⟨outcome, now, _, moment, other, left, right, twins, _⟩ :=
    (save_names belongs config allocator visit.submission).lockstep_start
      (Moment.answers_twins exclusive) start
  unfold take
  rw [left, right]
  have still := twins.services.toAlikeFor.undergoAll moment.ahead.flatten
  refine ⟨rfl, ?_, twins.named.undergoAll _, twins.named'.undergoAll _⟩
  rw [twins.ahead] at still
  simp only [Moment.settled, twins.ahead]
  exact still

/-- A visit of another tenant leaves a world showing the tenant what is shown without it. -/
theorem take_foreign (exclusive : Exclusive belongs)
    (own : belongs visit.candidate (.ofOrigin visit.submission.origin)) {tenant : TenantId}
    (foreign : visit.tenant ≠ tenant) (alike : w.AlikeFor tenant v) (named : w.Named belongs) :
    (visit.take config allocator w).2.AlikeFor tenant (visit.pass v) ∧
      (visit.take config allocator w).2.Named belongs := by
  -- The run is followed beside itself, with the world in which only the rest happens as its target.
  have start : Moment.Foreign belongs visit.submission.origin tenant (visit.pass v) false
      (visit.begin w) (visit.begin w) :=
    ⟨rfl, ⟨named.consistent, named.stored, named.claimed⟩,
      ⟨v, ⟨alike.clock, alike.ledger, alike.segments, alike.counters, alike.claims, alike.store⟩, rfl⟩,
      fun _ => own⟩
  obtain ⟨outcome, now, _, moment, other, left, _, after, _⟩ :=
    (save_names belongs config allocator visit.submission).lockstep_start
      (Moment.answers_foreign exclusive foreign (visit.pass v)) start
  obtain ⟨_, namedAfter, ⟨u, still, reaches⟩, _⟩ := after
  unfold take
  rw [left, ← reaches]
  exact ⟨still.undergoAll _, namedAfter.undergoAll _⟩

end Visit

/-- From worlds that show a tenant the same, the tenant's visits come to the same with and without the
visits of the others. -/
theorem serve_alike {belongs : ServerId → ClaimKey → Prop} (exclusive : Exclusive belongs)
    (config : SaveConfig) (allocator : Allocator) (tenant : TenantId) {visits : List Visit}
    (own : ∀ visit ∈ visits, belongs visit.candidate (.ofOrigin visit.submission.origin)) {w v : World}
    (alike : w.AlikeFor tenant v) (named : w.Named belongs) (named' : v.Named belongs) :
    (serve config allocator (fun _ => true) visits w).filter (·.1.tenant = tenant) =
      serve config allocator (·.tenant = tenant) visits v := by
  -- The induction is on the visits. Each leaves the two worlds showing the tenant the same.
  induction visits generalizing w v with
  | nil => rfl
  | cons visit visits ih =>
    have first := own visit List.mem_cons_self
    have others : ∀ later ∈ visits, belongs later.candidate (.ofOrigin later.submission.origin) :=
      fun later member => own later (List.mem_cons_of_mem _ member)
    unfold serve
    by_cases mine : visit.tenant = tenant
    · subst mine
      obtain ⟨same, still, sound, sound'⟩ := Visit.take_alike exclusive first alike named named'
      simp only [↓reduceIte, decide_true, List.filter_cons]
      rw [ih others still sound sound', same]
    · obtain ⟨still, sound⟩ := Visit.take_foreign exclusive first mine alike named
      simp only [↓reduceIte, List.filter_cons, mine, decide_false, Bool.false_eq_true]
      exact ih others still sound (named'.undergoAll _)

/-- Whatever the other tenants hand in, every submission of a tenant comes to what it comes to when theirs
are left out, with either allocator. -/
theorem tenants_isolated (config : SaveConfig) (allocator : Allocator) (clock : Instant)
    (lifetimes : ClaimLifetimes) (tenant : TenantId) (visits : List Visit)
    (distinct : (visits.map Visit.candidate).Nodup) :
    (serve config allocator (fun _ => true) visits (.fresh clock lifetimes [])).filter
        (·.1.tenant = tenant) =
      serve config allocator (·.tenant = tenant) visits (.fresh clock lifetimes []) := by
  -- A candidate belongs to the key of the one visit that draws it.
  let belongs (serverId : ServerId) (key : ClaimKey) : Prop :=
    ∃ visit ∈ visits, visit.candidate = serverId ∧ .ofOrigin visit.submission.origin = key
  have exclusive : Exclusive belongs := by
    rintro serverId key other ⟨visit, member, drawn, rfl⟩ ⟨visit', member', drawn', rfl⟩
    rw [List.inj_on_of_nodup_map distinct member member' (drawn.trans drawn'.symm)]
  exact serve_alike exclusive config allocator tenant (fun visit member => ⟨visit, member, rfl, rfl⟩)
    (.refl tenant _) (.fresh belongs clock lifetimes []) (.fresh belongs clock lifetimes [])

/-- A greeting in the conversation `c` of the tenant `a/b`, and one in the conversation `b/c` of the
tenant `a`, with the segments lost and the clock moving on between the calls. -/
def slashedVisits : List Visit :=
  let there : Origin := { Sample.origin with
    tenant := ⟨"a/b", by decide, by decide, by decide⟩
    conversation := ⟨"c", by decide, by decide, by decide⟩ }
  let here : Origin := { Sample.origin with
    tenant := ⟨"a", by decide, by decide, by decide⟩
    conversation := ⟨"b/c", by decide, by decide, by decide⟩ }
  [⟨{ Sample.hello with origin := there }, ⟨[⟨Uuid.ofNat 1⟩], 0⟩, 0, [[.losesSegments]]⟩,
    ⟨{ Sample.hello with origin := here }, ⟨[⟨Uuid.ofNat 2⟩], 0⟩, 0,
      [[], [.clockReads (Sample.clock.plus (Duration.ofSeconds 1))], [.losesSegments]]⟩]

/-- The second greeting is the first message of its conversation, whether or not the other was before it. -/
theorem tenants_isolated_slashed :
    let tenant : TenantId := ⟨"a", by decide, by decide, by decide⟩
    (slashedVisits.map Visit.candidate).Nodup ∧
      ((serve .standard (.segmented .standard) (fun _ => true) slashedVisits
          (.fresh Sample.clock .standard [])).filter (·.1.tenant = tenant)).map (·.2) =
        [.ok ⟨⟨Uuid.ofNat 2⟩, ⟨1⟩, Sample.clock.plus (Duration.ofSeconds 1)⟩] := by
  -- Without the first greeting the second one is simply evaluated.
  intro tenant
  have distinct : (slashedVisits.map Visit.candidate).Nodup := by decide +kernel
  refine ⟨distinct, ?_⟩
  rw [tenants_isolated .standard (.segmented .standard) Sample.clock .standard tenant slashedVisits
    distinct]
  decide +kernel

end Intake
