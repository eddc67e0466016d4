import Intake.Proofs.Memory.Expiring
import Intake.Proofs.Samples
import Intake.Proofs.Save.Log
import Intake.Proofs.Time.Elapsed

/-! Maps that remove expired entries on the way: they answer every call as a map that keeps all entries and
passes over the expired ones, and soon after a value is set they hold none that expired long before. -/

namespace Intake

/-- A call on a map of expiring values. -/
inductive TimedCall (κ ν : Type) where
  | insert (key : κ) (value : ν) (lifetime : Duration)
  | look (key : κ)
  | revise (key : κ) (change : Expiring ν → Expiring ν)
  | remove (key : κ)
  | count

/-- What a call on a map of expiring values is answered with. -/
inductive TimedReply (ν : Type) where
  | done
  | looked (value : Option ν)
  | revised (entry : Option (Expiring ν))
  | counted (size : Nat)

/-- Whether a call lets an entry expire only when it may. One that is revised lives for some span from now
on, or ends sooner than before, but not in the past. -/
def TimedCall.Proper {κ ν : Type} (now : Instant) : TimedCall κ ν → Prop
  | .revise _ change => ∀ entry : Expiring ν, entry.isLive now = true →
    (∃ lifetime, (change entry).expiresAt = now.plus lifetime) ∨
      (now ≤ (change entry).expiresAt ∧ (change entry).expiresAt ≤ entry.expiresAt)
  | _ => True

/-- A map that keeps every entry until its key is removed or set again, expired or not. -/
structure TimedMap (κ ν : Type) where
  entries : Table κ (Expiring ν)

namespace TimedMap

variable {κ ν : Type} [DecidableEq κ]

/-- The map without entries. -/
def empty : TimedMap κ ν := ⟨Table.empty⟩

/-- When a value expires that is set for so long: after that span, or at the last instant there is where no
calendar names that. -/
def expiry (now : Instant) (lifetime : Duration) : Instant :=
  match now.plus? lifetime with
  | some later => later
  | none => .latest

/-- The entry of a key, which is present before its expiry. -/
def present (map : TimedMap κ ν) (key : κ) (now : Instant) : Option (Expiring ν) :=
  (map.entries.find? key).filter fun entry => now < entry.expiresAt

/-- Answers a call, and gives the map after it. -/
def answer (map : TimedMap κ ν) (now : Instant) : TimedCall κ ν → TimedReply ν × TimedMap κ ν
  | .insert key value lifetime => (.done, ⟨map.entries.insert key ⟨value, expiry now lifetime⟩⟩)
  | .look key => (.looked ((map.present key now).map (·.value)), map)
  | .revise key change =>
    match map.present key now with
    | some entry => (.revised (some entry), ⟨map.entries.insert key (change entry)⟩)
    | none => (.revised none, map)
  | .remove key => (.done, ⟨map.entries.erase key⟩)
  | .count => (.counted (map.entries.filter fun entry => now < entry.expiresAt).size, map)

/-- Makes calls at their times, one after the other: what they are answered with, and the map after
them. -/
def follow (map : TimedMap κ ν) (calls : List (Instant × TimedCall κ ν)) :
    List (TimedReply ν) × TimedMap κ ν :=
  inOrder (fun input map => map.answer input.1 input.2) calls map

end TimedMap

namespace ExpiringTable

variable {κ ν : Type} [DecidableEq κ] {t : ExpiringTable κ ν} {map : TimedMap κ ν}
  {now later : Instant}

/-- Answers a call, and gives the map after it. -/
def answer (t : ExpiringTable κ ν) (now : Instant) : TimedCall κ ν → TimedReply ν × ExpiringTable κ ν
  | .insert key value lifetime => (.done, t.insert key value now lifetime)
  | .look key =>
    match t.live key now with
    | (entry, t) => (.looked (entry.map (·.value)), t)
  | .revise key change =>
    match t.live key now with
    | (some entry, t) => (.revised (some entry), t.update key (change entry))
    | (none, t) => (.revised none, t)
  | .remove key => (.done, t.remove key)
  | .count => (.counted (t.liveCount now), t)

/-- Makes calls at their times, one after the other: what they are answered with, and the map after
them. -/
def follow (t : ExpiringTable κ ν) (calls : List (Instant × TimedCall κ ν)) :
    List (TimedReply ν) × ExpiringTable κ ν :=
  inOrder (fun input t => t.answer input.1 input.2) calls t

/-- From a time on the same entries are present in two maps of which one keeps them all. -/
def Shadows (t : ExpiringTable κ ν) (map : TimedMap κ ν) (now : Instant) : Prop :=
  ∀ key, t.liveEntry key now = map.present key now

namespace Shadows

/-- Entries that are present in both maps now vanish from both when their time is up. -/
theorem onward (shadows : t.Shadows map now) (order : now ≤ later) : t.Shadows map later := by
  intro key
  -- What is present in the map that keeps all is what lives in a table of its entries, whenever swept.
  have vanished := (⟨map.entries, none⟩ : ExpiringTable κ ν).liveEntry_later key order
  rw [t.liveEntry_later key order, shadows key]
  exact vanished.symm

/-- As many entries are present in both maps. -/
theorem liveCount_eq (shadows : t.Shadows map now) :
    t.liveCount now = (map.entries.filter fun entry => now < entry.expiresAt).size := by
  -- Under each key the map has an entry that lives exactly if the other one has.
  refine Table.size_eq_of_find?_eq fun key => ?_
  rw [Table.find?_filter, Table.find?_filter]
  exact shadows key

/-- Where one key is set or removed in both maps, the same entries are present if this key has the same,
and what is present of the others is kept. -/
theorem of_kept {after : ExpiringTable κ ν} {mapAfter : TimedMap κ ν} {key : κ}
    (shadows : t.Shadows map now) (same : after.liveEntry key now = mapAfter.present key now)
    (kept : ∀ other, other ≠ key → after.liveEntry other now = t.liveEntry other now)
    (kept' : ∀ other, other ≠ key → mapAfter.entries.find? other = map.entries.find? other) :
    after.Shadows mapAfter now := by
  -- What is live under the key is the same on both sides, and under the others it has not changed.
  intro other
  by_cases own : other = key
  · subst own
    exact same
  · rw [kept other own, shadows other, TimedMap.present, TimedMap.present, kept' other own]

/-- Both maps answer a call alike, and the same entries are present after it. -/
theorem answer (shadows : t.Shadows map now) (call : TimedCall κ ν) :
    (t.answer now call).1 = (map.answer now call).1 ∧
      (t.answer now call).2.Shadows (map.answer now call).2 now := by
  -- What the table forgets on the way has expired, and is present in neither map.
  cases call with
  | insert key value lifetime =>
    refine ⟨rfl, shadows.of_kept ?_ (fun other => t.liveEntry_insert_of_ne value now lifetime)
      fun other => map.entries.find?_insert_of_ne _⟩
    have expires : TimedMap.expiry now lifetime = now.plus lifetime := by
      unfold TimedMap.expiry Instant.plus
      cases now.plus? lifetime <;> rfl
    rw [TimedMap.answer, TimedMap.present, Table.find?_insert_self, expires]
    exact liveEntry_of_found now (find?_insert_self t key value now lifetime)
  | look key =>
    obtain ⟨after, looked, kept⟩ := t.live_keeps key now
    simp only [ExpiringTable.answer, TimedMap.answer, looked, shadows key, true_and]
    exact fun other => (kept other).trans (shadows other)
  | revise key change =>
    have same := shadows key
    simp only [ExpiringTable.answer, TimedMap.answer, ← same]
    cases alive : t.liveEntry key now with
    | some entry =>
      -- The revised entry replaces the one that lives, in both maps.
      rw [live_of_alive alive]
      refine ⟨rfl, shadows.of_kept ?_
        (fun other differ => liveEntry_of_kept now (t.find?_update_of_ne _ differ))
        fun other => map.entries.find?_insert_of_ne _⟩
      rw [TimedMap.present, Table.find?_insert_self]
      exact liveEntry_of_found now (find?_update_self t key (change entry))
    | none =>
      obtain ⟨after, looked, kept⟩ := t.live_keeps key now
      rw [looked, alive]
      exact ⟨rfl, fun other => (kept other).trans (shadows other)⟩
  | remove key =>
    refine ⟨rfl, shadows.of_kept ?_
      (fun other differ => liveEntry_of_kept now (Table.find?_erase_of_ne _ differ))
      fun other => map.entries.find?_erase_of_ne⟩
    show (t.remove key).liveEntry key now = _
    rw [liveEntry_of_missing (find?_remove_self t key), TimedMap.answer, TimedMap.present,
      Table.find?_erase_self]
    rfl
  | count => exact ⟨congrArg TimedReply.counted shadows.liveCount_eq, shadows⟩

end Shadows

/-- A look-up forgets an expired entry at the most, and leaves the time of the last sweep as it is. -/
theorem live_forgets (t : ExpiringTable κ ν) (key : κ) (now : Instant) :
    t.Forgets (t.live key now).2 ∧ (t.live key now).2.lastSweep = t.lastSweep := by
  -- A look-up may drop what it finds expired, but it sweeps nothing.
  constructor
  · rcases t.live_cases key now with ⟨_, _, looked⟩ | ⟨_, _, looked, lost, others⟩
    · rw [looked]
      exact .refl t
    · rw [looked]
      exact .of_lost lost others
  · unfold live
    split
    · split <;> rfl
    · rfl

/-- No entry expired before the last sweep, except at the last instant there is. -/
structure Tidy (t : ExpiringTable κ ν) (now : Instant) : Prop where
  past : ∀ last, t.lastSweep = some last → last ≤ now
  held : ∀ key entry, t.entries.find? key = some entry →
    ∃ last, t.lastSweep = some last ∧ (last ≤ entry.expiresAt ∨ entry.expiresAt = .latest)

namespace Tidy

/-- A map without entries, never swept, is tidy. -/
theorem empty (now : Instant) : (empty : ExpiringTable κ ν).Tidy now :=
  ⟨fun _ swept => (by cases swept), fun _ _ found => (by cases found)⟩

/-- A tidy map stays tidy as time goes on. -/
theorem onward (tidy : t.Tidy now) (order : now ≤ later) : t.Tidy later :=
  ⟨fun last swept => Instant.le_trans (tidy.past last swept) order, tidy.held⟩

/-- A tidy map stays tidy when it forgets. -/
theorem forget {after : ExpiringTable κ ν} (tidy : t.Tidy now) (forgets : t.Forgets after)
    (same : after.lastSweep = t.lastSweep) : after.Tidy now := by
  -- What is held has been held before, and the time of the last sweep is the same.
  refine ⟨fun last swept => tidy.past last (same ▸ swept), fun key entry found => ?_⟩
  rw [same]
  exact tidy.held key entry (forgets key entry found)

/-- A tidy map stays tidy when an entry is set that does not expire before the last sweep. -/
theorem update {last : Instant} {entry : Expiring ν} (tidy : t.Tidy now)
    (swept : t.lastSweep = some last)
    (onward : last ≤ entry.expiresAt ∨ entry.expiresAt = .latest) (key : κ) :
    (t.update key entry).Tidy now := by
  -- The new entry expires after the last sweep as given, and the others were kept by it.
  refine ⟨tidy.past, fun other held found => ?_⟩
  by_cases same : other = key
  · subst same
    cases (find?_update_self t other entry).symm.trans found
    exact ⟨last, swept, onward⟩
  · rw [find?_update_of_ne _ _ same] at found
    exact tidy.held other held found

/-- A tidy map is tidy after a sweep if one is due, and then the last sweep is not long ago. -/
theorem sweep (tidy : t.Tidy now) :
    (t.sweep now).Tidy now ∧
      ∃ last, (t.sweep now).lastSweep = some last ∧ now.since last < sweepInterval := by
  unfold ExpiringTable.sweep
  cases due : t.sweepIsDue now with
  | true =>
    -- What a sweep keeps expires after it.
    refine ⟨⟨fun last swept => ?_, fun key entry found => ⟨now, rfl, .inl ?_⟩⟩, now, rfl, ?_⟩
    · cases swept
      exact Instant.le_refl now
    · exact Int.le_of_lt (of_decide_eq_true (Table.find?_filter_eq_some.mp found).2)
    · rw [Instant.since_self]
      decide
  | false =>
    -- No sweep is due only where one was made not long ago.
    refine ⟨tidy, ?_⟩
    unfold sweepIsDue at due
    split at due
    · rename_i last swept
      exact ⟨last, swept, Int.not_le.mp (of_decide_eq_false due)⟩
    · cases due

/-- A tidy map stays tidy when a value is set. -/
theorem insert (tidy : t.Tidy now) (key : κ) (value : ν) (lifetime : Duration) :
    (t.insert key value now lifetime).Tidy now := by
  obtain ⟨swept, last, sweptAt, _⟩ := tidy.sweep
  refine swept.update sweptAt ?_ key
  -- A lifetime ends no sooner than now, and the last sweep is past.
  exact (now.plus_cases lifetime).imp_left (Instant.le_trans (swept.past last sweptAt))

/-- A proper call leaves a tidy map tidy. -/
theorem answer (tidy : t.Tidy now) {call : TimedCall κ ν} (proper : call.Proper now) :
    (t.answer now call).2.Tidy now := by
  cases call with
  | insert key value lifetime => exact tidy.insert key value lifetime
  | look key =>
    obtain ⟨forgets, same⟩ := t.live_forgets key now
    exact tidy.forget forgets same
  | revise key change =>
    obtain ⟨forgets, same⟩ := t.live_forgets key now
    have kept := tidy.forget forgets same
    simp only [ExpiringTable.answer]
    cases alive : t.liveEntry key now with
    | some entry =>
      obtain ⟨found, live⟩ := liveEntry_eq_some.mp alive
      obtain ⟨last, swept, _⟩ := tidy.held key entry found
      have past := tidy.past last swept
      rw [live_of_alive alive]
      refine tidy.update swept ?_ key
      -- The revised entry lives on from now, or it ends no sooner than now.
      rcases proper entry live with ⟨lifetime, renewed⟩ | ⟨lowered, _⟩
      · rw [renewed]
        exact (now.plus_cases lifetime).imp_left (Instant.le_trans past)
      · exact .inl (Instant.le_trans past lowered)
    | none =>
      obtain ⟨after, looked, _⟩ := live_of_gone alive
      rw [looked] at kept ⊢
      exact kept
  | remove key => exact tidy.forget (t.remove_forgets key) rfl
  | count => exact tidy

/-- Right after a value is set no entry expired longer ago than the least time between two sweeps, and
what this leaves out. -/
theorem back_lt_of_insert (tidy : t.Tidy now) (key : κ) (value : ν) (lifetime : Duration) :
    ∃ last, (t.insert key value now lifetime).lastSweep = some last ∧
      ∀ other entry, (t.insert key value now lifetime).entries.find? other = some entry →
        ∀ past, now.move? (-(sweepInterval + last.leftOut now)) = some past →
          past < entry.expiresAt := by
  obtain ⟨swept, last, sweptAt, recent⟩ := tidy.sweep
  have order := swept.past last sweptAt
  have left := Instant.leftOut_nonneg last now
  refine ⟨last, sweptAt, fun other entry found past reached => ?_⟩
  obtain ⟨last', sweptAt', held⟩ := (tidy.insert key value lifetime).held other entry found
  cases sweptAt'.symm.trans sweptAt
  -- What lies so far back is before the last sweep, and no entry expired before that.
  unfold sweepInterval at recent reached
  rcases held with onward | atEnd
  · have sooner := Instant.back_lt_of_since_lt order recent (by decide) (by omega) (Int.le_refl _) reached
    exact Int.lt_of_lt_of_le sooner onward
  · rw [atEnd]
    exact Instant.lt_latest_of_back (by omega) reached

end Tidy

/-- Calls on a clock that is never set back are answered alike by two maps in which the same entries are
present. -/
theorem Shadows.follow (calls : List (Instant × TimedCall κ ν)) :
    ∀ {t : ExpiringTable κ ν} {map : TimedMap κ ν} {start : Instant},
      Instant.Ascending (start :: calls.map (·.1)) → t.Shadows map start →
      (t.follow calls).1 = (map.follow calls).1 := by
  -- By induction on the calls, for any two maps in which the same entries are present.
  induction calls with
  | nil => exact fun _ _ => rfl
  | cons input calls ih =>
    intro t map start ascending shadows
    obtain ⟨upTo, ascending⟩ := List.pairwise_cons.mp ascending
    obtain ⟨answered, shadows⟩ := (shadows.onward (upTo input.1 List.mem_cons_self)).answer input.2
    exact congr (congrArg List.cons answered) (ih ascending shadows)

/-- Proper calls on a clock that is never set back leave a tidy map tidy. -/
theorem Tidy.follow (calls : List (Instant × TimedCall κ ν)) :
    ∀ {t : ExpiringTable κ ν} {start now : Instant},
      Instant.Ascending (start :: (calls.map (·.1) ++ [now])) →
      (∀ input ∈ calls, input.2.Proper input.1) → t.Tidy start → (t.follow calls).2.Tidy now := by
  -- The induction is on the calls. Time passes up to each of them, and then the table answers it.
  induction calls with
  | nil =>
    intro t start now ascending _ tidy
    exact tidy.onward (by simpa [Instant.Ascending] using ascending)
  | cons input calls ih =>
    intro t start now ascending proper tidy
    obtain ⟨upTo, ascending⟩ := List.pairwise_cons.mp ascending
    have answered := (tidy.onward (upTo input.1 List.mem_cons_self)).answer
      (proper input List.mem_cons_self)
    exact ih ascending (fun later member => proper later (List.mem_cons_of_mem _ member)) answered

/-- A map that removes expired entries on the way answers as one that removes none and passes over them.
Right after a value is set, no entry is left that expired long ago. -/
theorem follow_answers (calls : List (Instant × TimedCall κ ν))
    (ascending : Instant.Ascending (calls.map (·.1)))
    (proper : ∀ input ∈ calls, input.2.Proper input.1) :
    let swept := (empty : ExpiringTable κ ν).follow calls
    let kept := (TimedMap.empty : TimedMap κ ν).follow calls
    swept.1 = kept.1 ∧
      ∀ earlier now key value lifetime, calls = earlier ++ [(now, .insert key value lifetime)] →
        ∃ last, swept.2.lastSweep = some last ∧
          ∀ other entry, swept.2.entries.find? other = some entry →
            ∀ past, now.move? (-(sweepInterval + last.leftOut now)) = some past →
              past < entry.expiresAt := by
  intro swept kept
  have start : ∀ {clocks}, Instant.Ascending clocks → Instant.Ascending (.earliest :: clocks) :=
    fun ascending => List.pairwise_cons.mpr ⟨fun clock _ => Instant.earliest_le clock, ascending⟩
  refine ⟨Shadows.follow calls (start ascending) fun _ => rfl, ?_⟩
  rintro earlier now key value lifetime rfl
  rw [List.map_append] at ascending
  -- The calls before the last one leave a tidy map, at the time of the last one.
  have tidy := Tidy.follow earlier (start ascending)
    (fun input member => proper input (List.mem_append_left _ member)) (Tidy.empty _)
  have last : swept.2 = (((empty : ExpiringTable κ ν).follow earlier).2.insert key value now lifetime) :=
    inOrder_append _ earlier _ _
  rw [last]
  exact tidy.back_lt_of_insert key value lifetime

/-- A value is set for five seconds, lives five more from the next second on, is looked up, and is gone when
another one is set. -/
def renewed : List (Instant × TimedCall Nat Nat) :=
  let next := Sample.clock.plus (.ofSeconds 1)
  [(Sample.clock, .insert 0 7 (.ofSeconds 5)),
    (next, .revise 0 fun entry => ⟨entry.value, next.plus (.ofSeconds 5)⟩),
    (Sample.clock.plus (.ofSeconds 5), .look 0),
    (Sample.clock.plus (.ofSeconds 40), .insert 1 8 (.ofSeconds 5))]

/-- A renewed value is read as if nothing was ever removed, and was removed since. -/
theorem renewed_answers :
    let now := Sample.clock.plus (.ofSeconds 40)
    let swept := (empty : ExpiringTable Nat Nat).follow renewed
    Instant.Ascending (renewed.map (·.1)) ∧ (∀ input ∈ renewed, input.2.Proper input.1) ∧
      swept.1 = ((TimedMap.empty : TimedMap Nat Nat).follow renewed).1 ∧
      ∃ last, swept.2.lastSweep = some last ∧
        ∀ other entry, swept.2.entries.find? other = some entry →
          ∀ past, now.move? (-(sweepInterval + last.leftOut now)) = some past →
            past < entry.expiresAt := by
  -- The calls are in order and proper, which is all that the theorem asks of them.
  intro now swept
  have ascending : Instant.Ascending (renewed.map (·.1)) := by
    unfold Instant.Ascending
    decide +kernel
  have proper : ∀ input ∈ renewed, input.2.Proper input.1 := by
    simp only [renewed, List.forall_mem_cons]
    exact ⟨trivial, fun _ _ => .inl ⟨.ofSeconds 5, rfl⟩, trivial, trivial, fun _ none' => by cases none'⟩
  obtain ⟨answered, tidy⟩ := follow_answers renewed ascending proper
  exact ⟨ascending, proper, answered, tidy (renewed.take 3) now 1 8 _ rfl⟩

/-- Half of the leap second that ended the year 2016 is over. -/
def endOf2016 : Instant := ⟨1483228799500000000, true, by decide, by decide, by decide⟩

/-- Thirty seconds and a fifth of one of the year 2017 are over. -/
def startOf2017 : Instant := ⟨1483228830200000000, false, by decide, by decide, by decide⟩

/-- A value that is set in a leap second expires with the first tenth of the second after it, and another
value is set thirty seconds later. -/
def acrossLeapSecond : List (Instant × TimedCall Nat Nat) :=
  [(endOf2016, .insert 0 7 (.ofMillis 600)), (startOf2017, .insert 1 8 (.ofSeconds 5))]

/-- Right after a value is set, an entry may be held that expired thirty seconds ago. -/
theorem acrossLeapSecond_holds_expired :
    Instant.Ascending (acrossLeapSecond.map (·.1)) ∧
      (∀ input ∈ acrossLeapSecond, input.2.Proper input.1) ∧
      ∃ entry past,
        ((empty : ExpiringTable Nat Nat).follow acrossLeapSecond).2.entries.find? 0 = some entry ∧
          startOf2017.move? (-sweepInterval) = some past ∧ ¬ past < entry.expiresAt := by
  -- The entry that is left over was set within the leap second, and expired a little over thirty
  -- seconds ago.
  refine ⟨?_, ?_, ⟨7, endOf2016.plus (.ofMillis 600)⟩,
    ⟨1483228800200000000, false, by decide, by decide, by decide⟩, ?_, by decide +kernel,
    by decide +kernel⟩
  · unfold Instant.Ascending
    decide +kernel
  · simp only [acrossLeapSecond, List.forall_mem_cons]
    exact ⟨trivial, trivial, fun _ none' => by cases none'⟩
  · rfl

end ExpiringTable

end Intake
