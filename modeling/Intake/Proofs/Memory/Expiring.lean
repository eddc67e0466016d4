import Intake.Memory.Expiring
import Intake.Proofs.Time.Instant

/-! Laws of maps whose entries vanish: what each operation leaves in the map, and what it forgets. -/

namespace Intake

namespace Table

variable {κ ν : Type} [DecidableEq κ]

/-- The value of a key is the one it is entered with. -/
theorem find?_eq_some {t : Table κ ν} {key : κ} {value : ν} :
    t.find? key = some value ↔ (key, value) ∈ t.entries := by
  -- No two entries share a key, so the first entry found is the only one.
  obtain ⟨entries, unique⟩ := t
  simp only [find?]
  induction entries with
  | nil => simp
  | cons entry rest ih =>
    obtain ⟨entryKey, entryValue⟩ := entry
    simp only [List.map_cons, List.nodup_cons, List.mem_map, not_exists, not_and] at unique
    by_cases same : entryKey = key
    · subst same
      have elsewhere : (entryKey, value) ∉ rest := fun member => unique.1 _ member rfl
      simp [elsewhere, eq_comm]
    · have differs : (key, value) ≠ (entryKey, entryValue) := by
        intro equal; cases equal; exact same rfl
      simp only [List.find?_cons, same, decide_false, List.mem_cons, differs, false_or]
      exact ih unique.2

/-- A filtered map holds the values that pass the test. -/
theorem find?_filter_eq_some {t : Table κ ν} {keep : ν → Bool} {key : κ} {value : ν} :
    (t.filter keep).find? key = some value ↔ t.find? key = some value ∧ keep value = true := by
  -- Being found is being entered, and a filter asks exactly that of the entries.
  simp [find?_eq_some, filter]

/-- A key has the value it had in the map before it was filtered, if that passes the test. -/
theorem find?_filter (t : Table κ ν) (keep : ν → Bool) (key : κ) :
    (t.filter keep).find? key = (t.find? key).filter keep := by
  ext value
  rw [find?_filter_eq_some, Option.filter_eq_some_iff]

omit [DecidableEq κ] in
/-- No entry is there twice. -/
theorem nodup_entries (t : Table κ ν) : t.entries.Nodup :=
  List.Pairwise.of_map (·.1) (fun _ _ differ same => differ (congrArg (·.1) same)) t.unique

/-- Maps in which all keys have the same values are of the same size. -/
theorem size_eq_of_find?_eq {t other : Table κ ν} (same : ∀ key, t.find? key = other.find? key) :
    t.size = other.size := by
  -- Keys are not repeated, so that both tables list the same entries in some order.
  refine List.Perm.length_eq
    ((List.perm_ext_iff_of_nodup t.nodup_entries other.nodup_entries).mpr fun entry => ?_)
  rw [← find?_eq_some, ← find?_eq_some, same]

end Table

namespace ExpiringTable

variable {κ ν : Type} [DecidableEq κ]

/-- Entries may have vanished, but none is new or changed. -/
def Forgets (before after : ExpiringTable κ ν) : Prop :=
  ∀ key entry, after.entries.find? key = some entry → before.entries.find? key = some entry

/-- A map forgets nothing against itself. -/
theorem Forgets.refl (t : ExpiringTable κ ν) : Forgets t t := fun _ _ found => found

/-- The entry of a key, as long as its time is not up. -/
def liveEntry (t : ExpiringTable κ ν) (key : κ) (now : Instant) : Option (Expiring ν) :=
  (t.entries.find? key).filter (·.isLive now)

/-- A key has a live entry exactly when it has an entry whose time is not up. -/
theorem liveEntry_eq_some {t : ExpiringTable κ ν} {key : κ} {now : Instant} {entry : Expiring ν} :
    t.liveEntry key now = some entry ↔
      t.entries.find? key = some entry ∧ entry.isLive now = true := by
  simp [liveEntry, Option.filter_eq_some_iff]

/-- A key without an entry has no live one. -/
theorem liveEntry_of_missing {t : ExpiringTable κ ν} {key : κ}
    (missing : t.entries.find? key = none) (now : Instant) : t.liveEntry key now = none := by
  unfold liveEntry
  rw [missing]
  rfl

/-- A look-up answers the live entry and leaves the map as it was, or answers nothing and leaves
nothing under the key. The other keys keep their entries. -/
theorem live_cases (t : ExpiringTable κ ν) (key : κ) (now : Instant) :
    (∃ entry, t.liveEntry key now = some entry ∧ t.live key now = (some entry, t)) ∨
    (∃ after, t.liveEntry key now = none ∧ t.live key now = (none, after) ∧
      after.entries.find? key = none ∧
      ∀ other, other ≠ key → after.entries.find? other = t.entries.find? other) := by
  -- A look-up tells apart a key without an entry, a live entry, and one whose time is up.
  unfold live liveEntry
  cases stored : t.entries.find? key with
  | none => exact .inr ⟨t, rfl, rfl, stored, fun _ _ => rfl⟩
  | some entry =>
    cases alive : entry.isLive now with
    | true => exact .inl ⟨entry, by simp [alive], by simp [alive]⟩
    -- An entry whose time is up is dropped by the look-up, and the others stay.
    | false =>
      refine .inr ⟨_, by simp [alive], by simp [alive]; rfl, by simp, fun other differ => ?_⟩
      exact Table.find?_erase_of_ne _ differ

/-- A look-up of a key with a live entry answers it, and changes nothing. -/
theorem live_of_alive {t : ExpiringTable κ ν} {key : κ} {now : Instant} {entry : Expiring ν}
    (alive : t.liveEntry key now = some entry) : t.live key now = (some entry, t) := by
  -- Of the two ways for a look-up to end, only one goes with a live entry.
  rcases t.live_cases key now with ⟨entry', alive', looked⟩ | ⟨after, gone, _⟩
  · rw [alive] at alive'
    cases alive'
    exact looked
  · rw [alive] at gone
    cases gone

/-- A look-up of a key without a live entry answers nothing, and leaves nothing under the key. -/
theorem live_of_gone {t : ExpiringTable κ ν} {key : κ} {now : Instant}
    (gone : t.liveEntry key now = none) :
    ∃ after, t.live key now = (none, after) ∧ after.entries.find? key = none := by
  -- The other way is left, in which the look-up drops what has expired.
  rcases t.live_cases key now with ⟨entry, alive, _⟩ | ⟨after, _, looked, lost, _⟩
  · rw [gone] at alive
    cases alive
  · exact ⟨after, looked, lost⟩

/-- A look-up leaves the entries of other keys as they were. -/
theorem find?_live_of_ne (t : ExpiringTable κ ν) {key other : κ} (now : Instant)
    (differ : other ≠ key) : (t.live key now).2.entries.find? other = t.entries.find? other := by
  -- A look-up drops at most the entry that it looks at.
  rcases t.live_cases key now with ⟨_, _, looked⟩ | ⟨_, _, looked, _, others⟩
  · rw [looked]
  · rw [looked]
    exact others other differ

/-- A key whose entry stays has the live entry that it had. -/
theorem liveEntry_of_kept {before after : ExpiringTable κ ν} {key : κ} (now : Instant)
    (kept : after.entries.find? key = before.entries.find? key) :
    after.liveEntry key now = before.liveEntry key now := by
  unfold liveEntry
  rw [kept]

/-- A value that was set at this moment lives if its lifetime takes it past the present. -/
theorem liveEntry_of_set {t : ExpiringTable κ ν} {key : κ} {value : ν} {now : Instant}
    {lifetime : Duration} (set : t.entries.find? key = some ⟨value, now.plus lifetime⟩) :
    t.liveEntry key now =
      if now < now.plus lifetime then some ⟨value, now.plus lifetime⟩ else none := by
  -- A lifetime may be so short, or the clock so late, that the entry has expired at once.
  unfold liveEntry
  rw [set]
  simp [Option.filter, Expiring.isLive]

/-- A map that has lost one key and kept the others has only forgotten. -/
theorem Forgets.of_lost {before after : ExpiringTable κ ν} {key : κ}
    (lost : after.entries.find? key = none)
    (others : ∀ other, other ≠ key → after.entries.find? other = before.entries.find? other) :
    Forgets before after := by
  -- Under the lost key nothing is found, and under any other what was found before.
  intro other entry found
  by_cases same : other = key
  · subst same; simp [lost] at found
  · rwa [others other same] at found

/-- A removed key has no entry. -/
@[simp] theorem find?_remove_self (t : ExpiringTable κ ν) (key : κ) :
    (t.remove key).entries.find? key = none := Table.find?_erase_self _ _

/-- Removing a key forgets its entry at the most. -/
theorem remove_forgets (t : ExpiringTable κ ν) (key : κ) : Forgets t (t.remove key) := by
  -- Only the removed key is lost.
  exact .of_lost (find?_remove_self t key) fun _ differ => Table.find?_erase_of_ne _ differ

/-- A sweep forgets expired entries at the most. -/
theorem sweep_forgets (t : ExpiringTable κ ν) (now : Instant) : Forgets t (t.sweep now) := by
  -- What a sweep keeps has passed its test, and was there before.
  intro key entry found
  unfold sweep at found
  split at found
  · exact (Table.find?_filter_eq_some.mp found).1
  · exact found

/-- A sweep keeps the entries that live. -/
theorem liveEntry_sweep (t : ExpiringTable κ ν) (key : κ) (now : Instant) :
    (t.sweep now).liveEntry key now = t.liveEntry key now := by
  -- What lives passes the test of a sweep, which is that it lives.
  ext entry
  rw [liveEntry_eq_some, liveEntry_eq_some]
  unfold sweep
  split
  · rw [Table.find?_filter_eq_some]
    exact ⟨fun swept => ⟨swept.1.1, swept.2⟩, fun alive => ⟨alive, alive.2⟩⟩
  · exact Iff.rfl

/-- A replaced entry is found under its key. -/
@[simp] theorem find?_update_self (t : ExpiringTable κ ν) (key : κ) (entry : Expiring ν) :
    (t.update key entry).entries.find? key = some entry := Table.find?_insert_self _ _ _

/-- Replacing the entry of a key keeps the others. -/
theorem find?_update_of_ne (t : ExpiringTable κ ν) {key other : κ} (entry : Expiring ν)
    (differ : other ≠ key) : (t.update key entry).entries.find? other = t.entries.find? other :=
  Table.find?_insert_of_ne _ _ differ

/-- A value just set is found under its key, to live from now. -/
@[simp] theorem find?_insert_self (t : ExpiringTable κ ν) (key : κ) (value : ν) (now : Instant)
    (lifetime : Duration) :
    (t.insert key value now lifetime).entries.find? key = some ⟨value, now.plus lifetime⟩ := by
  simp [insert]

/-- A value set at the latest instant lives from the first one on. -/
theorem liveEntry_insert_latest (t : ExpiringTable κ ν) (key : κ) (value : ν) (lifetime : Duration) :
    (t.insert key value .latest lifetime).liveEntry key .earliest = some ⟨value, .latest⟩ := by
  rw [liveEntry_eq_some, find?_insert_self, Instant.latest_plus]
  exact ⟨rfl, decide_eq_true (by decide : Instant.earliest < Instant.latest)⟩

/-- Setting the value of a key forgets expired entries of other keys at the most. -/
theorem find?_of_insert {t : ExpiringTable κ ν} {key other : κ} {value : ν} {now : Instant}
    {lifetime : Duration} {entry : Expiring ν} (differ : other ≠ key)
    (found : (t.insert key value now lifetime).entries.find? other = some entry) :
    t.entries.find? other = some entry := by
  -- Before it sets a value the map is swept, and setting it leaves the other keys alone.
  rw [insert, find?_update_of_ne _ _ differ] at found
  exact sweep_forgets t now other entry found

/-- Setting the value of a key keeps what lives under the others. -/
theorem liveEntry_insert_of_ne (t : ExpiringTable κ ν) {key other : κ} (value : ν) (now : Instant)
    (lifetime : Duration) (differ : other ≠ key) :
    (t.insert key value now lifetime).liveEntry other now = t.liveEntry other now := by
  -- The sweep that comes first would show only in entries that do not live.
  rw [← liveEntry_sweep t]
  exact liveEntry_of_kept now (find?_update_of_ne _ _ differ)

/-- What is live at a time is what of the entries live at an earlier one is still live. -/
theorem liveEntry_later (t : ExpiringTable κ ν) (key : κ) {now later : Instant} (order : now ≤ later) :
    t.liveEntry key later = (t.liveEntry key now).filter (·.isLive later) := by
  -- Whatever lives later lives now.
  have sooner : ∀ entry : Expiring ν, entry.isLive later = true → entry.isLive now = true :=
    fun _ alive => decide_eq_true (Instant.lt_of_le_of_lt order (of_decide_eq_true alive))
  ext entry
  simp only [Option.filter_eq_some_iff, liveEntry_eq_some]
  constructor
  · intro alive
    exact ⟨⟨alive.1, sooner entry alive.2⟩, alive.2⟩
  · intro alive
    exact ⟨alive.1.1, alive.2⟩

/-- A live entry is live. -/
@[simp] theorem liveEntry_filter (t : ExpiringTable κ ν) (key : κ) (now : Instant) :
    (t.liveEntry key now).filter (·.isLive now) = t.liveEntry key now :=
  (t.liveEntry_later key (Instant.le_refl now)).symm

/-- A look-up answers the live entry, and keeps all that live. -/
theorem live_keeps (t : ExpiringTable κ ν) (key : κ) (now : Instant) :
    ∃ after, t.live key now = (t.liveEntry key now, after) ∧
      ∀ other, after.liveEntry other now = t.liveEntry other now := by
  -- What a look-up drops has expired, so that it was live for nobody.
  rcases t.live_cases key now with ⟨entry, alive, looked⟩ | ⟨after, gone, looked, lost, others⟩
  · exact ⟨t, by rw [looked, alive], fun _ => rfl⟩
  · refine ⟨after, by rw [looked, gone], fun other => ?_⟩
    by_cases same : other = key
    · subst same
      rw [gone, liveEntry, lost]
      rfl
    · exact liveEntry_of_kept now (others other same)

/-- An entry is the live one of its key, as long as it lives. -/
theorem liveEntry_of_found {t : ExpiringTable κ ν} {key : κ} {entry : Expiring ν} (now : Instant)
    (found : t.entries.find? key = some entry) :
    t.liveEntry key now = (some entry).filter (·.isLive now) := by
  rw [liveEntry, found]

end ExpiringTable

end Intake
