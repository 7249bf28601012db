import Mathlib.Order.Bounds.Basic
import NimbusPos.Alerts.Digests

/-!
# When a digest is due

The loop ends, and finds the first instant at which the clock of UTC shows the hour and the
day. A schedule has a time zone, so it is due when the clock of the zone shows them; and an
update leaves `nextRunAt` as it was computed from other settings, at another time.
-/

namespace NimbusPos.DigestService

open Lib Lib.Service

-- ---
-- What a clock shows
-- ---

structure Settings where
  frequency : DigestFrequency
  hourLocal : Nat
  dayOfWeek : Option Nat
  deriving DecidableEq, Repr

namespace Settings

/-- A week without a day is counted from Monday. -/
def weekday (settings : Settings) : Nat := settings.dayOfWeek.getD 1

def valid (settings : Settings) : Prop := settings.hourLocal ≤ 23 ∧ settings.weekday ≤ 6

end Settings

def DigestSchedule.settings (schedule : DigestSchedule) : Settings :=
  ⟨schedule.frequency, schedule.hourLocal, schedule.dayOfWeek⟩

/-- A clock tells the milliseconds since its own midnight of the epoch's day. -/
abbrev Clock := Time → Int

def utc : Clock := fun time => time

/-- It is the hour of the settings on the clock and, for a week, their day. -/
def Shows (clock : Clock) (settings : Settings) (time : Time) : Prop :=
  clock time % 86400000 = settings.hourLocal * 3600000 ∧
    (settings.frequency = .weekly → (clock time / 86400000 + 4) % 7 = settings.weekday)

/-- The instants after `now` at which the clock shows the settings. -/
def showings (clock : Clock) (settings : Settings) (now : Time) : Set Time :=
  {time | now < time ∧ Shows clock settings time}

variable {clock : Clock} {settings : Settings} {now time days rounds : Nat}

theorem mem_showings :
    time ∈ showings clock settings now ↔ now < time ∧ Shows clock settings time := Iff.rfl

theorem shows_utc : Shows utc settings time ↔
    time % 86400000 = settings.hourLocal * 3600000 ∧
      (settings.frequency = .weekly → (time / 86400000 + 4) % 7 = settings.weekday) := by
  have hhour : ((time : Int) % 86400000 = settings.hourLocal * 3600000) ↔
      time % 86400000 = settings.hourLocal * 3600000 := by omega
  have hday : (((time : Int) / 86400000 + 4) % 7 = settings.weekday) ↔
      (time / 86400000 + 4) % 7 = settings.weekday := by omega
  simp only [Shows, utc, ← hhour, ← hday]

-- ---
-- The loop
-- ---

/-- The hour of the settings, so many days after the day of `now`. -/
def onDay (settings : Settings) (now days : Nat) : Nat :=
  now / 86400000 * 86400000 + settings.hourLocal * 3600000 + days * 86400000

theorem onDay_hour (h : settings.hourLocal ≤ 23) :
    onDay settings now days % 86400000 = settings.hourLocal * 3600000 := by
  simp only [onDay]
  omega

theorem onDay_day (h : settings.hourLocal ≤ 23) :
    onDay settings now days / 86400000 = now / 86400000 + days := by
  simp only [onDay]
  omega

theorem lt_onDay_succ : now < onDay settings now (days + 1) := by
  simp only [onDay]
  omega

theorem onDay_succ : onDay settings now days + oneDay = onDay settings now (days + 1) := by
  simp only [onDay, Nat.add_mul, Nat.one_mul, Nat.add_assoc]
  rfl

theorem midnight_dayOf : midnight (dayOf now) = now / 86400000 * 86400000 := rfl

theorem onDay_zero :
    midnight (dayOf now) + settings.hourLocal * 3600000 = onDay settings now 0 := by
  rw [onDay, Nat.zero_mul, Nat.add_zero, midnight_dayOf]

/-- An hour that is later than `now` is on the day of `now` or after it. -/
theorem exists_onDay (h : settings.hourLocal ≤ 23) (hlt : now < time)
    (hhour : time % 86400000 = settings.hourLocal * 3600000) :
    ∃ days, time = onDay settings now days := by
  refine ⟨time / 86400000 - now / 86400000, ?_⟩
  simp only [onDay]
  omega

theorem mem_showings_onDay (h : settings.hourLocal ≤ 23) :
    onDay settings now days ∈ showings utc settings now ↔
      now < onDay settings now days ∧
        (settings.frequency = .weekly → (now / 86400000 + days + 4) % 7 = settings.weekday) := by
  simp only [mem_showings, shows_utc, onDay_hour h, onDay_day h, true_and]

/-- The first of the days on which it is due. -/
theorem isLeast_onDay (h : settings.hourLocal ≤ 23)
    (hdue : onDay settings now days ∈ showings utc settings now)
    (hbefore : ∀ j < days, onDay settings now j ∉ showings utc settings now) :
    IsLeast (showings utc settings now) (onDay settings now days) := by
  refine ⟨hdue, ?_⟩
  intro time htime
  obtain ⟨hlt, hshows⟩ := mem_showings.mp htime
  obtain ⟨j, rfl⟩ := exists_onDay h hlt (shows_utc.mp hshows).1
  have hle : days ≤ j := by
    by_contra hj
    exact hbefore j (not_le.mp hj) htime
  simpa [onDay] using Nat.mul_le_mul_right 86400000 hle

/-- Within a week there is a day of each name. -/
theorem exists_weekday (h : settings.valid) (now : Nat) :
    ∃ days ≤ 7, onDay settings now days ∈ showings utc settings now := by
  obtain ⟨hhour, hday⟩ := h
  have hmod : ∀ day weekday : Nat, weekday ≤ 6 → ∃ days ≤ 6, (day + (days + 1) + 4) % 7 = weekday :=
    fun day weekday hle => ⟨(weekday + 7 - (day + 5) % 7) % 7, by omega, by omega⟩
  obtain ⟨days, hle, hdays⟩ := hmod (now / 86400000) settings.weekday hday
  exact ⟨days + 1, Nat.succ_le_succ hle,
    (mem_showings_onDay hhour).mpr ⟨lt_onDay_succ, fun _ => hdays⟩⟩

/-- One round of the loop, from one day to the next. -/
theorem untilDue_onDay (h : settings.hourLocal ≤ 23) (hf : settings.frequency = .weekly)
    (now days rounds : Nat) :
    (onDay settings now days ∈ showings utc settings now →
      untilDue settings.weekday now (rounds + 1) (onDay settings now days) =
        some (onDay settings now days)) ∧
    (onDay settings now days ∉ showings utc settings now →
      untilDue settings.weekday now (rounds + 1) (onDay settings now days) =
        untilDue settings.weekday now rounds (onDay settings now (days + 1))) := by
  have hday : getUTCDay (onDay settings now days) = (now / 86400000 + days + 4) % 7 := by
    rw [← onDay_day h]
    rfl
  rw [mem_showings_onDay h, untilDue, onDay_succ, hday]
  constructor
  · rintro ⟨hlt, hmod⟩
    rw [if_neg]
    exact not_or.mpr ⟨not_not.mpr (hmod hf), not_le.mpr hlt⟩
  · intro hnot
    rw [if_pos]
    by_contra hneither
    obtain ⟨hmod, hlt⟩ := not_or.mp hneither
    exact hnot ⟨not_le.mp hlt, fun _ => not_not.mp hmod⟩

/-- The loop ends on the first day that will do, when there are rounds enough. -/
theorem untilDue_eq (h : settings.hourLocal ≤ 23) (hf : settings.frequency = .weekly)
    {start : Nat} (hle : start ≤ days) (hrounds : days < start + rounds)
    (hdue : onDay settings now days ∈ showings utc settings now)
    (hbefore : ∀ j < days, onDay settings now j ∉ showings utc settings now) :
    untilDue settings.weekday now rounds (onDay settings now start) =
      some (onDay settings now days) := by
  induction rounds generalizing start with
  | zero => exact absurd hrounds (by omega)
  | succ rounds ih =>
    obtain ⟨hends, hgoes⟩ := untilDue_onDay h hf now start rounds
    rcases Nat.eq_or_lt_of_le hle with rfl | hlt
    · exact hends hdue
    · rw [hgoes (hbefore start hlt)]
      exact ih hlt (by omega)

/-- The loop ends, and what is computed is the first instant at which UTC shows the settings. -/
theorem computeNextRunAt_isLeast (h : settings.valid) (now : Nat) (hrounds : 8 ≤ rounds) :
    ∃ next, computeNextRunAt rounds settings.frequency settings.hourLocal settings.dayOfWeek now =
        some next ∧ IsLeast (showings utc settings now) next := by
  cases hf : settings.frequency with
  | daily =>
    have hdaily : ∀ days, onDay settings now days ∈ showings utc settings now ↔
        now < onDay settings now days := by
      intro days
      simp [mem_showings_onDay h.1, hf]
    simp only [computeNextRunAt, onDay_zero, onDay_succ]
    split
    · rename_i hle
      refine ⟨_, rfl, isLeast_onDay h.1 ((hdaily 1).mpr lt_onDay_succ) ?_⟩
      intro j hj
      obtain rfl : j = 0 := Nat.lt_one_iff.mp hj
      exact fun hmem => absurd ((hdaily 0).mp hmem) (not_lt.mpr hle)
    · rename_i hgt
      exact ⟨_, rfl, isLeast_onDay h.1 ((hdaily 0).mpr (not_le.mp hgt))
        fun j hj => absurd hj (Nat.not_lt_zero j)⟩
  | weekly =>
    classical
    obtain ⟨days, hle, hmem⟩ := exists_weekday h now
    have hex : ∃ days, onDay settings now days ∈ showings utc settings now := ⟨days, hmem⟩
    have hfirst : Nat.find hex ≤ days := Nat.find_min' hex hmem
    have hbefore : ∀ j < Nat.find hex, onDay settings now j ∉ showings utc settings now :=
      fun j hj => Nat.find_min hex hj
    refine ⟨onDay settings now (Nat.find hex), ?_,
      isLeast_onDay h.1 (Nat.find_spec hex) hbefore⟩
    simp only [computeNextRunAt, onDay_zero]
    exact untilDue_eq h.1 hf (Nat.zero_le _) (by omega) (Nat.find_spec hex) hbefore

-- ---
-- What a call writes
-- ---

def Call.computes : Call → Bool
  | .create _ _ | .runDigest _ _ => true
  | .update _ _ _ => false

/-- What a call has written: one schedule, whose next run is computed from it or left as it
was. -/
structure Wrote (c : Call) (now : Time) (s t : Store) (id : Id) (schedule : DigestSchedule) :
    Prop where
  stored : t.digestSchedules.get? id = some schedule
  others : ∀ other ≠ id, t.digestSchedules.get? other = s.digestSchedules.get? other
  settings : (∀ existing, s.digestSchedules.get? id = some existing → existing.settings.valid) →
    schedule.settings.valid
  computed : c.computes = true → schedule.settings.valid →
    IsLeast (showings utc schedule.settings now) schedule.nextRunAt
  kept : c.computes = false → ∃ existing, s.digestSchedules.get? id = some existing ∧
    existing.nextRunAt = schedule.nextRunAt

variable {s t : Store} {written : Written} {orgId id : Id} {schedule : DigestSchedule}

theorem validHour_getD {hourLocal : Option Nat} {otherwise : Nat} (h : validHour hourLocal = true)
    (ho : otherwise ≤ 23) : hourLocal.getD otherwise ≤ 23 := by
  cases hourLocal with
  | none => exact ho
  | some hour => simpa [validHour] using h

theorem validDay_getD {dayOfWeek : Option Nat} (h : validDay dayOfWeek = true) :
    dayOfWeek.getD 1 ≤ 6 := by
  cases dayOfWeek with
  | none => decide
  | some day => simpa [validDay] using h

theorem CreateDigestScheduleDto.row_valid {dto : CreateDigestScheduleDto} (h : dto.valid = true)
    (orgId : Id) (nextRunAt : Time) : (dto.row orgId nextRunAt).settings.valid := by
  simp only [CreateDigestScheduleDto.valid, Bool.and_eq_true] at h
  exact ⟨validHour_getD h.1 (by decide), validDay_getD h.2⟩

theorem UpdateDigestScheduleDto.apply_valid {dto : UpdateDigestScheduleDto} (h : dto.valid = true)
    (hs : schedule.settings.valid) : (dto.apply schedule).settings.valid := by
  simp only [UpdateDigestScheduleDto.valid, Bool.and_eq_true] at h
  refine ⟨validHour_getD h.1 hs.1, ?_⟩
  cases hday : dto.dayOfWeek with
  | none =>
    simpa [Settings.weekday, DigestSchedule.settings, UpdateDigestScheduleDto.apply,
      hday] using hs.2
  | some dayOfWeek =>
    have hvalid : validDay dayOfWeek = true := by simpa [hday] using h.2
    simpa [Settings.weekday, DigestSchedule.settings, UpdateDigestScheduleDto.apply, hday] using
      validDay_getD hvalid

theorem create_ok {dto : CreateDigestScheduleDto} (hrounds : 8 ≤ rounds) (hvalid : dto.valid = true)
    (h : create rounds orgId dto now s = .ok written t) :
    ∃ key schedule, written = some (key, schedule) ∧
      Wrote (.create orgId dto) now s t key schedule := by
  simp only [create, bind_ok, get_ok, ensure_ok] at h
  obtain ⟨_, _, ⟨rfl, rfl⟩, _, _, ⟨-, rfl⟩, _, _, ⟨-, rfl⟩, _, _, ⟨-, rfl⟩, h⟩ := h
  obtain ⟨next, hnext, hleast⟩ := computeNextRunAt_isLeast
    (dto.row_valid hvalid orgId 0) now hrounds
  change computeNextRunAt rounds dto.frequency (dto.hourLocal.getD 7) dto.dayOfWeek now = _ at hnext
  simp only [hnext, bind_ok, modify_ok, pure_ok] at h
  obtain ⟨_, _, rfl, rfl, rfl⟩ := h
  refine ⟨_, _, rfl, Table.get?_insert_self _ _, ?_, fun _ => dto.row_valid hvalid orgId next,
    fun _ _ => hleast, Bool.noConfusion⟩
  intro other hne
  simp [Table.get?_insert, hne]

theorem update_ok {dto : UpdateDigestScheduleDto} (hvalid : dto.valid = true)
    (h : update orgId id dto s = .ok written t) :
    ∃ key schedule, written = some (key, schedule) ∧
      Wrote (.update orgId id dto) now s t key schedule := by
  simp only [update, bind_ok, get_ok, need_ok, modify_ok, pure_ok, Store.findSchedule,
    Option.filter_eq_some_iff] at h
  obtain ⟨_, _, ⟨rfl, rfl⟩, existing, _, ⟨⟨hget, -⟩, rfl⟩, _, _, rfl, rfl, rfl⟩ := h
  refine ⟨_, _, rfl, ?_, ?_, fun hs => dto.apply_valid hvalid (hs existing hget),
    Bool.noConfusion,
    fun _ => ⟨existing, hget, rfl⟩⟩
  · simp [hget]
  · intro other hne
    simp [Table.get?_update, hne]

theorem runDigest_ok (hrounds : 8 ≤ rounds)
    (hs : ∀ id existing, s.digestSchedules.get? id = some existing → existing.settings.valid)
    (h : runDigest rounds orgId id now s = .ok written t) :
    ∃ key schedule, written = some (key, schedule) ∧
      Wrote (.runDigest orgId id) now s t key schedule := by
  simp only [runDigest, bind_ok, get_ok, need_ok, ensure_ok, Store.findSchedule,
    Option.filter_eq_some_iff] at h
  obtain ⟨_, _, ⟨rfl, rfl⟩, existing, _, ⟨⟨hget, -⟩, rfl⟩, _, _, ⟨-, rfl⟩, _, _, ⟨-, rfl⟩, h⟩ := h
  obtain ⟨next, hnext, hleast⟩ := computeNextRunAt_isLeast (hs id existing hget) now hrounds
  change computeNextRunAt rounds existing.frequency existing.hourLocal existing.dayOfWeek now = _
    at hnext
  simp only [hnext, bind_ok, modify_ok, pure_ok] at h
  obtain ⟨_, _, rfl, rfl, rfl⟩ := h
  refine ⟨_, _, rfl, ?_, ?_, fun hs => hs existing hget, fun _ _ => hleast,
    Bool.noConfusion⟩
  · simp [hget]
  · intro other hne
    simp [Table.get?_update, hne]

/-- Every call that is answered has left its loop. -/
theorem exec_ok {c : Call} (hrounds : 8 ≤ rounds) (hvalid : c.valid = true)
    (hs : ∀ id existing, s.digestSchedules.get? id = some existing → existing.settings.valid)
    (h : c.exec rounds now s = .ok written t) :
    ∃ key schedule, written = some (key, schedule) ∧ Wrote c now s t key schedule := by
  cases c with
  | create orgId dto => exact create_ok hrounds hvalid h
  | update orgId id dto => exact update_ok hvalid h
  | runDigest orgId id => exact runDigest_ok hrounds hs h

theorem exec_atomic (rounds : Nat) (now : Time) (c : Call) : Atomic (c.exec rounds now) := by
  cases c with
  | create orgId dto =>
    refine Reads.get.then fun _ => (Reads.ensure _ _).then fun _ => (Reads.ensure _ _).then fun _ =>
      (Reads.ensure _ _).then fun _ => ?_
    split
    · exact (Total.pure _).atomic
    · exact (Total.bind (.modify _) fun _ => .pure _).atomic
  | update orgId id dto =>
    exact Reads.get.then fun _ => (Reads.need _ _).then fun _ =>
      (Total.bind (.modify _) fun _ => .pure _).atomic
  | runDigest orgId id =>
    refine Reads.get.then fun _ => (Reads.need _ _).then fun _ => (Reads.ensure _ _).then fun _ =>
      (Reads.ensure _ _).then fun _ => ?_
    split
    · exact (Total.pure _).atomic
    · exact (Total.bind (.modify _) fun _ => .pure _).atomic

-- ---
-- A run of calls
-- ---

structure World where
  store : Store
  /-- From which settings the next run of each schedule was computed, and when. -/
  computed : Id → Settings × Time

namespace World

/-- No schedules yet. -/
def start (branches : Table Branch) : World := ⟨{ branches }, fun _ => (⟨.daily, 0, none⟩, 0)⟩

def after (w : World) (now : Time) (c : Call) : EStateM.Result HttpError Store Written → World
  | .ok (some (id, schedule)) t =>
    ⟨t, if c.computes then Function.update w.computed id (schedule.settings, now) else w.computed⟩
  | .ok none t => { w with store := t }
  | .error _ t => { w with store := t }

def step (rounds : Nat) (w : World) (call : Time × Call) : World :=
  w.after call.1 call.2 (call.2.exec rounds call.1 w.store)

def run (rounds : Nat) (w : World) (calls : List (Time × Call)) : World :=
  calls.foldl (step rounds) w

/-- The instants at which UTC shows what the schedule's next run was computed from. -/
def showings (w : World) (id : Id) : Set Time :=
  DigestService.showings utc (w.computed id).1 (w.computed id).2

/-- Each schedule's next run is the first that was computed from some settings at some time. -/
def Kept (w : World) : Prop :=
  ∀ id schedule, w.store.digestSchedules.get? id = some schedule →
    schedule.settings.valid ∧ IsLeast (w.showings id) schedule.nextRunAt

end World

variable {w : World} {c : Call}

theorem World.kept_start (branches : Table Branch) : (World.start branches).Kept := by
  intro id schedule hget
  cases hget

/-- What a call has written is computed in the world after it. -/
theorem World.Kept.wrote (hkept : w.Kept) (h : Wrote c now w.store t id schedule) :
    (w.after now c (.ok (some (id, schedule)) t)).Kept := by
  intro key other hget
  have hvalid : schedule.settings.valid := h.settings fun existing hget => (hkept _ _ hget).1
  by_cases hkey : key = id
  · subst hkey
    obtain rfl := Option.some.inj (h.stored.symm.trans hget)
    refine ⟨hvalid, ?_⟩
    cases hc : c.computes with
    | true => simpa [World.after, World.showings, hc] using h.computed hc hvalid
    | false =>
      obtain ⟨existing, hbefore, hnext⟩ := h.kept hc
      simpa [World.after, World.showings, hc, hnext] using (hkept _ _ hbefore).2
  · have hbefore := (h.others key hkey).symm.trans hget
    obtain ⟨hother, hleast⟩ := hkept key other hbefore
    refine ⟨hother, ?_⟩
    cases hc : c.computes with
    | true => simpa [World.after, World.showings, hc, hkey] using hleast
    | false => simpa [World.after, World.showings, hc] using hleast

theorem World.Kept.step (hkept : w.Kept) (hrounds : 8 ≤ rounds) (hvalid : c.valid = true) :
    (w.step rounds (now, c)).Kept := by
  simp only [World.step]
  cases hexec : c.exec rounds now w.store with
  | ok written t =>
    obtain ⟨key, schedule, rfl, hwrote⟩ :=
      exec_ok hrounds hvalid (fun _ _ hget => (hkept _ _ hget).1) hexec
    exact hkept.wrote hwrote
  | error e t =>
    obtain rfl := exec_atomic rounds now c _ _ _ hexec
    exact hkept

theorem World.Kept.run {calls : List (Time × Call)} (hkept : w.Kept) (hrounds : 8 ≤ rounds)
    (hvalid : ∀ call ∈ calls, call.2.valid = true) : (w.run rounds calls).Kept := by
  induction calls generalizing w with
  | nil => exact hkept
  | cons call calls ih =>
    exact ih (hkept.step hrounds (hvalid call (.head _))) fun other hmem =>
      hvalid other (.tail _ hmem)

-- ---
-- A schedule is due on its own clock
-- ---

/-- The first instant with one property is the first with another, after `now`, when no instant
up to `now` has the first, and those after it have both or neither as far as that instant. -/
theorem isLeast_iff_agree {α : Type} [LinearOrder α] {a b : Set α} {first now : α}
    (h : IsLeast a first) :
    IsLeast {x | now < x ∧ x ∈ b} first ↔
      (∀ x ≤ now, x ∉ a) ∧ ∀ x > now, (∀ y < x, y ∉ a) → (x ∈ b ↔ x ∈ a) := by
  obtain ⟨hmem, hbound⟩ := h
  constructor
  · rintro ⟨⟨hlt, hb⟩, hfirst⟩
    refine ⟨fun x hx ha => absurd (hlt.trans_le (hbound ha)) (not_lt.mpr hx), ?_⟩
    intro x hx hbefore
    have hle : x ≤ first := not_lt.mp fun hgt => hbefore first hgt hmem
    constructor
    · intro hxb
      rwa [le_antisymm hle (hfirst ⟨hx, hxb⟩)]
    · intro hxa
      rwa [le_antisymm hle (hbound hxa)]
  · rintro ⟨hnow, hagree⟩
    have hlt : now < first := not_le.mp fun hle => hnow first hle hmem
    have hbefore : ∀ y < first, y ∉ a := fun y hy ha => absurd (hbound ha) (not_le.mpr hy)
    refine ⟨⟨hlt, (hagree first hlt hbefore).mpr hmem⟩, ?_⟩
    rintro x ⟨hx, hxb⟩
    by_contra hless
    have hxf : x < first := not_le.mp hless
    exact hbefore x hxf ((hagree x hx fun y hy => hbefore y (hy.trans hxf)).mp hxb)

/-- UTC has not come to what the next run was computed from, and from `now` until it does the
clock shows the settings exactly when UTC shows what was computed from. -/
def OnTime (clock : Clock) (settings : Settings) (now : Time) (computed : Settings × Time) : Prop :=
  (∀ time ≤ now, time ∉ showings utc computed.1 computed.2) ∧
    ∀ time > now, (∀ earlier < time, earlier ∉ showings utc computed.1 computed.2) →
      (Shows clock settings time ↔ time ∈ showings utc computed.1 computed.2)

theorem onTime_utc (settings : Settings) (now : Time) :
    OnTime utc settings now (settings, now) := by
  refine ⟨fun time hle hmem => absurd hmem.1 (not_lt.mpr hle), ?_⟩
  intro time hlt _
  simp only [mem_showings, hlt, true_and]

/-- In a zone with one offset a schedule is on time when it is created exactly where the offset
is none: whole days of it for a day's digest, and whole weeks for a week's. -/
theorem onTime_offset {offset : Int} (h : settings.valid) :
    OnTime (fun time => time + offset) settings now (settings, now) ↔
      offset % 86400000 = 0 ∧ (settings.frequency = .weekly → offset % 604800000 = 0) := by
  constructor
  · rintro ⟨-, hagree⟩
    obtain ⟨next, -, hleast⟩ := computeNextRunAt_isLeast h now (Nat.le_refl 8)
    obtain ⟨hlt, hutc⟩ := mem_showings.mp hleast.1
    obtain ⟨hhour, hday⟩ := (hagree next hlt fun earlier hless hmem =>
      absurd (hleast.2 hmem) (not_le.mpr hless)).mpr hleast.1
    have hoffset : offset % 86400000 = 0 := by
      have hutc := hutc.1
      simp only [utc] at hutc hhour
      omega
    refine ⟨hoffset, fun hf => ?_⟩
    have hday := hday hf
    have hutc := hutc.2 hf
    simp only [utc] at hutc hday
    omega
  · rintro ⟨hoffset, hweek⟩
    refine ⟨(onTime_utc settings now).1, ?_⟩
    intro time hlt hbefore
    rw [← (onTime_utc settings now).2 time hlt hbefore]
    have hhour : ((time : Int) + offset) % 86400000 = (time : Int) % 86400000 := by omega
    have hday : settings.frequency = .weekly →
        (((time : Int) + offset) / 86400000 + 4) % 7 = ((time : Int) / 86400000 + 4) % 7 := by
      intro hf
      have hweek := hweek hf
      omega
    simp only [Shows, utc, hhour]
    refine and_congr_right fun _ => forall_congr' fun hf => ?_
    rw [hday hf]

/-- Whatever was called before, a call that computes a next run ends, and what a call leaves on
a schedule is the first instant after it at which the clock of the schedule's zone shows its
settings, exactly when the schedule is on time. -/
theorem nextRunAt_iff (clock : String → Clock) (branches : Table Branch)
    {calls : List (Time × Call)} (hcalls : ∀ call ∈ calls, call.2.valid = true)
    (hvalid : c.valid = true) (hrounds : 8 ≤ rounds)
    (hw : w = (World.start branches).run rounds calls) :
    (∀ t, c.exec rounds now w.store ≠ .ok none t) ∧
      ∀ id schedule t, c.exec rounds now w.store = .ok (some (id, schedule)) t →
        (IsLeast (showings (clock schedule.timezone) schedule.settings now) schedule.nextRunAt ↔
          OnTime (clock schedule.timezone) schedule.settings now
            ((w.step rounds (now, c)).computed id)) := by
  have hkept : w.Kept := hw ▸ (World.kept_start branches).run hrounds hcalls
  have hstep : (w.step rounds (now, c)).Kept := hkept.step hrounds hvalid
  have hsettings : ∀ id existing, w.store.digestSchedules.get? id = some existing →
      existing.settings.valid := fun _ _ hget => (hkept _ _ hget).1
  constructor
  · intro t h
    obtain ⟨_, _, hnone, -⟩ := exec_ok hrounds hvalid hsettings h
    cases hnone
  · intro id schedule t h
    obtain ⟨_, _, hwritten, hwrote⟩ := exec_ok hrounds hvalid hsettings h
    cases hwritten
    have hget : (w.step rounds (now, c)).store.digestSchedules.get? id = some schedule := by
      simpa [World.step, h, World.after] using hwrote.stored
    exact isLeast_iff_agree (hstep id schedule hget).2

/-- A daily digest at the hour of the default. -/
def ownerDigest : CreateDigestScheduleDto where
  code := "owner-daily"
  name := "Daily Owner Summary"
  digestType := "owner-daily"
  frequency := .daily
  channelCodes := ["email-owner"]

def kampalaDigest : CreateDigestScheduleDto :=
  { ownerDigest with timezone := some "Africa/Kampala" }

theorem seven_next : computeNextRunAt 8 .daily 7 none 0 = some 25200000 := by decide +kernel

/-- In UTC it is next due at seven. -/
theorem ownerDigest_utc : IsLeast (showings utc ⟨.daily, 7, none⟩ 0) 25200000 := by
  have hcalls : ∀ call ∈ ([] : List (Time × Call)), call.2.valid = true := by simp
  have hcreate : (Call.create 1 ownerDigest).exec 8 0 (World.start .empty).store = _ :=
    create_accepted rfl rfl rfl seven_next
  have hcomputed : ((World.start .empty).step 8 (0, .create 1 ownerDigest)).computed 0 =
      ((ownerDigest.row 1 25200000).settings, 0) := by
    simp only [World.step, hcreate]
    rfl
  refine ((nextRunAt_iff (fun _ => utc) .empty hcalls (by decide) (Nat.le_refl 8) rfl).2 _ _ _
    hcreate).mpr ?_
  exact hcomputed ▸ onTime_utc _ _

/-- In Kampala it is three hours late, and in UTC an update to another hour leaves it at
seven. -/
theorem digest_late :
    (¬ ∀ (clock : String → Clock) (orgId : Id) (dto : CreateDigestScheduleDto) (now : Time)
    (id : Id)
        (schedule : DigestSchedule) (s t : Store), dto.valid = true →
      create 8 orgId dto now s = .ok (some (id, schedule)) t →
      IsLeast (showings (clock schedule.timezone) schedule.settings now) schedule.nextRunAt) ∧
    ¬ ∀ (orgId : Id) (dto : CreateDigestScheduleDto) (id : Id) (changes : UpdateDigestScheduleDto)
        (now later : Time) (created updated : DigestSchedule) (s t u : Store),
      dto.valid = true → changes.valid = true → now ≤ later → created.timezone = "UTC" →
      create 8 orgId dto now s = .ok (some (id, created)) t →
      update orgId id changes t = .ok (some (id, updated)) u →
      IsLeast (showings utc updated.settings later) updated.nextRunAt := by
  constructor
  · intro h
    have hleast := h (fun _ time => time + 10800000) 1 kampalaDigest 0 0 _ {} _ rfl
      (create_accepted rfl rfl rfl seven_next)
    exact absurd hleast.1.2.1 (by decide)
  · intro h
    have hfind : Store.findSchedule
        { digestSchedules := Table.empty.insert (ownerDigest.row 1 25200000) } 1 0 =
          some (ownerDigest.row 1 25200000) := by
      decide +kernel
    have hcreate : create 8 1 ownerDigest 0 {} = _ := create_accepted rfl rfl rfl seven_next
    have hupdate : update 1 0 { hourLocal := some 10 } _ = _ := update_found hfind
    have hleast := h _ _ _ _ _ 0 _ _ _ _ _ rfl rfl (Nat.le_refl 0) rfl hcreate hupdate
    exact absurd hleast.1.2.1 (by decide)

end NimbusPos.DigestService
