import RecordRelay.Proofs.Delivery.Size
import RecordRelay.Proofs.Settings.Load
import RecordRelay.Service.Start

/-!
# Services that start

The second hop needs two channels, one for the messages that wait and one for the reports of
failures, and whether there are channels of the sizes that it was told is known only when it asks
for them. Settings are checked long before. What is loaded has passed that check, so neither size is
zero, and both reach the channels as they were told (`LogSettings.Honoured.slots_eq`). The check
looks for no greatest size: **loaded settings start a publisher exactly if no size exceeds the
greatest one of a channel**, and with others the service crashes (`honoured_of_load`). There are
such settings, since a file can name greater sizes than that (`crashes_after_load`).
-/

namespace RecordRelay

/-! ## Channels -/

/-- A channel that is to hold something is made **unless it is too large**. -/
theorem Channel.make_of_pos {size : Nat} (h : 0 < size) :
    make size = if greatest < size then .error .tooLarge else .ok () :=
  if_neg (Nat.ne_of_gt h)

/-- Whether there are channels **for a capacity**. -/
structure Capacity.Fits (c : Capacity) : Prop where
  /-- There is one for the messages. -/
  slots_le : c.slots ≤ Channel.greatest
  /-- There is one for the reports. -/
  reports_le : c.reports ≤ Channel.greatest

variable {capacity : Capacity} {kind : String}

/-- A producer is spawned **if there are channels for it**. -/
theorem Producer.spawn_of_fits (h : capacity.Fits) :
    spawn capacity kind = .ok (start capacity kind) := by
  have hslots : 0 < capacity.slots := Nat.le_max_left 1 capacity.queue
  have hreports : 0 < capacity.reports := Nat.le_max_left 1 capacity.errors
  unfold spawn
  rw [Channel.make_of_pos hslots, Channel.make_of_pos hreports,
    if_neg (Nat.not_lt.mpr h.slots_le), if_neg (Nat.not_lt.mpr h.reports_le)]
  rfl

/-- Otherwise it crashes, and always for the same reason, since it never asks for a channel that
holds nothing. -/
theorem Producer.spawn_of_not_fits (h : ¬ capacity.Fits) :
    spawn capacity kind = .error .tooLarge := by
  have hslots : 0 < capacity.slots := Nat.le_max_left 1 capacity.queue
  have hreports : 0 < capacity.reports := Nat.le_max_left 1 capacity.errors
  unfold spawn
  rw [Channel.make_of_pos hslots, Channel.make_of_pos hreports]
  split
  · rfl
  · next hle =>
    rw [if_pos (Nat.lt_of_not_le fun hle' => h ⟨Nat.le_of_not_lt hle, hle'⟩)]
    rfl

/-- So it is with a publisher. -/
theorem Publisher.spawn_of_fits (h : capacity.Fits) :
    spawn capacity kind = .ok (start capacity kind) := by
  unfold spawn
  rw [Producer.spawn_of_fits h]
  rfl

theorem Publisher.spawn_of_not_fits (h : ¬ capacity.Fits) :
    spawn capacity kind = .error .tooLarge := by
  unfold spawn
  rw [Producer.spawn_of_not_fits h]
  rfl

/-- **A publisher is spawned exactly if there are channels for it.** -/
theorem Publisher.spawn_eq_ok_iff {st : Publisher.State} :
    spawn capacity kind = .ok st ↔ capacity.Fits ∧ st = start capacity kind := by
  by_cases h : capacity.Fits
  · rw [spawn_of_fits h, Except.ok.injEq, eq_comm]
    exact (and_iff_right h).symm
  · rw [spawn_of_not_fits h]
    exact ⟨nofun, fun hok => absurd hok.1 h⟩

/-- It crashes exactly if there are none. -/
theorem Publisher.spawn_eq_error_iff {crash : Channel.Crash} :
    spawn capacity kind = .error crash ↔ ¬ capacity.Fits ∧ crash = .tooLarge := by
  by_cases h : capacity.Fits
  · rw [spawn_of_fits h]
    exact ⟨nofun, fun herror => absurd h herror.1⟩
  · rw [spawn_of_not_fits h, Except.error.injEq, eq_comm]
    exact (and_iff_right h).symm

/-! ## Settings that were checked -/

/-- **What the check asks for.** -/
theorem Settings.check_eq_ok_iff {s : Settings} :
    s.check = .ok () ↔ Text.trimList s.log.topic.toList ≠ []
      ∧ (s.log.backend = .kafka → s.log.brokers ≠ [])
      ∧ (s.log.queueCapacity ≠ 0 ∧ s.log.errorBuffer ≠ 0)
      ∧ (s.gateway.timeoutSecs ≠ 0 ∧ s.publisher.timeoutSecs ≠ 0)
      ∧ s.gateway.rateLimit.perSecond ≠ 0 ∧ s.gateway.rateLimit.burst ≠ 0 := by
  unfold Settings.check
  constructor
  · intro h
    split_ifs at h with htopic hbrokers hsizes htimes hrate
    exact ⟨htopic, fun hkafka hnone => hbrokers ⟨hkafka, hnone⟩, not_or.mp hsizes,
      not_or.mp htimes, not_or.mp hrate⟩
  · rintro ⟨htopic, hbrokers, hsizes, htimes, hrate⟩
    rw [if_neg htopic, if_neg fun h => hbrokers h.1 h.2, if_neg (not_or.mpr hsizes),
      if_neg (not_or.mpr htimes), if_neg (not_or.mpr hrate)]

/-- What was loaded has been checked. -/
theorem Settings.check_of_load {file : Option (String × Except IoFault Bytes)}
    {lookup : String → Option String} {s : Settings} (h : load file lookup = .ok s) :
    s.check = .ok () := by
  have hread : ∃ told : Settings, (do
      (told.withEnvironment lookup).2
      (told.withEnvironment lookup).1.check
      .ok (told.withEnvironment lookup).1) = .ok s := by
    cases file with
    | none => exact ⟨{}, h⟩
    | some file =>
      obtain ⟨told, -, h⟩ := exists_of_bind_eq_ok h
      exact ⟨told, h⟩
  obtain ⟨told, htold⟩ := hread
  obtain ⟨⟨⟩, -, hchecked⟩ := exists_of_bind_eq_ok htold
  obtain ⟨⟨⟩, hcheck, hloaded⟩ := exists_of_bind_eq_ok hchecked
  cases hloaded
  exact hcheck

/-! ## Services -/

/-- The second hop starts **if it is connected** and its port is free. -/
theorem Hop.start_publisher {l : LogSettings} {portFree : Bool} {t : Tree} :
    (Hop.publisher.start l portFree t).1 = (l.connect t).1 >>= fun _ =>
      if portFree then .ok () else .error (.port (.os .addressInUse)) := by
  unfold Hop.start
  dsimp only
  cases (l.connect t).1 <;> rfl

namespace LogSettings

variable {l : LogSettings}

/-- A second hop **crashes** exactly if its log can be opened and there are no channels for it. -/
theorem start_eq_crashed_iff {portFree : Bool} {t : Tree} {crash : Channel.Crash} :
    (Hop.publisher.start l portFree t).1 = .error (.crashed crash)
      ↔ (l.openLog t).1 = .ok () ∧ ¬ l.capacity.Fits ∧ crash = .tooLarge := by
  rw [Hop.start_publisher]
  unfold connect
  dsimp only
  cases (l.openLog t).1 with
  | error failure => exact ⟨nofun, nofun⟩
  | ok opened =>
    by_cases h : l.capacity.Fits
    · rw [Publisher.spawn_of_fits h]
      refine ⟨fun hport => ?_, fun hcrash => absurd h hcrash.2.1⟩
      cases portFree <;> cases hport
    · rw [Publisher.spawn_of_not_fits h]
      refine ⟨fun hcrash => ?_, ?_⟩
      · cases hcrash
        exact ⟨rfl, h, rfl⟩
      · rintro ⟨-, -, rfl⟩
        rfl

/-- Whether **no size exceeds** the greatest one of a channel. -/
def Countable (l : LogSettings) : Prop :=
  l.queueCapacity.toNat ≤ Channel.greatest ∧ l.errorBuffer.toNat ≤ Channel.greatest

/-- **What becomes of the sizes** that the settings of a log name, in a publisher on a sink of this
kind. -/
structure Honoured (l : LogSettings) (kind : String) : Prop where
  /-- The channels are asked for in these sizes, -/
  slots_eq : l.capacity.slots = l.queueCapacity.toNat
  reports_eq : l.capacity.reports = l.errorBuffer.toNat
  /-- and neither size is nothing. -/
  pos : 0 < l.queueCapacity.toNat ∧ 0 < l.errorBuffer.toNat
  /-- The publisher is spawned exactly if no size exceeds the greatest one, -/
  spawned_iff : (∃ st, Publisher.spawn l.capacity kind = .ok st) ↔ l.Countable
  /-- and crashes exactly if one does, -/
  crashed_iff : ∀ crash, Publisher.spawn l.capacity kind = .error crash
    ↔ ¬ l.Countable ∧ crash = .tooLarge
  /-- and with it the service, where that has come so far. -/
  service_crashed_iff : ∀ portFree t crash,
    (Hop.publisher.start l portFree t).1 = .error (.crashed crash)
      ↔ (l.openLog t).1 = .ok () ∧ ¬ l.Countable ∧ crash = .tooLarge
  /-- If it is spawned, the numbers of messages that a run can leave in its queue are those up to
  the size of that, -/
  items_iff : ∀ st₀, Publisher.spawn l.capacity kind = .ok st₀ → ∀ n,
    (∃ as st tr, exec Publisher.step as st₀ = some (st, tr) ∧ st.producer.items.length = n)
      ↔ n ≤ l.queueCapacity.toNat
  /-- and so it is with the reports in its error channel. -/
  errors_iff : ∀ st₀, Publisher.spawn l.capacity kind = .ok st₀ → ∀ n,
    (∃ as st tr, exec Publisher.step as st₀ = some (st, tr) ∧ st.producer.errors.length = n)
      ↔ n ≤ l.errorBuffer.toNat

/-- Sizes that are not nothing **are honoured**. -/
theorem honoured_of_pos (hqueue : 0 < l.queueCapacity.toNat) (herrors : 0 < l.errorBuffer.toNat)
    (kind : String) : l.Honoured kind := by
  have hslots : l.capacity.slots = l.queueCapacity.toNat := Nat.max_eq_right hqueue
  have hreports : l.capacity.reports = l.errorBuffer.toNat := Nat.max_eq_right herrors
  have hfits : l.capacity.Fits ↔ l.Countable := by
    unfold Countable
    rw [← hslots, ← hreports]
    exact ⟨fun h => ⟨h.slots_le, h.reports_le⟩, fun h => ⟨h.1, h.2⟩⟩
  constructor
  case slots_eq => exact hslots
  case reports_eq => exact hreports
  case pos => exact ⟨hqueue, herrors⟩
  case spawned_iff =>
    simp only [Publisher.spawn_eq_ok_iff, exists_and_left, exists_eq, and_true, hfits]
  case crashed_iff =>
    intro crash
    rw [Publisher.spawn_eq_error_iff, hfits]
  case service_crashed_iff =>
    intro portFree t crash
    rw [start_eq_crashed_iff, hfits]
  case items_iff =>
    intro st₀ h n
    obtain ⟨-, rfl⟩ := Publisher.spawn_eq_ok_iff.mp h
    rw [Publisher.exists_length_items_iff, hslots]
  case errors_iff =>
    intro st₀ h n
    obtain ⟨-, rfl⟩ := Publisher.spawn_eq_ok_iff.mp h
    rw [Publisher.exists_length_errors_iff, hreports]

end LogSettings

namespace Settings

/-- **Loaded settings start a publisher, unless they name a size that no channel has.** Whatever the
file and the environment say: if settings are loaded, neither of the two sizes is nothing and both
reach the channels as they were told; the publisher is spawned exactly if none exceeds the greatest
size of a channel, and otherwise crashes; and if it is spawned, its queue and its error channel hold
exactly as much as they were told. -/
theorem honoured_of_load {file : Option (String × Except IoFault Bytes)}
    {lookup : String → Option String} {s : Settings} (h : load file lookup = .ok s)
    (kind : String) : s.log.Honoured kind := by
  obtain ⟨-, -, ⟨hqueue, herrors⟩, -⟩ := check_eq_ok_iff.mp (check_of_load h)
  have hpos : ∀ {n : UInt64}, n ≠ 0 → 0 < n.toNat := fun hn =>
    Nat.pos_of_ne_zero fun hzero => hn (UInt64.toNat_inj.mp hzero)
  exact LogSettings.honoured_of_pos (hpos hqueue) (hpos herrors) kind

/-- A file that asks for **the greatest queue** there is, and for an error channel of two reports. -/
theorem honoured_of_load_greatest :
    ∃ s st₀, load (opened "relay.toml"
        (some "[log]\nqueue_capacity = 2305843009213693951\nerror_buffer = 2\n")) (fun _ => none)
        = .ok s
      ∧ Publisher.spawn s.log.capacity "memory" = .ok st₀
      ∧ ∀ n, (∃ as st tr, exec Publisher.step as st₀ = some (st, tr)
        ∧ st.producer.errors.length = n) ↔ n ≤ 2 := by
  have hload : load (opened "relay.toml"
      (some "[log]\nqueue_capacity = 2305843009213693951\nerror_buffer = 2\n")) (fun _ => none)
      = .ok { log := { queueCapacity := 2305843009213693951, errorBuffer := 2 } } :=
    eq_ok_of_toOption (by decide +kernel)
  have hhonoured := honoured_of_load hload "memory"
  obtain ⟨st₀, hspawn⟩ := hhonoured.spawned_iff.mpr ⟨by decide, by decide⟩
  exact ⟨_, st₀, hload, hspawn, hhonoured.errors_iff st₀ hspawn⟩

/-- **A file may ask for a queue that there is not.** It is one message larger than the greatest;
the settings are loaded, and a publisher that is started with them crashes. -/
theorem crashes_after_load :
    ∃ s, load (opened "relay.toml" (some "[log]\nqueue_capacity = 2305843009213693952"))
        (fun _ => none) = .ok s
      ∧ s.log.capacity.slots = Channel.greatest + 1
      ∧ Publisher.spawn s.log.capacity "memory" = .error .tooLarge := by
  have hload : load (opened "relay.toml" (some "[log]\nqueue_capacity = 2305843009213693952"))
      (fun _ => none) = .ok { log := { queueCapacity := 2305843009213693952 } } :=
    eq_ok_of_toOption (by decide +kernel)
  exact ⟨_, hload, rfl, rfl⟩

end Settings

end RecordRelay
