import AgentClassifier.Proofs.Service.Recency
import AgentClassifier.Proofs.Service.Separation
import AgentClassifier.Proofs.Settles

/-!
Which settings a service is built with, and what is wrong with the others.

* `Settings.Countable`, `Settings.IsValid` : what can be asked of settings.
* `Settings.Oversized`, `Settings.Overlong` : the settings that no validation looks for.
* `Settings.RefusedFor` : the fault that is named, where several are there.
* `Settings.settles_validate`, `Layer.settles_ofRecent`, `Layer.settles_ofIdle` : validation and the
  two sorts of layers settle what they accept.
* `build_settles` : the services with one layer.
-/

namespace AgentClassifier

/-! ## Settings -/

namespace Settings

/-- The number of entries is positive, and a memory can count it. -/
def Countable (settings : Settings) : Prop :=
  0 < settings.maxEntries ∧ settings.maxEntries < countLimit

instance decidableCountable (settings : Settings) : Decidable settings.Countable :=
  inferInstanceAs (Decidable (_ ∧ _))

/-- The number of entries and the idle time are good. -/
def IsValid (settings : Settings) : Prop := settings.Countable ∧ 0 < settings.idleTime.nanos

/-- Settings are refused for a fault. The number of entries goes before the idle time. -/
inductive RefusedFor (settings : Settings) : BuildError → Prop
  | capacity : ¬ settings.Countable → RefusedFor settings (.invalidSettings .capacity)
  | idleTime : settings.Countable → settings.idleTime.nanos = 0 →
      RefusedFor settings (.invalidSettings .idleTime)

variable {settings : Settings}

theorem RefusedFor.not_isValid {cause : BuildError} (refused : settings.RefusedFor cause) :
    ¬ settings.IsValid := by
  rintro ⟨countable, positive⟩
  cases refused with
  | capacity uncountable => exact uncountable countable
  | idleTime _ none => omega

theorem refusedFor_iff_of_uncountable (uncountable : ¬ settings.Countable) (cause : BuildError) :
    settings.RefusedFor cause ↔ cause = .invalidSettings .capacity := by
  constructor
  · rintro (_ | ⟨countable, _⟩)
    · rfl
    · exact absurd countable uncountable
  · rintro rfl
    exact .capacity uncountable

theorem refusedFor_iff_of_countable (countable : settings.Countable)
    (none : settings.idleTime.nanos = 0) (cause : BuildError) :
    settings.RefusedFor cause ↔ cause = .invalidSettings .idleTime := by
  constructor
  · rintro (uncountable | _)
    · exact absurd countable uncountable
    · rfl
  · rintro rfl
    exact .idleTime countable none

variable (settings)

theorem settles_capacity : Settles settings.capacity settings.Countable
    fun cause => ¬ settings.Countable ∧ cause = .invalidSettings .capacity := by
  unfold capacity
  split
  · next wrong =>
      have uncountable : ¬ settings.Countable := by
        rintro ⟨positive, small⟩
        omega
      exact .error uncountable fun cause => and_iff_right uncountable
  · next right =>
      have countable : settings.Countable := by
        constructor <;> omega
      exact .ok countable fun cause wrong => wrong.1 countable

/-- Validation accepts valid settings, and names the fault of others. -/
theorem settles_validate : Settles settings.validate settings.IsValid settings.RefusedFor := by
  have capacity := settings.settles_capacity
  unfold validate
  split
  · next cause failed =>
      obtain ⟨uncountable, rfl⟩ := (capacity.error_iff cause).mp failed
      exact .error (fun valid => uncountable valid.1) (refusedFor_iff_of_uncountable uncountable)
  · next entries done =>
      have countable := capacity.ok_iff.mp ⟨entries, done⟩
      split
      · next none =>
          exact .error (fun valid => absurd valid.2 (by omega))
            (refusedFor_iff_of_countable countable none)
      · next some =>
          have valid : settings.IsValid := ⟨countable, by omega⟩
          exact .ok valid fun cause refused => refused.not_isValid valid

/-- The number of entries is more than a store that bounds its size only can be laid out for. -/
def Oversized (σ : Type → Type) [Store σ] (settings : Settings) : Prop :=
  Store.maxCapacity σ < settings.maxEntries

/-- Where there are more entries than one block of memory has bytes, they are always too many. -/
theorem oversized_of_le {σ : Type → Type} [Store σ] {settings : Settings}
    (many : blockLimit ≤ settings.maxEntries) : settings.Oversized σ :=
  Nat.lt_of_lt_of_le Store.maxCapacity_lt many

instance decidableOversized (σ : Type → Type) [Store σ] (settings : Settings) :
    Decidable (settings.Oversized σ) :=
  inferInstanceAs (Decidable (_ < _))

/-- The idle time is longer than a layer can count. -/
def Overlong : Prop := Layer.maxIdleTime.nanos < settings.idleTime.nanos

instance decidableOverlong : Decidable settings.Overlong := inferInstanceAs (Decidable (_ < _))

end Settings

/-! ## Layers -/

variable {σ : Type → Type} [Store σ]

/-- A layer that bounds its size accepts every number of entries that its stores can be laid out
for. -/
theorem Layer.settles_ofRecent (settings : Settings) :
    Settles (Layer.ofRecent settings : Except BuildError (Layer σ))
      (settings.Countable ∧ ¬ settings.Oversized σ)
      fun cause => ¬ settings.Countable ∧ cause = .invalidSettings .capacity ∨
        settings.Countable ∧ settings.Oversized σ ∧ cause = .capacityOverflow := by
  have capacity := settings.settles_capacity
  unfold ofRecent
  split
  · next reason failed =>
      obtain ⟨uncountable, rfl⟩ := (capacity.error_iff reason).mp failed
      exact .error (fun accepted => uncountable accepted.1) fun cause => by simp [uncountable]
  · next entries counted =>
      have countable := capacity.ok_iff.mp ⟨entries, counted⟩
      obtain ⟨rfl, _⟩ := Settings.eq_of_capacity counted
      split
      · next many =>
          exact .error (fun accepted => accepted.2 many) fun cause => by
            simp [countable, Settings.Oversized, many]
      · next fits =>
          exact .ok ⟨countable, fits⟩ fun cause => by simp [countable, Settings.Oversized, fits]

/-- A layer that also drops unused entries accepts what validation accepts, up to the longest idle
time that it can count. -/
theorem Layer.settles_ofIdle (settings : Settings) :
    Settles (Layer.ofIdle settings : Except BuildError (Layer σ))
      (settings.validate = .ok () ∧ ¬ settings.Overlong)
      fun cause => settings.validate = .error cause ∨
        settings.validate = .ok () ∧ settings.Overlong ∧ cause = .idleTimeTooLong := by
  unfold ofIdle
  split
  · next reason failed =>
      refine .error (fun accepted => ?_) fun cause => ?_
      · rw [failed] at accepted
        cases accepted.1
      · simp [failed, eq_comm]
  · next valid =>
      split
      · next long =>
          refine .error (fun accepted => accepted.2 long) fun cause => ?_
          simp [valid, Settings.Overlong, long]
      · next short =>
          refine .ok ⟨valid, short⟩ fun cause => ?_
          simp [valid, Settings.Overlong, short]

/-- A layer that bounds its size does not look at the idle time. -/
theorem Layer.ofRecent_congr {settings other : Settings}
    (same : other.maxEntries = settings.maxEntries) :
    (Layer.ofRecent other : Except BuildError (Layer σ)) = Layer.ofRecent settings := by
  rw [ofRecent, ofRecent, Settings.capacity, Settings.capacity, same]

/-- Settings are refused for the number of entries before the idle time. A service with a layer that
bounds its size accepts every countable number of entries, except that it cannot be built with more
entries than its stores can be laid out for, and that is always so where one block of memory has too
few bytes for them. Whatever the idle time, what is seen of its runs is the same. A service with a
layer that also drops unused entries accepts exactly what validation accepts, and fails as
validation does, except that it cannot be built with an idle time that is too long to count. -/
theorem build_settles (settings : Settings) (parser : Parser) :
    Settles settings.validate settings.IsValid settings.RefusedFor ∧
    Settles (Layering.recent.build settings parser : Except BuildError (Service σ))
      (settings.Countable ∧ ¬ settings.Oversized σ)
      (fun cause => ¬ settings.Countable ∧ cause = .invalidSettings .capacity ∨
        settings.Countable ∧ settings.Oversized σ ∧ cause = .capacityOverflow) ∧
    (blockLimit ≤ settings.maxEntries → settings.Oversized σ) ∧
    (∀ other : Settings, other.maxEntries = settings.maxEntries →
      ∀ service : Service σ, Layering.recent.build settings parser = .ok service →
        ∃ twin : Service σ, Layering.recent.build other parser = .ok twin ∧
          ∀ question operations,
            twin.account question operations = service.account question operations) ∧
    Settles (Layering.idle.build settings parser : Except BuildError (Service σ))
      (settings.validate = .ok () ∧ ¬ settings.Overlong)
      (fun cause => settings.validate = .error cause ∨
        settings.validate = .ok () ∧ settings.Overlong ∧ cause = .idleTimeTooLong) := by
  refine ⟨settings.settles_validate, (Layer.settles_ofRecent settings).map _,
    Settings.oversized_of_le, ?_, (Layer.settles_ofIdle settings).map _⟩
  intro other same service built
  refine ⟨service, ?_, fun _ _ => rfl⟩
  rw [Layering.build, Layer.ofRecent_congr same]
  exact built

/-- A thousand years and a second. -/
def millennium : Settings := ⟨10, Duration.ofSecs 31536000001⟩

/-- As many entries as can be counted. -/
def vast : Settings := ⟨18446744073709551615, Duration.ofSecs 1⟩

/-- Validation accepts an idle time of more than a thousand years, and as many entries as can be
counted. Only the layer that counts the time cannot be built with the one, and only the layer that is
laid out for the entries with the other. The latter layer does not even need an idle time. -/
theorem accepted_not_built :
    (millennium.validate = .ok () ∧
      Layering.idle.build millennium ruleless = (.error .idleTimeTooLong : Except _ Service)) ∧
    (vast.validate = .ok () ∧
      Layering.recent.build vast ruleless = (.error .capacityOverflow : Except _ Service) ∧
      ∃ service : Service, Layering.idle.build vast ruleless = .ok service) ∧
    ∃ service twin : Service,
      Layering.recent.build millennium ruleless = .ok service ∧
      Layering.recent.build ⟨10, Duration.ofSecs 0⟩ ruleless = .ok twin ∧
      twin.account .os [.act (.ask .os "a"), .counts] =
        service.account .os [.act (.ask .os "a"), .counts] := by
  obtain ⟨_, recent, _, twins, idle⟩ := build_settles (σ := Recent) millennium ruleless
  obtain ⟨_, vastRecent, oversized, _, vastIdle⟩ := build_settles (σ := Recent) vast ruleless
  obtain ⟨service, built⟩ := recent.ok_iff.mpr (by decide)
  obtain ⟨twin, builtToo, same⟩ := twins ⟨10, Duration.ofSecs 0⟩ rfl service built
  refine ⟨⟨rfl, ?_⟩, ⟨rfl, ?_, ?_⟩, service, twin, built, builtToo, same _ _⟩
  · exact (idle.error_iff _).mpr (.inr ⟨rfl, by decide, rfl⟩)
  · exact (vastRecent.error_iff _).mpr (.inr ⟨by decide, oversized (by decide), rfl⟩)
  · exact vastIdle.ok_iff.mpr ⟨rfl, by decide⟩

end AgentClassifier
