import RingBus.Proofs.Config.Layout
import RingBus.Proofs.Discovery.Grammar
import RingBus.Proofs.Durations
import RingBus.Proofs.Ring.Handle

/-!
# Which configurations load

A configuration comes of a document if its outline is valid and the settings that it makes, filled
up with what is used where nothing is set, are within bounds. It holds these settings, so the order
of sections and fields does not tell in it.
-/

namespace RingBus

/-! ## Checked settings -/

/-- Settings that can be worked with. -/
structure Settings.Usable (s : Settings) : Prop where
  socketPath : ∃ endpoint : Endpoint, endpoint.text = s.socketPath
  socketDir : Path.isAbsolute s.socketDir = true
  slotCount : 1 ≤ s.slotCount.toNat ∧ s.slotCount.toNat ≤ 65536
  slotSize : 1 ≤ s.slotSize.toNat ∧ s.slotSize.toNat ≤ 16777216
  openAttempts : 1 ≤ s.openAttempts.toNat ∧ s.openAttempts.toNat ≤ 4294967295
  openBackoffMillis : 1 ≤ s.openBackoffMillis.toNat ∧ s.openBackoffMillis.toNat ≤ 10000

/-- A configuration that holds these settings, each as it is. -/
structure Config.Holds (config : Config) (s : Settings) : Prop where
  socketPath : config.socketPath.text = s.socketPath
  evictUnreachable : config.evictUnreachable = s.evictUnreachable
  socketDir : config.socketDir = s.socketDir
  slotCount : config.geometry.slotCount = s.slotCount
  slotSize : config.geometry.slotSize = s.slotSize
  openAttempts : config.retry.attempts = s.openAttempts
  openBackoffMillis : config.retry.initial.toNanos = s.openBackoffMillis.toNat * 1000000

namespace Config

/-- A text is read as the endpoint of that text, or not at all. -/
theorem endpoint_eq_ok_iff {text : String} {endpoint : Endpoint} :
    Endpoint.ofString text = .ok endpoint ↔ endpoint.text = text :=
  Datagram.mapError_eq_ok_iff Endpoint.check_text Endpoint.text_of_check

theorem one_le_toNat_iff {n : UInt32} : 1 ≤ n.toNat ↔ n ≠ 0 := by
  simp [Nat.one_le_iff_ne_zero, ← UInt32.toNat_inj]

/-- What it takes to make a configuration of settings. -/
theorem ofSettings_eq_ok_iff {s : Settings} {config : Config} :
    ofSettings s = .ok config ↔
      ∃ (socketPath : Endpoint) (absolute : Path.isAbsolute s.socketDir = true)
        (geometry : Ring.Geometry), socketPath.text = s.socketPath ∧
          (s.slotCount = geometry.slotCount ∧ s.slotSize = geometry.slotSize) ∧
          1 ≤ s.openAttempts.toNat ∧
          (1 ≤ s.openBackoffMillis.toNat ∧ s.openBackoffMillis.toNat ≤ maxOpenBackoffMillis) ∧
          config = ⟨socketPath, s.evictUnreachable, s.socketDir, geometry,
            .make s.openAttempts (.ofMillis s.openBackoffMillis.toNat), absolute⟩ := by
  simp only [← Ring.Geometry.check_eq_ok_iff, ← endpoint_eq_ok_iff, one_le_toNat_iff]
  constructor
  · intro h
    -- Every check stands in the way of the next one, so the cases follow the order of the checks.
    cases path : Endpoint.ofString s.socketPath with
    | error e => simp [ofSettings, path, bind, Except.bind] at h
    | ok socketPath =>
      by_cases absolute : Path.isAbsolute s.socketDir = true
      · cases shape : Ring.Geometry.check s.slotCount s.slotSize with
        | error e => simp [ofSettings, path, absolute, shape, bind, Except.bind] at h
        | ok geometry =>
          simp only [ofSettings, path, absolute, shape, bind, Except.bind, dif_pos] at h
          split at h
          · cases h
          · split at h
            · next attempts backoff =>
              cases h
              exact ⟨socketPath, absolute, geometry, rfl, rfl, attempts, backoff, rfl⟩
            · cases h
      · simp [ofSettings, path, absolute, bind, Except.bind, throw, throwThe,
          MonadExceptOf.throw] at h
  · rintro ⟨socketPath, absolute, geometry, path, shape, attempts, backoff, rfl⟩
    simp [ofSettings, path, absolute, shape, attempts, backoff, bind, Except.bind, pure,
      Except.pure]

/-- A configuration made of settings holds exactly these. -/
theorem holds_of_ofSettings {s : Settings} {config : Config} (h : ofSettings s = .ok config) :
    config.Holds s := by
  obtain ⟨socketPath, absolute, geometry, path, ⟨count, size⟩, attempts, ⟨-, short⟩, rfl⟩ :=
    ofSettings_eq_ok_iff.1 h
  have retry : RetryPolicy.make s.openAttempts (.ofMillis s.openBackoffMillis.toNat) =
      ⟨s.openAttempts, .ofMillis s.openBackoffMillis.toNat, attempts⟩ := dif_pos attempts
  constructor
  case openBackoffMillis => rw [retry, Duration.toNanos_ofMillis short]
  all_goals simp [path, count, size, retry]

/-- Settings make a configuration if and only if they are usable. -/
theorem exists_ofSettings_iff {s : Settings} :
    (∃ config, ofSettings s = .ok config) ↔ s.Usable := by
  constructor
  · rintro ⟨config, h⟩
    obtain ⟨socketPath, absolute, geometry, path, ⟨count, size⟩, attempts, backoff, rfl⟩ :=
      ofSettings_eq_ok_iff.1 h
    refine ⟨⟨socketPath, path⟩, absolute, ?_, ?_, ⟨attempts, ?_⟩, backoff⟩
    · exact count ▸ ⟨geometry.slotCount_pos, geometry.slotCount_le⟩
    · exact size ▸ ⟨geometry.slotSize_pos, geometry.slotSize_le⟩
    · exact Nat.le_of_lt_succ s.openAttempts.toNat_lt
  · rintro ⟨⟨socketPath, path⟩, absolute, count, size, ⟨attempts, -⟩, backoff⟩
    exact ⟨_, ofSettings_eq_ok_iff.2 ⟨socketPath, absolute,
      ⟨s.slotCount, s.slotSize, count.1, count.2, size.1, size.2⟩, path, ⟨rfl, rfl⟩, attempts,
      backoff, rfl⟩⟩

/-- Nothing has to be set. -/
theorem usable_default : Settings.Usable {} where
  socketPath := ⟨⟨"/tmp/ipc_daemon.sock", by decide, by decide, by decide⟩, rfl⟩
  socketDir := by decide
  slotCount := by decide
  slotSize := by decide
  openAttempts := by decide
  openBackoffMillis := by decide

/-! ## Documents -/

variable {doc doc' : Yaml.Document}

/-- Without a valid outline, the document is at fault. -/
theorem ofDocument_of_not_valid (sectioned : Sectioned doc)
    (invalid : ¬ (outline doc.root).Valid) :
    ∃ fault, ofDocument doc = .error (.malformed fault) := by
  cases read : Settings.ofNode doc.root with
  | ok s => exact absurd ((exists_settings_iff sectioned).1 ⟨s, read⟩) invalid
  | error fault => exact ⟨fault, by rw [ofDocument, Settings.ofDocument, read]⟩

/-- With a valid outline, nothing counts but the settings that it makes. -/
theorem ofDocument_of_valid (sectioned : Sectioned doc) (valid : (outline doc.root).Valid) :
    ofDocument doc = (ofSettings (outline doc.root).settings).mapError .unusable := by
  obtain ⟨s, read⟩ := (exists_settings_iff sectioned).2 valid
  rw [ofDocument, Settings.ofDocument, read, sectioned.whole, ← settings_of_ofNode read]

/-- Loading a document succeeds if it is valid, and its settings pass the checks. -/
theorem ofDocument_eq_ok_iff (sectioned : Sectioned doc) {config : Config} :
    ofDocument doc = .ok config ↔
      (outline doc.root).Valid ∧ ofSettings (outline doc.root).settings = .ok config := by
  by_cases valid : (outline doc.root).Valid
  · rw [ofDocument_of_valid sectioned valid]
    cases ofSettings (outline doc.root).settings <;> simp [Except.mapError, valid]
  · obtain ⟨fault, h⟩ := ofDocument_of_not_valid sectioned valid
    simp [h, valid]

/-- Documents whose sections and fields are in different orders make the same configuration. -/
theorem ofDocument_of_reordered (sectioned : Sectioned doc) (sectioned' : Sectioned doc')
    (h : (outline doc.root).Reordered (outline doc'.root)) {config : Config}
    (made : ofDocument doc = .ok config) : ofDocument doc' = .ok config := by
  obtain ⟨valid, made⟩ := (ofDocument_eq_ok_iff sectioned).1 made
  rw [Outline.settings_of_reordered valid h] at made
  exact (ofDocument_eq_ok_iff sectioned').2 ⟨valid.of_reordered h, made⟩

/-- A configuration comes just of the documents whose outline is valid and whose settings, with the
defaults, are usable. It holds those settings, and it is the same in whatever order the sections
and the fields of a section stand. -/
theorem loads_exactly_valid (sectioned : Sectioned doc) :
    ((∃ config, ofDocument doc = .ok config) ↔
      (outline doc.root).Valid ∧ (outline doc.root).settings.Usable) ∧
    (∀ config, ofDocument doc = .ok config → config.Holds (outline doc.root).settings) ∧
    (∀ doc', Sectioned doc' → (outline doc.root).Reordered (outline doc'.root) →
      ∀ config, ofDocument doc = .ok config ↔ ofDocument doc' = .ok config) ∧
    ∀ text, handed text = doc → ofText text = ofDocument doc := by
  refine ⟨?_, fun config made => ?_, fun doc' sectioned' h config => ?_, fun text same => ?_⟩
  · simp only [ofDocument_eq_ok_iff sectioned, exists_and_left, exists_ofSettings_iff]
  · exact holds_of_ofSettings ((ofDocument_eq_ok_iff sectioned).1 made).2
  · exact ⟨ofDocument_of_reordered sectioned sectioned' h,
      ofDocument_of_reordered sectioned' sectioned h.symm⟩
  · rw [ofText, same]

namespace Sample

/-- A text that leaves out most fields. -/
def ringFirst : String :=
  "ring:\n  slot_size: 128\n  slot_count: 4\ndaemon:\n  evict_unreachable: true\n"

/-- The same in another order. -/
def daemonFirst : String :=
  "daemon:\n  evict_unreachable: true\nring:\n  slot_count: 4\n  slot_size: 128\n"

/-- A scalar without tag and quotes. -/
def plain (text : String) : Content :=
  .scalar none text .plain

theorem outline_ringFirst : outline (handed ringFirst).root =
    [(plain "ring", [(plain "slot_size", plain "128"), (plain "slot_count", plain "4")]),
     (plain "daemon", [(plain "evict_unreachable", plain "true")])] := by
  decide +kernel

theorem outline_daemonFirst : outline (handed daemonFirst).root =
    [(plain "daemon", [(plain "evict_unreachable", plain "true")]),
     (plain "ring", [(plain "slot_count", plain "4"), (plain "slot_size", plain "128")])] := by
  decide +kernel

/-- The two texts differ in the order of sections and of fields only. -/
theorem reordered : (outline (handed ringFirst).root).Reordered (outline (handed daemonFirst).root)
    := by
  rw [outline_ringFirst, outline_daemonFirst]
  exact ⟨_, .swap _ _ _, .cons ⟨rfl, .refl _⟩ (.cons ⟨rfl, .swap _ _ _⟩ .nil)⟩

theorem valid : (outline (handed ringFirst).root).Valid := by
  have ring : Admissible ringSchema
      [(plain "slot_size", plain "128"), (plain "slot_count", plain "4")] :=
    Admissible.cons_iff.2
      ⟨⟨"slot_size", fun c => c.uint32?.isSome, by simp [ringSchema], rfl, by decide +kernel⟩,
        by decide, Admissible.cons_iff.2
          ⟨⟨"slot_count", fun c => c.uint32?.isSome, by simp [ringSchema], rfl, by decide +kernel⟩,
            by decide, .nil⟩⟩
  have daemon : Admissible daemonSchema [(plain "evict_unreachable", plain "true")] :=
    Admissible.cons_iff.2 ⟨⟨"evict_unreachable", fun c => c.boolean?.isSome,
      by simp [daemonSchema], rfl, by decide +kernel⟩, by decide, .nil⟩
  rw [outline_ringFirst]
  exact Admissible.cons_iff.2 ⟨⟨"ring", _, by simp [documentSchema], rfl, ring⟩, by decide,
    Admissible.cons_iff.2 ⟨⟨"daemon", _, by simp [documentSchema], rfl, daemon⟩, by decide, .nil⟩⟩

theorem settings_ringFirst : (outline (handed ringFirst).root).settings =
    { evictUnreachable := true, slotCount := 4, slotSize := 128 } := by
  rw [outline_ringFirst]
  decide +kernel

theorem usable : Settings.Usable { evictUnreachable := true, slotCount := 4, slotSize := 128 } :=
  { usable_default with
    slotCount := by decide
    slotSize := by decide }

theorem sectioned_ringFirst : Sectioned (handed ringFirst) := by
  decide +kernel

theorem sectioned_daemonFirst : Sectioned (handed daemonFirst) := by
  decide +kernel

end Sample

theorem loads_exactly_valid_either_order : ∃ config, ofText Sample.ringFirst = .ok config ∧
    ofText Sample.daemonFirst = .ok config ∧
    config.Holds { evictUnreachable := true, slotCount := 4, slotSize := 128 } := by
  obtain ⟨loads, holds, same, reads⟩ := loads_exactly_valid Sample.sectioned_ringFirst
  rw [Sample.settings_ringFirst] at loads holds
  obtain ⟨config, made⟩ := loads.2 ⟨Sample.valid, Sample.usable⟩
  refine ⟨config, (reads _ rfl).trans made, ?_, holds config made⟩
  exact (same _ Sample.sectioned_daemonFirst Sample.reordered config).1 made

end Config
end RingBus
