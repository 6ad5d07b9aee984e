import PortfolioManager.Domain.ActivityShape
import PortfolioManager.Domain.LocalTime
import PortfolioManager.Domain.Observations
import PortfolioManager.Domain.Ownership
import PortfolioManager.Library.Canonical

/-! # Domain values depend on instants only

The arguments of each dated type are a record whose entries are its times. Every constructor converts
the times before it compares any of them, so it is canonical for the instants they denote: the way a
time is written, its zone and its offset decide nothing, and the stored times are UTC values.
-/

namespace PortfolioManager.Domain

open PortfolioManager.Python Checked Record

/-! ## Records of times -/

instance : Record TimeRangeFields where
  map f fields := ⟨f fields.start, f fields.end_⟩
  id_map _ := rfl
  comp_map _ _ _ := rfl
  map_const := rfl
  entries fields := [fields.start, fields.end_]
  entries_map _ _ := rfl

instance : Record ActivityFields where
  map f fields := fields.withTimes (f fields.effectiveAt) (f fields.ingestedAt)
  id_map _ := rfl
  comp_map _ _ _ := rfl
  map_const := rfl
  entries fields := [fields.effectiveAt, fields.ingestedAt]
  entries_map _ _ := rfl

instance : Record BrokerInstrumentMappingFields where
  map f fields := { fields with validFrom := f fields.validFrom, validTo := fields.validTo.map f }
  id_map _ := by simp
  comp_map _ _ _ := by simp
  map_const := rfl
  entries fields := fields.validFrom :: fields.validTo.toList
  entries_map _ fields := by cases fields.validTo <;> rfl

instance : Record DataQualityDraft where
  map f draft := { draft with
    observedAt := f draft.observedAt
    dataThrough := draft.dataThrough.map f
    coverage := draft.coverage.map (f <$> ·) }
  id_map _ := by simp
  comp_map _ _ _ := by
    simp only [Option.map_map]
    rfl
  map_const := rfl
  entries draft := draft.observedAt :: draft.dataThrough.toList ++ draft.coverage.toList.flatMap entries
  entries_map _ draft := by
    rcases draft with ⟨_, _, _, _ | _, _ | _, _, _⟩ <;> rfl

instance : Record ObservationDraft where
  map f draft := { draft with
    asOf := f draft.asOf
    ingestedAt := f draft.ingestedAt
    quality := f <$> draft.quality }
  id_map _ := by simp
  comp_map f g draft := by simp [comp_map]
  map_const := rfl
  entries draft := draft.asOf :: draft.ingestedAt :: entries draft.quality
  entries_map f draft := by rw [List.map_cons, List.map_cons, ← entries_map f draft.quality]

/-! ## The constructors are canonical -/

theorem timeRange_canonical : Canonical Datetime.instant? TimeRange.new TimeRange.toTimeRangeFields := by
  intro written range
  rw [TimeRange.new_eq_ok_iff, asUtc_eq_ok_iff_instant?, asUtc_eq_ok_iff_instant?]
  exact (TimeRangeFields.mk.injEq ..).symm ▸ Iff.rfl

theorem activity_canonical : Canonical Datetime.instant? Activity.new Activity.toActivityFields := by
  intro written activity
  rw [Activity.new_eq_ok_iff, asUtc_eq_ok_iff_instant?, asUtc_eq_ok_iff_instant?]
  constructor
  · rintro ⟨effective, ingested, same⟩
    change written.withTimes _ _ = activity.toActivityFields.withTimes _ _
    rw [effective, ingested, same]
    rfl
  · intro reads
    refine ⟨congrArg ActivityFields.effectiveAt reads, congrArg ActivityFields.ingestedAt reads, ?_⟩
    exact (congrArg (ActivityFields.withTimes · activity.effectiveAt activity.ingestedAt) reads).symm

theorem whenPresent_asUtc_iff {value : Option Datetime} {fieldName : String} {result : Option Instant} :
    whenPresent (asUtc · fieldName) value = .ok result ↔ value.map Datetime.instant? = result.map some :=
  whenPresent_eq_ok_iff fun _ _ => asUtc_eq_ok_iff_instant?

theorem brokerInstrumentMapping_canonical :
    Canonical Datetime.instant? BrokerInstrumentMapping.new BrokerInstrumentMapping.toBrokerInstrumentMappingFields := by
  intro written mapping
  rw [BrokerInstrumentMapping.new_eq_ok_iff, asUtc_eq_ok_iff_instant?, whenPresent_asUtc_iff]
  constructor
  · rintro ⟨first, last, same⟩
    change ({ written with validFrom := written.validFrom.instant?, validTo := written.validTo.map Datetime.instant? } :
      BrokerInstrumentMappingFields _) = _
    rw [first, last, same]
    rfl
  · intro reads
    refine ⟨congrArg BrokerInstrumentMappingFields.validFrom reads, congrArg BrokerInstrumentMappingFields.validTo reads, ?_⟩
    exact (congrArg (fun fields : BrokerInstrumentMappingFields _ =>
      { fields with validFrom := mapping.validFrom, validTo := mapping.validTo }) reads).symm

/-- The draft of a quality, as it keeps it. -/
def DataQuality.stored (quality : DataQuality) : DataQualityDraft Instant :=
  { quality with coverage := quality.coverage.map TimeRange.toTimeRangeFields }

theorem DataQuality.map_stored (quality : DataQuality) :
    (some <$> quality.stored : DataQualityDraft (Option Instant)) = { quality with
      observedAt := some quality.observedAt
      dataThrough := quality.dataThrough.map some
      coverage := quality.coverage.map fun range => some <$> range.toTimeRangeFields } := by
  change ({ quality with
    observedAt := some quality.observedAt
    dataThrough := quality.dataThrough.map some
    coverage := (quality.coverage.map TimeRange.toTimeRangeFields).map (some <$> ·) } : DataQualityDraft (Option Instant)) = _
  rw [Option.map_map]
  rfl

theorem dataQuality_canonical : Canonical Datetime.instant? DataQuality.build DataQuality.stored := by
  intro written quality
  rw [DataQuality.build, bind_eq_ok_iff, Reads, quality.map_stored]
  simp only [DataQuality.new_eq_ok_iff, asUtc_eq_ok_iff_instant?, whenPresent_asUtc_iff,
    whenPresent_eq_ok_iff timeRange_canonical]
  constructor
  · rintro ⟨coverage, covered, observed, through, same⟩
    cases congrArg DataQualityFields.coverage same
    change ({ written with
      observedAt := written.observedAt.instant?
      dataThrough := written.dataThrough.map Datetime.instant?
      coverage := written.coverage.map (Datetime.instant? <$> ·) } : DataQualityDraft _) = _
    rw [observed, through, covered, same]
  · intro reads
    refine ⟨quality.coverage, congrArg DataQualityFields.coverage reads, congrArg DataQualityFields.observedAt reads,
      congrArg DataQualityFields.dataThrough reads, ?_⟩
    exact (congrArg (fun fields : DataQualityDraft _ => ({ fields with
      observedAt := quality.observedAt
      dataThrough := quality.dataThrough
      coverage := quality.coverage } : DataQualityFields Instant TimeRange)) reads).symm

/-- The draft of an observation, as it keeps it. -/
def Observation.stored (observation : Observation) : ObservationDraft Instant :=
  { observation with quality := observation.quality.stored }

theorem observation_canonical : Canonical Datetime.instant? Observation.build Observation.stored := by
  intro written observation
  rw [Observation.build, bind_eq_ok_iff]
  simp only [Observation.new_eq_ok_iff, asUtc_eq_ok_iff_instant?, dataQuality_canonical _ _]
  constructor
  · rintro ⟨quality, kept, asOf, ingested, same⟩
    cases congrArg ObservationFields.quality same
    change ({ written with
      asOf := written.asOf.instant?
      ingestedAt := written.ingestedAt.instant?
      quality := Datetime.instant? <$> written.quality } : ObservationDraft _) = _
    rw [asOf, ingested, kept]
    exact (congrArg (fun fields : ObservationFields Instant DataQuality => ({ fields with
      asOf := some fields.asOf
      ingestedAt := some fields.ingestedAt
      quality := some <$> fields.quality.stored } : ObservationDraft (Option Instant))) same).symm
  · intro reads
    refine ⟨observation.quality, congrArg ObservationFields.quality reads, congrArg ObservationFields.asOf reads,
      congrArg ObservationFields.ingestedAt reads, ?_⟩
    exact (congrArg (fun fields : ObservationDraft _ => ({ fields with
      asOf := observation.asOf
      ingestedAt := observation.ingestedAt
      quality := observation.quality } : ObservationFields Instant DataQuality)) reads).symm

/-! ## Any zone, any offset -/

/-- What a constructor builds depends on the instants its times denote, and on nothing else of how zones write
them; what it keeps are these instants as UTC values, from which it builds the same object again. -/
structure DependsOnInstants {F : Type → Type} [Record F] {R : Type} (new : F Datetime → Except Builtin R)
    (stored : R → F Instant) : Prop where
  same : ∀ first second : F LocalTime, LocalTime.instant? <$> first = LocalTime.instant? <$> second →
    ∀ object, new (LocalTime.reading <$> first) = .ok object ↔ new (LocalTime.reading <$> second) = .ok object
  keeps : ∀ (written : F LocalTime) (object : R), new (LocalTime.reading <$> written) = .ok object →
    LocalTime.instant? <$> written = some <$> stored object
  utc : ∀ object, ∀ time ∈ entries (Instant.toLocal <$> stored object), time.utcoffset = some 0
  aware : ∀ (written : F LocalTime) (object : R), new (LocalTime.reading <$> written) = .ok object →
    ∀ time ∈ entries written, time.utcoffset ≠ none
  rebuild : ∀ object, new (LocalTime.reading <$> Instant.toLocal <$> stored object) = .ok object

theorem LocalTime.utcoffset_ne_none {time : LocalTime} (denotes : time.instant?.isSome = true) : time.utcoffset ≠ none := by
  intro naive
  have reading : time.reading.utcoffset = none := naive
  rw [LocalTime.instant?, Datetime.instant?, reading] at denotes
  contradiction

theorem DependsOnInstants.of_canonical {F : Type → Type} [Record F] {R : Type} {new : F Datetime → Except Builtin R}
    {stored : R → F Instant} (canonical : Canonical Datetime.instant? new stored) : DependsOnInstants new stored := by
  have local_ := canonical.comap LocalTime.reading
  refine ⟨fun first second alike object => local_.same alike, fun written object => (local_ written object).mp, ?_, ?_, ?_⟩
  · intro object time member
    rw [entries_map] at member
    obtain ⟨instant, _, rfl⟩ := List.mem_map.mp member
    rfl
  · intro written object accepted time member
    exact LocalTime.utcoffset_ne_none (local_.isSome accepted time member)
  · intro object
    have inverse (time : Instant) : time.toLocal.reading.instant? = some time := by
      rw [Instant.reading_toLocal, Instant.instant?_toDatetime]
    exact local_.rebuild inverse object

/-- A range is accepted exactly when its end is not before its start. -/
theorem TimeRange.exists_new_iff {fields : TimeRangeFields Datetime} {start end_ : Instant}
    (started : fields.start.instant? = some start) (ended : fields.end_.instant? = some end_) :
    (∃ range, TimeRange.new fields = .ok range) ↔ start ≤ end_ := by
  simp only [TimeRange.new_eq_ok_iff, asUtc_eq_ok_iff_instant?, started, ended, Option.some.injEq]
  constructor
  · rintro ⟨range, rfl, rfl⟩
    exact range.ordered
  · intro ordered
    exact ⟨⟨⟨start, end_⟩, ordered⟩, rfl, rfl⟩

/-- A mapping is accepted exactly when its end, if it has one, is not before its start. -/
theorem BrokerInstrumentMapping.exists_new_iff {fields : BrokerInstrumentMappingFields Datetime} {first : Instant}
    {last : Option Instant} (started : fields.validFrom.instant? = some first)
    (ended : fields.validTo.map Datetime.instant? = last.map some) :
    (∃ mapping, BrokerInstrumentMapping.new fields = .ok mapping) ↔ ∀ time ∈ last, first ≤ time := by
  have same {kept : Option Instant} : last.map some = kept.map some ↔ last = kept :=
    (Option.map_injective (Option.some_injective _)).eq_iff
  simp only [BrokerInstrumentMapping.new_eq_ok_iff, asUtc_eq_ok_iff_instant?, whenPresent_asUtc_iff, started, ended, same,
    Option.some.injEq]
  constructor
  · rintro ⟨mapping, rfl, rfl, _⟩
    exact mapping.ordered
  · intro ordered
    exact ⟨⟨{ fields with validFrom := first, validTo := last }, ordered⟩, rfl, rfl, rfl⟩

/-- An observation is accepted exactly when its quality is about the same instant. -/
theorem Observation.exists_new_iff {fields : ObservationFields Datetime DataQuality} {asOf ingestedAt : Instant}
    (observed : fields.asOf.instant? = some asOf) (ingested : fields.ingestedAt.instant? = some ingestedAt)
    (supersedesOther : fields.supersedesId ≠ some fields.id) :
    (∃ observation, Observation.new fields = .ok observation) ↔ fields.quality.observedAt = asOf := by
  simp only [Observation.new_eq_ok_iff, asUtc_eq_ok_iff_instant?, observed, ingested, Option.some.injEq]
  constructor
  · rintro ⟨observation, rfl, _, same⟩
    have about := observation.observed
    rwa [same] at about
  · intro about
    exact ⟨⟨{ fields with asOf, ingestedAt }, supersedesOther, about⟩, rfl, rfl, rfl⟩

/-- The five dated types depend on instants only, which the host's comparisons of UTC values compare as well; ranges
and mappings are accepted exactly when they do not end before they start, and observations exactly when they and
their qualities are about the same instant. -/
theorem dated_types_depend_on_instants :
    DependsOnInstants TimeRange.new TimeRange.toTimeRangeFields ∧
      DependsOnInstants BrokerInstrumentMapping.new BrokerInstrumentMapping.toBrokerInstrumentMappingFields ∧
      DependsOnInstants DataQuality.build DataQuality.stored ∧
      DependsOnInstants Observation.build Observation.stored ∧
      DependsOnInstants Activity.new Activity.toActivityFields ∧
      (∀ time other : Instant, (time.toLocal.Equals other.toLocal ↔ time = other) ∧
        (time.toLocal.Precedes other.toLocal ↔ time < other)) ∧
      (∀ (fields : TimeRangeFields Datetime) (start end_ : Instant), fields.start.instant? = some start →
        fields.end_.instant? = some end_ → ((∃ range, TimeRange.new fields = .ok range) ↔ start ≤ end_)) ∧
      (∀ (fields : BrokerInstrumentMappingFields Datetime) (first : Instant) (last : Option Instant),
        fields.validFrom.instant? = some first → fields.validTo.map Datetime.instant? = last.map some →
          ((∃ mapping, BrokerInstrumentMapping.new fields = .ok mapping) ↔ ∀ time ∈ last, first ≤ time)) ∧
      ∀ (fields : ObservationFields Datetime DataQuality) (asOf ingestedAt : Instant), fields.asOf.instant? = some asOf →
        fields.ingestedAt.instant? = some ingestedAt → fields.supersedesId ≠ some fields.id →
          ((∃ observation, Observation.new fields = .ok observation) ↔ fields.quality.observedAt = asOf) :=
  ⟨.of_canonical timeRange_canonical, .of_canonical brokerInstrumentMapping_canonical, .of_canonical dataQuality_canonical,
    .of_canonical observation_canonical, .of_canonical activity_canonical,
    fun _ _ => ⟨Instant.equals_toLocal_iff, Instant.precedes_toLocal_iff⟩,
    fun _ _ _ => TimeRange.exists_new_iff, fun _ _ _ => BrokerInstrumentMapping.exists_new_iff,
    fun _ _ _ => Observation.exists_new_iff⟩

end PortfolioManager.Domain
