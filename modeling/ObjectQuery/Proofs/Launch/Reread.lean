import ObjectQuery.Proofs.Launch.Formats
import ObjectQuery.Proofs.Launch.Ranges

/-!
# Configurations, written and read again

The sections of a configuration are read back from their texts field by field. What was read once has counts
that fit their words, so an accepted configuration is accepted again, with the same values, wherever its
numbers are given back (`ofText_write_of_keeps`). A floor that is no number is given back by TOML; JSON shows
null in its place, which is refused (`reread_of_ofText`, `floor_lost`).
-/

namespace ObjectQuery

open WrittenValue

variable {format : ConfigFormat}

/-! ## Fields of sections -/

namespace WrittenValue

theorem required?_text (content : String) :
    required? text? (format.shown? (.text content)) = some content := by
  rw [ConfigFormat.shown?_text]
  rfl

theorem below?_natural {bound n : Nat} (fits : n < bound) : below? bound (.integer n) = some n :=
  if_pos ⟨Int.natCast_nonneg n, Int.ofNat_lt.mpr fits⟩

theorem withDefault?_bool (default truth : Bool) :
    withDefault? default bool? (format.shown? (.bool truth)) = some truth := by
  rw [ConfigFormat.shown?_bool]
  rfl

theorem withDefault?_single {x : Float32} (keeps : format.Keeps x) (default : Float32) :
    withDefault? default single? (format.shown? (.ofSingle x)) = some x := by
  rw [ConfigFormat.shown?_single keeps]
  exact congrArg some keeps.2

theorem withDefault?_texts (default contents : List String) :
    withDefault? default (list? text?) (format.shown? (.array (contents.map .text))) = some contents := by
  rw [ConfigFormat.shown?_texts]
  change (contents.map WrittenValue.text).mapM text? = _
  induction contents with
  | nil => rfl
  | cons content contents inductionHypothesis =>
      rw [List.map_cons, List.mapM_cons, inductionHypothesis]
      rfl

/-- What is missing or null is read as nothing. -/
theorem optional?_null {α : Type} (read : WrittenValue → Option α) :
    optional? read (format.shown? .null) = some none := by
  rw [ConfigFormat.shown?_null]
  cases format <;> rfl

theorem optional?_text (content : Option String) :
    optional? text? (format.shown? (.ofOption .text content)) = some content := by
  cases content with
  | none => exact optional?_null text?
  | some content =>
      rw [Json.ofOption, ConfigFormat.shown?_text]
      rfl

theorem optional?_below {bound : Nat} {count : Option Nat} (fits : ∀ n, count = some n → n < bound) :
    optional? (below? bound) (format.shown? (.ofOption (fun n : Nat => .integer n) count)) = some count := by
  cases count with
  | none => exact optional?_null _
  | some n =>
      rw [Json.ofOption, ConfigFormat.shown?_integer]
      change (below? bound (.integer n)).map some = _
      rw [below?_natural (fits n rfl)]
      rfl

end WrittenValue

/-! ## The detector and the output -/

namespace DetectorConfig

def members (config : DetectorConfig) : List (String × Json) :=
  [("name", .text config.name), ("path", .ofOption .text config.path),
    ("class_names", .array (config.classNames.map .text))]

theorem legible (format : ConfigFormat) (config : DetectorConfig) : format.LegibleMembers config.members := by
  refine ⟨show ∀ name ∈ fieldNames, Toml.IsKey name by decide, show fieldNames.Nodup by decide, ?_⟩
  simp only [members, List.forall_mem_cons, List.not_mem_nil, false_implies, implies_true, and_true]
  exact ⟨ConfigFormat.legible_text _, ConfigFormat.legible_ofOption fun _ _ => ConfigFormat.legible_text _,
    ConfigFormat.legible_texts _⟩

theorem read?_fields (format : ConfigFormat) (config : DetectorConfig) :
    read? format (format.shown config.members) = some config := by
  have fields := (config.legible format).fields? format.rules
  change fields? format.rules fieldNames _ = some [format.shown? (.text config.name),
    format.shown? (.ofOption .text config.path),
    format.shown? (.array (config.classNames.map .text))] at fields
  rw [read?, fields]
  dsimp only [Option.bind_eq_bind, Option.bind_some]
  rw [required?_text, optional?_text, withDefault?_texts]
  rfl

end DetectorConfig

namespace OutputConfig

def members (config : OutputConfig) : List (String × Json) :=
  [("mode", .text config.mode.name), ("save_path", .ofOption .text config.savePath),
    ("frame_vobj_num", .bool config.countsObjects), ("total_vobj_num", .bool config.countsTracks)]

theorem legible (format : ConfigFormat) (config : OutputConfig) : format.LegibleMembers config.members := by
  refine ⟨show ∀ name ∈ fieldNames, Toml.IsKey name by decide, show fieldNames.Nodup by decide, ?_⟩
  simp only [members, List.forall_mem_cons, List.not_mem_nil, false_implies, implies_true, and_true]
  exact ⟨ConfigFormat.legible_text _, ConfigFormat.legible_ofOption fun _ _ => ConfigFormat.legible_text _,
    ConfigFormat.legible_bool _, ConfigFormat.legible_bool _⟩

theorem read?_fields (format : ConfigFormat) (config : OutputConfig) :
    read? format (format.shown config.members) = some config := by
  have fields := (config.legible format).fields? format.rules
  change fields? format.rules fieldNames _ = some [format.shown? (.text config.mode.name),
    format.shown? (.ofOption .text config.savePath), format.shown? (.bool config.countsObjects),
    format.shown? (.bool config.countsTracks)] at fields
  have mode : withDefault? .matchesOnly (OutputMode.read? format) (format.shown? (.text config.mode.name)) =
      some config.mode := by
    rw [ConfigFormat.shown?_text]
    cases config.mode <;> rfl
  rw [read?, fields]
  dsimp only [Option.bind_eq_bind, Option.bind_some]
  rw [mode, optional?_text, withDefault?_bool, withDefault?_bool]
  rfl

end OutputConfig

/-! ## The tracker -/

namespace TrackerConfig

def members (config : TrackerConfig) : List (String × Json) := [
  ("track_thresh", .ofSingle config.trackThreshold),
  ("match_thresh", .ofSingle config.matchThreshold),
  ("det_thresh", .ofSingle config.newTrackThreshold),
  ("low_score_floor", .ofSingle config.lowScoreFloor),
  ("low_match_thresh", .ofSingle config.lowMatchThreshold),
  ("unconfirmed_match_thresh", .ofSingle config.tentativeMatchThreshold),
  ("dedup_iou_distance", .ofSingle config.duplicateDistance),
  ("max_time_lost", .ofOption (fun n : Nat => .integer n) config.maxTimeLost)]

/-- Whether a format gives the numbers of a tracker back, those that are numbers. -/
structure NumbersKept (format : ConfigFormat) (config : TrackerConfig) : Prop where
  thresholds : ∀ x ∈ config.thresholds, format.Keeps x
  floor : config.lowScoreFloor.isNaN = false → format.Keeps config.lowScoreFloor

instance (format : ConfigFormat) (config : TrackerConfig) : Decidable (config.NumbersKept format) :=
  decidable_of_iff ((∀ x ∈ config.thresholds, format.Keeps x) ∧
    (config.lowScoreFloor.isNaN = false → format.Keeps config.lowScoreFloor))
    ⟨fun ⟨thresholds, floor⟩ => ⟨thresholds, floor⟩, fun kept => ⟨kept.thresholds, kept.floor⟩⟩

/-- Whether the frames for which lost tracks are kept can be counted in a word. -/
def Fits (config : TrackerConfig) : Prop := ∀ count, config.maxTimeLost = some count → count < wordBound

variable {config : TrackerConfig}

theorem legible (kept : config.NumbersKept format) (fits : config.Fits) :
    format.LegibleMembers config.members := by
  have thresholds := kept.thresholds
  have long : wordBound ≤ longBound := by decide
  refine ⟨show ∀ name ∈ fieldNames, Toml.IsKey name by decide, show fieldNames.Nodup by decide, ?_⟩
  simp only [TrackerConfig.thresholds, members, List.forall_mem_cons, List.not_mem_nil, false_implies,
    implies_true, and_true] at thresholds ⊢
  obtain ⟨track, full, fresh, low, tentative, duplicate⟩ := thresholds
  have legible {x : Float32} (keeps : format.Keeps x) : format.Legible (.ofSingle x) :=
    ConfigFormat.legible_single fun _ => keeps
  refine ⟨legible track, legible full, legible fresh, ConfigFormat.legible_single kept.floor, legible low,
    legible tentative, legible duplicate, ConfigFormat.legible_ofOption fun count lost => ?_⟩
  exact ConfigFormat.legible_natural (Nat.lt_of_lt_of_le (fits count lost) long)

/-- What is read of a tracker, given what is read of its floor. -/
theorem read?_fields (kept : config.NumbersKept format) (fits : config.Fits) :
    read? format (format.shown config.members) =
      (withDefault? ({} : TrackerConfig).lowScoreFloor single?
          (format.shown? (.ofSingle config.lowScoreFloor))).map
        fun floor => { config with lowScoreFloor := floor } := by
  have fields := (legible kept fits).fields? format.rules
  change fields? format.rules fieldNames _ = some [format.shown? (.ofSingle config.trackThreshold),
    format.shown? (.ofSingle config.matchThreshold), format.shown? (.ofSingle config.newTrackThreshold),
    format.shown? (.ofSingle config.lowScoreFloor), format.shown? (.ofSingle config.lowMatchThreshold),
    format.shown? (.ofSingle config.tentativeMatchThreshold),
    format.shown? (.ofSingle config.duplicateDistance),
    format.shown? (.ofOption (fun n : Nat => .integer n) config.maxTimeLost)] at fields
  have thresholds := kept.thresholds
  simp only [TrackerConfig.thresholds, List.forall_mem_cons, List.not_mem_nil, false_implies, implies_true,
    and_true] at thresholds
  obtain ⟨track, full, fresh, low, tentative, duplicate⟩ := thresholds
  rw [read?, fields]
  dsimp only [Option.bind_eq_bind, Option.bind_some]
  rw [withDefault?_single track, withDefault?_single full, withDefault?_single fresh,
    withDefault?_single low, withDefault?_single tentative, withDefault?_single duplicate,
    optional?_below fits]
  dsimp only [Option.bind_some]
  cases withDefault? ({} : TrackerConfig).lowScoreFloor single?
    (format.shown? (.ofSingle config.lowScoreFloor)) <;> rfl

/-- The numbers that a format keeps are read back. -/
theorem read?_fields_of_keeps (kept : config.NumbersKept format) (fits : config.Fits)
    (floor : format.Keeps config.lowScoreFloor) :
    read? format (format.shown config.members) = some config := by
  rw [read?_fields kept fits, withDefault?_single floor]
  rfl

/-- JSON has no floor to be read where it is no number. -/
theorem read?_json_of_isNaN (kept : config.NumbersKept .json) (fits : config.Fits)
    (unordered : config.lowScoreFloor.isNaN = true) :
    read? .json (ConfigFormat.json.shown config.members) = none := by
  rw [read?_fields kept fits, ConfigFormat.shown?_single_of_isNaN unordered]
  rfl

end TrackerConfig

/-! ## The video -/

namespace VideoConfig

def members : VideoConfig → List (String × Json)
  | .imageDir path fps => [(kindName, .text "image_dir"), ("path", .text path), ("fps", .real fps)]
  | .blank metadata =>
    [(kindName, .text "blank"), ("fps", .real metadata.fps), ("frame_width", .integer metadata.frameWidth),
      ("frame_height", .integer metadata.frameHeight), ("n_frames", .integer metadata.frameCount)]

/-- Whether the counts of a video fit their words. -/
def Fits (config : VideoConfig) : Prop :=
  ∀ metadata, config = .blank metadata → metadata.frameWidth < wordBound ∧
    metadata.frameHeight < wordBound ∧ metadata.frameCount < longBound

variable {config : VideoConfig}

theorem legible (rate : format.ReadsBack config.fps) (fits : config.Fits) :
    format.LegibleMembers config.members := by
  have real := ConfigFormat.legible_real rate
  have long : wordBound ≤ longBound := by decide
  cases config with
  | imageDir path fps =>
      refine ⟨show ∀ name ∈ [kindName, "path", "fps"], Toml.IsKey name by decide,
        show [kindName, "path", "fps"].Nodup by decide, ?_⟩
      simp only [members, List.forall_mem_cons, List.not_mem_nil, false_implies, implies_true, and_true]
      exact ⟨ConfigFormat.legible_text _, ConfigFormat.legible_text _, real⟩
  | blank metadata =>
      obtain ⟨width, height, count⟩ := fits metadata rfl
      refine ⟨show ∀ name ∈ kindName :: blankFields, Toml.IsKey name by decide,
        show (kindName :: blankFields).Nodup by decide, ?_⟩
      simp only [members, List.forall_mem_cons, List.not_mem_nil, false_implies, implies_true, and_true]
      exact ⟨ConfigFormat.legible_text _, real, ConfigFormat.legible_natural (width.trans_le long),
        ConfigFormat.legible_natural (height.trans_le long), ConfigFormat.legible_natural count⟩

/-- A source that names its kind first is read by the parts of the kind. -/
theorem read?_of_kind {kind : String} {parts : List (String × WrittenValue)}
    (readable : (json? (.object ((kindName, .text kind) :: parts))).isSome)
    (others : ∀ member ∈ parts, member.1 ≠ kindName) :
    read? (.object ((kindName, .text kind) :: parts)) = ofParts? kind (.object parts) := by
  obtain ⟨value, readable⟩ := Option.isSome_iff_exists.mp readable
  have kinds : parts.filter (fun member => member.1 = kindName) = [] :=
    List.filter_eq_nil_iff.mpr fun member listed same => others member listed (of_decide_eq_true same)
  have rest : parts.filter (fun member => member.1 ≠ kindName) = parts :=
    List.filter_eq_self.mpr fun member listed => decide_eq_true (others member listed)
  rw [read?, readable]
  dsimp only [Option.bind_eq_bind, Option.bind_some]
  rw [List.filter_cons_of_pos (by simp), List.filter_cons_of_neg (by simp), kinds, rest]
  rfl

theorem read?_fields (rate : format.ReadsBack config.fps) (fits : config.Fits) :
    read? (format.shown config.members) = some config := by
  have real : format.shown? (.real config.fps) = some (.real config.fps) := ConfigFormat.shown?_real rate
  cases config with
  | imageDir path fps =>
      have shown : format.shown (members (.imageDir path fps)) =
          .object [(kindName, .text "image_dir"), ("path", .text path), ("fps", .real fps)] := by
        simp only [members, ConfigFormat.shown, ConfigFormat.fields, List.map_cons, List.map_nil,
          ConfigFormat.shown?_text]
        rw [show format.shown? (.real fps) = some (.real fps) from real]
        rfl
      rw [shown, read?_of_kind (by simp [json?, jsonMembers?]) (by simp [kindName])]
      rfl
  | blank metadata =>
      obtain ⟨width, height, count⟩ := fits metadata rfl
      have long : wordBound ≤ longBound := by decide
      have shown : format.shown (members (.blank metadata)) =
          .object [(kindName, .text "blank"), ("fps", .real metadata.fps),
            ("frame_width", .integer metadata.frameWidth), ("frame_height", .integer metadata.frameHeight),
            ("n_frames", .integer metadata.frameCount)] := by
        simp only [members, ConfigFormat.shown, ConfigFormat.fields, List.map_cons, List.map_nil,
          ConfigFormat.shown?_text, ConfigFormat.shown?_integer]
        rw [show format.shown? (.real metadata.fps) = some (.real metadata.fps) from real]
        rfl
      have words := And.intro (Json.isWord_of_lt (width.trans_le long))
        (And.intro (Json.isWord_of_lt (height.trans_le long)) (Json.isWord_of_lt count))
      rw [shown, read?_of_kind (by simp [json?, jsonMembers?, words]) (by simp [kindName])]
      have fields : fields? .strict blankFields (.object [("fps", .real metadata.fps),
          ("frame_width", .integer metadata.frameWidth), ("frame_height", .integer metadata.frameHeight),
          ("n_frames", .integer metadata.frameCount)]) =
            some [some (.real metadata.fps), some (.integer metadata.frameWidth),
              some (.integer metadata.frameHeight), some (.integer metadata.frameCount)] := rfl
      have number {bound n : Nat} (small : n < bound) :
          required? (below? bound) (some (.integer n)) = some n := below?_natural small
      rw [ofParts?, if_neg (by decide), if_pos rfl, fields, Option.bind_eq_bind, Option.bind_some]
      dsimp only
      rw [number width, number height, number count]
      rfl

end VideoConfig

/-! ## What is read fits -/

namespace WrittenValue

theorem lt_of_below? {bound n : Nat} {value : WrittenValue} (read : below? bound value = some n) :
    n < bound := by
  cases value with
  | integer m =>
      rw [below?] at read
      split at read
      · rename_i within
        obtain rfl := Option.some.inj read
        omega
      · exact absurd read (by simp)
  | _ => exact absurd read (by simp [below?])

theorem lt_of_required? {bound n : Nat} {field : Option WrittenValue}
    (read : required? (below? bound) field = some n) : n < bound := by
  obtain ⟨value, _, read⟩ := Option.bind_eq_some_iff.mp read
  exact lt_of_below? read

theorem lt_of_optional? {bound n : Nat} {field : Option WrittenValue}
    (read : optional? (below? bound) field = some (some n)) : n < bound := by
  unfold optional? at read
  split at read
  · exact absurd read (by simp)
  · exact absurd read (by simp)
  · obtain ⟨m, found, same⟩ := Option.map_eq_some_iff.mp read
    obtain rfl := Option.some.inj same
    exact lt_of_below? found

end WrittenValue

theorem VideoConfig.fits_of_ofParts? {kind : String} {parts : WrittenValue} {config : VideoConfig}
    (read : ofParts? kind parts = some config) : config.Fits := by
  rintro metadata rfl
  unfold ofParts? at read
  split at read
  · obtain ⟨fields, _, read⟩ := Option.bind_eq_some_iff.mp read
    split at read
    · obtain ⟨path, _, read⟩ := Option.bind_eq_some_iff.mp read
      obtain ⟨fps, _, read⟩ := Option.bind_eq_some_iff.mp read
      exact VideoConfig.noConfusion (Option.some.inj read)
    · exact absurd read (by simp)
  split at read
  · obtain ⟨fields, _, read⟩ := Option.bind_eq_some_iff.mp read
    split at read
    · obtain ⟨fps, _, read⟩ := Option.bind_eq_some_iff.mp read
      obtain ⟨width, readWidth, read⟩ := Option.bind_eq_some_iff.mp read
      obtain ⟨height, readHeight, read⟩ := Option.bind_eq_some_iff.mp read
      obtain ⟨count, readCount, read⟩ := Option.bind_eq_some_iff.mp read
      obtain rfl := VideoConfig.blank.inj (Option.some.inj read)
      exact ⟨lt_of_required? readWidth, lt_of_required? readHeight, lt_of_required? readCount⟩
    · exact absurd read (by simp)
  · exact absurd read (by simp)

theorem VideoConfig.fits_of_read? {value : WrittenValue} {config : VideoConfig}
    (read : read? value = some config) : config.Fits := by
  obtain ⟨_, _, read⟩ := Option.bind_eq_some_iff.mp read
  split at read
  · split at read
    · exact fits_of_ofParts? read
    · exact absurd read (by simp)
  · exact fits_of_ofParts? read
  · exact absurd read (by simp)

theorem TrackerConfig.fits_of_read? {value : WrittenValue} {config : TrackerConfig}
    (read : read? format value = some config) : config.Fits := by
  obtain ⟨fields, _, read⟩ := Option.bind_eq_some_iff.mp read
  dsimp only at read
  split at read
  · obtain ⟨track, _, read⟩ := Option.bind_eq_some_iff.mp read
    obtain ⟨full, _, read⟩ := Option.bind_eq_some_iff.mp read
    obtain ⟨fresh, _, read⟩ := Option.bind_eq_some_iff.mp read
    obtain ⟨floor, _, read⟩ := Option.bind_eq_some_iff.mp read
    obtain ⟨low, _, read⟩ := Option.bind_eq_some_iff.mp read
    obtain ⟨tentative, _, read⟩ := Option.bind_eq_some_iff.mp read
    obtain ⟨duplicate, _, read⟩ := Option.bind_eq_some_iff.mp read
    obtain ⟨lost, readLost, read⟩ := Option.bind_eq_some_iff.mp read
    obtain rfl := Option.some.inj read
    rintro count rfl
    exact lt_of_optional? readLost
  · exact absurd read (by simp)

theorem TrackerConfig.fits_of_withDefault? {field : Option WrittenValue} {config : TrackerConfig}
    (read : withDefault? {} (read? format) field = some config) : config.Fits := by
  cases field with
  | none =>
      obtain rfl := Option.some.inj read
      exact fun count lost => absurd lost (by simp)
  | some value => exact fits_of_read? read

/-! ## The whole -/

namespace LaunchConfig

/-- The members of the sections. -/
def parts (config : LaunchConfig) : List (String × List (String × Json)) :=
  [("video", config.video.members), ("detector", config.detector.members),
    ("tracker", config.tracker.members), ("output", config.output.members)]

theorem sections_eq (config : LaunchConfig) :
    config.sections = config.parts.map fun (name, members) => (name, .object members) := by
  obtain ⟨video, detector, tracker, output⟩ := config
  cases video <;> rfl

/-- Whether the counts of a configuration fit their words. -/
structure Fits (config : LaunchConfig) : Prop where
  video : config.video.Fits
  tracker : config.tracker.Fits

/-- Whether a format gives the numbers of a configuration back, those that are numbers. -/
structure NumbersKept (format : ConfigFormat) (config : LaunchConfig) : Prop where
  rate : format.ReadsBack config.video.fps
  tracker : config.tracker.NumbersKept format

instance (format : ConfigFormat) (config : LaunchConfig) : Decidable (config.NumbersKept format) :=
  decidable_of_iff (format.ReadsBack config.video.fps ∧ config.tracker.NumbersKept format)
    ⟨fun ⟨rate, tracker⟩ => ⟨rate, tracker⟩, fun kept => ⟨kept.rate, kept.tracker⟩⟩

variable {config : LaunchConfig}

theorem fits_of_read? {value : WrittenValue} (read : read? format value = some config) : config.Fits := by
  obtain ⟨fields, _, read⟩ := Option.bind_eq_some_iff.mp read
  split at read
  · obtain ⟨video, readVideo, read⟩ := Option.bind_eq_some_iff.mp read
    obtain ⟨detector, _, read⟩ := Option.bind_eq_some_iff.mp read
    obtain ⟨tracker, readTracker, read⟩ := Option.bind_eq_some_iff.mp read
    obtain ⟨output, _, read⟩ := Option.bind_eq_some_iff.mp read
    obtain rfl := Option.some.inj read
    obtain ⟨_, _, readVideo⟩ := Option.bind_eq_some_iff.mp readVideo
    exact ⟨VideoConfig.fits_of_read? readVideo, TrackerConfig.fits_of_withDefault? readTracker⟩
  · exact absurd read (by simp)

/-- What is read of a written configuration, given what is read of its tracker. -/
theorem read?_write (kept : config.NumbersKept format) (fits : config.Fits) :
    format.read? (config.write format) >>= read? format =
      (TrackerConfig.read? format (format.shown config.tracker.members)).map
        fun tracker => { config with tracker := tracker } := by
  have video := VideoConfig.legible kept.rate fits.video
  have tracker := TrackerConfig.legible kept.tracker fits.tracker
  have key : ∀ name ∈ sectionNames, Toml.IsKey name := by decide
  have legible : ∀ part ∈ config.parts, format.LegibleMembers part.2 := by
    simp only [parts, List.forall_mem_cons, List.not_mem_nil, false_implies, implies_true, and_true]
    exact ⟨video, config.detector.legible format, tracker, config.output.legible format⟩
  have written := @ConfigFormat.read?_write format config.parts
    (fun part listed =>
      key part.1 (show part.1 ∈ config.parts.map Prod.fst from List.mem_map_of_mem listed))
    (show sectionNames.Nodup by decide) legible
  have fields : fields? format.rules sectionNames
      (.object (config.parts.map fun (name, members) => (name, format.shown members))) =
        some [some (format.shown config.video.members), some (format.shown config.detector.members),
          some (format.shown config.tracker.members), some (format.shown config.output.members)] :=
    @fields?_present [("video", some (format.shown config.video.members)),
      ("detector", some (format.shown config.detector.members)),
      ("tracker", some (format.shown config.tracker.members)),
      ("output", some (format.shown config.output.members))] (show sectionNames.Nodup by decide) format.rules
  have readVideo : required? VideoConfig.read? (some (format.shown config.video.members)) =
      some config.video := VideoConfig.read?_fields kept.rate fits.video
  have readDetector : required? (DetectorConfig.read? format) (some (format.shown config.detector.members)) =
      some config.detector := config.detector.read?_fields format
  have readOutput : withDefault? {} (OutputConfig.read? format) (some (format.shown config.output.members)) =
      some config.output := config.output.read?_fields format
  rw [write, sections_eq, written, Option.bind_eq_bind, Option.bind_some, read?, fields, Option.bind_eq_bind,
    Option.bind_some]
  dsimp only
  rw [readVideo, readDetector, readOutput]
  change (TrackerConfig.read? format (format.shown config.tracker.members)).bind _ = _
  cases TrackerConfig.read? format (format.shown config.tracker.members) <;> rfl

theorem ofText_write_of_keeps (kept : config.NumbersKept format) (fits : config.Fits)
    (inRange : config.InRange) (floor : format.Keeps config.tracker.lowScoreFloor) :
    ofText format (config.write format) = .ok config := by
  have read := read?_write kept fits
  rw [TrackerConfig.read?_fields_of_keeps kept.tracker fits.tracker floor] at read
  exact ofText_eq_ok_iff.mpr ⟨read, inRange⟩

/-- What JSON shows of a floor that is no number is refused. -/
theorem ofText_json_of_isNaN (kept : config.NumbersKept .json) (fits : config.Fits)
    (unordered : config.tracker.lowScoreFloor.isNaN = true) :
    ofText .json (config.write .json) =
      .error (.configParse "JSON parse error: not a launch configuration") := by
  have read := read?_write kept fits
  rw [TrackerConfig.read?_json_of_isNaN kept.tracker fits.tracker unordered] at read
  rw [ofText, read]
  rfl

/-- An accepted configuration is written to a format that gives its numbers back, and read again with the same
values, but that JSON with a floor that is no number is refused. -/
theorem reread_of_ofText {source : ConfigFormat} {text : String} (accepted : ofText source text = .ok config)
    (kept : config.NumbersKept format) :
    (format = .toml ∨ config.tracker.lowScoreFloor.isNaN = false →
        ofText format (config.write format) = .ok config) ∧
      (format = .json → config.tracker.lowScoreFloor.isNaN = true →
        ofText format (config.write format) =
          .error (.configParse "JSON parse error: not a launch configuration")) := by
  obtain ⟨read, inRange⟩ := ofText_eq_ok_iff.mp accepted
  obtain ⟨value, _, read⟩ := Option.bind_eq_some_iff.mp read
  have fits := fits_of_read? read
  constructor
  · intro given
    refine ofText_write_of_keeps kept fits inRange ?_
    cases unordered : config.tracker.lowScoreFloor.isNaN with
    | false => exact kept.tracker.floor unordered
    | true =>
        obtain rfl := given.resolve_right fun number => absurd (number.symm.trans unordered) Bool.false_ne_true
        exact ConfigFormat.keeps_of_isNaN unordered
  · rintro rfl unordered
    exact ofText_json_of_isNaN kept fits unordered

theorem reread_of_ofText_written : ∃ config, ofText .toml (written "0.25") = .ok config ∧
    (∀ format, config.NumbersKept format) ∧ ofText .toml (config.write .toml) = .ok config ∧
      ofText .json (config.write .json) = .ok config := by
  have evaluated : (ofText .toml (written "0.25")).toOption.map (fun config =>
      (decide (config.NumbersKept .toml), decide (config.NumbersKept .json),
        config.tracker.lowScoreFloor.isNaN)) = some (true, true, false) := by decide +kernel
  obtain ⟨config, found, same⟩ := Option.map_eq_some_iff.mp evaluated
  obtain ⟨toml, json, number⟩ : _ ∧ _ ∧ _ := by simpa only [Prod.mk.injEq] using same
  have accepted := eq_ok_of_toOption found
  have kept : ∀ format, config.NumbersKept format
    | .toml => of_decide_eq_true toml
    | .json => of_decide_eq_true json
  exact ⟨config, accepted, kept, (reread_of_ofText accepted (kept .toml)).1 (.inr number),
    (reread_of_ofText accepted (kept .json)).1 (.inr number)⟩

/-- A floor that is no number is accepted from TOML, and lost in JSON. -/
theorem floor_lost : ∃ config, ofText .toml (written "nan") = .ok config ∧
    ofText .json (config.write .json) =
      .error (.configParse "JSON parse error: not a launch configuration") := by
  have evaluated : (ofText .toml (written "nan")).toOption.map (fun config =>
      (decide (config.NumbersKept .json), config.tracker.lowScoreFloor.isNaN)) = some (true, true) := by
    decide +kernel
  obtain ⟨config, found, same⟩ := Option.map_eq_some_iff.mp evaluated
  obtain ⟨json, unordered⟩ : _ ∧ _ := by simpa only [Prod.mk.injEq] using same
  have accepted := eq_ok_of_toOption found
  obtain ⟨read, _⟩ := ofText_eq_ok_iff.mp accepted
  obtain ⟨value, _, read⟩ := Option.bind_eq_some_iff.mp read
  exact ⟨config, accepted, ofText_json_of_isNaN (of_decide_eq_true json) (fits_of_read? read) unordered⟩

end LaunchConfig

end ObjectQuery
