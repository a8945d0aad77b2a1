import RunAtlas.Proofs.Json.Writing
import RunAtlas.Proofs.Record.Spelled

/-!
# Records are read as they are written

What is written for a run, a job or a file stands for it, has a text, and is read from this text as
it was.  The same holds of every text whose value stands for the record: the order of its members,
members that are no fields and left out defaults change nothing.
-/

namespace RunAtlas

open Json

/-! ## What is written has a text -/

theorem Json.renders_ofOptionalText (text : Option String) : Renders (ofOptionalText text) := by
  cases text with
  | none => exact renders_null
  | some text => exact renders_string text

theorem Json.renders_ofWord (word : UInt32) : Renders (ofWord word) := by
  apply renders_natCast
  have isWord := word.toNat_lt
  have greatest : greatestWord = 2 ^ 64 - 1 := rfl
  omega

theorem RepositoryRecord.renders_encode (repository : RepositoryRecord) :
    Renders repository.encode := by
  apply renders_object
  simp [renders_string]

theorem RunRecord.renders_encode (run : RunRecord) : Renders run.encode := by
  apply renders_object
  simp [renders_string, renders_ofWord, RepositoryRecord.renders_encode]

theorem StepRecord.renders_encode (step : StepRecord) : Renders step.encode := by
  apply renders_object
  simp [renders_string, renders_ofWord, renders_ofOptionalText]

theorem JobRecord.renders_encode (job : JobRecord) : Renders job.encode := by
  apply renders_object
  have steps : Renders (.array (job.steps.map StepRecord.encode)) := by
    apply renders_array
    simp [StepRecord.renders_encode]
  simp [renders_string, steps]

theorem Origin.renders_encode (origin : Origin) : Renders origin.encode := by
  apply renders_object
  simp [renders_string, renders_ofOptionalText]

theorem SourceFile.renders_encode (file : SourceFile) : Renders file.encode := by
  apply renders_object
  simp [renders_string, Origin.renders_encode]

/-! ## What is written stands for the record -/

theorem Json.areForeign_nil (known : List String) : AreForeign known [] :=
  List.forall_mem_nil _

theorem RepositoryRecord.spelled_encode (repository : RepositoryRecord) :
    repository.Spelled repository.encode :=
  .object (areForeign_nil _) (.refl _)

theorem RunRecord.spelled_encode (run : RunRecord) : run.Spelled run.encode :=
  .object run.repository.spelled_encode (.gives (List.mem_singleton_self _) rfl) (areForeign_nil _)
    (.refl _)

theorem StepRecord.spelled_encode (step : StepRecord) : step.Spelled step.encode :=
  .object (.gives (List.mem_singleton_self _) rfl) (areForeign_nil _) (.refl _)

theorem JobRecord.spelled_encode (job : JobRecord) : job.Spelled job.encode := by
  have steps : SpelledSteps job.steps (.array (job.steps.map StepRecord.encode)) := by
    refine .array ?_
    rw [List.forall₂_map_right_iff]
    exact List.forall₂_same.mpr fun step _ => step.spelled_encode
  exact .object (.gives (List.mem_singleton_self _) steps) (areForeign_nil _) (.refl _)

theorem Origin.spelled_encode (origin : Origin) : origin.Spelled origin.encode :=
  .object (.gives List.mem_cons_self rfl) (areForeign_nil _) (.refl _)

theorem SourceFile.spelled_encode (file : SourceFile) : file.Spelled file.encode :=
  .object file.origin.spelled_encode (areForeign_nil _) (.refl _)

/-! ## Texts -/

/-- Records of a kind survive in JSON: what is written for a record stands for it and is read from
its text as it was, and so is every value and every text that stands for the record. -/
structure SurvivesJson {ρ : Type} (encode : ρ → Json) (decode : Json → Except JsonFault ρ)
    (Spelled : ρ → Json → Prop) : Prop where
  spelled_encode : ∀ record, Spelled record (encode record)
  decode_of_spelled : ∀ {record : ρ} {value : Json}, Spelled record value →
    decode value = .ok record
  decode_written : ∀ record, ∃ text, (encode record).render? = some text ∧
    (Json.ofText (String.ofList text)).decode decode = .ok record
  decode_ofText : ∀ {record : ρ} {text : String} {value : Json},
    Json.ofText text = ⟨value, false⟩ → Spelled record value →
      (Json.ofText text).decode decode = .ok record

theorem survivesJson_of_spelled {ρ : Type} {encode : ρ → Json}
    {decode : Json → Except JsonFault ρ} {Spelled : ρ → Json → Prop}
    (renders : ∀ record, Renders (encode record))
    (spelled_encode : ∀ record, Spelled record (encode record))
    (decode_of_spelled : ∀ {record value}, Spelled record value → decode value = .ok record) :
    SurvivesJson encode decode Spelled := by
  have decode_ofText : ∀ {record : ρ} {text : String} {value : Json},
      Json.ofText text = ⟨value, false⟩ → Spelled record value →
        (Json.ofText text).decode decode = .ok record := by
    intro record text value isValue spelled
    rw [isValue, JsonText.decode, decode_of_spelled spelled]
    rfl
  refine ⟨spelled_encode, decode_of_spelled, fun record => ?_, decode_ofText⟩
  obtain ⟨text, isText⟩ := renders record
  exact ⟨text, isText, decode_ofText (ofText_render? isText) (spelled_encode record)⟩

/-- Runs, jobs and files survive in JSON. -/
theorem records_surviveJson :
    SurvivesJson RunRecord.encode RunRecord.decode RunRecord.Spelled ∧
      SurvivesJson JobRecord.encode JobRecord.decode JobRecord.Spelled ∧
      SurvivesJson SourceFile.encode SourceFile.decode SourceFile.Spelled :=
  ⟨survivesJson_of_spelled RunRecord.renders_encode RunRecord.spelled_encode
      RunRecord.decode_of_spelled,
    survivesJson_of_spelled JobRecord.renders_encode JobRecord.spelled_encode
      JobRecord.decode_of_spelled,
    survivesJson_of_spelled SourceFile.renders_encode SourceFile.spelled_encode
      SourceFile.decode_of_spelled⟩

/-! ## Members in reverse -/

/-- A run in reverse, among members that are no fields and without its attempt. -/
def reversedRun : Json :=
  .object
    [("id", .integer 42), ("head_sha", .string "abc123"),
      ("path", .string ".github/workflows/ci.yml"),
      ("repository", .object [("private", .boolean false), ("full_name", .string "octo/repo")])]

theorem spelled_reversedRun :
    RunRecord.Spelled ⟨⟨"octo/repo"⟩, ".github/workflows/ci.yml", "abc123", 1⟩ reversedRun := by
  have foreignInner : AreForeign RepositoryRecord.fieldNames [("private", .boolean false)] := by
    simp [AreForeign, RepositoryRecord.fieldNames, Json.intact]
  have repository : RepositoryRecord.Spelled ⟨"octo/repo"⟩
      (.object [("private", .boolean false), ("full_name", .string "octo/repo")]) :=
    .object foreignInner (List.reverse_perm [_, _])
  have foreign : AreForeign RunRecord.fieldNames [("id", .integer 42)] := by
    simp [AreForeign, RunRecord.fieldNames, Json.intact]
  exact .object repository (.omits rfl) foreign (List.reverse_perm [_, _, _, _])

/-- A job in reverse, whose one step has no conclusion. -/
def reversedJob : Json :=
  .object
    [("steps",
        .array
          [.object
            [("started_at", .unreadable), ("number", .integer 1), ("name", .string "Set up job")]]),
      ("name", .string "build")]

theorem spelled_reversedJob :
    JobRecord.Spelled ⟨"build", [⟨"Set up job", 1, none⟩]⟩ reversedJob := by
  have foreign : AreForeign StepRecord.fieldNames [("started_at", .unreadable)] := by
    simp [AreForeign, StepRecord.fieldNames, Json.intact]
  have step : StepRecord.Spelled ⟨"Set up job", 1, none⟩
      (.object
        [("started_at", .unreadable), ("number", .integer 1), ("name", .string "Set up job")]) :=
    .object (.omits rfl) foreign (List.reverse_perm [_, _, _])
  have steps := JobRecord.SpelledSteps.array (.cons step .nil)
  exact .object (.gives (List.mem_singleton_self _) steps) (areForeign_nil _)
    (List.reverse_perm [_, _])

/-- A file in reverse, whose web address goes by its other name. -/
def reversedFile : Json :=
  .object
    [("raw",
        .object
          [("size", .array [.null]), ("path", .string "ci.yml"),
            ("htmlUrl", .string "octo/repo/blob/abc123/ci.yml")]),
      ("content", .string "jobs:\n")]

theorem spelled_reversedFile :
    SourceFile.Spelled ⟨"jobs:\n", ⟨some "octo/repo/blob/abc123/ci.yml", "ci.yml"⟩⟩
      reversedFile := by
  have foreign : AreForeign Origin.fieldNames [("size", .array [.null])] := by
    simp [AreForeign, Origin.fieldNames, Json.intact, Json.itemsIntact]
  have origin : Origin.Spelled ⟨some "octo/repo/blob/abc123/ci.yml", "ci.yml"⟩
      (.object
        [("size", .array [.null]), ("path", .string "ci.yml"),
          ("htmlUrl", .string "octo/repo/blob/abc123/ci.yml")]) :=
    .object (.gives (by simp) rfl) foreign (List.reverse_perm [_, _, _])
  exact .object origin (areForeign_nil _) (List.reverse_perm [_, _])

/-- The records that stand in reverse are read. -/
theorem records_surviveJson_reversed :
    RunRecord.decode reversedRun =
        .ok ⟨⟨"octo/repo"⟩, ".github/workflows/ci.yml", "abc123", 1⟩ ∧
      JobRecord.decode reversedJob = .ok ⟨"build", [⟨"Set up job", 1, none⟩]⟩ ∧
      SourceFile.decode reversedFile =
        .ok ⟨"jobs:\n", ⟨some "octo/repo/blob/abc123/ci.yml", "ci.yml"⟩⟩ := by
  obtain ⟨runs, jobs, files⟩ := records_surviveJson
  exact ⟨runs.decode_of_spelled spelled_reversedRun, jobs.decode_of_spelled spelled_reversedJob,
    files.decode_of_spelled spelled_reversedFile⟩

end RunAtlas
