import Mathlib.Data.List.Forall2
import RunAtlas.Proofs.Record.Slots
import RunAtlas.Record.Decode
import RunAtlas.Record.Encode

/-!
# What stands for a record

An object stands for a record if its members are those of the record's fields, in any order and
among others that are none of its fields.  A field that has a default may be left out where it has
this value, and the web address of a file goes by either of its names.  Whatever stands for a record
is read as this record.
-/

namespace RunAtlas

open Json

namespace Json

/-- The members of a field that may be left out: one under a name of the field, or none where this
stands for the same. -/
inductive GivesOrOmits (names : List String) (isValue : Json → Prop) (isDefault : Prop) :
    List (String × Json) → Prop
  | gives {name : String} {value : Json} (isName : name ∈ names) (given : isValue value) :
      GivesOrOmits names isValue isDefault [(name, value)]
  | omits (default : isDefault) : GivesOrOmits names isValue isDefault []

end Json

/-! ## Objects that stand for records -/

namespace RepositoryRecord

/-- The names of the fields of a repository. -/
def fieldNames : List String :=
  ["full_name"]

/-- The objects that stand for a repository. -/
inductive Spelled (repository : RepositoryRecord) : Json → Prop
  | object {members further : List (String × Json)}
      (foreign : AreForeign fieldNames further)
      (reordered : members.Perm ([("full_name", .string repository.fullName)] ++ further)) :
      repository.Spelled (.object members)

end RepositoryRecord

namespace RunRecord

/-- The names of the fields of a run. -/
def fieldNames : List String :=
  ["repository", "path", "head_sha", "run_attempt"]

/-- The objects that stand for a run. -/
inductive Spelled (run : RunRecord) : Json → Prop
  | object {members attempt further : List (String × Json)} {repository : Json}
      (isRepository : run.repository.Spelled repository)
      (isAttempt : GivesOrOmits ["run_attempt"] (· = .ofWord run.runAttempt)
        (run.runAttempt = firstAttempt) attempt)
      (foreign : AreForeign fieldNames further)
      (reordered : members.Perm
        ([("repository", repository), ("path", .string run.path),
          ("head_sha", .string run.headSha)] ++ attempt ++ further)) :
      run.Spelled (.object members)

end RunRecord

namespace StepRecord

/-- The names of the fields of a step. -/
def fieldNames : List String :=
  ["name", "number", "conclusion"]

/-- The objects that stand for a step. -/
inductive Spelled (step : StepRecord) : Json → Prop
  | object {members conclusion further : List (String × Json)}
      (isConclusion : GivesOrOmits ["conclusion"] (· = .ofOptionalText step.conclusion)
        (step.conclusion = none) conclusion)
      (foreign : AreForeign fieldNames further)
      (reordered : members.Perm
        ([("name", .string step.name), ("number", .ofWord step.number)] ++ conclusion ++ further)) :
      step.Spelled (.object members)

end StepRecord

namespace JobRecord

/-- The names of the fields of a job. -/
def fieldNames : List String :=
  ["name", "steps"]

/-- The arrays that stand for the steps of a job. -/
inductive SpelledSteps (steps : List StepRecord) : Json → Prop
  | array {items : List Json} (areSteps : List.Forall₂ StepRecord.Spelled steps items) :
      SpelledSteps steps (.array items)

/-- The objects that stand for a job. -/
inductive Spelled (job : JobRecord) : Json → Prop
  | object {members steps further : List (String × Json)}
      (areSteps : GivesOrOmits ["steps"] (SpelledSteps job.steps) (job.steps = []) steps)
      (foreign : AreForeign fieldNames further)
      (reordered : members.Perm ([("name", .string job.name)] ++ steps ++ further)) :
      job.Spelled (.object members)

end JobRecord

namespace Origin

/-- The names of the fields of an origin, of which the web address has two. -/
def fieldNames : List String :=
  ["html_url", "htmlUrl", "path"]

/-- The objects that stand for an origin. -/
inductive Spelled (origin : Origin) : Json → Prop
  | object {members htmlUrl further : List (String × Json)}
      (isHtmlUrl : GivesOrOmits ["html_url", "htmlUrl"] (· = .ofOptionalText origin.htmlUrl)
        (origin.htmlUrl = none) htmlUrl)
      (foreign : AreForeign fieldNames further)
      (reordered : members.Perm (htmlUrl ++ [("path", .string origin.path)] ++ further)) :
      origin.Spelled (.object members)

end Origin

namespace SourceFile

/-- The names of the fields of a file. -/
def fieldNames : List String :=
  ["content", "raw"]

/-- The objects that stand for a file. -/
inductive Spelled (file : SourceFile) : Json → Prop
  | object {members further : List (String × Json)} {origin : Json}
      (isOrigin : file.origin.Spelled origin)
      (foreign : AreForeign fieldNames further)
      (reordered : members.Perm ([("content", .string file.content), ("raw", origin)] ++ further)) :
      file.Spelled (.object members)

end SourceFile

/-! ## They are read as these records -/

section Readers

variable {α : Type}

@[simp]
theorem Json.toText_string (text : String) : (Json.string text).toText = .ok text :=
  rfl

@[simp]
theorem Json.fill_empty (name : String) (content : α) :
    fill name none (.ok content) = .ok (some content) :=
  rfl

@[simp]
theorem Json.require_some (name : String) (content : α) :
    require name (some content) = .ok content :=
  rfl

theorem Json.toWord_ofWord (word : UInt32) : (Json.ofWord word).toWord = .ok word := by
  have small : 0 ≤ (word.toNat : Int) ∧ (word.toNat : Int) < Nat.pow 2 32 :=
    ⟨Int.natCast_nonneg _, by exact_mod_cast word.toNat_lt⟩
  rw [ofWord, toWord, if_pos small, Int.toNat_natCast, UInt32.ofNat_toNat]

theorem Json.toOptionalText_ofOptionalText (text : Option String) :
    (Json.ofOptionalText text).toOptionalText = .ok text := by
  cases text <;> rfl

/-- Items that are read one by one are read together. -/
theorem Json.readAll_of_forall₂ {read : Json → Except JsonFault α} {contents : List α}
    {items : List Json} (reads : List.Forall₂ (fun content item => read item = .ok content)
      contents items) : readAll read items = .ok contents := by
  induction reads with
  | nil => rfl
  | cons readFirst _ readRest =>
      simp only [readAll, Except.bind_eq_ok_iff, Except.pure_eq_ok_iff]
      exact ⟨_, readFirst, _, readRest, rfl⟩

end Readers

namespace RepositoryRecord

/-- The slots of a repository. -/
def slots : List (Slot (Option String)) :=
  [.named "full_name" Json.toText id fun _ slot => slot]

theorem takeMember_eq : takeMember = takeInto slots := by
  funext draft ⟨name, value⟩
  simp only [takeMember, takeInto, slots, Slot.named, List.find?_cons, List.find?_nil]
  split_ifs <;> simp_all

theorem readsSlots : ReadsSlots ofMembers slots where
  independent :=
    { get_set := by simp [slots, Slot.named]
      pairwise := by simp [slots] }
  ofMembers_eq :=
    ⟨none, fun fullName => return ⟨← require "full_name" fullName⟩, fun members => by
      rw [ofMembers, takeMember_eq]⟩

/-- What stands for a repository is read as this repository. -/
theorem decode_of_spelled {repository : RepositoryRecord} {value : Json}
    (spelled : repository.Spelled value) : decode value = .ok repository := by
  cases spelled with
  | object foreign reordered =>
      have given : ofMembers [("full_name", .string repository.fullName)] = .ok repository := rfl
      exact readsSlots.ofMembers_of_given given foreign reordered

end RepositoryRecord

namespace RunRecord

/-- The slots of a run. -/
def slots : List (Slot Draft) :=
  [.named "repository" RepositoryRecord.decode Draft.repository
      fun draft slot => { draft with repository := slot },
    .named "path" Json.toText Draft.path fun draft slot => { draft with path := slot },
    .named "head_sha" Json.toText Draft.headSha fun draft slot => { draft with headSha := slot },
    .named "run_attempt" Json.toWord Draft.runAttempt
      fun draft slot => { draft with runAttempt := slot }]

theorem takeMember_eq : takeMember = takeInto slots := by
  funext draft ⟨name, value⟩
  simp only [takeMember, takeInto, slots, Slot.named, List.find?_cons, List.find?_nil]
  split_ifs <;> simp_all

theorem readsSlots : ReadsSlots ofMembers slots where
  independent :=
    { get_set := by simp [slots, Slot.named]
      pairwise := by simp [slots, Slot.named, Slot.isApart_iff] }
  ofMembers_eq :=
    ⟨⟨none, none, none, none⟩, ofDraft, fun members => by rw [ofMembers, takeMember_eq]⟩

/-- What stands for a run is read as this run. -/
theorem decode_of_spelled {run : RunRecord} {value : Json} (spelled : run.Spelled value) :
    decode value = .ok run := by
  cases spelled with
  | @object members attempt further repository isRepository isAttempt foreign reordered =>
      have given : ofMembers
          ([("repository", repository), ("path", .string run.path),
            ("head_sha", .string run.headSha)] ++ attempt) = .ok run := by
        have readRepository := RepositoryRecord.decode_of_spelled isRepository
        cases isAttempt with
        | @gives name value isName isValue =>
            obtain rfl := List.mem_singleton.mp isName
            have readAttempt : value.toWord = .ok run.runAttempt := isValue ▸ Json.toWord_ofWord _
            simp [ofMembers, takeMember, ofDraft, readRepository, readAttempt, bind, Except.bind,
              pure, Except.pure]
        | omits isFirst =>
            simp [ofMembers, takeMember, ofDraft, readRepository, ← isFirst, bind, Except.bind,
              pure, Except.pure]
      exact readsSlots.ofMembers_of_given given foreign reordered

end RunRecord

namespace StepRecord

/-- The slots of a step. -/
def slots : List (Slot Draft) :=
  [.named "name" Json.toText Draft.name fun draft slot => { draft with name := slot },
    .named "number" Json.toWord Draft.number fun draft slot => { draft with number := slot },
    .named "conclusion" Json.toOptionalText Draft.conclusion
      fun draft slot => { draft with conclusion := slot }]

theorem takeMember_eq : takeMember = takeInto slots := by
  funext draft ⟨name, value⟩
  simp only [takeMember, takeInto, slots, Slot.named, List.find?_cons, List.find?_nil]
  split_ifs <;> simp_all

theorem readsSlots : ReadsSlots ofMembers slots where
  independent :=
    { get_set := by simp [slots, Slot.named]
      pairwise := by simp [slots, Slot.named, Slot.isApart_iff] }
  ofMembers_eq := ⟨⟨none, none, none⟩, ofDraft, fun members => by rw [ofMembers, takeMember_eq]⟩

/-- What stands for a step is read as this step. -/
theorem decode_of_spelled {step : StepRecord} {value : Json} (spelled : step.Spelled value) :
    decode value = .ok step := by
  cases spelled with
  | @object members conclusion further isConclusion foreign reordered =>
      have given {number : Json} (readNumber : number.toWord = .ok step.number) :
          ofMembers ([("name", .string step.name), ("number", number)] ++ conclusion) =
            .ok step := by
        cases isConclusion with
        | @gives name value isName isValue =>
            obtain rfl := List.mem_singleton.mp isName
            have readConclusion : value.toOptionalText = .ok step.conclusion :=
              isValue ▸ Json.toOptionalText_ofOptionalText _
            simp [ofMembers, takeMember, ofDraft, readNumber, readConclusion, bind, Except.bind,
              pure, Except.pure]
        | omits isNone =>
            have isStep : step = ⟨step.name, step.number, none⟩ := by rw [← isNone]
            rw [isStep]
            simp [ofMembers, takeMember, ofDraft, readNumber, bind, Except.bind, pure, Except.pure]
      have given := given (Json.toWord_ofWord step.number)
      exact readsSlots.ofMembers_of_given given foreign reordered

end StepRecord

namespace JobRecord

/-- The slots of a job. -/
def slots : List (Slot Draft) :=
  [.named "name" Json.toText Draft.name fun draft slot => { draft with name := slot },
    .named "steps" (Json.toSequence StepRecord.decode) Draft.steps
      fun draft slot => { draft with steps := slot }]

theorem takeMember_eq : takeMember = takeInto slots := by
  funext draft ⟨name, value⟩
  simp only [takeMember, takeInto, slots, Slot.named, List.find?_cons, List.find?_nil]
  split_ifs <;> simp_all

theorem readsSlots : ReadsSlots ofMembers slots where
  independent :=
    { get_set := by simp [slots, Slot.named]
      pairwise := by simp [slots, Slot.named, Slot.isApart_iff] }
  ofMembers_eq := ⟨⟨none, none⟩, ofDraft, fun members => by rw [ofMembers, takeMember_eq]⟩

theorem toSequence_of_spelledSteps {steps : List StepRecord} {value : Json}
    (spelled : SpelledSteps steps value) : value.toSequence StepRecord.decode = .ok steps := by
  cases spelled with
  | array areSteps =>
      exact Json.readAll_of_forall₂ (areSteps.imp fun _ _ => StepRecord.decode_of_spelled)

/-- What stands for a job is read as this job. -/
theorem decode_of_spelled {job : JobRecord} {value : Json} (spelled : job.Spelled value) :
    decode value = .ok job := by
  cases spelled with
  | @object members steps further areSteps foreign reordered =>
      have given : ofMembers ([("name", .string job.name)] ++ steps) = .ok job := by
        cases areSteps with
        | @gives name value isName isValue =>
            obtain rfl := List.mem_singleton.mp isName
            have readSteps := toSequence_of_spelledSteps isValue
            simp [ofMembers, takeMember, ofDraft, readSteps, bind, Except.bind, pure, Except.pure]
        | omits isEmpty =>
            simp [ofMembers, takeMember, ofDraft, ← isEmpty, bind, Except.bind, pure, Except.pure]
      exact readsSlots.ofMembers_of_given given foreign reordered

end JobRecord

namespace Origin

/-- The slots of an origin. -/
def slots : List (Slot Draft) :=
  [{ names := ["html_url", "htmlUrl"]
     reported := "html_url"
     content := Option String
     read := Json.toOptionalText
     get := Draft.htmlUrl
     set := fun draft slot => { draft with htmlUrl := slot } },
    .named "path" Json.toText Draft.path fun draft slot => { draft with path := slot }]

theorem takeMember_eq : takeMember = takeInto slots := by
  funext draft ⟨name, value⟩
  simp only [takeMember, takeInto, slots, Slot.named, List.find?_cons, List.find?_nil]
  split_ifs <;> simp_all

theorem readsSlots : ReadsSlots ofMembers slots where
  independent :=
    { get_set := by simp [slots, Slot.named]
      pairwise := by simp [slots, Slot.named, Slot.isApart_iff] }
  ofMembers_eq := ⟨⟨none, none⟩, ofDraft, fun members => by rw [ofMembers, takeMember_eq]⟩

/-- What stands for an origin is read as this origin. -/
theorem decode_of_spelled {origin : Origin} {value : Json} (spelled : origin.Spelled value) :
    decode value = .ok origin := by
  cases spelled with
  | @object members htmlUrl further isHtmlUrl foreign reordered =>
      have given : ofMembers (htmlUrl ++ [("path", .string origin.path)]) = .ok origin := by
        cases isHtmlUrl with
        | @gives name value isName isValue =>
            have readHtmlUrl : value.toOptionalText = .ok origin.htmlUrl :=
              isValue ▸ Json.toOptionalText_ofOptionalText _
            have eitherName : name = "html_url" ∨ name = "htmlUrl" := by simpa using isName
            simp [ofMembers, takeMember, eitherName, ofDraft, readHtmlUrl, bind, Except.bind, pure,
              Except.pure]
        | omits isNone =>
            have isOrigin : origin = ⟨none, origin.path⟩ := by rw [← isNone]
            rw [isOrigin]
            simp [ofMembers, takeMember, ofDraft, bind, Except.bind, pure, Except.pure]
      exact readsSlots.ofMembers_of_given given foreign reordered

end Origin

namespace SourceFile

/-- The slots of a file. -/
def slots : List (Slot Draft) :=
  [.named "content" Json.toText Draft.content fun draft slot => { draft with content := slot },
    .named "raw" Origin.decode Draft.origin fun draft slot => { draft with origin := slot }]

theorem takeMember_eq : takeMember = takeInto slots := by
  funext draft ⟨name, value⟩
  simp only [takeMember, takeInto, slots, Slot.named, List.find?_cons, List.find?_nil]
  split_ifs <;> simp_all

theorem readsSlots : ReadsSlots ofMembers slots where
  independent :=
    { get_set := by simp [slots, Slot.named]
      pairwise := by simp [slots, Slot.named, Slot.isApart_iff] }
  ofMembers_eq := ⟨⟨none, none⟩, ofDraft, fun members => by rw [ofMembers, takeMember_eq]⟩

/-- What stands for a file is read as this file. -/
theorem decode_of_spelled {file : SourceFile} {value : Json} (spelled : file.Spelled value) :
    decode value = .ok file := by
  cases spelled with
  | @object members further origin isOrigin foreign reordered =>
      have given : ofMembers [("content", .string file.content), ("raw", origin)] = .ok file := by
        have readOrigin := Origin.decode_of_spelled isOrigin
        simp [ofMembers, takeMember, ofDraft, readOrigin, bind, Except.bind, pure, Except.pure]
      exact readsSlots.ofMembers_of_given given foreign reordered

end SourceFile

end RunAtlas
