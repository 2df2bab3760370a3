import KeywordBridge.Proofs.Json.Reading
import KeywordBridge.Web.Service

/-!
# What the service answers to a program

A program that is sent to an endpoint is answered with its report, unless the request is a
bad one: it carries no object, or its code, its direction or its place is not what it has
to be. A bad request is refused with the reason. Two of them are not refused, but fail: a
document that is nested too deeply to be read, and a place that is infinite. How deeply a
document may be nested depends on the machine, so everything here is said for every limit;
each request has limits under which only an infinite place makes it fail.
-/

namespace KeywordBridge

namespace Web

/-! ## What a request carries -/

/-- The object that a request carries, where arrays and objects may be nested up to a
limit. -/
inductive Request.Carries (limit : Nat) (request : Request) : Json → Prop
  | object {members : List (List CodePoint × Json)}
      (announced : announcesJson request.contentType = true)
      (read : Json.ofOctets limit request.body = .ok (.object members)) :
      Carries limit request (.object members)

/-- The code in an object. It need not be a text, for it may hold surrogates. -/
inductive HoldsCode (object : Json) : List CodePoint → Prop
  | missing (absent : object.member? "code" = none) : HoldsCode object []
  | null (given : object.member? "code" = some .null) : HoldsCode object []
  | string {points : List CodePoint} (given : object.member? "code" = some (.string points)) :
      HoldsCode object points

/-- The coordinate under a name in an object. -/
inductive HoldsCoordinate (object : Json) (name : Text) : Int → Prop
  | missing (absent : object.member? name = none) : HoldsCoordinate object name 1
  | given {value : Json} {number : Int} (given : object.member? name = some value)
      (converted : value.toInteger = .ok number) : HoldsCoordinate object name number

/-- What is under a name in an object cannot be made an integer. -/
def LacksCoordinate (object : Json) (name : Text) (cause : IntegerError) : Prop :=
  ∃ value, object.member? name = some value ∧ value.toInteger = .error cause

/-- The place in an object is infinite: its line is, or its column behind a line that can
be made an integer. -/
def HasInfinitePlace (object : Json) : Prop :=
  LacksCoordinate object "line" .infinite ∨
    (∃ line, HoldsCoordinate object "line" line) ∧ LacksCoordinate object "column" .infinite

/-- The report of an endpoint on the program in an object. -/
inductive Reports (table : Table) (object : Json) (code : Text) : Endpoint → Json → Prop
  | forward (asked : object.member? "direction" = some (.string (Text.toPoints "forward"))) :
      Reports table object code .translate
        (Translation.report ⟨table.forward code, .surface, .target⟩)
  | reverse (asked : object.member? "direction" = some (.string (Text.toPoints "reverse"))) :
      Reports table object code .translate
        (Translation.report ⟨table.reverse code, .target, .surface⟩)
  | auto (asked : object.member? "direction" = some (.string (Text.toPoints "auto"))) :
      Reports table object code .translate (table.translateAuto code).report
  | noDirection (absent : object.member? "direction" = none) :
      Reports table object code .translate (table.translateAuto code).report
  | validate :
      Reports table object code .validate (reports Diagnostic.report (table.validate code))
  | complete {line column : Int} (onLine : HoldsCoordinate object "line" line)
      (inColumn : HoldsCoordinate object "column" column) :
      Reports table object code .complete
        (reports Suggestion.report (table.complete defaultLimit code (some (line, column))))
  | tokens : Reports table object code .tokens (reports Token.report (table.tokenize code))

/-- What makes a request a bad one. -/
inductive Request.IsBad (limit : Nat) (request : Request) : Endpoint → Prop
  | noObject {endpoint : Endpoint} (nothing : ∀ object, ¬ request.Carries limit object) :
      IsBad limit request endpoint
  | code {endpoint : Endpoint} {object value : Json} (carried : request.Carries limit object)
      (given : object.member? "code" = some value) (notNull : value ≠ .null)
      (notString : ∀ points, value ≠ .string points) : IsBad limit request endpoint
  | direction {object value : Json} (carried : request.Carries limit object)
      (given : object.member? "direction" = some value)
      (unknown : ∀ name ∈ ["forward", "reverse", "auto"],
        value ≠ .string (Text.toPoints name.toList)) : IsBad limit request .translate
  | place {object : Json} {name : Text} {cause : IntegerError}
      (carried : request.Carries limit object) (coordinate : name = "line" ∨ name = "column")
      (lacking : LacksCoordinate object name cause) : IsBad limit request .complete

/-- What makes a request fail, although it is only a bad one. -/
inductive Request.Fails (limit : Nat) (request : Request) : Endpoint → Prop
  | tooDeep {endpoint : Endpoint} (announced : announcesJson request.contentType = true)
      (deep : Json.ofOctets limit request.body = .error .tooDeep) :
      Fails limit request endpoint
  | infinitePlace {object : Json} {code : List CodePoint}
      (carried : request.Carries limit object) (held : HoldsCode object code)
      (infinite : HasInfinitePlace object) : Fails limit request .complete

/-- The report that is the answer to a request. -/
def Request.IsAnswered (table : Table) (limit : Nat) (request : Request) (endpoint : Endpoint)
    (report : Json) : Prop :=
  ∃ object code, request.Carries limit object ∧ HoldsCode object code ∧
    Reports table object (Text.ofPoints code) endpoint report

/-- Where the limit is high enough, only an infinite place makes a request fail. -/
theorem Request.exists_fails_iff (request : Request) :
    ∃ least, ∀ limit, least ≤ limit → ∀ endpoint, request.Fails limit endpoint ↔
      endpoint = .complete ∧ ∃ object code,
        request.Carries limit object ∧ HoldsCode object code ∧ HasInfinitePlace object := by
  obtain ⟨least, shallow⟩ := Json.exists_ofOctets_ne_tooDeep request.body
  refine ⟨least, fun limit enough endpoint => ?_⟩
  constructor
  · rintro (⟨-, deep⟩ | ⟨carried, held, infinite⟩)
    · exact absurd deep (shallow limit enough)
    · exact ⟨rfl, _, _, carried, held, infinite⟩
  · rintro ⟨rfl, _, _, carried, held, infinite⟩
    exact .infinitePlace carried held infinite

/-! ## Reading a request -/

theorem Request.Carries.eq {limit : Nat} {request : Request} {object other : Json}
    (carried : request.Carries limit object) (carriedToo : request.Carries limit other) :
    object = other := by
  obtain ⟨-, read⟩ := carried
  obtain ⟨-, readToo⟩ := carriedToo
  rw [read] at readToo
  exact Except.ok.inj readToo

theorem HoldsCode.eq {object : Json} {code other : List CodePoint}
    (held : HoldsCode object code) (heldToo : HoldsCode object other) : code = other := by
  cases held with
  | missing absent =>
      cases heldToo with
      | missing _ | null _ => rfl
      | string given => rw [absent] at given; cases given
  | null null =>
      cases heldToo with
      | missing _ | null _ => rfl
      | string given => rw [null] at given; cases given
  | string given =>
      cases heldToo with
      | missing absent => rw [absent] at given; cases given
      | null null => rw [null] at given; cases given
      | string givenToo => rw [given] at givenToo; cases givenToo; rfl

theorem Job.ofRequest_eq_ok_iff {limit : Nat} {request : Request} {job : Job} :
    Job.ofRequest limit request = .ok job ↔
      request.Carries limit job.object ∧ HoldsCode job.object job.code := by
  constructor
  · intro read
    dsimp only [Job.ofRequest] at read
    split at read
    · rename_i announced
      split at read
      · cases read
      · rename_i members carried
        split at read
        · rename_i absent
          cases read
          exact ⟨.object announced carried, .missing absent⟩
        · rename_i given
          cases read
          exact ⟨.object announced carried, .null given⟩
        · rename_i points given
          cases read
          exact ⟨.object announced carried, .string given⟩
        · cases read
      · cases read
    · cases read
  · obtain ⟨object, code⟩ := job
    rintro ⟨carried, held⟩
    cases carried with
    | object announced read =>
        cases held with
        | missing absent => simp only [Job.ofRequest, announced, read, absent, if_true]
        | null given => simp only [Job.ofRequest, announced, read, given, if_true]
        | string given =>
            dsimp only at given
            simp only [Job.ofRequest, announced, read, given, if_true]

/-- A request is not read and not refused either if its document is nested too deeply. -/
theorem Job.ofRequest_eq_error_iff {limit : Nat} {request : Request} {cause : Refusal}
    (silent : cause.message? = none) :
    Job.ofRequest limit request = .error cause ↔
      cause = .tooDeep ∧ announcesJson request.contentType = true ∧
        Json.ofOctets limit request.body = .error .tooDeep := by
  constructor
  · intro read
    dsimp only [Job.ofRequest] at read
    split at read
    · rename_i announced
      split at read
      · rename_i deep
        cases read
        exact ⟨rfl, announced, deep⟩
      · split at read
        all_goals cases read
        cases silent
      · cases read
        cases silent
    · cases read
      cases silent
  · rintro ⟨rfl, announced, deep⟩
    simp only [Job.ofRequest, announced, deep, if_true]

/-! ## Steps that may be refused -/

section

variable {α β ε : Type} {first : Except ε α} {next : α → Except ε β}

theorem bind_eq_ok_iff {value : β} :
    first >>= next = .ok value ↔ ∃ between, first = .ok between ∧ next between = .ok value := by
  cases first <;> simp [bind, Except.bind]

theorem bind_eq_error_iff {cause : ε} :
    first >>= next = .error cause ↔
      first = .error cause ∨ ∃ between, first = .ok between ∧ next between = .error cause := by
  cases first <;> simp [bind, Except.bind]

end

/-! ## Carrying a request out -/

section

variable {job : Job} {name : Text}

theorem Job.coordinate_eq_ok_iff {number : Int} :
    job.coordinate name = .ok number ↔ HoldsCoordinate job.object name number := by
  constructor
  · intro wanted
    rw [Job.coordinate] at wanted
    cases given : job.object.member? name with
    | none =>
        rw [given] at wanted
        cases wanted
        exact .missing given
    | some value =>
        rw [given, Option.getD_some] at wanted
        split at wanted
        · rename_i converted
          cases wanted
          exact .given given converted
        all_goals cases wanted
  · rintro (absent | ⟨given, converted⟩)
    · rw [Job.coordinate, absent]
      rfl
    · rw [Job.coordinate, given, Option.getD_some, converted]

theorem Job.coordinate_eq_error_iff {cause : Refusal} (silent : cause.message? = none) :
    job.coordinate name = .error cause ↔
      cause = .infinitePlace ∧ LacksCoordinate job.object name .infinite := by
  constructor
  · intro refused
    rw [Job.coordinate] at refused
    cases given : job.object.member? name with
    | none =>
        rw [given] at refused
        cases refused
    | some value =>
        rw [given, Option.getD_some] at refused
        split at refused
        · cases refused
        · rename_i infinite
          cases refused
          exact ⟨rfl, value, given, infinite⟩
        · cases refused
          cases silent
  · rintro ⟨rfl, value, given, infinite⟩
    rw [Job.coordinate, given, Option.getD_some, infinite]

end

/-- The line is looked at before the column. -/
theorem Job.place_eq_ok_iff {job : Job} {line column : Int} :
    job.place = .ok (line, column) ↔
      HoldsCoordinate job.object "line" line ∧ HoldsCoordinate job.object "column" column := by
  simp only [Job.place, bind_eq_ok_iff, Job.coordinate_eq_ok_iff, pure, Except.pure,
    Except.ok.injEq, Prod.mk.injEq]
  constructor
  · rintro ⟨_, onLine, _, inColumn, rfl, rfl⟩
    exact ⟨onLine, inColumn⟩
  · rintro ⟨onLine, inColumn⟩
    exact ⟨line, onLine, column, inColumn, rfl, rfl⟩

theorem Job.place_eq_error_iff {job : Job} {cause : Refusal} (silent : cause.message? = none) :
    job.place = .error cause ↔ cause = .infinitePlace ∧ HasInfinitePlace job.object := by
  simp only [Job.place, bind_eq_error_iff, Job.coordinate_eq_ok_iff,
    Job.coordinate_eq_error_iff silent, HasInfinitePlace]
  constructor
  · rintro (⟨infinite, onLine⟩ | ⟨line, onLine, ⟨infinite, inColumn⟩ | ⟨_, _, done⟩⟩)
    · exact ⟨infinite, .inl onLine⟩
    · exact ⟨infinite, .inr ⟨⟨line, onLine⟩, inColumn⟩⟩
    · cases done
  · rintro ⟨infinite, onLine | ⟨⟨line, onLine⟩, inColumn⟩⟩
    · exact .inl ⟨infinite, onLine⟩
    · exact .inr ⟨line, onLine, .inl ⟨infinite, inColumn⟩⟩

section

variable {table : Table} {job : Job}

theorem translation_eq_ok_iff {report : Json} :
    (translation table job).map Translation.report = .ok report ↔
      Reports table job.object job.program .translate report := by
  constructor
  · intro translated
    rw [translation] at translated
    cases given : job.object.member? "direction" with
    | none =>
        rw [given] at translated
        cases translated
        exact .noDirection given
    | some value =>
        rw [given, Option.getD_some] at translated
        split at translated
        · rename_i direction
          split at translated
          · rename_i asked
            cases translated
            exact .forward (asked ▸ given)
          · split at translated
            · rename_i asked
              cases translated
              exact .reverse (asked ▸ given)
            · split at translated
              · rename_i asked
                cases translated
                exact .auto (asked ▸ given)
              · cases translated
        · cases translated
  · intro asked
    rw [translation]
    cases asked with
    | forward asked => rw [asked]; rfl
    | reverse asked => rw [asked]; rfl
    | auto asked => rw [asked]; rfl
    | noDirection absent => rw [absent]; rfl

/-- An unknown direction is refused with a reason. -/
theorem translation_ne_error {cause : Refusal} (silent : cause.message? = none) :
    translation table job ≠ .error cause := by
  intro refused
  rw [translation] at refused
  split at refused
  · split at refused
    · cases refused
    · split at refused
      · cases refused
      · split at refused
        · cases refused
        · cases refused
          cases silent
  · cases refused
    cases silent

theorem work_eq_ok_iff {endpoint : Endpoint} (takes : endpoint.takesProgram = true)
    {report : Json} :
    work table job endpoint = .ok report ↔
      Reports table job.object job.program endpoint report := by
  cases endpoint with
  | page | health | keywords => cases takes
  | translate => exact translation_eq_ok_iff
  | validate =>
      constructor
      · rintro ⟨⟩
        exact .validate
      · rintro ⟨⟩
        rfl
  | complete =>
      rw [work, bind_eq_ok_iff]
      constructor
      · rintro ⟨place, placed, done⟩
        obtain ⟨onLine, inColumn⟩ := Job.place_eq_ok_iff.1 placed
        cases done
        exact .complete onLine inColumn
      · intro reported
        cases reported with
        | complete onLine inColumn =>
            exact ⟨_, Job.place_eq_ok_iff.2 ⟨onLine, inColumn⟩, rfl⟩
  | tokens =>
      constructor
      · rintro ⟨⟩
        exact .tokens
      · rintro ⟨⟩
        rfl

theorem work_eq_error_iff {endpoint : Endpoint} (takes : endpoint.takesProgram = true)
    {cause : Refusal} (silent : cause.message? = none) :
    work table job endpoint = .error cause ↔ cause = .infinitePlace ∧ endpoint = .complete ∧
      HasInfinitePlace job.object := by
  cases endpoint with
  | page | health | keywords => cases takes
  | translate =>
      refine iff_of_false (fun refused => ?_) (by simp)
      rw [work] at refused
      cases translated : translation table job with
      | ok => rw [translated] at refused; cases refused
      | error other =>
          rw [translated] at refused
          cases refused
          exact translation_ne_error silent translated
  | validate => exact iff_of_false (by simp [work]) (by simp)
  | complete =>
      rw [work, bind_eq_error_iff, Job.place_eq_error_iff silent, eq_self, true_and]
      refine or_iff_left ?_
      rintro ⟨place, -, done⟩
      cases done
  | tokens => exact iff_of_false (by simp [work]) (by simp)

end

/-! ## Bad requests -/

/-- There is a coordinate or a reason why there is none. -/
theorem holdsCoordinate_or_lacks (object : Json) (name : Text) :
    (∃ number, HoldsCoordinate object name number) ∨
      ∃ cause, LacksCoordinate object name cause := by
  cases given : object.member? name with
  | none => exact .inl ⟨1, .missing given⟩
  | some value =>
      cases converted : value.toInteger with
      | ok number => exact .inl ⟨number, .given given converted⟩
      | error cause => exact .inr ⟨cause, value, given, converted⟩

theorem HoldsCoordinate.not_lacks {object : Json} {name : Text} {number : Int}
    (held : HoldsCoordinate object name number) (cause : IntegerError) :
    ¬ LacksCoordinate object name cause := by
  rintro ⟨value, given, unconverted⟩
  cases held with
  | missing absent => rw [absent] at given; cases given
  | given other converted =>
      cases other.symm.trans given
      rw [unconverted] at converted
      cases converted

section

variable {table : Table} {limit : Nat} {request : Request} {endpoint : Endpoint}

/-- A bad request has no report. -/
theorem Request.IsBad.not_isAnswered (bad : request.IsBad limit endpoint) (report : Json) :
    ¬ request.IsAnswered table limit endpoint report := by
  rintro ⟨object, code, carried, held, reported⟩
  cases bad with
  | noObject nothing => exact nothing object carried
  | code carriedToo given notNull notString =>
      cases carried.eq carriedToo
      cases held with
      | missing absent => rw [absent] at given; cases given
      | null null => exact notNull (Option.some.inj (given.symm.trans null))
      | string string => exact notString _ (Option.some.inj (given.symm.trans string))
  | direction carriedToo given unknown =>
      cases carried.eq carriedToo
      have differs {name : String} (known : name ∈ ["forward", "reverse", "auto"])
          (asked : object.member? "direction" = some (.string (Text.toPoints name.toList))) :
          False :=
        unknown name known (Option.some.inj (given.symm.trans asked))
      cases reported with
      | forward asked => exact differs (by decide) asked
      | reverse asked => exact differs (by decide) asked
      | auto asked => exact differs (by decide) asked
      | noDirection absent => rw [absent] at given; cases given
  | place carriedToo coordinate lacking =>
      cases carried.eq carriedToo
      cases reported with
      | complete onLine inColumn =>
          rcases coordinate with rfl | rfl
          · exact onLine.not_lacks _ lacking
          · exact inColumn.not_lacks _ lacking

/-- A request that is not a bad one has a report. -/
theorem Request.exists_isAnswered (table : Table) (takes : endpoint.takesProgram = true)
    (good : ¬ request.IsBad limit endpoint) :
    ∃ report, request.IsAnswered table limit endpoint report := by
  obtain ⟨object, carried⟩ : ∃ object, request.Carries limit object :=
    Classical.byContradiction fun none =>
      good (.noObject fun object carried => none ⟨object, carried⟩)
  obtain ⟨code, held⟩ : ∃ code, HoldsCode object code := by
    cases given : object.member? "code" with
    | none => exact ⟨[], .missing given⟩
    | some value =>
        cases value with
        | null => exact ⟨[], .null given⟩
        | string points => exact ⟨points, .string given⟩
        | _ => exact absurd (.code carried given (by simp) (by simp)) good
  suffices ∃ report, Reports table object (Text.ofPoints code) endpoint report from
    this.imp fun report reported => ⟨object, code, carried, held, reported⟩
  cases endpoint with
  | page | health | keywords => cases takes
  | translate =>
      cases given : object.member? "direction" with
      | none => exact ⟨_, .noDirection given⟩
      | some value =>
          by_cases forward : value = .string (Text.toPoints "forward")
          · exact ⟨_, .forward (forward ▸ given)⟩
          by_cases reverse : value = .string (Text.toPoints "reverse")
          · exact ⟨_, .reverse (reverse ▸ given)⟩
          by_cases auto : value = .string (Text.toPoints "auto")
          · exact ⟨_, .auto (auto ▸ given)⟩
          have unknown : ∀ name ∈ ["forward", "reverse", "auto"],
              value ≠ .string (Text.toPoints name.toList) :=
            List.forall_mem_cons.2 ⟨forward, List.forall_mem_cons.2
              ⟨reverse, List.forall_mem_singleton.2 auto⟩⟩
          exact absurd (.direction carried given unknown) good
  | validate => exact ⟨_, .validate⟩
  | complete =>
      have placed {name : Text} (coordinate : name = "line" ∨ name = "column") :
          ∃ number, HoldsCoordinate object name number :=
        (holdsCoordinate_or_lacks object name).resolve_right fun ⟨_, lacking⟩ =>
          good (.place carried coordinate lacking)
      obtain ⟨line, onLine⟩ := placed (.inl rfl)
      obtain ⟨column, inColumn⟩ := placed (.inr rfl)
      exact ⟨_, .complete onLine inColumn⟩
  | tokens => exact ⟨_, .tokens⟩

end

/-! ## Answers -/

/-- What comes of a request to an endpoint. -/
def outcome (table : Table) (limit : Nat) (request : Request) (endpoint : Endpoint) :
    Except Refusal Json := do
  let job ← Job.ofRequest limit request
  work table job endpoint

section

variable {table : Table} {limit : Nat} {request : Request} {endpoint : Endpoint}

theorem respond_eq :
    respond table limit endpoint request =
      match outcome table limit request endpoint with
      | .error cause => .refusal cause
      | .ok report => .report report := by
  rw [respond, outcome]
  cases Job.ofRequest limit request <;> rfl

theorem outcome_eq_ok_iff (takes : endpoint.takesProgram = true) {report : Json} :
    outcome table limit request endpoint = .ok report ↔
      request.IsAnswered table limit endpoint report := by
  simp only [outcome, bind_eq_ok_iff, Job.ofRequest_eq_ok_iff, work_eq_ok_iff takes,
    Request.IsAnswered]
  constructor
  · rintro ⟨⟨object, code⟩, ⟨carried, held⟩, reported⟩
    exact ⟨object, code, carried, held, reported⟩
  · rintro ⟨object, code, carried, held, reported⟩
    exact ⟨⟨object, code⟩, ⟨carried, held⟩, reported⟩

theorem fails_iff (table : Table) (takes : endpoint.takesProgram = true) :
    request.Fails limit endpoint ↔
      ∃ cause, cause.message? = none ∧ outcome table limit request endpoint = .error cause := by
  simp only [outcome, bind_eq_error_iff]
  constructor
  · intro fails
    cases fails with
    | tooDeep announced deep =>
        have unread := (Job.ofRequest_eq_error_iff rfl).2 ⟨rfl, announced, deep⟩
        exact ⟨.tooDeep, rfl, .inl unread⟩
    | @infinitePlace object code carried held infinite =>
        have read : Job.ofRequest limit request = .ok ⟨object, code⟩ :=
          Job.ofRequest_eq_ok_iff.2 ⟨carried, held⟩
        have failed : work table ⟨object, code⟩ .complete = .error .infinitePlace :=
          (work_eq_error_iff takes rfl).2 ⟨rfl, rfl, infinite⟩
        exact ⟨.infinitePlace, rfl, .inr ⟨_, read, failed⟩⟩
  · rintro ⟨cause, silent, unread | ⟨job, read, failed⟩⟩
    · obtain ⟨-, announced, deep⟩ := (Job.ofRequest_eq_error_iff silent).1 unread
      exact .tooDeep announced deep
    · obtain ⟨carried, held⟩ := Job.ofRequest_eq_ok_iff.1 read
      obtain ⟨-, rfl, infinite⟩ := (work_eq_error_iff takes silent).1 failed
      exact .infinitePlace carried held infinite

theorem respond_eq_report_iff (takes : endpoint.takesProgram = true) {report : Json} :
    respond table limit endpoint request = .report report ↔
      request.IsAnswered table limit endpoint report := by
  rw [← outcome_eq_ok_iff takes, respond_eq]
  cases outcome table limit request endpoint with
  | ok other => simp [Response.report]
  | error cause =>
      refine iff_of_false (fun same => ?_) (fun same => nomatch same)
      have status := congrArg Response.status same
      cases reason : cause.message? <;> simp [Response.refusal, Response.report, reason] at status

/-- What a request carries is known, so it is answered with the report on that. -/
theorem isAnswered_iff_reports {object : Json} {program : Text}
    (carried : request.Carries limit object)
    (held : HoldsCode object (Text.toPoints program)) {report : Json} :
    request.IsAnswered table limit endpoint report ↔
      Reports table object program endpoint report := by
  constructor
  · rintro ⟨other, code, carriedToo, heldToo, reported⟩
    cases carried.eq carriedToo
    cases held.eq heldToo
    rwa [Text.ofPoints_toPoints] at reported
  · intro reported
    refine ⟨object, program.toPoints, carried, held, ?_⟩
    rwa [Text.ofPoints_toPoints]

/-- There are three kinds of answers: a report, a refusal with a reason and a failure. -/
theorem respond_cases (table : Table) (limit : Nat) (request : Request)
    (takes : endpoint.takesProgram = true) :
    (¬ request.IsBad limit endpoint ∧ ¬ request.Fails limit endpoint ∧
        (respond table limit endpoint request).status = 200) ∨
      (request.IsBad limit endpoint ∧ ¬ request.Fails limit endpoint ∧ ∃ message : Text,
        respond table limit endpoint request =
          ⟨400, .json (.record [("error", .string message)]), true⟩) ∨
      request.IsBad limit endpoint ∧ request.Fails limit endpoint ∧
        (respond table limit endpoint request).status = 500 := by
  rw [respond_eq, fails_iff table takes]
  cases result : outcome table limit request endpoint with
  | ok report =>
      have answered := (outcome_eq_ok_iff takes).1 result
      exact .inl ⟨fun bad => bad.not_isAnswered report answered, by simp, rfl⟩
  | error cause =>
      -- Whatever the refusal is, a request without a report is a bad one.
      have bad : request.IsBad limit endpoint := Classical.byContradiction fun good => by
        obtain ⟨report, answered⟩ := Request.exists_isAnswered table takes good
        rw [(outcome_eq_ok_iff takes).2 answered] at result
        cases result
      cases reason : cause.message? with
      | none =>
          refine .inr (.inr ⟨bad, ⟨cause, reason, rfl⟩, ?_⟩)
          simp only [Response.refusal, reason]
      | some message =>
          refine .inr (.inl ⟨bad, ?_, message, ?_⟩)
          · rintro ⟨other, silent, same⟩
            cases same
            rw [reason] at silent
            cases silent
          · simp only [Response.refusal, reason]

/-- A program that is sent to an endpoint is answered there. -/
theorem answer_eq_respond (posted : Method.ofName request.method = .post)
    (directed : Target.path request.target = endpoint.path)
    (takes : endpoint.takesProgram = true) :
    answer table limit request = respond table limit endpoint request := by
  have found : Resource.ofPath? endpoint.path = some (.endpoint endpoint) := by
    rw [Resource.ofPath?, Endpoint.ofPath?_path]
  have admitted : (Resource.endpoint endpoint).admits .post = true := by
    simp [Resource.admits, takes]
  rw [answer, posted, directed]
  split
  -- No endpoint has the empty path.
  · rename_i empty
    cases endpoint <;> cases empty
  · rw [found]
    simp only [admitted, if_true, Resource.answer]

/-- A program that is sent to the service is answered with its report, unless the request
is a bad one. A bad request is refused with a reason or, in two cases, fails. The report is
known where the code is a text. -/
theorem status_of_posted (table : Table) (limit : Nat)
    (posted : Method.ofName request.method = .post)
    (directed : Target.path request.target = endpoint.path)
    (takes : endpoint.takesProgram = true) :
    let response := answer table limit request
    (response.status = 200 ↔ ¬ request.IsBad limit endpoint) ∧
      (response.status = 400 ↔ request.IsBad limit endpoint ∧ ¬ request.Fails limit endpoint) ∧
      (response.status = 500 ↔ request.Fails limit endpoint) ∧
      (response.status = 400 → ∃ message : Text,
        response = ⟨400, .json (.record [("error", .string message)]), true⟩) ∧
      ∀ object program, request.Carries limit object →
        HoldsCode object (Text.toPoints program) → ∀ report,
          response = .report report ↔ Reports table object program endpoint report := by
  intro response
  have same : response = respond table limit endpoint request :=
    answer_eq_respond posted directed takes
  have reported : ∀ object program, request.Carries limit object →
      HoldsCode object (Text.toPoints program) → ∀ report,
        respond table limit endpoint request = .report report ↔
          Reports table object program endpoint report :=
    fun object program carried held report =>
      (respond_eq_report_iff takes).trans (isAnswered_iff_reports carried held)
  rw [same]
  rcases respond_cases table limit request takes with
    ⟨good, stands, status⟩ | ⟨bad, stands, message, refused⟩ | ⟨bad, fails, status⟩
  · exact ⟨by simp [good, status], by simp [good, status], by simp [stands, status],
      by simp [status], reported⟩
  · exact ⟨by simp [bad, refused], by simp [bad, stands, refused], by simp [stands, refused],
      fun _ => ⟨message, refused⟩, reported⟩
  · exact ⟨by simp [bad, status], by simp [fails, status], by simp [fails, status],
      by simp [status], reported⟩

end

/-- A program that is translated in the direction that it suggests, at an address with a
host and a query. -/
theorem status_of_posted_noDirection :
    let request : Request := ⟨"post", "http://localhost/api/translate?draft",
      "application/json; charset=utf-8", Text.toUtf8 "\x7b\"code\": \"dlula\"\x7d"⟩
    Method.ofName request.method = .post ∧
      Target.path request.target = Endpoint.translate.path ∧
      Endpoint.translate.takesProgram = true ∧ ¬ request.IsBad 1 .translate ∧
      answer Table.default 1 request =
        .report (Translation.report ⟨"pass", .surface, .target⟩) := by
  intro request
  let object : Json := .record [("code", .string (Text.toPoints "dlula"))]
  have posted : Method.ofName request.method = .post := by decide +kernel
  have directed : Target.path request.target = Endpoint.translate.path := by decide +kernel
  have takes : Endpoint.translate.takesProgram = true := rfl
  have carried : request.Carries 1 object :=
    .object (by decide +kernel) (by with_unfolding_all rfl)
  have held : HoldsCode object (Text.toPoints "dlula") := .string rfl
  have translated : Table.default.translateAuto "dlula" = ⟨"pass", .surface, .target⟩ := by
    decide +kernel
  have reported : Reports Table.default object "dlula" .translate
      (Translation.report ⟨"pass", .surface, .target⟩) := by
    rw [← translated]
    exact .noDirection rfl
  obtain ⟨good, -, -, -, reports⟩ := status_of_posted Table.default 1 posted directed takes
  have answered := (reports object "dlula" carried held _).2 reported
  exact ⟨posted, directed, takes, good.1 (by rw [answered]; rfl), answered⟩

/-- A line that is too large for a number is infinite, and the request fails although it is
only a bad one. -/
theorem status_of_infinite_line :
    let request : Request := ⟨"POST", "/api/complete", "application/json",
      Text.toUtf8 "\x7b\"line\": 1e999\x7d"⟩
    request.IsBad 1 .complete ∧ (answer Table.default 1 request).status = 500 := by
  intro request
  have read : Json.ofOctets 1 request.body = .ok (.record [("line", .float (1.0 / 0.0))]) := by
    with_unfolding_all rfl
  have infinite :
      LacksCoordinate (.record [("line", .float (1.0 / 0.0))]) "line" .infinite :=
    ⟨_, rfl, rfl⟩
  exact ⟨.place (.object (by decide +kernel) read) (.inl rfl) infinite, by decide +kernel⟩

end Web

end KeywordBridge
