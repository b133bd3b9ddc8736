import Keyset.Proofs.Fault
import Keyset.Proofs.Field.Name
import Mathlib

/-!
# Keyset — the names in a pipeline

A store takes the names in a pipeline for its own: one that starts with a dollar sign would be
an operator there. Names come from the configuration, from the steps of a session and from the
client's filters, and all of them are checked on their way, by different parts of the engine.
What is left are the stages of a caller and the name of the deletion mark, which are the
application's own and are not looked at.

* `Stage.names` — the names that the engine writes into a stage.
* `Compiler.names_compile` — the fields of conditions are those of their entries, in order.
* `Pipeline.build_eq_ok` — the parts of a pipeline, whatever it was built from.
* `Session.safe_field_afterSteps` — no run of steps leaves an unsafe cursor field behind.
* `Session.names_of_pipeline` — which names a pipeline holds, after any run of steps.
-/

namespace Keyset

/-! ## Names -/

/-- The keys of a mapping. -/
def Value.keys : Value → List Value
  | .mapping entries => entries.map (·.1)
  | _ => []

/-- The fields that a conjunction has conditions on. -/
def Compiler.conjunctionNames : Value → List Value
  | .mapping entries =>
      match Entries.field? entries "$and" with
      | some (.list conditions) => conditions.flatMap Value.keys
      | _ => []
  | _ => []

/-- The field that a stage of a branch compares, if it compares one. -/
def BranchStage.names : BranchStage → List Value
  | .range r => [r.field]
  | _ => []

/-- The names that the engine writes into a stage: the fields of conditions, of the sort and of
the cursor's range. A caller's stage has none of them. -/
def Stage.names : Stage → List Value
  | .filter expression => Compiler.conjunctionNames expression
  | .custom _ => []
  | .sort field _ => [field]
  | .facet branches => branches.flatMap fun b => b.2.flatMap BranchStage.names

/-- The filter stage of conditions has their fields. -/
theorem Pipeline.names_filterStage (conditions : List Condition) :
    (filterStage (Compiler.conjunction conditions)).flatMap Stage.names =
      conditions.map Condition.field := by
  cases conditions with
  | nil => rfl
  | cons first rest =>
    have hpresent : (Compiler.conjunction (first :: rest)).truthy = true := rfl
    rw [filterStage, if_pos hpresent, List.flatMap_singleton]
    show ((first :: rest).map Condition.toValue).flatMap Value.keys = _
    simp [List.flatMap_map, Condition.toValue, Value.keys, ← List.map_eq_flatMap]

theorem Pipeline.names_custom (stages : List Value) :
    (stages.map Stage.custom).flatMap Stage.names = [] := by
  simp [Stage.names]

/-- Where there is a cursor, its field is compared in two branches. -/
theorem Pipeline.names_branches {range : Option Range} {field : Value}
    (h : ∀ r ∈ range, r.field = field) (limit : Int) :
    (Stage.facet (branches range limit)).names =
      List.replicate (if range.isSome then 2 else 0) field := by
  cases range with
  | none => rfl
  | some r =>
    obtain rfl := h r rfl
    rfl

/-! ## Filters -/

/-- A clause compiles to a condition on its field, if it is not dropped. -/
theorem Compiler.field_compileClause {c : Compiler} {clause : Clause} {condition : Condition}
    (h : (c.compileClause clause).result = .ok (some condition)) :
    condition.field = clause.field := by
  rcases compileClause_cases h with ⟨_, _, rfl, rfl⟩ | ⟨_, _, rfl, rfl⟩ | ⟨_, _, rfl, rfl⟩ |
    ⟨_, _, _, _, rfl, -, rfl⟩ <;> rfl

/-- The fields of conditions are those of their clauses, in order. -/
theorem Compiler.fields_compileClauses {c : Compiler} {clauses : List Clause} :
    ∀ {conditions : List Condition}, (c.compileClauses clauses).result = .ok conditions →
      (conditions.map Condition.field).Sublist (clauses.map Clause.field) := by
  induction clauses with
  | nil =>
    intro conditions h
    cases h
    exact List.Sublist.slnil
  | cons clause rest ih =>
    intro conditions h
    rw [compileClauses, Outcome.result_bind] at h
    obtain ⟨first, hfirst, h⟩ := except_bind_eq_ok.mp h
    rw [Outcome.result_bind] at h
    obtain ⟨others, hothers, h⟩ := except_bind_eq_ok.mp h
    cases h
    -- a dropped clause leaves its field out, any other one keeps it at its place
    cases first with
    | none => exact (ih hothers).cons _
    | some condition =>
      rw [Option.toList_some, List.singleton_append, List.map_cons, List.map_cons,
        field_compileClause hfirst]
      exact (ih hothers).cons_cons _

/-- **The names of compiled filters.** After the mark, if it is there, they are the names of
entries, in order; the entry under the control key has none of them, and all are safe. -/
theorem Compiler.names_compile {c : Compiler} {config : Config} {request : Request}
    {expression : Value} (hControl : c.controlKey = .str config.withDeletedKey)
    (h : (c.compileRaw (.ofOption .object request.filters)).result = .ok expression) :
    ∃ (mark : List Value) (filtered : List String),
      (Pipeline.filterStage expression).flatMap Stage.names = mark ++ filtered.map .str ∧
      (mark = [] ∨ mark = [c.softDeleteField]) ∧ (∀ name ∈ filtered, Field.Safe name) ∧
      filtered.Sublist ((request.filtered config).map (·.1)) := by
  rw [compileRaw, Outcome.result_bind, Outcome.result_liftM, hControl] at h
  obtain ⟨spec, hspec, h⟩ := except_bind_eq_ok.mp h
  rw [Outcome.result_bind] at h
  obtain ⟨conditions, hconditions, h⟩ := except_bind_eq_ok.mp h
  obtain rfl := Except.ok.inj h
  obtain ⟨others, hothers, rfl⟩ := compile_eq_ok hconditions
  -- the fields of the clauses are the names of the entries
  have hfields : spec.clauses.map Clause.field =
      ((request.filtered config).map (·.1)).map Value.str := by
    rw [Selection.clauses_of_parse hspec, List.map_map, List.map_map]
    refine List.map_congr_left fun f _ => ?_
    exact Clause.field_ofSpecification (.str f.1) f.2
  have hsublist := fields_compileClauses hothers
  rw [hfields] at hsublist
  obtain ⟨filtered, hfiltered, hothers⟩ := List.sublist_map_iff.mp hsublist
  have hsafe : ∀ f ∈ request.filtered config, Field.Safe f.1 := by
    have hnone := (Selection.hasFault_parse config request).eq_none hspec
    rw [List.findSome?_eq_none_iff] at hnone
    intro f hf
    exact Field.nameFault?_eq_none_iff.mp (Field.fault?_eq_none.mp (hnone f hf))
  refine ⟨if spec.withDeleted then [] else [c.softDeleteField], filtered, ?_, ?_, ?_, hfiltered⟩
  · rw [Pipeline.names_filterStage, List.map_append, hothers]
    cases spec.withDeleted <;> rfl
  · cases spec.withDeleted
    · exact Or.inr rfl
    · exact Or.inl rfl
  · intro name hname
    obtain ⟨f, hf, rfl⟩ := List.mem_map.mp (hfiltered.subset hname)
    exact hsafe f hf

/-! ## Parts of a pipeline -/

/-- The range of a cursor is on the cursor's field, and there is one if there is a cursor. -/
theorem Pipeline.range_of_cursorRange {codec : Codec} {cursor : Cursor} {order : Value}
    {reverse : Bool} {range : Option Range}
    (h : (cursorRange codec cursor order reverse).result = .ok range) :
    range.isSome = cursor.value.truthy ∧ ∀ r ∈ range, r.field = cursor.field := by
  unfold cursorRange at h
  split at h
  · -- no cursor, no range
    next habsent =>
    obtain rfl := Except.ok.inj h
    exact ⟨by simpa using habsent, nofun⟩
  · next hpresent =>
    rw [Outcome.result_bind] at h
    -- the value and the direction may be anything: the field is the cursor's own
    obtain ⟨v, -, h⟩ := except_bind_eq_ok.mp h
    rw [Outcome.result_bind] at h
    obtain ⟨direction, -, h⟩ := except_bind_eq_ok.mp h
    rw [Outcome.result_bind] at h
    obtain ⟨r, hr, h⟩ := except_bind_eq_ok.mp h
    obtain rfl := Except.ok.inj h
    rw [Outcome.result_liftM, Range.ofCursor] at hr
    split at hr
    · obtain rfl := Except.ok.inj hr
      refine ⟨by simpa using hpresent, ?_⟩
      rintro r ⟨⟩
      rfl
    · cases hr

/-- Supplied stages are all the caller's. -/
theorem Pipeline.supplied_eq_ok {stages : Value} {custom : List Stage}
    (h : supplied stages = .ok custom) : ∃ items : List Value, custom = items.map .custom := by
  unfold supplied at h
  split at h
  · obtain ⟨items, -, h⟩ := except_bind_eq_ok.mp h
    exact ⟨clean items, (Except.ok.inj h).symm⟩
  · exact ⟨[], (Except.ok.inj h).symm⟩

/-- **The parts of a pipeline** that was built, whatever it was built from: the filter, the
caller's stages, the sort, and the branches. -/
theorem Pipeline.build_eq_ok {codec : Codec} {expression stages order limit own : Value}
    {cursor : Cursor} {reverse : Bool} {p : Pipeline}
    (h : (build codec expression cursor order limit stages reverse own).result = .ok p) :
    ∃ (size : Int) (range : Option Range) (custom : List Value) (direction : SortOrder),
      (cursorRange codec cursor order reverse).result = .ok range ∧
      p = filterStage expression ++ custom.map .custom ++
        [.sort (sortField own cursor.field) direction, .facet (branches range size)] := by
  -- one step after the other: the limit, the range, the stages, the order and the sort
  rw [build, Outcome.result_bind] at h
  obtain ⟨size, -, h⟩ := except_bind_eq_ok.mp h
  rw [Outcome.result_bind] at h
  obtain ⟨range, hrange, h⟩ := except_bind_eq_ok.mp h
  rw [Outcome.result_bind] at h
  obtain ⟨custom, hcustom, h⟩ := except_bind_eq_ok.mp h
  rw [Outcome.result_bind] at h
  obtain ⟨direction, -, h⟩ := except_bind_eq_ok.mp h
  rw [Outcome.result_bind] at h
  obtain ⟨sort, hsort, h⟩ := except_bind_eq_ok.mp h
  obtain rfl := Except.ok.inj h
  obtain ⟨items, rfl⟩ := supplied_eq_ok hcustom
  rw [Outcome.result_liftM] at hsort
  change sortStage (sortField own cursor.field) direction = .ok sort at hsort
  rw [sortStage] at hsort
  split at hsort
  · obtain rfl := Except.ok.inj hsort
    exact ⟨size, range, items, direction, hrange, rfl⟩
  · cases hsort

namespace Session

/-! ## Runs -/

/-- A step sets the cursor field to a safe name, or leaves it alone. -/
theorem safe_field_apply {s : Session} (h : Field.Safe s.field) (step : Step) :
    Field.Safe (s.apply step).1.field := by
  cases step with
  | setCursor field kind =>
    rw [apply, setCursor]
    cases hfield : Field.validate field with
    | error f => exact h
    | ok name =>
      -- the name stays even if the type that came with it has no text
      cases CursorKind.ofValue kind <;> exact Field.safe_of_validate hfield
  | pipeline stages reverse =>
    rw [apply, after]
    cases (s.pipeline stages reverse).result <;> exact h
  | setPageInfo counts named =>
    simp only [apply, after]
    split <;> exact h
  | page documents => exact h
  | documentCursor document => exact h
  | describe => exact h
  | clampLimit limit => exact h

theorem safe_field_afterSteps {s : Session} (h : Field.Safe s.field) (steps : List Step) :
    Field.Safe (s.afterSteps steps).field := by
  induction steps generalizing s with
  | nil => exact h
  | cons step rest ih =>
    rw [afterSteps_cons]
    exact ih (safe_field_apply h step)

/-- A session starts at a safe field, and its cursor is none that counts as absent. -/
theorem safe_of_start {config : Config} {request : Value} {s : Session}
    (h : start config request = .ok s) :
    Field.Safe s.field ∧ s.config = config ∧ s.cursor ≠ some "" := by
  rw [start_eq] at h
  obtain ⟨checked, -, h⟩ := except_bind_eq_ok.mp h
  obtain ⟨limit, -, h⟩ := except_bind_eq_ok.mp h
  obtain ⟨field, hfield, h⟩ := except_bind_eq_ok.mp h
  obtain rfl := Except.ok.inj h
  exact ⟨Field.safe_of_validate hfield, rfl, boundOf_ne_empty checked⟩

/-- A cursor that is not empty counts as present. -/
theorem truthy_position {s : Session} (h : s.cursor ≠ some "") :
    s.position.value.truthy = s.cursor.isSome := by
  rw [position]
  cases hcursor : s.cursor with
  | none => rfl
  | some c =>
    have hne : c ≠ "" := fun hempty => h (by rw [hcursor, hempty])
    simpa [Value.ofOption, Value.truthy] using hne

/-- **Which names a pipeline holds**, after any run of steps, failed ones included, and for any
caller's stages and either side of the cursor. First there is the name of the deletion mark,
unless deleted documents count. The names of conditions follow, which are names of filtered
fields in the client's order, without the control key. The cursor field is last, once for the
sort and twice more if there is a cursor. Apart from the mark all these names are safe. -/
theorem names_of_pipeline {config : Config} {request : Value} {start : Session}
    (hStart : Session.start config request = .ok start) (steps : List Step) {stages : Value}
    {reverse : Bool} {p : Pipeline}
    (hPipeline : ((start.afterSteps steps).pipeline stages reverse).result = .ok p) :
    ∃ (mark : List Value) (filtered own : List String),
      p.flatMap Stage.names = mark ++ (filtered ++ own).map .str ∧
      (mark = [] ∨ mark = [.str config.softDeleteField]) ∧
      (∀ name ∈ filtered ++ own, Field.Safe name) ∧
      filtered.Sublist ((start.request.filters.getD []).map (·.1)) ∧
      config.withDeletedKey ∉ filtered ∧
      own =
        List.replicate (if start.cursor.isSome then 3 else 1) (start.afterSteps steps).field := by
  obtain ⟨hfield, hconfig, hcursor⟩ := safe_of_start hStart
  have hsame := start.sameRequest_afterSteps steps
  have hsafe := safe_field_afterSteps hfield steps
  -- from here on only what the steps kept matters, and not which steps they were
  generalize start.afterSteps steps = s at hPipeline hsame hsafe ⊢
  have hconfig : s.config = config := hsame.config.trans hconfig
  rw [pipeline, Outcome.result_bind] at hPipeline
  obtain ⟨expression, hexpression, hPipeline⟩ := except_bind_eq_ok.mp hPipeline
  obtain ⟨size, range, custom, direction, hrange, rfl⟩ := Pipeline.build_eq_ok hPipeline
  obtain ⟨mark, filtered, hnames, hmark, hfiltered, hsublist⟩ :=
    Compiler.names_compile (show s.compiler.controlKey = .str s.config.withDeletedKey from rfl)
      hexpression
  obtain ⟨hpresent, hranges⟩ := Pipeline.range_of_cursorRange hrange
  rw [truthy_position (hsame.cursor ▸ hcursor), hsame.cursor] at hpresent
  refine ⟨mark, filtered, List.replicate (if start.cursor.isSome then 3 else 1) s.field,
    ?_, ?_, ?_, ?_, ?_, rfl⟩
  · -- the four parts of the pipeline in their order
    have hown : [.sort (Pipeline.sortField .null s.position.field) direction,
        .facet (Pipeline.branches range size)].flatMap Stage.names =
        (List.replicate (if start.cursor.isSome then 3 else 1) s.field).map Value.str := by
      rw [List.flatMap_cons, List.flatMap_singleton, Pipeline.names_branches hranges, hpresent]
      cases start.cursor <;> rfl
    rw [List.flatMap_append, List.flatMap_append, hnames, Pipeline.names_custom, List.append_nil,
      hown, List.append_assoc, List.map_append]
  · rw [← hconfig]
    exact hmark
  · intro name hname
    rcases List.mem_append.mp hname with hname | hname
    · exact hfiltered name hname
    · rw [List.eq_of_mem_replicate hname]
      exact hsafe
  · -- what is filtered is a part of what the client asks for
    rw [← hsame.request]
    exact hsublist.trans (List.filter_sublist.map _)
  · intro hcontrol
    obtain ⟨f, hf, hname⟩ := List.mem_map.mp (hsublist.subset hcontrol)
    rw [Request.filtered, List.mem_filter, hconfig] at hf
    simp [hname] at hf

/-- The two documents after `"m"` that are done; the control key is among the filters. -/
def afterMark : Value :=
  .object [("first", .int 2), ("after", .str "m"),
    ("filters", .object [("withDeleted", .bool false), ("status", .str "done")])]

/-- The session of this request. -/
def startAfterMark : Session where
  config := {}
  request :=
    { first := some 2, after := some "m",
      filters := some [("withDeleted", .bool false), ("status", .str "done")] }
  order := .asc
  limit := 2
  field := "createdAt"
  kind := .date
  cursor := some "m"

/-- An operator as the cursor field, which is refused, and then a nested field. -/
def operatorThenRank : List Step :=
  [.setCursor (.str "$where") (.str "Date"), .setCursor (.str "meta.rank") (.str "String")]

/-- A caller's stage, whose operator and field are not looked at. -/
def unwindTags : Value := .object [("$unwind", .str "$tags")]

/-- The pipeline of the consumed side, with its conditions, the caller's stage and the range. -/
def rankPipeline : Pipeline :=
  [.filter (Compiler.conjunction
      [.equals (.str "deletedAt") .null, .equals (.str "status") (.str "done")]),
    .custom unwindTags, .sort (.str "meta.rank") .asc,
    .facet (Pipeline.branches (some ⟨.str "meta.rank", .lte, .str "m"⟩) 2)]

/-- The pipeline has a condition on the mark, one on the status, and the nested field three
times. -/
theorem names_of_pipeline_afterMark :
    Session.start {} afterMark = .ok startAfterMark ∧
    ((startAfterMark.afterSteps operatorThenRank).pipeline (.list [unwindTags]) true).result =
      .ok rankPipeline ∧
    Field.Safe "status" ∧ Field.Safe "meta.rank" := by
  have hstart : Session.start {} afterMark = .ok startAfterMark := rfl
  have hpipeline :
      ((startAfterMark.afterSteps operatorThenRank).pipeline (.list [unwindTags]) true).result =
        .ok rankPipeline := rfl
  obtain ⟨mark, filtered, own, hnames, hmark, hsafe, -⟩ :=
    names_of_pipeline hstart operatorThenRank hpipeline
  have hall : ∀ name ∈ ["status", "meta.rank"], Field.Safe name := by
    intro name hname
    have hmem : Value.str name ∈ mark ++ (filtered ++ own).map .str := by
      rw [← hnames]
      show Value.str name ∈
        ["deletedAt", "status", "meta.rank", "meta.rank", "meta.rank"].map Value.str
      simp only [List.mem_cons, List.not_mem_nil, or_false] at hname
      rcases hname with rfl | rfl <;> simp
    rcases List.mem_append.mp hmem with hmem | hmem
    · -- neither name is the mark's
      rcases hmark with rfl | rfl <;> simp_all
    · obtain ⟨_, hmem, hname⟩ := List.mem_map.mp hmem
      cases hname
      exact hsafe name hmem
  exact ⟨hstart, hpipeline, hall _ (by simp), hall _ (by simp)⟩

end Session

end Keyset
