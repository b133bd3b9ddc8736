import Keyset.Proofs.Fault

/-!
# Keyset — which requests reach the executor

A request passes its checks one after the other: its page size, the configured cursor field and
the one that is used, the names of the filtered fields, the operators of their clauses, the
page size again once it is clamped, and at last its cursor. The first check that fails ends the
request, and the executor runs exactly if none does.

* `Repository.Admits` — a request passes all checks.
* `Repository.faults` — the checks in their order, each with its fault.
* `Repository.hasFault_request` — up to the executor, the first fault decides.
* `Repository.fetch_runs` — how often the executor runs, and on what.
-/

namespace Keyset

/-! ## Requests -/

namespace Repository

variable (config : Config) (field type : Option String) (request : Request)

/-- A repository whose own cursor field and type are texts, as far as it has them. -/
def ofTexts : Repository := ⟨config, .ofOption .str field, .ofOption .str type⟩

/-- A text of the repository's own, unless it is absent or empty, or the configured one. -/
def ownOr (own : Option String) (configured : String) : String :=
  (own.filter (!·.isEmpty)).getD configured

theorem orConfigured_ofOption (own : Option String) (configured : String) :
    orConfigured (.ofOption .str own) configured = .str (ownOr own configured) := by
  cases own with
  | none => rfl
  | some s =>
    by_cases h : s = "" <;>
      simp [orConfigured, ownOr, Option.filter, Value.ofOption, Value.truthy, h]

/-- The checks that a request passes on its way to the executor. -/
structure Admits : Prop where
  size : 0 < request.size config
  configured : Field.nameFault? config.cursorField = none
  field : Field.nameFault? (ownOr field config.cursorField) = none
  filters : ∀ f ∈ request.filtered config, Field.nameFault? f.1 = none
  operators : config.strictOperators = true → ∀ f ∈ request.filtered config,
    ∀ name operator operand, Clause.ofFilter f = .pattern name operator operand →
      ∃ mode, MatchMode.ofValue? operator = some mode
  clamped : 0 < config.clamp (request.size config)
  cursor : ∀ text, request.bound = some text →
    ∃ v, ((Codec.mk config.secretKey config.tzAware).decode
      (.ofName (ownOr type config.cursorType)) (.str text)).result = .ok v

/-- The checks in their order, each with what a request that does not pass is refused for. -/
def faults : List (Option Failure) :=
  [Limit.fault? (request.size config),
    Field.fault? config.cursorField,
    Field.fault? (ownOr field config.cursorField),
    (request.filtered config).findSome? fun f => Field.fault? f.1,
    ((request.filtered config).map Clause.ofFilter).findSome?
      (Clause.fault? config.strictOperators),
    Limit.fault? (config.clamp (request.size config)),
    (Codec.mk config.secretKey config.tzAware).fault? (.ofName (ownOr type config.cursorType))
      request.bound]

/-- A request passes all checks exactly if none of them is at fault. -/
theorem admits_iff :
    Admits config field type request ↔ (faults config field type request).findSome? id = none := by
  have hoperators : (config.strictOperators = true → ∀ f ∈ request.filtered config,
      ∀ name operator operand, Clause.ofFilter f = .pattern name operator operand →
        ∃ mode, MatchMode.ofValue? operator = some mode) ↔
      ∀ f ∈ request.filtered config, Clause.fault? config.strictOperators (Clause.ofFilter f) = none := by
    simp only [Clause.fault?_eq_none]
    exact ⟨fun h f hf hstrict => h hstrict f hf, fun h hstrict f hf => h f hf hstrict⟩
  -- being admitted is having none of the faults, one condition for each
  simp only [faults, List.findSome?_eq_none_iff, List.forall_mem_cons, id, Limit.fault?_eq_none,
    Field.fault?_eq_none, Codec.fault?_eq_none, List.forall_mem_map, ← hoperators]
  constructor
  · rintro ⟨hsize, hconfigured, hfield, hfilters, hoperators, hclamped, hcursor⟩
    exact ⟨hsize, hconfigured, hfield, hfilters, hoperators, hclamped, hcursor, nofun⟩
  · rintro ⟨hsize, hconfigured, hfield, hfilters, hoperators, hclamped, hcursor, -⟩
    exact ⟨hsize, hconfigured, hfield, hfilters, hoperators, hclamped, hcursor⟩

/-- A request that is at fault for something is not admitted. -/
theorem not_admits_of_fault {fault : Failure}
    (h : (faults config field type request).findSome? id = some fault) :
    ¬ Admits config field type request := by
  rw [admits_iff, h]
  exact Option.some_ne_none fault

/-! ## Answers -/

/-- The session of a request that passes the checks of its start. -/
def opened : Session where
  config := config
  request := request
  order := Session.orderOf request
  limit := config.clamp (request.size config)
  field := ownOr field config.cursorField
  kind := .ofName (ownOr type config.cursorType)
  cursor := request.bound

/-- Starting a session is checking its size, the configured field, and the field that is used. -/
theorem session_ofTexts {value : Value} {checked : Request}
    (hChecked : Request.ofValue value = .ok checked) : (ofTexts config field type).session value = do
      let _ ← Limit.validate (.int (checked.size config))
      let _ ← Field.validate (.str config.cursorField)
      let _ ← Field.validate (.str (ownOr field config.cursorField))
      return opened config field type checked := by
  rw [session, show (ofTexts config field type).config = config from rfl, Session.start_eq, hChecked,
    except_ok_bind, Session.ofRequest, Session.requestedSize_eq, Session.boundOf_eq,
    Session.clampLimit]
  -- a check that fails ends both sides, and one that passes returns what it was given
  cases hlimit : Limit.validate (.int (checked.size config)) with
  | error f => rfl
  | ok limit =>
    cases hname : Field.validate (.str config.cursorField) with
    | error f => rfl
    | ok name =>
      obtain ⟨rfl, -⟩ := Limit.validate_eq_ok hlimit
      simp only [except_ok_bind, except_pure, Session.setCursor, ofTexts, orConfigured_ofOption]
      cases hfield : Field.validate (.str (ownOr field config.cursorField)) with
      | error f => rfl
      | ok own =>
        obtain rfl := Value.str.inj (Field.validate_eq_ok hfield)
        rfl

section Answer

variable {config field type} {value : Value} {checked : Request}
  (hChecked : Request.ofValue value = .ok checked)
  (hSize : Decimal.fits (checked.size config) = true)
  (hGreatest : ∀ m ∈ config.maxPageSize, Decimal.fits m = true)
  (hFilters : ∀ filters ∈ checked.filters, ∀ f ∈ filters, f.2.writable = true)

include hSize hGreatest hFilters

/-- The pipeline of the session is at fault for the filters, the clamped size or the cursor. -/
theorem hasFault_pipeline (stages : Option (List Value)) :
    HasFault ((((checked.filtered config).findSome? fun f => Field.fault? f.1).or
        (((checked.filtered config).map Clause.ofFilter).findSome?
          (Clause.fault? config.strictOperators))).or
        ((Limit.fault? (config.clamp (checked.size config))).or
          ((Codec.mk config.secretKey config.tzAware).fault?
            (.ofName (ownOr type config.cursorType)) checked.bound)))
      ((opened config field type checked).pipeline (.ofOption .list stages) false).result := by
  have hfiltered : ∀ f ∈ checked.filtered config, f.2.writable = true := by
    intro f hf
    rw [Request.filtered, List.mem_filter] at hf
    cases hfilters : checked.filters with
    | none => simp [hfilters] at hf
    | some filters => exact hFilters filters hfilters f (by simpa [hfilters] using hf.1)
  -- the filters are read and compiled first, and only then the stages are built
  rw [Session.pipeline]
  refine HasFault.bind_outcome ?_ fun expression _ => ?_
  · refine HasFault.bind_outcome (Selection.hasFault_parse config checked) fun spec hspec => ?_
    have hclauses := Selection.clauses_of_parse hspec
    have hcompile := (opened config field type checked).compiler.hasFault_compile rfl hfiltered spec
      hclauses
    exact hcompile.bind_ok fun _ _ => ⟨_, rfl⟩
  · exact Pipeline.hasFault_build _ _ _ (checked.bound_ne_empty) _
      (config.fits_clamp hSize hGreatest) expression stages

include hChecked

/-- Up to the executor, a request is at fault for the first check that it does not pass. -/
theorem hasFault_request (stages : Option (List Value)) :
    HasFault ((faults config field type checked).findSome? id)
      ((ofTexts config field type).session value >>= fun s =>
        (s.pipeline (.ofOption .list stages) false).result) := by
  rw [session_ofTexts config field type hChecked]
  simp only [bind_assoc, pure_bind, faults, findSome?_cons_or, id, List.findSome?_nil, Option.or_none]
  refine (Limit.hasFault_validate hSize).bind fun _ _ => ?_
  refine (Field.hasFault_validate _).bind fun _ _ => (Field.hasFault_validate _).bind fun _ _ => ?_
  -- compiling the filters is one step of the pipeline, with names before operators in it
  rw [← Option.or_assoc]
  exact hasFault_pipeline hSize hGreatest hFilters stages

end Answer

/-- The executor runs once, on the pipeline of the session, or the request ends before it. -/
theorem fetch_cases (r : Repository) (request stages : Value)
    (execute : Pipeline → Except Failure Value) :
    (∃ s p, r.session request = .ok s ∧ (s.pipeline stages false).result = .ok p ∧
      (r.fetch request stages execute).calls = [p]) ∨
    ∃ f, (r.session request >>= fun s => (s.pipeline stages false).result) = .error f ∧
      (r.fetch request stages execute).calls = [] ∧
      (r.fetch request stages execute).page.result = .error f := by
  unfold fetch
  cases hsession : r.session request with
  | error f => exact Or.inr ⟨f, rfl, rfl, rfl⟩
  | ok s =>
    simp only [except_ok_bind]
    cases hpipeline : (s.pipeline stages false).result with
    | error f => exact Or.inr ⟨f, rfl, rfl, rfl⟩
    | ok p => exact Or.inl ⟨s, p, rfl, hpipeline, rfl⟩

/-- **Which requests reach the executor**, for a checked request whose sizes and filter values
have texts, in a repository whose own cursor field and type are texts where it has them. The
executor runs exactly if the request passes all checks, and then once, on the pipeline that the
session of the request compiles. Otherwise it does not run, and the request is refused for the
first check in their order that it does not pass. -/
theorem fetch_runs (config : Config) (field type : Option String) {value : Value}
    {checked : Request} (hChecked : Request.ofValue value = .ok checked)
    (hSize : Decimal.fits (checked.size config) = true)
    (hGreatest : ∀ m ∈ config.maxPageSize, Decimal.fits m = true)
    (hFilters : ∀ filters ∈ checked.filters, ∀ f ∈ filters, f.2.writable = true)
    (stages : Option (List Value)) (execute : Pipeline → Except Failure Value) :
    let answer := (ofTexts config field type).fetch value (.ofOption .list stages) execute
    (answer.calls.length = 1 ↔ Admits config field type checked) ∧
    (Admits config field type checked → ∃ s p,
      (ofTexts config field type).session value = .ok s ∧
      (s.pipeline (.ofOption .list stages) false).result = .ok p ∧ answer.calls = [p]) ∧
    (¬ Admits config field type checked → ∃ f,
      (faults config field type checked).findSome? id = some f ∧
      answer.calls = [] ∧ answer.page.result = .error f) := by
  intro answer
  have hfault : HasFault ((faults config field type checked).findSome? id) _ :=
    hasFault_request hChecked hSize hGreatest hFilters stages
  rw [admits_iff]
  obtain ⟨s, p, hsession, hpipeline, hcalls⟩ | ⟨f, hrefused, hcalls, hpage⟩ :=
    (ofTexts config field type).fetch_cases value (.ofOption .list stages) execute
  · -- a request that has a pipeline is at fault for nothing
    have hnone : (faults config field type checked).findSome? id = none := by
      rw [hsession, except_ok_bind, hpipeline] at hfault
      cases hfirst : (faults config field type checked).findSome? id with
      | none => rfl
      | some f => rw [hfirst] at hfault; cases hfault
    have hlength : answer.calls.length = 1 := congrArg List.length hcalls
    exact ⟨iff_of_true hlength hnone, fun _ => ⟨s, p, hsession, hpipeline, hcalls⟩,
      fun hsome => absurd hnone hsome⟩
  · -- and the failure of one that has none is its first fault
    have hsome : (faults config field type checked).findSome? id = some f := by
      rw [hrefused] at hfault
      cases hfirst : (faults config field type checked).findSome? id with
      | none => rw [hfirst] at hfault; obtain ⟨a, ha⟩ := hfault; cases ha
      | some f' => rw [hfirst] at hfault; rw [Except.error.inj hfault]
    have hlength : answer.calls.length ≠ 1 := by
      rw [show answer.calls = [] from hcalls]
      exact Nat.zero_ne_one
    have hnone : (faults config field type checked).findSome? id ≠ none := by
      rw [hsome]
      exact Option.some_ne_none f
    exact ⟨iff_of_false hlength hnone, fun hadmits => absurd hadmits hnone,
      fun _ => ⟨f, hsome, hcalls, hpage⟩⟩

/-- A configuration that refuses unknown operators. -/
def strictConfig : Config := { strictOperators := true, maxPageSize := some 20 }

/-- Five open documents, forward from the start. The size and the cursor for the other direction
do not count. -/
def fiveOpen : Request :=
  { first := some 5, last := some 0, before := some "yesterday",
    filters := some [("status", .str "open")] }

/-- An unsafe name, beside a number in the place of a specification. -/
def wrongTwice : Request :=
  { last := some 3, filters := some [("rank", .int 5), ("$where", .str "open")] }

/-- A cursor that is no date, on the side that the request starts from. -/
def fromYesterday : Request :=
  { last := some 3, before := some "yesterday", after := some "1735776000000" }

/-- The executor runs for the first request. The second one is refused for the unsafe name, as
names are checked before operators, and the third one for its cursor. -/
theorem fetch_runs_strictConfig :
    Request.ofValue fiveOpen.toValue = .ok fiveOpen ∧
    Request.ofValue wrongTwice.toValue = .ok wrongTwice ∧
    Request.ofValue fromYesterday.toValue = .ok fromYesterday ∧
    ((ofTexts strictConfig none none).fetch fiveOpen.toValue .null fun _ => .ok .null).calls.length
      = 1 ∧
    ((ofTexts strictConfig none none).fetch wrongTwice.toValue .null fun _ => .ok .null).calls = [] ∧
    ((ofTexts strictConfig none none).fetch wrongTwice.toValue .null
        fun _ => .ok .null).page.result =
      .error (.engine (Field.refusal "$where" .operatorLike)) ∧
    ((ofTexts strictConfig none none).fetch fromYesterday.toValue .null
        fun _ => .ok .null).page.result =
      .error (.engine (Codec.refusal (.str "yesterday") .date "not a timestamp")) := by
  have hopen : Request.ofValue fiveOpen.toValue = .ok fiveOpen := rfl
  have hwrong : Request.ofValue wrongTwice.toValue = .ok wrongTwice := rfl
  have hfrom : Request.ofValue fromYesterday.toValue = .ok fromYesterday := rfl
  have hgreatest : ∀ m ∈ strictConfig.maxPageSize, Decimal.fits m = true := by decide
  have hopenTexts : ∀ filters ∈ fiveOpen.filters, ∀ f ∈ filters, f.2.writable = true := by
    simp [fiveOpen, Value.writable]
  have hwrongTexts : ∀ filters ∈ wrongTwice.filters, ∀ f ∈ filters, f.2.writable = true := by
    have hfive : Decimal.fits 5 = true := by decide
    rintro _ ⟨⟩ f hf
    rcases List.mem_cons.mp hf with rfl | hf
    · exact hfive
    · rw [List.mem_singleton.mp hf]
      rfl
  have hfromTexts : ∀ filters ∈ fromYesterday.filters, ∀ f ∈ filters, f.2.writable = true := nofun
  obtain ⟨hcalls, -, -⟩ := fetch_runs strictConfig none none hopen (by decide) hgreatest hopenTexts
    none fun _ => .ok .null
  obtain ⟨-, -, hrefused⟩ := fetch_runs strictConfig none none hwrong (by decide) hgreatest
    hwrongTexts none fun _ => .ok .null
  obtain ⟨-, -, hstray⟩ := fetch_runs strictConfig none none hfrom (by decide) hgreatest
    hfromTexts none fun _ => .ok .null
  have hadmits : Admits strictConfig none none fiveOpen := (admits_iff ..).mpr rfl
  -- the other two are refused for the first fault of each
  have hname : (faults strictConfig none none wrongTwice).findSome? id =
      some (.engine (Field.refusal "$where" .operatorLike)) := rfl
  have hcursor : (faults strictConfig none none fromYesterday).findSome? id =
      some (.engine (Codec.refusal (.str "yesterday") .date "not a timestamp")) := rfl
  obtain ⟨f, hf, hnone, hpage⟩ := hrefused (not_admits_of_fault _ _ _ _ hname)
  obtain rfl := Option.some.inj (hname.symm.trans hf)
  obtain ⟨g, hg, -, hpageStray⟩ := hstray (not_admits_of_fault _ _ _ _ hcursor)
  obtain rfl := Option.some.inj (hcursor.symm.trans hg)
  exact ⟨hopen, hwrong, hfrom, hcalls.mpr hadmits, hnone, hpage, hpageStray⟩

end Repository

end Keyset
