import Keyset.Proofs.Session.Run

/-!
# Keyset — the page size of a session

The size that a request asks for is checked when its session starts, and is clamped to the
greatest configured size afterwards. The clamped size is not checked again: it is positive
unless the greatest size is not, and then the session starts all the same, and whatever needs
its size refuses it.

* `Config.clamp` — a size under the greatest one.
* `clampLimit_int` — how checking and clamping a size ends.
* `Session.NeverRefusesSize` — no pipeline and no metadata are ever refused for the size.
* `Session.start_limit` — the size of a session, and what it is worth.
-/

namespace Keyset

/-! ## Sizes -/

/-- A page size that has a text is positive, or is refused. -/
theorem Limit.validate_int {size : Int} (h : Decimal.fits size = true) :
    validate (.int size) =
      if 0 < size then .ok size else .error (.engine (.invalidLimit (.int size))) := by
  rw [validate]
  split
  · rfl
  · exact raise_invalidLimit h

/-- A page size under the greatest one, if there is one. -/
def Config.clamp (config : Config) (size : Int) : Int :=
  match config.maxPageSize with
  | some m => min size m
  | none => size

section Clamp

variable (config : Config) {size : Int}

theorem Config.clamp_le : config.clamp size ≤ size := by
  unfold clamp
  split
  · exact Int.min_le_left ..
  · exact Int.le_refl _

theorem Config.clamp_le_greatest : ∀ m ∈ config.maxPageSize, config.clamp size ≤ m := by
  intro m hm
  rw [clamp, hm]
  exact Int.min_le_right ..

/-- A positive size stays positive unless the greatest one is not. -/
theorem Config.one_le_clamp_iff (h : 0 < size) :
    1 ≤ config.clamp size ↔ ∀ m ∈ config.maxPageSize, 1 ≤ m := by
  unfold clamp
  cases config.maxPageSize with
  | none => exact iff_of_true h (by simp)
  | some m =>
    simp only [Option.mem_some_iff, forall_eq']
    omega

/-- A clamped size has a text. -/
theorem Config.fits_clamp (hSize : Decimal.fits size = true)
    (hGreatest : ∀ m ∈ config.maxPageSize, Decimal.fits m = true) :
    Decimal.fits (config.clamp size) = true := by
  unfold clamp
  split
  · next m hm =>
    rcases Int.le_total size m with hle | hle
    · rwa [Int.min_eq_left hle]
    · rw [Int.min_eq_right hle]
      exact hGreatest m hm
  · exact hSize

/-- A size is clamped once it is checked. -/
theorem Session.clampLimit_int (h : Decimal.fits size = true) :
    clampLimit config (.int size) =
      if 0 < size then .ok (config.clamp size)
      else .error (.engine (.invalidLimit (.int size))) := by
  rw [clampLimit, Limit.validate_int h]
  split <;> rfl

end Clamp

namespace Session

/-! ## Steps that need the size -/

/-- Counters that are refused are no error of the engine. -/
theorem onlyRaises_countsOf {P : EngineError → Prop} (counts : Option Value)
    (named : List (String × Value)) : OnlyRaises P (countsOf counts named) := by
  unfold countsOf
  dsimp only
  split
  · intro e he
    cases he
  · split <;> exact .run _

/-- Metadata is refused for the page size only. -/
theorem onlyRaises_metadata {P : EngineError → Prop} {s : Session}
    (hLimit : OnlyRaises P (Limit.validate (.int s.limit))) (counts : Counts) :
    OnlyRaises P (s.metadata counts).result := by
  rw [result_metadata]
  by_cases hsize : 0 < s.limit
  · -- with the size checked, only a page number can still be out of range
    obtain ⟨info, hinfo⟩ | hinfo := Metrics.compute_int_cases hsize counts.total
      (if s.cursor.isSome then counts.cursored else counts.total) counts.current s.order
    · rw [hinfo]
      exact .ok info
    · rw [hinfo]
      intro e he
      cases he
  · rw [Metrics.compute]
    refine .bind hLimit fun limit hlimit => ?_
    exact absurd (Limit.validate_eq_ok hlimit).2 hsize

/-- Whether a step computes a pipeline or metadata. -/
def Step.computes : Step → Bool
  | .pipeline .. => true
  | .setPageInfo .. => true
  | _ => false

/-- At a positive page size no computation refuses the size. -/
theorem onlyRaises_apply {s : Session} (hLimit : 0 < s.limit) {step : Step}
    (hStep : step.computes = true) : OnlyRaises (·.kind ≠ .invalidLimit) (s.apply step).2.result := by
  -- the limit of the session is positive and passes, so that nothing else reports a page size
  have hvalidate : OnlyRaises (·.kind ≠ .invalidLimit) (Limit.validate (.int s.limit)) := by
    rw [Limit.validate, if_pos hLimit]
    exact .ok _
  cases step with
  | pipeline stages reverse =>
    refine .bind_outcome (.bind_outcome ?_ fun expression _ => ?_) fun _ _ => .ok _
    · refine (s.compiler.onlyRaises_compileRaw _).mono ?_
      rintro e (⟨name, fault, rfl⟩ | ⟨name, operator, rfl, -⟩) hkind <;> cases hkind
    · refine Pipeline.onlyRaises_build hvalidate ?_ reverse
      rintro e ⟨cursor, reason, rfl, -⟩ hkind
      cases hkind
  | setPageInfo counts named =>
    refine .bind_outcome (.bind_outcome (onlyRaises_countsOf counts named) fun c _ => ?_)
      fun _ _ => .ok _
    exact onlyRaises_metadata hvalidate c
  | _ => cases hStep

/-- No pipeline and no metadata are ever refused for the page size, whatever steps are done
before them. -/
def NeverRefusesSize (s : Session) : Prop :=
  ∀ (steps : List Step) (step : Step), step.computes = true →
    OnlyRaises (·.kind ≠ .invalidLimit) ((s.afterSteps steps).apply step).2.result

/-- A session never refuses its size exactly if the size is positive. -/
theorem neverRefusesSize_iff {s : Session} (hFits : Decimal.fits s.limit = true) :
    s.NeverRefusesSize ↔ 1 ≤ s.limit := by
  constructor
  · intro hnever
    by_contra hlimit
    -- the metadata of no documents is enough to see the refusal
    have hrefused : (s.apply (.setPageInfo none [])).2.result =
        .error (.engine (.invalidLimit (.int s.limit))) := by
      have hmetadata : (s.metadata {}).result = .error (.engine (.invalidLimit (.int s.limit))) := by
        rw [result_metadata, Metrics.compute, Limit.validate_int hFits, if_neg (by omega)]
        rfl
      change (Answer.pageInfo <$> (s.metadata {} : Outcome PageInfo)).result = _
      rw [map_eq_pure_bind, Outcome.result_bind, hmetadata]
      rfl
    exact hnever [] (.setPageInfo none []) rfl _ hrefused rfl
  · -- the size of the session is the same after any steps
    intro hlimit steps step hstep
    refine onlyRaises_apply ?_ hstep
    rw [(s.sameRequest_afterSteps steps).limit]
    omega

/-! ## The start -/

/-- **The page size of a session**, for a checked request whose sizes have a text, at a cursor
field that is safe. A size that is not positive is refused. For any other one there is a
session, and its size exceeds neither the requested size nor the greatest one. It is positive
exactly if the greatest size is, or if there is none; and exactly then no pipeline and no
metadata of the session are ever refused for the size. -/
theorem start_limit {config : Config} {request : Value} {checked : Request}
    (hChecked : Request.ofValue request = .ok checked)
    (hField : Field.nameFault? config.cursorField = none)
    (hSize : Decimal.fits (checked.size config) = true)
    (hGreatest : ∀ m ∈ config.maxPageSize, Decimal.fits m = true) :
    (checked.size config ≤ 0 →
      start config request =
        .error (.engine (.invalidLimit (.int (checked.size config))))) ∧
    (0 < checked.size config → ∃ s, start config request = .ok s ∧
      s.limit ≤ checked.size config ∧ (∀ m ∈ config.maxPageSize, s.limit ≤ m) ∧
      (1 ≤ s.limit ↔ ∀ m ∈ config.maxPageSize, 1 ≤ m) ∧
      (s.NeverRefusesSize ↔ ∀ m ∈ config.maxPageSize, 1 ≤ m)) := by
  rw [start_eq, hChecked, except_ok_bind, ofRequest, requestedSize_eq, clampLimit_int config hSize]
  constructor
  · intro hnonpositive
    rw [if_neg (by omega)]
    rfl
  · intro hpositive
    rw [if_pos hpositive, except_ok_bind, Field.validate_str, hField]
    -- the greatest page size only ever lowers the limit
    have hone := config.one_le_clamp_iff hpositive
    refine ⟨_, rfl, config.clamp_le, config.clamp_le_greatest, hone, ?_⟩
    exact (neverRefusesSize_iff (config.fits_clamp hSize hGreatest)).trans hone

/-- Fifty documents are asked for where twenty are the most. The size for the other direction does
not count. -/
theorem start_limit_clamped :
    Request.ofValue (.object [("first", .int 50), ("last", .int 0)]) =
      .ok { first := some 50, last := some 0 } ∧
    Field.nameFault? "createdAt" = none ∧ Decimal.fits 50 = true ∧
    (∀ m ∈ some (20 : Int), Decimal.fits m = true) ∧
    ∃ s, start { maxPageSize := some 20 } (.object [("first", .int 50), ("last", .int 0)]) = .ok s ∧
      s.limit ≤ 20 ∧ 1 ≤ s.limit ∧ s.NeverRefusesSize := by
  have hchecked : Request.ofValue (.object [("first", .int 50), ("last", .int 0)]) =
      .ok { first := some 50, last := some 0 } := rfl
  have hfits : ∀ m ∈ some (20 : Int), Decimal.fits m = true := by decide
  obtain ⟨s, hs, -, hmost, hone, hnever⟩ :=
    (@start_limit { maxPageSize := some 20 } _ _ hchecked (by decide) (by decide) hfits).2 (by decide)
  exact ⟨hchecked, by decide, by decide, hfits, s, hs, hmost 20 rfl, hone.mpr (by decide),
    hnever.mpr (by decide)⟩

/-- Where no documents are the most, the session of a request for five has no positive size, and
its pipeline is refused for that. -/
theorem exists_start_refusing_size :
    ∃ s, start { maxPageSize := some 0 } (.object [("first", .int 5)]) = .ok s ∧ ¬ 1 ≤ s.limit ∧
      (s.apply (.pipeline .null false)).2.result = .error (.engine (.invalidLimit (.int 0))) :=
  ⟨_, rfl, by decide, rfl⟩

end Session

end Keyset
