import Keyset.Aggregate
import Keyset.Proofs.Error

/-!
# Keyset — how reading a facet document ends

An executor may return anything. What it returns is read branch by branch: the documents first,
the counters after them. A value of another shape is refused as the error of the executor,
with one exception: a counter that is no integer is written into the refusal, and one that
has no text makes that fail.

* `Aggregate.IsFacet` — the values from which counts are read.
* `Aggregate.Unreportable` — a counter that cannot be refused.
* `Aggregate.Ends` — the three ends of a reading, and `Ends.bind` for two in a row.
* `Aggregate.ends_counts` — how reading the counts ends.
-/

namespace Keyset.Aggregate

/-! ## Shapes -/

/-- What stands under a name of a mapping; null if nothing does. -/
def under (entries : List (Value × Value)) (name : String) : Value :=
  (Entries.field? entries name).getD .null

/-- A counter: an integer, or nothing. -/
def IsCounter (v : Value) : Prop := v.truthy = false ∨ ∃ n, v = .int n

/-- A counting branch: its first element is a record with a counter, or there is nothing. -/
def IsCount (v : Value) : Prop :=
  v.truthy = false ∨ ∃ record rest, v = .list (.mapping record :: rest) ∧
    IsCounter (under record "counter")

/-- The documents of a page: a list of anything, or nothing. -/
def IsDocuments (v : Value) : Prop := v.truthy = false ∨ ∃ items, v = .list items

/-- The shape of a facet document. -/
def IsFacet (result : Value) : Prop :=
  ∃ es, result = .mapping es ∧ IsDocuments (under es "current") ∧ IsCount (under es "total") ∧
    IsCount (under es "cursored")

/-- A counting branch whose counter is no integer, and has no text in which that could be
said. -/
def Unreportable (v : Value) : Prop :=
  ∃ record rest, v = .list (.mapping record :: rest) ∧ ¬ IsCounter (under record "counter") ∧
    (under record "counter").writable = false

/-- Reading the counts of a result comes to a counter that cannot be refused. -/
def CounterEscapes (result : Value) : Prop :=
  ∃ es, result = .mapping es ∧ IsDocuments (under es "current") ∧
    (Unreportable (under es "total") ∨
      (IsCount (under es "total") ∧ Unreportable (under es "cursored")))

theorem Unreportable.not_isCount {v : Value} (h : Unreportable v) : ¬ IsCount v := by
  obtain ⟨record, rest, rfl, hcounter, -⟩ := h
  rintro (hempty | ⟨record', rest', hv, hcounter'⟩)
  · simp [Value.truthy] at hempty
  · cases hv
    exact hcounter hcounter'

/-- Where all integers are within the digit limit, every counter can be refused. -/
theorem not_counterEscapes_of_writable {result : Value} (h : result.writable = true) :
    ¬ CounterEscapes result := by
  have hbranch (es : List (Value × Value)) (hes : (Value.mapping es).writable = true)
      (name : String) : ¬ Unreportable (under es name) := by
    rintro ⟨record, rest, hv, -, hunwritable⟩
    have hlist : (under es name).writable = true := Value.writable_entry hes name
    rw [hv, Value.writable, Value.writableAll_iff] at hlist
    have hcounter : (under record "counter").writable = true :=
      Value.writable_entry (hlist _ (List.mem_cons_self ..)) "counter"
    rw [hunwritable] at hcounter
    cases hcounter
  rintro ⟨es, rfl, -, hescapes | ⟨-, hescapes⟩⟩
  · exact hbranch es h _ hescapes
  · exact hbranch es h _ hescapes

/-! ## Reading -/

/-- A result that is refused as the error of the executor. -/
def Refused {α : Type} (r : Except Failure α) : Prop :=
  ∃ e : EngineError, r = .error (.engine e) ∧ e.kind = .invalidAggregate

section Refused

variable {α β : Type}

theorem refused_invalid (reason : String) (details : List (String × Value)) :
    Refused (invalid reason details : Except Failure α) :=
  ⟨_, raise_of_report rfl, rfl⟩

theorem Refused.bind {x : Except Failure α} (h : Refused x) (f : α → Except Failure β) :
    Refused (x >>= f) := by
  obtain ⟨e, rfl, hkind⟩ := h
  exact ⟨e, rfl, hkind⟩

end Refused

/-- How reading something ends: in a result if it has the shape that is asked for, as refused if it
has not, and with the failure of a text that cannot be written if it is one of those things that
cannot be refused. -/
inductive Ends {α : Type} (shape escapes : Prop) (x : Except Failure α) : Prop
  | ok (hShape : shape) (hHeld : ¬ escapes) (a : α) (h : x = .ok a)
  | refused (hShape : ¬ shape) (hHeld : ¬ escapes) (h : Refused x)
  | escapes (hShape : ¬ shape) (hEscapes : escapes) (h : x = .error (.value .writeLimit))

namespace Ends

variable {α β : Type} {shape escapes shape' escapes' : Prop} {x : Except Failure α}

/-- Of two readings in a row, the first one that goes wrong decides. -/
theorem bind {f : α → Except Failure β} (h : Ends shape escapes x)
    (hNext : ∀ a, x = .ok a → Ends shape' escapes' (f a)) :
    Ends (shape ∧ shape') (escapes ∨ shape ∧ escapes') (x >>= f) := by
  cases h with
  | ok hShape hHeld a hx =>
    rw [hx, except_ok_bind]
    cases hNext a hx with
    | ok hShape' hHeld' b hb => exact .ok ⟨hShape, hShape'⟩ (by simp [hHeld, hHeld']) b hb
    | refused hShape' hHeld' hb => exact .refused (by simp [hShape']) (by simp [hHeld, hHeld']) hb
    | escapes hShape' hEscapes' hb =>
      exact .escapes (by simp [hShape']) (Or.inr ⟨hShape, hEscapes'⟩) hb
  | refused hShape hHeld hx =>
    exact .refused (by simp [hShape]) (by simp [hShape, hHeld]) (hx.bind f)
  | escapes hShape hEscapes hx =>
    refine .escapes (by simp [hShape]) (Or.inl hEscapes) ?_
    rw [hx]
    rfl

/-- The same end, with its conditions in other words. -/
theorem of_iff (h : Ends shape escapes x) (hShape : shape ↔ shape')
    (hEscapes : escapes ↔ escapes') : Ends shape' escapes' x := by
  rwa [← hShape, ← hEscapes]

end Ends

/-- Documents are read from a mapping that has them. -/
theorem documents_of_isDocuments {es : List (Value × Value)} (h : IsDocuments (under es "current")) :
    ∃ items, documents (.mapping es) = .ok items ∧ (items = [] ∨ under es "current" = .list items) := by
  rw [documents, entries, except_ok_bind]
  rcases h with hempty | ⟨items, hitems⟩
  · unfold under at hempty ⊢
    split
    · next items hitems => exact ⟨items, rfl, Or.inr hitems⟩
    · rw [if_neg (by rw [hempty]; exact Bool.false_ne_true)]
      exact ⟨[], rfl, Or.inl rfl⟩
  · unfold under at hitems ⊢
    rw [hitems]
    exact ⟨items, rfl, Or.inr rfl⟩

/-- Documents are refused without being written out, so nothing escapes. -/
theorem ends_documents (es : List (Value × Value)) :
    Ends (IsDocuments (under es "current")) False (documents (.mapping es)) := by
  by_cases h : IsDocuments (under es "current")
  · obtain ⟨items, hitems, -⟩ := documents_of_isDocuments h
    exact .ok h not_false items hitems
  · refine .refused h not_false ?_
    rw [documents, entries, except_ok_bind]
    unfold IsDocuments under at h
    split
    · next items hitems => exact absurd (Or.inr ⟨items, hitems⟩) h
    · rw [if_pos (by simpa using fun hempty => h (Or.inl hempty))]
      exact refused_invalid ..

/-- How reading a counter ends. -/
theorem ends_counterOf (branch : String) (record : List (Value × Value)) :
    Ends (IsCounter (under record "counter"))
      (¬ IsCounter (under record "counter") ∧ (under record "counter").writable = false)
      (counterOf branch record) := by
  unfold counterOf under
  generalize (Entries.field? record "counter").getD .null = v
  have hok (h : IsCounter v) {x : Except Failure Int} {n : Int} (hx : x = .ok n) :
      Ends (IsCounter v) (¬ IsCounter v ∧ v.writable = false) x := .ok h (fun hnot => hnot.1 h) n hx
  split
  · next n => exact hok (Or.inr ⟨n, rfl⟩) rfl
  · next hint =>
    cases htruthy : v.truthy with
    | false => exact hok (Or.inl htruthy) rfl
    | true =>
      have hcounter : ¬ IsCounter v := by
        rintro (hempty | ⟨n, rfl⟩)
        · rw [htruthy] at hempty
          cases hempty
        · exact hint n rfl
      rw [if_pos rfl]
      -- the refusal shows the counter, so it needs the text of it
      cases hwritable : v.writable with
      | true =>
        obtain ⟨text, htext⟩ := v.writes_display.exists_ok hwritable
        rw [htext]
        exact .refused hcounter (by simp) (refused_invalid ..)
      | false =>
        rw [v.writes_display.eq_error hwritable]
        exact .escapes hcounter ⟨hcounter, rfl⟩ rfl

/-- How reading a counting branch ends. -/
theorem ends_counter (es : List (Value × Value)) (branch : String) :
    Ends (IsCount (under es branch)) (Unreportable (under es branch)) (counter es branch) := by
  unfold counter under
  generalize (Entries.field? es branch).getD .null = v
  dsimp only
  cases htruthy : v.truthy with
  | false => exact .ok (Or.inl htruthy) (fun h => h.not_isCount (Or.inl htruthy)) 0 rfl
  | true =>
    rw [Bool.not_true, if_neg Bool.false_ne_true]
    split
    · next record rest =>
      -- only the record that comes first counts
      refine (ends_counterOf branch record).of_iff ⟨fun h => Or.inr ⟨record, rest, rfl, h⟩, ?_⟩
        ⟨fun h => ⟨record, rest, rfl, h⟩, ?_⟩
      · rintro (hempty | ⟨_, _, ⟨⟩, hcounter⟩)
        · rw [htruthy] at hempty
          cases hempty
        · exact hcounter
      · rintro ⟨_, _, ⟨⟩, h⟩
        exact h
    · next hother =>
      refine .refused ?_ ?_ (refused_invalid ..)
      · rintro (hempty | ⟨record, rest, rfl, -⟩)
        · rw [htruthy] at hempty
          cases hempty
        · exact hother record rest rfl
      · rintro ⟨record, rest, rfl, -, -⟩
        exact hother record rest rfl

/-- **How reading the counts of a result ends.** A facet document has counts, and every other
value is refused as the error of the executor, unless it comes to a counter that cannot be. -/
theorem ends_counts (result : Value) :
    Ends (IsFacet result) (CounterEscapes result) (counts result) := by
  cases result with
  | mapping es =>
    -- documents come first, then the total, then the unread ones
    have hparts := (ends_documents es).bind fun items _ => (ends_counter es "total").bind
      fun total _ => (ends_counter es "cursored").bind fun cursored _ =>
        .ok trivial not_false (⟨total, cursored, items.length⟩ : Counts) rfl
    exact hparts.of_iff (by simp [IsFacet]) (by simp [CounterEscapes])
  | _ =>
    refine .refused ?_ ?_ (((refused_invalid _ _).bind _).bind _)
    · rintro ⟨es, hes, -⟩
      cases hes
    · rintro ⟨es, hes, -⟩
      cases hes

/-- The documents of a facet document, which are what stands under their name, or none. -/
theorem documents_of_counts {result : Value} {c : Counts} (h : counts result = .ok c) :
    ∃ es items, result = .mapping es ∧ documents result = .ok items ∧
      (items = [] ∨ under es "current" = .list items) := by
  cases ends_counts result with
  | ok hfacet =>
    obtain ⟨es, rfl, hdocuments, -, -⟩ := hfacet
    obtain ⟨items, hitems, hunder⟩ := documents_of_isDocuments hdocuments
    exact ⟨es, items, rfl, hitems, hunder⟩
  | refused _ _ hrefused =>
    obtain ⟨e, he, -⟩ := hrefused
    rw [he] at h
    cases h
  | escapes _ _ herror =>
    rw [herror] at h
    cases h

end Keyset.Aggregate
