import Keyset.Proofs.Outcome
import Keyset.Value.Key

/-!
# Keyset — which values have a text

A value has its two texts, the plain and the quoted one, unless some integer in it has more
digits than may be written. Where an error is to be reported, this decides between the error
and the failure of its report.

* `Value.writable` — all integers of a value are within the digit limit.
* `Value.writes_quoted`, `Value.writes_display` — writable values have their texts, and no
  others have.
* `Value.writable_entry` — what is found in a writable mapping is writable.
-/

namespace Keyset

/-- A result that is there exactly if a condition holds, and fails at the digit limit if not. -/
def WritesIf {α : Type} (condition : Bool) (r : Except ValueFault α) : Prop :=
  if condition then ∃ a, r = .ok a else r = .error .writeLimit

namespace WritesIf

variable {α β : Type} {b c : Bool} {r : Except ValueFault α}

theorem ok (a : α) : WritesIf true (.ok a) := ⟨a, rfl⟩

/-- Two results in a sequence are there if both are. -/
theorem bind {f : α → Except ValueFault β} (h : WritesIf b r) (hf : ∀ a, WritesIf c (f a)) :
    WritesIf (b && c) (r >>= f) := by
  cases b with
  | true =>
    obtain ⟨a, rfl⟩ := h
    exact hf a
  | false =>
    obtain rfl : r = .error .writeLimit := h
    rfl

/-- What is made of a result is there with it. -/
theorem map (h : WritesIf b r) (f : α → β) : WritesIf b (r >>= fun a => .ok (f a)) := by
  rw [← Bool.and_true b]
  exact h.bind fun a => ok (f a)

theorem exists_ok (h : WritesIf b r) (hb : b = true) : ∃ a, r = .ok a := by
  rwa [WritesIf, if_pos hb] at h

theorem eq_error (h : WritesIf b r) (hb : b = false) : r = .error .writeLimit := by
  rwa [WritesIf, if_neg (Bool.eq_false_iff.mp hb)] at h

end WritesIf

/-! ## Integers -/

/-- Whether an integer has no more digits than may be written. -/
def Decimal.fits (n : Int) : Bool := (Nat.toDigits 10 n.natAbs).length ≤ ValueFault.digitLimit

theorem Decimal.writes_render (n : Int) : WritesIf (fits n) (render n) := by
  have hlength : (toString n.natAbs).length = (Nat.toDigits 10 n.natAbs).length := by
    rw [Nat.toString_eq_ofList_toDigits, String.length_ofList]
  by_cases h : (Nat.toDigits 10 n.natAbs).length ≤ ValueFault.digitLimit
  · rw [fits, decide_eq_true h, render, hlength, if_neg (Nat.not_lt.mpr h)]
    exact .ok _
  · rw [fits, decide_eq_false h, render, hlength, if_pos (Nat.lt_of_not_le h)]
    rfl

namespace Value

/-! ## Values -/

mutual
/-- Whether all integers of a value are within the digit limit. -/
def writable : Value → Bool
  | .int n => Decimal.fits n
  | .list items => writableAll items
  | .tuple items => writableAll items
  | .mapping entries => writableEntries entries
  | .record _ fields => writableFields fields
  | _ => true

/-- Whether all values of a list are writable. -/
def writableAll : List Value → Bool
  | [] => true
  | v :: rest => v.writable && writableAll rest

/-- Whether all keys and values of a mapping are writable. -/
def writableEntries : List (Value × Value) → Bool
  | [] => true
  | (k, v) :: rest => k.writable && (v.writable && writableEntries rest)

/-- Whether all values of a record are writable. -/
def writableFields : List (String × Value) → Bool
  | [] => true
  | (_, v) :: rest => v.writable && writableFields rest
end

mutual
/-- The quoted text of a value fails at the digit limit only. -/
theorem writes_quoted : ∀ v : Value, WritesIf v.writable v.quoted
  | .null => .ok _
  | .bool _ => .ok _
  | .int n => Decimal.writes_render n
  | .float _ => .ok _
  | .str _ => .ok _
  | .bytes _ => .ok _
  | .datetime _ => .ok _
  | .date _ => .ok _
  | .list items => (writes_quotedAll items).map _
  | .tuple items => (writes_quotedAll items).map _
  | .mapping entries => (writes_quotedEntries entries).map _
  | .record _ fields => (writes_quotedFields fields).map _

theorem writes_quotedAll : ∀ items : List Value, WritesIf (writableAll items) (quotedAll items)
  | [] => .ok _
  | v :: rest => (writes_quoted v).bind fun _ => (writes_quotedAll rest).map _

theorem writes_quotedEntries :
    ∀ entries : List (Value × Value), WritesIf (writableEntries entries) (quotedEntries entries)
  | [] => .ok _
  | (k, v) :: rest =>
      (writes_quoted k).bind fun _ => (writes_quoted v).bind fun _ =>
        (writes_quotedEntries rest).map _

theorem writes_quotedFields :
    ∀ fields : List (String × Value), WritesIf (writableFields fields) (quotedFields fields)
  | [] => .ok _
  | (_, v) :: rest => (writes_quoted v).bind fun _ => (writes_quotedFields rest).map _
end

/-- So does the plain text. -/
theorem writes_display (v : Value) : WritesIf v.writable v.display := by
  cases v with
  | str s => exact .ok s
  | datetime t => exact .ok t.display
  | date d => exact .ok d.display
  | record kind fields => exact (writes_quotedFields fields).map _
  | _ => exact writes_quoted _

/-! ## Parts of values -/

theorem writableAll_iff {items : List Value} :
    writableAll items = true ↔ ∀ v ∈ items, v.writable = true := by
  induction items with
  | nil => simp [writableAll]
  | cons v rest ih => simp [writableAll, ih]

theorem writableEntries_iff {entries : List (Value × Value)} :
    writableEntries entries = true ↔
      ∀ e ∈ entries, e.1.writable = true ∧ e.2.writable = true := by
  induction entries with
  | nil => simp [writableEntries]
  | cons e rest ih => simp [writableEntries, ih, and_assoc]

theorem writableFields_iff {fields : List (String × Value)} :
    writableFields fields = true ↔ ∀ f ∈ fields, f.2.writable = true := by
  induction fields with
  | nil => simp [writableFields]
  | cons f rest ih => simp [writableFields, ih]

/-- What is found in a writable mapping is writable. -/
theorem writable_entry {entries : List (Value × Value)} (h : (mapping entries).writable = true)
    (name : String) : ((Entries.field? entries name).getD .null).writable = true := by
  cases hentry : Entries.field? entries name with
  | none => rfl
  | some v =>
    rw [Entries.field?, Entries.get?, Option.map_eq_some_iff] at hentry
    obtain ⟨e, he, rfl⟩ := hentry
    exact (writableEntries_iff.mp h e (List.mem_of_find?_eq_some he)).2

/-- What is found in a writable record is writable. -/
theorem writable_field {kind : RecordKind} {fields : List (String × Value)}
    (h : (record kind fields).writable = true) (name : String) :
    ((field? fields name).getD .null).writable = true := by
  cases hfield : field? fields name with
  | none => rfl
  | some v =>
    rw [field?, Option.map_eq_some_iff] at hfield
    obtain ⟨f, hf, rfl⟩ := hfield
    exact writableFields_iff.mp h f (List.mem_of_find?_eq_some hf)

end Value

end Keyset
