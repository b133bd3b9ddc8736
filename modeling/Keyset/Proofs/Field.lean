import Keyset.Field
import Keyset.Proofs.Error

/-!
# Keyset — in which documents a field can be looked for

A field is looked for in whatever stands in the place of a document. A mapping is asked for it.
A text and a sequence are searched for its name first, and are indexed by the name if they hold
it, which no name can do; and what has no elements, or none that could be a name, cannot be
searched at all.

* `Field.searchable` — the values in which a field can be looked for.
* `Field.resolve_str` — looking for a field gives a value, or fails for its operands.
-/

namespace Keyset.Field

/-- Whether a field can be looked for in a value by its name. -/
def searchable (name : String) : Value → Bool
  | .mapping _ | .record .. => true
  | .str s => !occursIn name.toList s.toList
  | .list items | .tuple items => !Value.hasItem items (.str name)
  | _ => false

/-- A record has no text among its elements. -/
theorem hasItem_fields (fields : List (String × Value)) (name : String) :
    Value.hasItem (fields.map fun f => .tuple [.str f.1, f.2]) (.str name) = false := by
  rw [Value.hasItem, List.any_eq_false]
  intro item hitem
  obtain ⟨f, -, rfl⟩ := List.mem_map.mp hitem
  simp [Value.equal, Value.sameKey, Value.asInteger?]

theorem search_str (document : Value) (items : List Value) (name : String) :
    search document items (.str name) =
      if Value.hasItem items (.str name) then .error .wrongType
      else .ok (descend (parts name) document) := rfl

/-- Looking for a field gives a value where it can be looked for, and fails elsewhere. -/
theorem resolve_str (document : Value) (name : String) :
    if searchable name document then ∃ v, resolve document (.str name) = .ok v
    else resolve document (.str name) = .error .wrongType := by
  -- a collection is searched for the name, and only one without it can be read
  have hsearch (items : List Value) : if !Value.hasItem items (.str name) then
      ∃ v, search document items (.str name) = .ok v
      else search document items (.str name) = .error .wrongType := by
    rw [search_str]
    cases Value.hasItem items (.str name) with
    | true => rfl
    | false => exact ⟨_, rfl⟩
  cases document with
  | mapping entries =>
    change ∃ v, resolve (.mapping entries) (.str name) = .ok v
    rw [resolve, if_neg (by simp [Value.hashable])]
    cases Entries.get? entries (.str name) with
    | some v => exact ⟨v, rfl⟩
    | none => exact ⟨_, rfl⟩
  | record kind fields =>
    change ∃ v, resolve (.record kind fields) (.str name) = .ok v
    -- the fields of a record are no items, so that the search finds nothing
    rw [resolve, hasItem_fields]
    exact ⟨_, rfl⟩
  | str s =>
    rw [searchable, resolve]
    cases occursIn name.toList s.toList with
    | true => rfl
    | false => exact ⟨_, rfl⟩
  | list items => exact hsearch items
  | tuple items => exact hsearch items
  | _ => rfl

theorem exists_resolve {document : Value} {name : String} (h : searchable name document = true) :
    ∃ v, resolve document (.str name) = .ok v := by
  have hresolve := resolve_str document name
  rwa [if_pos h] at hresolve

theorem resolve_eq_error {document : Value} {name : String}
    (h : searchable name document = false) : resolve document (.str name) = .error .wrongType := by
  have hresolve := resolve_str document name
  rwa [h, if_neg Bool.false_ne_true] at hresolve

/-- What is found in a writable mapping is writable, at the end of a path as well. -/
theorem writable_resolve {entries : List (Value × Value)} {name : String} {v : Value}
    (h : (Value.mapping entries).writable = true)
    (hv : resolve (.mapping entries) (.str name) = .ok v) : v.writable = true := by
  -- every part of a writable document is writable, and so is what stands in for a missing one
  have hdescend (path : List String) :
      ∀ document : Value, document.writable = true → (descend path document).writable = true := by
    induction path with
    | nil => exact fun _ hdocument => hdocument
    | cons part rest ih =>
      intro document hdocument
      cases document with
      | mapping entries =>
        have hpart := Value.writable_entry hdocument part
        rw [descend]
        cases hentry : Entries.field? entries part with
        | some u =>
          rw [hentry] at hpart
          exact ih u hpart
        | none => rfl
      | _ => rfl
  have hwhole : ((Entries.get? entries (.str name)).getD .null).writable = true :=
    Value.writable_entry h name
  rw [resolve, if_neg (by simp [Value.hashable])] at hv
  -- a field of the whole name comes before the path
  cases hentry : Entries.get? entries (.str name) with
  | some u =>
    rw [hentry] at hv hwhole
    obtain rfl := Except.ok.inj hv
    exact hwhole
  | none =>
    rw [hentry] at hv
    obtain rfl := Except.ok.inj hv
    exact hdescend _ _ h

/-- Looking for a field raises no error of the engine. -/
theorem onlyRaises_resolve {P : EngineError → Prop} (document : Value) (name : String) :
    OnlyRaises P (resolve document (.str name)) := by
  cases h : searchable name document with
  | true =>
    obtain ⟨v, hv⟩ := exists_resolve h
    rw [hv]
    exact .ok v
  | false =>
    rw [resolve_eq_error h]
    exact nofun

end Keyset.Field
