import Keyset.Value.Key

/-!
# Keyset — text keys of mappings

Of all kinds of keys the texts are the plainest: a text is the same key as itself and as nothing
else. So a mapping that a value is put into under a text holds it there, and under every other text
what it held before.

* `Value.sameKey_str` — what is the same key as a text.
* `Entries.field?_put_self`, `Entries.field?_put_of_ne` — what a mapping holds after an update.
-/

namespace Keyset

theorem Value.sameKey_str {v : Value} {s : String} : v.sameKey (.str s) = true ↔ v = .str s := by
  cases v <;> simp [sameKey, asInteger?]

namespace Entries

theorem field?_cons_self (name : String) (v : Value) (rest : List (Value × Value)) :
    field? ((.str name, v) :: rest) name = some v := by
  simp [field?, get?, Value.sameKey_str.mpr rfl]

theorem field?_cons_of_ne {key : Value} {name : String} (h : key ≠ .str name) (v : Value)
    (rest : List (Value × Value)) : field? ((key, v) :: rest) name = field? rest name := by
  have hkey : key.sameKey (.str name) = false :=
    Bool.eq_false_iff.mpr fun hsame => h (Value.sameKey_str.mp hsame)
  simp [field?, get?, hkey]

/-- An update is found under its own key. -/
theorem field?_put_self (entries : List (Value × Value)) (name : String) (v : Value) :
    field? (put entries (.str name) v) name = some v := by
  induction entries with
  | nil => exact field?_cons_self name v []
  | cons e rest ih =>
    obtain ⟨key, w⟩ := e
    rw [put]
    split
    next hsame =>
      obtain rfl : key = .str name := Value.sameKey_str.mp hsame
      exact field?_cons_self name v rest
    next hsame =>
      rw [field?_cons_of_ne fun heq => hsame (Value.sameKey_str.mpr heq)]
      exact ih

/-- An update changes nothing under other keys. -/
theorem field?_put_of_ne (entries : List (Value × Value)) {name other : String}
    (h : other ≠ name) (v : Value) :
    field? (put entries (.str name) v) other = field? entries other := by
  have hne : Value.str name ≠ .str other := fun heq => h (Value.str.inj heq).symm
  induction entries with
  | nil => exact field?_cons_of_ne hne v []
  | cons e rest ih =>
    obtain ⟨key, w⟩ := e
    rw [put]
    split
    next hsame =>
      obtain rfl : key = .str name := Value.sameKey_str.mp hsame
      rw [field?_cons_of_ne hne, field?_cons_of_ne hne]
    next =>
      by_cases hkey : key = .str other
      · rw [hkey, field?_cons_self, field?_cons_self]
      · rw [field?_cons_of_ne hkey, field?_cons_of_ne hkey, ih]

end Entries

end Keyset
