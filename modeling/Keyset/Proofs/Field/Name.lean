import Keyset.Field
import Keyset.Proofs.Outcome

/-!
# Keyset — safe names

A field name is refused by three tests in a row. What passes all of them is described here
without the tests: a text that is not empty, is no operator, and does not reach into an
object's internals.

* `Field.Safe` — the safe names.
* `Field.nameFault?_eq_none_iff` — nothing is at fault with a name exactly if it is safe.
-/

namespace Keyset.Field

/-- A name that is safe as a document key. -/
structure Safe (name : String) : Prop where
  nonempty : name ≠ ""
  no_operator : ¬ "$".toList <+: name.toList
  no_null : '\x00' ∉ name.toList
  no_token : ¬ "__proto__".toList <:+: name.toList
  not_reserved : name ≠ "constructor" ∧ name ≠ "prototype"

/-- The search for a text finds it wherever it stands. -/
theorem occursIn_iff {word cs : List Char} : occursIn word cs = true ↔ word <:+: cs := by
  induction cs with
  | nil => simp [occursIn]
  | cons c rest ih => simp [occursIn, ih, List.infix_cons_iff]

/-- An operator starts with a dollar sign. -/
theorem head?_eq_dollar_iff {cs : List Char} : cs.head? = some '$' ↔ "$".toList <+: cs := by
  cases cs with
  | nil => simp
  | cons c rest => simp [List.cons_prefix_cons, eq_comm]

theorem nameFault?_eq_none_iff {name : String} : nameFault? name = none ↔ Safe name := by
  have hnil : name.toList = [] ↔ name = "" := String.toList_eq_nil_iff
  unfold nameFault?
  dsimp only
  -- one test after the other; the conditions are read as propositions on the way
  split
  · next hempty =>
    refine iff_of_false (by simp) fun hsafe => hsafe.nonempty ?_
    simpa using hempty
  · next hnonempty =>
    split
    · next hoperator =>
      refine iff_of_false (by simp) fun hsafe => ?_
      rcases Bool.or_eq_true_iff.mp hoperator with hdollar | hnull
      · exact hsafe.no_operator (head?_eq_dollar_iff.mp (by simpa using hdollar))
      · exact hsafe.no_null (by simpa using hnull)
    · next hoperator =>
      rw [Bool.not_eq_true, Bool.or_eq_false_iff] at hoperator
      split
      · next hreserved =>
        refine iff_of_false (by simp) fun hsafe => ?_
        rcases Bool.or_eq_true_iff.mp hreserved with hname | htoken
        · have := hsafe.not_reserved
          simp_all [reservedNames]
        · exact hsafe.no_token (occursIn_iff.mp htoken)
      · next hreserved =>
        rw [Bool.not_eq_true, Bool.or_eq_false_iff] at hreserved
        refine iff_of_true rfl ⟨?_, ?_, ?_, ?_, ?_⟩
        · simpa using hnonempty
        · rw [← head?_eq_dollar_iff]
          simpa using hoperator.1
        · simpa using hoperator.2
        · rw [← occursIn_iff]
          simpa [reservedToken] using hreserved.2
        · simpa [reservedNames] using hreserved.1

/-- Only a text is accepted, and stays what it is. -/
theorem eq_str_of_validate {v : Value} {name : String} (h : validate v = .ok name) :
    v = .str name := by
  cases v with
  | str s =>
    rw [validate] at h
    split at h
    · rw [Except.ok.inj h]
    · exact absurd h (raise_ne_ok _ _)
  | _ =>
    -- a value of another type is refused like the empty name
    obtain ⟨text, -, h⟩ := except_bind_eq_ok.mp h
    exact absurd h (raise_ne_ok _ _)

/-- A name that is accepted is safe. -/
theorem safe_of_validate {v : Value} {name : String} (h : validate v = .ok name) : Safe name := by
  obtain rfl := eq_str_of_validate h
  rw [validate] at h
  cases hfault : nameFault? name with
  | none => exact nameFault?_eq_none_iff.mp hfault
  | some fault =>
    rw [hfault] at h
    exact absurd h (raise_ne_ok _ _)

end Keyset.Field
