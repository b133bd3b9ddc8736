import Keyset.Proofs.Outcome
import Keyset.Settings.Annotation

/-!
# Keyset — conversions by annotation

What a text stands for under an annotation is a relation: a truth value always stands there, an
integer only if the text is a literal of one, and a choice asks the first of its types that is not
null's. Conversion computes this relation on texts, and leaves everything else as it is.

* `Annotation.Reads`, `Annotation.Converts` — what a text and what a value is converted to.
* `Annotation.convert_eq_ok` — conversion finds just these.
* `Annotation.convert_fails_iff` — conversion fails only at texts.
* `Annotation.reads_optional` — an optional type reads what the type itself reads.
-/

namespace Keyset.Annotation

/-- What a text stands for under an annotation. -/
inductive Reads : Annotation → String → Value → Prop where
  | boolean (t : String) : Reads .boolean t (.bool (decide (Text.lowerAscii t ∈ trueWords)))
  | integer {t : String} {n : Int} (h : Literal.integer t = .ok n) : Reads .integer t (.int n)
  | choice {first : Annotation} {t : String} {v : Value} (h : first.Reads t v) :
      Reads (.choice first) t v
  | nothing (t : String) : Reads .nothing t (.str t)
  | other (t : String) : Reads .other t (.str t)

/-- What a value is converted to: a text is read, and anything else is kept. -/
inductive Converts (a : Annotation) : Value → Value → Prop where
  | text {t : String} {v : Value} (h : a.Reads t v) : Converts a (.str t) v
  | kept {v : Value} (h : ∀ t, v ≠ .str t) : Converts a v v

theorem reads_choice {first : Annotation} {t : String} {v : Value} :
    (choice first).Reads t v ↔ first.Reads t v :=
  ⟨fun h => by cases h; assumption, .choice⟩

theorem reads_nothing {t : String} {v : Value} : nothing.Reads t v ↔ v = .str t :=
  ⟨fun h => by cases h; rfl, fun h => h ▸ .nothing t⟩

theorem convertText_eq_ok {a : Annotation} {t : String} {v : Value} :
    convertText t a = .ok v ↔ a.Reads t v := by
  induction a with
  | boolean =>
    rw [convertText, List.contains_eq_mem]
    constructor
    · rintro ⟨⟩
      exact .boolean t
    · rintro ⟨⟩
      rfl
  | integer =>
    rw [convertText, except_bind_eq_ok]
    constructor
    · rintro ⟨n, hn, ⟨⟩⟩
      exact .integer hn
    · rintro ⟨⟩
      exact ⟨_, ‹_›, rfl⟩
  | nothing =>
    rw [convertText, reads_nothing, Except.ok.injEq]
    exact eq_comm
  | choice first ih => rw [convertText, ih, reads_choice]
  | other =>
    rw [convertText]
    constructor
    · rintro ⟨⟩
      exact .other t
    · rintro ⟨⟩
      rfl

/-- **Conversion** of a value. -/
theorem convert_eq_ok {a : Annotation} {u v : Value} : a.convert u = .ok v ↔ a.Converts u v := by
  by_cases htext : ∃ t, u = .str t
  · obtain ⟨t, rfl⟩ := htext
    rw [convert, convertText_eq_ok]
    constructor
    · exact .text
    · rintro (hread | hkept)
      · exact hread
      · exact absurd rfl (hkept t)
  · have hnone : ∀ t, u ≠ .str t := fun t ht => htext ⟨t, ht⟩
    rw [convert.eq_2 a u hnone]
    constructor
    · rintro ⟨⟩
      exact .kept hnone
    · rintro (hread | hkept)
      · exact absurd rfl (hnone _)
      · rfl

/-- Conversion fails at texts that stand for nothing. -/
theorem convert_fails_iff {a : Annotation} {u : Value} :
    (∀ v, ¬ a.Converts u v) ↔ ∃ t, u = .str t ∧ ∀ v, ¬ a.Reads t v := by
  constructor
  · intro hfails
    by_cases htext : ∃ t, u = .str t
    · obtain ⟨t, rfl⟩ := htext
      exact ⟨t, rfl, fun v hread => hfails v (.text hread)⟩
    · exact absurd (.kept fun t ht => htext ⟨t, ht⟩) (hfails u)
  · rintro ⟨t, rfl, hfails⟩ v (hread | hkept)
    · exact hfails v hread
    · exact hkept t rfl

/-- **An optional type** reads what the type itself reads. -/
theorem reads_optional {a : Annotation} {t : String} {v : Value} :
    (ofMembers [a, .nothing]).Reads t v ↔ a.Reads t v := by
  cases a with
  | nothing => rfl
  | choice first =>
    by_cases hnull : first = .nothing
    · subst hnull
      exact reads_choice.symm
    · have hmembers : ofMembers [.choice first, .nothing] = .choice first := by
        simp [ofMembers, hnull]
      rw [hmembers]
  | boolean => exact reads_choice
  | integer => exact reads_choice
  | other => exact reads_choice

end Keyset.Annotation
