import Keyset.Settings.Resolve
import Mathlib.Data.List.Induction
import Mathlib.Data.List.Nodup

/-!
# Keyset — what classes declare

Classes that inherit from one another declare a setting piece by piece: one names it with a default,
a later one gives it another annotation, or another default, or both. What the setting is in the end
hangs on two declarations only, and those need not be the same: the last one of its name says how
texts are converted, the last one with a default says what the setting is when no source mentions it.

* `Declarations.Declares` — a setting as a list of declarations makes it.
* `Declarations.find?_declare_self`, `Declarations.find?_declare_of_ne` — what one more declaration
  does to the settings.
* `Declarations.mem_ofChain` — the settings of a chain of classes are those that it declares.
-/

namespace Keyset

/-- Under its own key, an element is found if no other has that key. -/
theorem find?_of_mem {α : Type} {key : α → String} {l : List α} {x : α}
    (hkeys : (l.map key).Nodup) (hx : x ∈ l) : l.find? (key · == key x) = some x := by
  induction l with
  | nil => cases hx
  | cons y rest ih =>
    rw [List.map_cons, List.nodup_cons] at hkeys
    rcases List.mem_cons.mp hx with rfl | hrest
    · exact List.find?_cons_of_pos (beq_self_eq_true _)
    · have hne : key y ≠ key x := fun heq => hkeys.1 (heq ▸ List.mem_map_of_mem hrest)
      rw [List.find?_cons_of_neg (by simpa using hne)]
      exact ih hkeys.2 hrest

namespace Declarations

/-- The declarations of a chain of classes, those of the class at its root first. -/
def declarations (chain : List SettingsClass) : List Declaration := chain.flatMap (·.declarations)

/-- The annotation that was given to a name last. -/
def typeOf? (ds : List Declaration) (name : String) : Option Annotation :=
  (ds.filter (·.name == name)).getLast?.map (·.type)

/-- The default that was given to a name last; null if none was. -/
def defaultOf (ds : List Declaration) (name : String) : Value :=
  ((ds.filter (·.name == name)).filterMap (·.default)).getLast?.getD .null

/-- A setting as declarations make it. -/
structure Declares (ds : List Declaration) (x : Setting) : Prop where
  type : typeOf? ds x.name = some x.type
  default : defaultOf ds x.name = x.default

/-- The default that a setting has before it is declared once more. -/
def inherited (settings : List Setting) (name : String) : Value :=
  ((settings.find? (·.name == name)).map (·.default)).getD .null

/-! ## One more declaration -/

section Concat

variable (ds : List Declaration) {d : Declaration} {name : String}

theorem typeOf?_concat_self : typeOf? (ds ++ [d]) d.name = some d.type := by
  simp [typeOf?]

theorem typeOf?_concat_of_ne (h : d.name ≠ name) : typeOf? (ds ++ [d]) name = typeOf? ds name := by
  simp [typeOf?, h]

theorem defaultOf_concat_self :
    defaultOf (ds ++ [d]) d.name = d.default.getD (defaultOf ds d.name) := by
  cases h : d.default <;> simp [defaultOf, h]

theorem defaultOf_concat_of_ne (h : d.name ≠ name) :
    defaultOf (ds ++ [d]) name = defaultOf ds name := by
  simp [defaultOf, h]

end Concat

section Declare

variable (settings : List Setting) (d : Declaration)

/-- A declaration replaces annotation and default, the latter only by one that it gives. -/
theorem find?_declare_self :
    (declare settings d).find? (·.name == d.name) =
      some ⟨d.name, d.type, d.default.getD (inherited settings d.name)⟩ := by
  induction settings with
  | nil => simp [declare, inherited]
  | cons s rest ih =>
    rw [declare]
    split
    next h => simp [inherited, h]
    next h => simpa [inherited, h] using ih

theorem find?_declare_of_ne {name : String} (h : d.name ≠ name) :
    (declare settings d).find? (·.name == name) = settings.find? (·.name == name) := by
  induction settings with
  | nil => simp [declare, h]
  | cons s rest ih =>
    rw [declare]
    split
    next hname => simp [h, hname]
    next => rw [List.find?_cons, List.find?_cons, ih]

/-- A name keeps its place, or gets the last one. -/
theorem names_declare :
    (declare settings d).map (·.name) = settings.map (·.name) ∨
      d.name ∉ settings.map (·.name) ∧
        (declare settings d).map (·.name) = settings.map (·.name) ++ [d.name] := by
  induction settings with
  | nil => exact Or.inr ⟨List.not_mem_nil, rfl⟩
  | cons s rest ih =>
    rw [declare]
    split
    next hname => exact Or.inl (by simp [hname])
    next hname =>
      rcases ih with hkept | ⟨hnew, hadded⟩
      · exact Or.inl (by simp [hkept])
      · exact Or.inr ⟨by simpa [Ne.symm hname] using hnew, by simp [hadded]⟩

theorem nodup_names_declare (h : (settings.map (·.name)).Nodup) :
    ((declare settings d).map (·.name)).Nodup := by
  rcases names_declare settings d with hkept | ⟨hnew, hadded⟩
  · rwa [hkept]
  · rw [hadded, ← List.concat_eq_append]
    exact h.concat hnew

end Declare

/-! ## All declarations -/

theorem nodup_names_foldl (ds : List Declaration) :
    ((ds.foldl declare []).map (·.name)).Nodup := by
  induction ds using List.reverseRecOn with
  | nil => exact List.nodup_nil
  | append_singleton ds d ih =>
    rw [List.foldl_concat]
    exact nodup_names_declare _ d ih

theorem find?_foldl (ds : List Declaration) (name : String) :
    (ds.foldl declare []).find? (·.name == name) =
      (typeOf? ds name).map fun type => ⟨name, type, defaultOf ds name⟩ := by
  induction ds using List.reverseRecOn with
  | nil => rfl
  | append_singleton ds d ih =>
    rw [List.foldl_concat]
    by_cases h : d.name = name
    · subst h
      have hinherited : inherited (ds.foldl declare []) d.name = defaultOf ds d.name := by
        rw [inherited, ih]
        cases htype : typeOf? ds d.name with
        | some type => rfl
        | none =>
          -- no declaration of this name, so no default either
          have hnone : ds.filter (·.name == d.name) = [] := by simpa [typeOf?] using htype
          rw [defaultOf, hnone]
          rfl
      rw [find?_declare_self, hinherited, typeOf?_concat_self, defaultOf_concat_self]
      rfl
    · rw [find?_declare_of_ne _ d h, ih, typeOf?_concat_of_ne ds h, defaultOf_concat_of_ne ds h]

theorem settings_ofChain (chain : List SettingsClass) :
    (ofChain chain).settings = (declarations chain).foldl declare [] := by
  -- each class goes on from what the classes before it have declared
  have hextend : ∀ base : Declarations, (chain.foldl extend base).settings =
      (declarations chain).foldl declare base.settings := by
    induction chain with
    | nil => exact fun _ => rfl
    | cons c rest ih =>
      intro base
      rw [List.foldl_cons, ih, declarations, declarations, List.flatMap_cons, List.foldl_append]
      rfl
  exact hextend {}

theorem nodup_names (chain : List SettingsClass) :
    ((ofChain chain).settings.map (·.name)).Nodup := by
  rw [settings_ofChain]
  exact nodup_names_foldl _

/-- **The settings of a chain of classes** are those that it declares. -/
theorem mem_ofChain {chain : List SettingsClass} {x : Setting} :
    x ∈ (ofChain chain).settings ↔ Declares (declarations chain) x := by
  have hfound := find?_foldl (declarations chain) x.name
  rw [← settings_ofChain] at hfound
  constructor
  · intro hx
    rw [find?_of_mem (nodup_names chain) hx] at hfound
    obtain ⟨type, htype, hself⟩ := Option.map_eq_some_iff.mp hfound.symm
    exact ⟨by rw [htype, ← congrArg Setting.type hself], congrArg Setting.default hself⟩
  · rintro ⟨htype, hdefault⟩
    rw [htype, hdefault] at hfound
    exact List.mem_of_find?_eq_some hfound

end Declarations

end Keyset
