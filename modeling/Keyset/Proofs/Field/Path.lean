import Keyset.Field
import Keyset.Proofs.Value.Key

/-!
# Keyset — what a dotted name finds

A name stands for the key that is spelled like it, and where there is none for a path into nested
mappings, whose parts stand between its dots. A path leads to one place of a document. A value that
is stored there is found there, and it is not in the way of any path that leads elsewhere.

* `Field.IsPath` — the parts of a name; every name has them, and no others.
* `Field.Reaches` — where a path leads in a document.
* `Field.putAt` — store a value at the end of a path.
* `Field.descend_putAt_self`, `Field.descend_putAt_of_apart` — what is found after that.
* `Field.resolve_paths` — what a name finds in a document, and in one in which a value was stored.
-/

namespace Keyset.Field

/-! ## The parts of a name -/

/-- The parts of a name: they have no dots, and make up the name with dots between them. -/
structure IsPath (name : String) (path : List String) : Prop where
  nonempty : path ≠ []
  undotted : ∀ part ∈ path, '.' ∉ part.toList
  joined : name = ".".intercalate path

theorem pathParts_eq_splitOn (cs : List Char) : pathParts cs = cs.splitOn '.' := by
  induction cs with
  | nil => rfl
  | cons c rest ih =>
    rw [pathParts, ih, List.splitOn_cons_eq_if_modifyHead]
    by_cases hdot : c = '.'
    · rw [if_pos hdot, if_pos (by simpa using hdot)]
    · rw [if_neg hdot, if_neg (by simpa using hdot)]
      cases hparts : List.splitOn '.' rest with
      | nil => exact absurd hparts (List.splitOn_ne_nil _ _)
      | cons part parts => rfl

theorem notMem_of_mem_pathParts {cs part : List Char} (h : part ∈ pathParts cs) : '.' ∉ part := by
  induction cs generalizing part with
  | nil => simp_all [pathParts]
  | cons c rest ih =>
    rw [pathParts] at h
    split at h
    next =>
      rcases List.mem_cons.mp h with rfl | hrest
      · exact List.not_mem_nil
      · exact ih hrest
    next hdot =>
      -- the character goes to the front of the first part
      cases hparts : pathParts rest with
      | nil => simp_all [Ne.symm]
      | cons first others =>
        rw [hparts] at h
        rcases List.mem_cons.mp h with rfl | hothers
        · simp [Ne.symm hdot, ih (hparts ▸ List.mem_cons_self)]
        · exact ih (hparts ▸ List.mem_cons_of_mem _ hothers)

/-- Every name has parts. -/
theorem isPath_parts (name : String) : IsPath name (parts name) where
  nonempty := by
    rw [parts, pathParts_eq_splitOn]
    simp
  undotted part hpart := by
    obtain ⟨cs, hcs, rfl⟩ := List.mem_map.mp hpart
    rw [String.toList_ofList]
    exact notMem_of_mem_pathParts hcs
  joined := by
    rw [← String.toList_inj, String.toList_intercalate, parts, List.map_map]
    simp [Function.comp_def, pathParts_eq_splitOn, List.intercalate_splitOn]

/-- A name has no other parts. -/
theorem IsPath.parts_eq {name : String} {path : List String} (h : IsPath name path) :
    parts name = path := by
  have hsplit : (name.toList).splitOn '.' = path.map String.toList := by
    rw [h.joined, String.toList_intercalate]
    refine List.splitOn_intercalate '.' ?_ (by simpa using h.nonempty)
    intro cs hcs
    obtain ⟨part, hpart, rfl⟩ := List.mem_map.mp hcs
    exact h.undotted part hpart
  rw [parts, pathParts_eq_splitOn, hsplit, List.map_map]
  simp [Function.comp_def]

/-- A name without dots is its only part. -/
theorem isPath_singleton {name : String} (h : '.' ∉ name.toList) : IsPath name [name] :=
  ⟨List.cons_ne_nil _ _, by simpa using h, String.intercalate_singleton.symm⟩

/-! ## Descending -/

/-- Where a path leads: one mapping deeper with every part. -/
inductive Reaches : Value → List String → Value → Prop where
  | here (v : Value) : Reaches v [] v
  | inside {entries : List (Value × Value)} {part : String} {u v : Value} {rest : List String}
      (hpart : Entries.field? entries part = some u) (hrest : Reaches u rest v) :
      Reaches (.mapping entries) (part :: rest) v

/-- The entries of a mapping; other values have none. -/
def entriesOf : Value → List (Value × Value)
  | .mapping entries => entries
  | _ => []

theorem descend_cons (part : String) (rest : List String) (document : Value) :
    descend (part :: rest) document =
      ((Entries.field? (entriesOf document) part).map (descend rest)).getD .null := by
  cases document with
  | mapping entries =>
    rw [descend, entriesOf]
    cases Entries.field? entries part <;> rfl
  | _ => rfl

theorem descend_null {path : List String} (h : path ≠ []) : descend path .null = .null := by
  cases path with
  | nil => exact absurd rfl h
  | cons part rest => rfl

theorem descend_of_reaches {document v : Value} {path : List String} (h : Reaches document path v) :
    descend path document = v := by
  induction h with
  | here v => rfl
  | inside hpart _ ih =>
    rw [descend, hpart]
    exact ih

/-- What is not reached is null. -/
theorem descend_eq_null {document : Value} {path : List String}
    (h : ∀ v, ¬ Reaches document path v) : descend path document = .null := by
  induction path generalizing document with
  | nil => exact absurd (.here document) (h document)
  | cons part rest ih =>
    cases document with
    | mapping entries =>
      rw [descend]
      cases hpart : Entries.field? entries part with
      | none => rfl
      | some u => exact ih fun v hrest => h v (.inside hpart hrest)
    | _ => rfl

/-! ## Storing -/

/-- Store a value at the end of a path. Mappings on the way keep what else they hold; what is no
mapping gives way to a new one. -/
def putAt (v : Value) : List String → Value → Value
  | [], _ => v
  | part :: rest, document =>
      let inner := (Entries.field? (entriesOf document) part).getD .null
      .mapping (Entries.put (entriesOf document) (.str part) (putAt v rest inner))

theorem descend_putAt_self (v : Value) (path : List String) (document : Value) :
    descend path (putAt v path document) = v := by
  induction path generalizing document with
  | nil => rfl
  | cons part rest ih =>
    rw [putAt, descend_cons, entriesOf, Entries.field?_put_self]
    exact ih _

/-- Paths that lead apart, neither of which goes on from the end of the other, are not in each
other's way. -/
theorem descend_putAt_of_apart (v : Value) {path other : List String} (hpath : ¬ path <+: other)
    (hother : ¬ other <+: path) (document : Value) :
    descend other (putAt v path document) = descend other document := by
  induction path generalizing other document with
  | nil => exact absurd List.nil_prefix hpath
  | cons part rest ih =>
    cases other with
    | nil => exact absurd List.nil_prefix hother
    | cons part' rest' =>
      rw [putAt, descend_cons, descend_cons, entriesOf]
      by_cases hsame : part' = part
      · -- both go on below the same key, which may hold nothing yet
        subst hsame
        rw [List.cons_prefix_cons, and_iff_right rfl] at hpath hother
        rw [Entries.field?_put_self, Option.map_some, Option.getD_some, ih hpath hother]
        cases Entries.field? (entriesOf document) part' with
        | some u => rfl
        | none => exact descend_null fun hnil => hother (hnil ▸ List.nil_prefix)
      · rw [Entries.field?_put_of_ne _ hsame]

/-! ## Resolving names -/

theorem resolve_mapping (entries : List (Value × Value)) (name : String) :
    resolve (.mapping entries) (.str name) =
      .ok ((Entries.field? entries name).getD (descend (parts name) (.mapping entries))) := by
  rw [resolve, if_neg (by simp [Value.hashable])]
  rw [Entries.field?]
  cases Entries.get? entries (.str name) <;> rfl

/-- The first part of a name is a name of one part. -/
theorem IsPath.parts_head {name part : String} {rest : List String}
    (h : IsPath name (part :: rest)) : parts part = [part] :=
  (isPath_singleton (h.undotted part List.mem_cons_self)).parts_eq

theorem putAt_mapping (v : Value) (part : String) (rest : List String)
    (entries : List (Value × Value)) : putAt v (part :: rest) (.mapping entries) =
      .mapping (Entries.put entries (.str part)
        (putAt v rest ((Entries.field? entries part).getD .null))) := rfl

/-- A value that is stored under a name is found by it. -/
theorem resolve_putAt_self {entries : List (Value × Value)} {name : String} {path : List String}
    (h : IsPath name path) (hkey : Entries.field? entries name = none) (v : Value) :
    resolve (putAt v path (.mapping entries)) (.str name) = .ok v := by
  obtain ⟨part, rest, rfl⟩ := List.exists_cons_of_ne_nil h.nonempty
  have hdescend := descend_putAt_self v (part :: rest) (.mapping entries)
  rw [putAt_mapping] at hdescend ⊢
  rw [resolve_mapping, h.parts_eq, hdescend]
  by_cases hname : name = part
  · -- the only part is the key that is written
    obtain rfl : rest = [] := (List.cons.inj (by rw [← h.parts_eq, hname, h.parts_head])).2
    rw [hname, Entries.field?_put_self]
    rfl
  · rw [Entries.field?_put_of_ne _ hname, hkey]
    rfl

/-- Names whose paths lead elsewhere find what they found before. -/
theorem resolve_putAt_of_apart {entries : List (Value × Value)} {name other : String}
    {path path' : List String} (h : IsPath name path) (h' : IsPath other path')
    (hpath : ¬ path <+: path') (hpath' : ¬ path' <+: path) (v : Value) :
    resolve (putAt v path (.mapping entries)) (.str other) =
      resolve (.mapping entries) (.str other) := by
  obtain ⟨part, rest, rfl⟩ := List.exists_cons_of_ne_nil h.nonempty
  have hdescend := descend_putAt_of_apart v hpath hpath' (.mapping entries)
  -- the key that is written would lead to the value from the front
  have hother : other ≠ part := by
    rintro rfl
    rw [← h'.parts_eq, h.parts_head] at hpath'
    exact hpath' (List.cons_prefix_cons.mpr ⟨rfl, List.nil_prefix⟩)
  rw [putAt_mapping] at hdescend ⊢
  rw [resolve_mapping, resolve_mapping, h'.parts_eq, hdescend, Entries.field?_put_of_ne _ hother]

/-- **What a name finds.** In a mapping it always finds something: what is under the key that is
spelled like the name, or else what its path leads to, or null if the path leads nowhere. A value
that is stored under the path of a name that is no key is found by that name; and any name whose
path is no part of it, nor the other way around, finds what it found before. -/
theorem resolve_paths (entries : List (Value × Value)) :
    (∀ name, ∃ v, resolve (.mapping entries) (.str name) = .ok v) ∧
    (∀ name v, Entries.field? entries name = some v →
      resolve (.mapping entries) (.str name) = .ok v) ∧
    (∀ name path, IsPath name path → Entries.field? entries name = none →
      (∀ v, Reaches (.mapping entries) path v → resolve (.mapping entries) (.str name) = .ok v) ∧
      ((∀ v, ¬ Reaches (.mapping entries) path v) →
        resolve (.mapping entries) (.str name) = .ok .null)) ∧
    ∀ name path v, IsPath name path → Entries.field? entries name = none →
      resolve (putAt v path (.mapping entries)) (.str name) = .ok v ∧
      ∀ other path', IsPath other path' → ¬ path <+: path' → ¬ path' <+: path →
        resolve (putAt v path (.mapping entries)) (.str other) =
          resolve (.mapping entries) (.str other) := by
  refine ⟨fun name => ⟨_, resolve_mapping entries name⟩, ?_, ?_, ?_⟩
  · intro name v hkey
    rw [resolve_mapping, hkey]
    rfl
  · intro name path hpath hkey
    rw [resolve_mapping, hkey, hpath.parts_eq]
    exact ⟨fun v hv => congrArg _ (descend_of_reaches hv),
      fun hnone => congrArg _ (descend_eq_null hnone)⟩
  · intro name path v hpath hkey
    refine ⟨resolve_putAt_self hpath hkey v, ?_⟩
    intro other path' hpath' hbehind hbefore
    exact resolve_putAt_of_apart hpath hpath' hbehind hbefore v

/-- A document with a mapping, and with a key that looks like a path. -/
def dottedDocument : List (Value × Value) :=
  [(.str "a", .object [("b", .int 1), ("c", .null)]), (.str "a.d", .int 2)]

/-- In `dottedDocument` the key wins over the path, and the path `a.b.x` ends too early. Storing a
value there puts a mapping in the place of a number, which is not in the way of `a.c`. -/
theorem resolve_paths_dottedDocument :
    Entries.field? dottedDocument "a.d" = some (.int 2) ∧
    resolve (.mapping dottedDocument) (.str "a.d") = .ok (.int 2) ∧
    IsPath "a.b" ["a", "b"] ∧ Entries.field? dottedDocument "a.b" = none ∧
    Reaches (.mapping dottedDocument) ["a", "b"] (.int 1) ∧
    resolve (.mapping dottedDocument) (.str "a.b") = .ok (.int 1) ∧
    IsPath "a.b.x" ["a", "b", "x"] ∧ Entries.field? dottedDocument "a.b.x" = none ∧
    (∀ v, ¬ Reaches (.mapping dottedDocument) ["a", "b", "x"] v) ∧
    resolve (.mapping dottedDocument) (.str "a.b.x") = .ok .null ∧
    resolve (putAt (.int 3) ["a", "b", "x"] (.mapping dottedDocument)) (.str "a.b.x") =
      .ok (.int 3) ∧
    IsPath "a.c" ["a", "c"] ∧ ¬ ["a", "b", "x"] <+: ["a", "c"] ∧ ¬ ["a", "c"] <+: ["a", "b", "x"] ∧
    resolve (putAt (.int 3) ["a", "b", "x"] (.mapping dottedDocument)) (.str "a.c") =
      resolve (.mapping dottedDocument) (.str "a.c") := by
  obtain ⟨-, hkeys, hpaths, hstored⟩ := resolve_paths dottedDocument
  have hkey : Entries.field? dottedDocument "a.d" = some (.int 2) := rfl
  have hab : IsPath "a.b" ["a", "b"] := isPath_parts "a.b"
  have habKey : Entries.field? dottedDocument "a.b" = none := rfl
  have habReaches : Reaches (.mapping dottedDocument) ["a", "b"] (.int 1) :=
    .inside rfl (.inside rfl (.here _))
  have habx : IsPath "a.b.x" ["a", "b", "x"] := isPath_parts "a.b.x"
  have habxKey : Entries.field? dottedDocument "a.b.x" = none := rfl
  -- the path leads to a number, which has no parts
  have hnowhere : ∀ v, ¬ Reaches (.mapping dottedDocument) ["a", "b", "x"] v := by
    rintro v (_ | ⟨ha, _ | ⟨hb, _ | ⟨hx, -⟩⟩⟩)
    cases ha
    cases hb
  have hac : IsPath "a.c" ["a", "c"] := isPath_parts "a.c"
  have hbehind : ¬ ["a", "b", "x"] <+: ["a", "c"] := by decide
  have hbefore : ¬ ["a", "c"] <+: ["a", "b", "x"] := by decide
  obtain ⟨hfound, hkept⟩ := hstored "a.b.x" _ (.int 3) habx habxKey
  exact ⟨hkey, hkeys _ _ hkey, hab, habKey, habReaches, (hpaths _ _ hab habKey).1 _ habReaches, habx,
    habxKey, hnowhere, (hpaths _ _ habx habxKey).2 hnowhere, hfound, hac, hbehind, hbefore,
    hkept _ _ hac hbehind hbefore⟩

end Keyset.Field
