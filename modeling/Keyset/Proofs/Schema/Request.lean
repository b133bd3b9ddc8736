import Keyset.Proofs.Outcome
import Keyset.Schema.Request

/-!
# Keyset — checked requests are checked again

A request that reaches a repository is a record that was checked before, and is
checked once more. The second check changes nothing, as long as no two filtered
fields have one name; after the first check no two have.

* `Check.textMapping_object` — a mapping with text keys is taken as it is.
* `Request.check_toValue` — so is the record of a request.
* `Request.nodup_filters` — the filtered fields of a checked request have different names.
-/

namespace Keyset

/-! ## Fields of a record -/

/-- Fields and the entries that they become are looked up alike. -/
theorem Entries.field?_object (fields : List (String × Value)) (name : String) :
    Entries.field? (fields.map fun f => (.str f.1, f.2)) name = Value.field? fields name := by
  rw [field?, get?, Value.field?, List.find?_map, Option.map_map]
  rfl

namespace Check

/-- A value that passes a check unchanged does so where it may be absent, too. -/
theorem nullable_ofOption {α : Type} (check : Value → Check α) (toValue : α → Value)
    (hCheck : ∀ a, check (toValue a) = good a) (hNull : ∀ a, toValue a ≠ .null) (a : Option α) :
    nullable check (.ofOption toValue a) = good a := by
  cases a with
  | none => rfl
  | some a =>
    have hvalue := hCheck a
    have hne := hNull a
    simp only [Value.ofOption]
    unfold nullable
    split
    next h => exact absurd h hne
    next => rw [hvalue]; rfl

/-- The value of a given field is checked. -/
theorem field_of_good {α : Type} {es : List (Value × Value)} {name : String}
    {check : Value → Check α} {default a : α} {v : Value} (hEntry : Entries.field? es name = some v)
    (hCheck : check v = good a) : field es name check default = good a := by
  rw [field, hEntry]
  simp only [hCheck]
  rfl

/-! ## Mappings -/

/-- Entries with text keys are taken in their order. -/
theorem entries_map (fields : List (String × Value)) :
    entries (fields.map fun f => (.str f.1, f.2)) = good fields := by
  induction fields with
  | nil => rfl
  | cons f rest ih =>
    rw [List.map_cons, entries, ih]
    rfl

/-- A field under a new name is put at the end. -/
theorem putField_of_not_mem {fields : List (String × Value)} {name : String} (v : Value)
    (h : name ∉ fields.map (·.1)) : putField fields name v = fields ++ [(name, v)] := by
  induction fields with
  | nil => rfl
  | cons f rest ih =>
    rw [List.map_cons, List.mem_cons, not_or] at h
    rw [putField, if_neg (Ne.symm h.1), ih h.2, List.cons_append]

/-- Writing fields with different names one after the other gives the fields. -/
theorem foldl_putField (front fields : List (String × Value))
    (h : ((front ++ fields).map (·.1)).Nodup) :
    fields.foldl (fun acc f => putField acc f.1 f.2) front = front ++ fields := by
  induction fields generalizing front with
  | nil => rw [List.foldl_nil, List.append_nil]
  | cons f rest ih =>
    -- the name is new, so the field goes to the end
    have hnew : f.1 ∉ front.map (·.1) := by
      rw [List.map_append, List.map_cons, List.nodup_append] at h
      exact fun hmem => h.2.2 _ hmem _ (List.mem_cons_self ..) rfl
    have hshift : front ++ f :: rest = front ++ [f] ++ rest := by
      rw [List.append_assoc, List.singleton_append]
    rw [hshift] at h
    rw [List.foldl_cons, putField_of_not_mem _ hnew, ih _ h, hshift]

/-- A mapping with text keys is taken as it is. -/
theorem textMapping_object {fields : List (String × Value)} (h : (fields.map (·.1)).Nodup) :
    textMapping (.object fields) = good fields := by
  unfold Value.object
  rw [textMapping, entries_map]
  exact congrArg good (foldl_putField [] fields h)

/-- The names after a field is put: the same ones, or one more at the end. -/
theorem names_putField (fields : List (String × Value)) (name : String) (v : Value) :
    (putField fields name v).map (·.1) =
      if name ∈ fields.map (·.1) then fields.map (·.1) else fields.map (·.1) ++ [name] := by
  induction fields with
  | nil => rfl
  | cons f rest ih =>
    rw [putField]
    by_cases hname : f.1 = name
    · rw [if_pos hname, if_pos (by simp [hname]), List.map_cons, List.map_cons, hname]
    · rw [if_neg hname, List.map_cons, ih, List.map_cons]
      by_cases hmem : name ∈ rest.map (·.1)
      · rw [if_pos hmem, if_pos (List.mem_cons_of_mem _ hmem)]
      · rw [if_neg hmem, if_neg (by simp [Ne.symm hname, hmem]), List.cons_append]

/-- Putting a field keeps names different. -/
theorem nodup_putField {fields : List (String × Value)} (h : (fields.map (·.1)).Nodup)
    (name : String) (v : Value) : ((putField fields name v).map (·.1)).Nodup := by
  rw [names_putField]
  split
  · exact h
  · next hmem =>
    refine List.nodup_append.mpr ⟨h, List.pairwise_singleton _ _, fun other hother last hlast => ?_⟩
    obtain rfl := List.mem_singleton.mp hlast
    exact fun heq => hmem (heq ▸ hother)

/-- A checked mapping has different names. -/
theorem nodup_textMapping {v : Value} {fields : List (String × Value)}
    (h : (textMapping v).result = .ok fields) : (fields.map (·.1)).Nodup := by
  -- a name that comes again replaces its value, and is not added twice
  have hfold : ∀ given front : List (String × Value), (front.map (·.1)).Nodup →
      ((given.foldl (fun acc f => putField acc f.1 f.2) front).map (·.1)).Nodup := by
    intro given
    induction given with
    | nil => exact fun _ hfront => hfront
    | cons f rest ih => exact fun front hfront => ih _ (nodup_putField hfront f.1 f.2)
  cases v with
  | mapping es =>
    rw [textMapping, Check.map] at h
    cases hentries : (entries es).result with
    | error issues =>
      rw [hentries] at h
      cases h
    | ok given =>
      rw [hentries] at h
      obtain rfl := Except.ok.inj h
      exact hfold given [] List.nodup_nil
  | _ => cases h

/-! ## Good values -/

section Good

variable {α β : Type}

/-- Two things are good together when each of them is. -/
theorem seq_eq_ok {f : Check (α → β)} {a : Check α} {b : β} :
    (f <*> a).result = .ok b ↔ ∃ g x, f.result = .ok g ∧ a.result = .ok x ∧ g x = b := by
  change (both f fun _ => a).result = _ ↔ _
  unfold both
  cases f.result <;> cases a.result <;> simp [good]

/-- What is made of a good thing is good. -/
theorem map_eq_ok {f : α → β} {a : Check α} {b : β} :
    (f <$> a).result = .ok b ↔ ∃ x, a.result = .ok x ∧ f x = b := by
  change (Check.map f a).result = _ ↔ _
  unfold Check.map
  cases a.result <;> simp [Except.map]

/-- A good field is its default, or a value that passes the check. -/
theorem field_eq_ok {es : List (Value × Value)} {name : String} {check : Value → Check α}
    {default a : α} (h : (field es name check default).result = .ok a) :
    a = default ∨ ∃ v, (check v).result = .ok a := by
  rw [field] at h
  split at h
  · next v _ =>
    cases hcheck : (check v).result with
    | error issues =>
      rw [within, hcheck] at h
      cases h
    | ok b =>
      rw [within, hcheck] at h
      exact Or.inr ⟨v, hcheck.trans h⟩
  · exact Or.inl (Except.ok.inj h).symm

/-- A good value that may be absent is absent, or passes the check. -/
theorem nullable_eq_ok {check : Value → Check α} {v : Value} {a : α}
    (h : (nullable check v).result = .ok (some a)) : (check v).result = .ok a := by
  unfold nullable at h
  split at h
  · cases h
  · cases hcheck : (check v).result with
    | error issues =>
      rw [Check.map, hcheck] at h
      cases h
    | ok b =>
      rw [Check.map, hcheck] at h
      obtain rfl := Option.some.inj (Except.ok.inj h)
      rfl

end Good

end Check

/-! ## Requests -/

namespace Request

/-- **A checked request passes the check unchanged.** -/
theorem check_toValue {r : Request} (h : ∀ fs, r.filters = some fs → (fs.map (·.1)).Nodup) :
    check r.toValue = Check.good r := by
  have hfilters : Check.nullable Check.textMapping (.ofOption .object r.filters) =
      Check.good r.filters := by
    cases hr : r.filters with
    | none => rfl
    | some fs => exact congrArg (Check.map some) (Check.textMapping_object (h fs hr))
  have hint := Check.nullable_ofOption Check.integer .int (fun _ => rfl) (fun _ => nofun)
  have htext := Check.nullable_ofOption Check.text .str (fun _ => rfl) (fun _ => nofun)
  -- each field is found under its name and passes its own check
  have hentry (name : String) (v : Value) (hv : Value.field? r.fields name = some v) :
      Entries.field? (r.fields.map fun f => (.str f.1, f.2)) name = some v :=
    (Entries.field?_object r.fields name).trans hv
  rw [toValue, check, Check.model, if_pos rfl, ofEntries,
    Check.field_of_good (hentry "first" _ rfl) (hint r.first),
    Check.field_of_good (hentry "last" _ rfl) (hint r.last),
    Check.field_of_good (hentry "before" _ rfl) (htext r.before),
    Check.field_of_good (hentry "after" _ rfl) (htext r.after),
    Check.field_of_good (hentry "filters" _ rfl) hfilters]
  rfl

/-- **The filtered fields of a checked request have different names**, whatever it was
checked from. -/
theorem nodup_filters {v : Value} {r : Request} (h : (check v).run = .ok r) :
    ∀ fs, r.filters = some fs → (fs.map (·.1)).Nodup := by
  intro fs hfs
  have hresult : (check v).result = .ok r := by
    rw [Check.run] at h
    cases hcheck : (check v).result with
    | error issues =>
      rw [hcheck] at h
      cases h
    | ok req =>
      rw [hcheck] at h
      exact congrArg Except.ok (Except.ok.inj h)
  obtain ⟨es, hes⟩ : ∃ es, (ofEntries es).result = .ok r := by
    rw [check] at hresult
    unfold Check.model at hresult
    split at hresult
    · next es => exact ⟨es, hresult⟩
    · split at hresult
      · exact ⟨_, hresult⟩
      · cases hresult
    · cases hresult
  -- the filters are the last field; the others do not matter
  obtain ⟨_, filters, hfour, hfilters, rfl⟩ := Check.seq_eq_ok.mp hes
  obtain ⟨_, after, hthree, -, rfl⟩ := Check.seq_eq_ok.mp hfour
  obtain ⟨_, before, htwo, -, rfl⟩ := Check.seq_eq_ok.mp hthree
  obtain ⟨_, last, hone, -, rfl⟩ := Check.seq_eq_ok.mp htwo
  obtain ⟨first, -, rfl⟩ := Check.map_eq_ok.mp hone
  obtain rfl : filters = some fs := hfs
  obtain hnone | ⟨v, hv⟩ := Check.field_eq_ok hfilters
  · cases hnone
  · exact Check.nodup_textMapping (Check.nullable_eq_ok hv)

end Request

end Keyset
