import Herald.Json.Fields
/-!
What a record takes from a document: which documents have the form of a record, and what they hold
for each of its fields.
-/

set_option autoImplicit false

namespace Herald

theorem Dict.findEntry_eq_some_iff {α : Type} {l : List (String × α)} {k : String} {v : α}
    (h : (l.map (·.1)).Nodup) : findEntry k l = some v ↔ (k, v) ∈ l := by
  refine ⟨mem_of_findEntry, fun hv => ?_⟩
  induction l with
  | nil => cases hv
  | cons e l ih =>
    obtain ⟨he, h⟩ := List.nodup_cons.1 h
    rw [findEntry]
    rcases List.mem_cons.1 hv with rfl | hv
    · rw [if_pos rfl]
    · rw [if_neg fun hk => he (List.mem_map.2 ⟨(k, v), hv, hk⟩), ih h hv]

namespace Json

namespace Doc

variable {names : List String} {ms : List (Option String × Doc)}
    {found : List (String × Doc)} {name : String} {d v : Doc} {f : Fields}

/-- The form of a record with these fields: an object all of whose names are texts, and that has
none of the fields twice, or an array that is no longer than the fields. -/
inductive HasForm (names : List String) : Doc → Prop where
  | object {ms : List (Option String × Doc)} (spelled : ∀ m ∈ ms, m.1.isSome = true)
    (once : ((ms.filterMap (·.1)).filter (· ∈ names)).Nodup) : HasForm names (.object ms)
  | array {ds : List Doc} (fits : ds.length ≤ names.length) : HasForm names (.array ds)

/-- What the document holds for a field: the member of its name, or the item in its place. -/
inductive Holds (names : List String) : Doc → String → Doc → Prop where
  | member {ms : List (Option String × Doc)} {name : String} {v : Doc} (h : (some name, v) ∈ ms) :
    Holds names (.object ms) name v
  | item {ds : List Doc} {name : String} {v : Doc} (i : Nat) (hname : names[i]? = some name)
    (hv : ds[i]? = some v) : Holds names (.array ds) name v

def field? (names : List String) (m : Option String × Doc) : Option (String × Doc) :=
  m.1.bind fun k => if k ∈ names then some (k, m.2) else none

theorem field?_eq_some {m : Option String × Doc} :
    field? names m = some (name, v) ↔ name ∈ names ∧ m = (some name, v) := by
  obtain ⟨k, d⟩ := m
  cases k with
  | none => simp [field?]
  | some k =>
    simp only [field?, Option.bind_some, Option.ite_none_right_eq_some,
      Option.some.injEq, Prod.mk.injEq]
    constructor
    · rintro ⟨hk, rfl, rfl⟩
      exact ⟨hk, rfl, rfl⟩
    · rintro ⟨hk, rfl, rfl⟩
      exact ⟨hk, rfl, rfl⟩

theorem mem_fields : (name, v) ∈ ms.filterMap (field? names) ↔
    name ∈ names ∧ (some name, v) ∈ ms := by
  simp only [List.mem_filterMap, field?_eq_some]
  constructor
  · rintro ⟨m, hm, hn, rfl⟩
    exact ⟨hn, hm⟩
  · rintro ⟨hn, hm⟩
    exact ⟨_, hm, hn, rfl⟩

theorem map_fst_fields (names : List String) (ms : List (Option String × Doc)) :
    (ms.filterMap (field? names)).map (·.1) = (ms.filterMap (·.1)).filter (· ∈ names) := by
  induction ms with
  | nil => rfl
  | cons m ms ih =>
    obtain ⟨k, d⟩ := m
    cases k with
    | none => exact ih
    | some k => by_cases hk : k ∈ names <;> simp [field?, hk, ih]

theorem isSome_findEntry_fields (h : ((ms.filterMap (·.1)).filter (· ∈ names)).Nodup) :
    (Dict.findEntry name (ms.filterMap (field? names))).isSome = true ↔
      name ∈ (ms.filterMap (·.1)).filter (· ∈ names) := by
  rw [← map_fst_fields] at h ⊢
  simp only [Option.isSome_iff_exists, Dict.findEntry_eq_some_iff h, List.mem_map, Prod.exists,
    exists_and_right, exists_eq_right]

theorem members?_eq_some : members? names ms = some found ↔ (∀ m ∈ ms, m.1.isSome = true) ∧
    ((ms.filterMap (·.1)).filter (· ∈ names)).Nodup ∧ found = ms.filterMap (field? names) := by
  induction ms generalizing found with
  | nil =>
    constructor
    · rintro ⟨⟩
      exact ⟨List.forall_mem_nil _, .nil, rfl⟩
    · rintro ⟨-, -, rfl⟩
      rfl
  | cons m ms ih =>
    obtain ⟨k, d⟩ := m
    cases k with
    | none => exact iff_of_false (by rintro ⟨⟩) fun h => by cases h.1 _ List.mem_cons_self
    | some k =>
      have hrest : members? names ((some k, d) :: ms) = (members? names ms).bind fun rest =>
          if k ∈ names then if (Dict.findEntry k rest).isSome then none else some ((k, d) :: rest)
          else some rest := rfl
      rw [hrest, Option.bind_eq_some_iff, List.forall_mem_cons,
        List.filterMap_cons_some (f := fun m : Option String × Doc => m.1) rfl]
      simp only [ih, Option.isSome_some, true_and]
      by_cases hk : k ∈ names
      · have hfield : field? names (some k, d) = some (k, d) := field?_eq_some.2 ⟨hk, rfl⟩
        rw [List.filter_cons_of_pos (by simpa using hk), List.filterMap_cons_some hfield,
          List.nodup_cons]
        constructor
        · rintro ⟨rest, ⟨spelled, once, rfl⟩, h⟩
          rw [if_pos hk] at h
          split at h
          · cases h
          · next hfree =>
            rw [isSome_findEntry_fields once] at hfree
            exact ⟨spelled, ⟨hfree, once⟩, (Option.some.inj h).symm⟩
        · rintro ⟨spelled, ⟨hfree, once⟩, rfl⟩
          refine ⟨_, ⟨spelled, once, rfl⟩, ?_⟩
          rw [if_pos hk, if_neg fun h => hfree ((isSome_findEntry_fields once).1 h)]
      · have hfield : field? names (some k, d) = none := by simp [field?, hk]
        rw [List.filter_cons_of_neg (by simpa using hk), List.filterMap_cons_none hfield]
        simp only [if_neg hk]
        constructor
        · rintro ⟨rest, ⟨spelled, once, rfl⟩, h⟩
          exact ⟨spelled, once, (Option.some.inj h).symm⟩
        · rintro ⟨spelled, once, rfl⟩
          exact ⟨_, ⟨spelled, once, rfl⟩, rfl⟩

theorem mem_zip_iff {ds : List Doc} :
    (name, v) ∈ names.zip ds ↔ ∃ i : Nat, names[i]? = some name ∧ ds[i]? = some v := by
  rw [List.mem_iff_getElem?]
  exact exists_congr fun i => List.getElem?_zip_eq_some

theorem map_fst_zip_isPrefix (names : List String) (ds : List Doc) :
    (names.zip ds).map (·.1) <+: names := by
  induction names generalizing ds with
  | nil => exact List.prefix_refl []
  | cons n names ih =>
    cases ds with
    | nil => exact List.nil_prefix
    | cons d ds => exact List.prefix_cons_inj n |>.2 (ih ds)

theorem isSome_fields?_iff : (∃ f, d.fields? names = some f) ↔ HasForm names d := by
  constructor
  · rintro ⟨f, h⟩
    cases d with
    | object ms =>
      obtain ⟨found, hfound, -⟩ := Option.map_eq_some_iff.1 h
      obtain ⟨spelled, once, -⟩ := members?_eq_some.1 hfound
      exact .object spelled once
    | array ds =>
      rw [fields?] at h
      split at h
      · next fits => exact .array fits
      · cases h
    | _ => cases h
  · rintro (⟨spelled, once⟩ | ⟨fits⟩)
    · exact ⟨_, congrArg (Option.map _) (members?_eq_some.2 ⟨spelled, once, rfl⟩)⟩
    · exact ⟨_, if_pos fits⟩

theorem find?_eq_some (h : d.fields? names = some f) (distinct : names.Nodup)
    (hname : name ∈ names) : f.find? name = some v ↔ Holds names d name v := by
  cases d with
  | object ms =>
    obtain ⟨found, hfound, rfl⟩ := Option.map_eq_some_iff.1 h
    obtain ⟨-, once, rfl⟩ := members?_eq_some.1 hfound
    rw [Fields.find?, Dict.findEntry_eq_some_iff (by rwa [map_fst_fields]), mem_fields]
    refine ⟨fun h => .member h.2, fun h => ?_⟩
    cases h with
    | member h => exact ⟨hname, h⟩
  | array ds =>
    rw [fields?] at h
    split at h
    · cases h
      have hkeys : ((names.zip ds).map (·.1)).Nodup :=
        distinct.sublist (map_fst_zip_isPrefix names ds).sublist
      rw [Fields.find?, Dict.findEntry_eq_some_iff hkeys, mem_zip_iff]
      refine ⟨fun ⟨i, hn, hv⟩ => .item i hn hv, fun h => ?_⟩
      cases h with
      | item i hn hv => exact ⟨i, hn, hv⟩
    · cases h
  | _ => cases h

end Doc

end Json

end Herald
