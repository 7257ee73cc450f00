/-!
Finite maps from text to values, kept as entries in increasing key order. The order is the one
every listing and every written document shows, and it makes a map equal to any other that
answers the same look-ups.
-/

set_option autoImplicit false

namespace Herald

/-- Entries in strictly increasing key order. -/
@[ext] structure Dict (α : Type) where
  entries : List (String × α)
  sorted : entries.Pairwise (fun a b => a.1 < b.1) := by simp
  deriving DecidableEq, Repr

namespace Dict

variable {α β : Type}

def empty : Dict α := ⟨[], by simp⟩

instance : Inhabited (Dict α) := ⟨empty⟩
instance : EmptyCollection (Dict α) := ⟨empty⟩

def findEntry (k : String) : List (String × α) → Option α
  | [] => none
  | e :: r => if k = e.1 then some e.2 else findEntry k r

def insertEntry (k : String) (v : α) : List (String × α) → List (String × α)
  | [] => [(k, v)]
  | e :: r => if k < e.1 then (k, v) :: e :: r else if k = e.1 then (k, v) :: r
    else e :: insertEntry k v r

theorem mem_insertEntry {k : String} {v : α} {l : List (String × α)} {e : String × α}
    (h : e ∈ insertEntry k v l) : e = (k, v) ∨ e ∈ l := by
  induction l with
  | nil => simpa [insertEntry] using h
  | cons a r ih => grind [insertEntry]

theorem pairwise_insertEntry (k : String) (v : α) {l : List (String × α)}
    (h : l.Pairwise (fun a b => a.1 < b.1)) :
    (insertEntry k v l).Pairwise (fun a b => a.1 < b.1) := by
  induction l with
  | nil => simp [insertEntry]
  | cons a r ih =>
    obtain ⟨ha, hr⟩ := List.pairwise_cons.1 h
    unfold insertEntry
    split
    · next hk =>
      refine List.pairwise_cons.2 ⟨fun b hb => ?_, h⟩
      rcases List.mem_cons.1 hb with rfl | hb
      · exact hk
      · exact String.lt_trans hk (ha b hb)
    · split
      · next he => subst he; exact List.pairwise_cons.2 ⟨fun b hb => ha b hb, hr⟩
      · next hk he =>
        refine List.pairwise_cons.2 ⟨fun b hb => ?_, ih hr⟩
        rcases mem_insertEntry hb with rfl | hb
        · rcases Std.lt_trichotomy k a.1 with h | h | h
          · exact absurd h hk
          · exact absurd h he
          · exact h
        · exact ha b hb

def insert (d : Dict α) (k : String) (v : α) : Dict α :=
  ⟨insertEntry k v d.entries, pairwise_insertEntry k v d.sorted⟩

def get? (d : Dict α) (k : String) : Option α := findEntry k d.entries

def contains (d : Dict α) (k : String) : Bool := (d.get? k).isSome

def erase (d : Dict α) (k : String) : Dict α :=
  ⟨d.entries.filter (fun e => e.1 ≠ k), d.sorted.filter _⟩

def size (d : Dict α) : Nat := d.entries.length

def isEmpty (d : Dict α) : Bool := d.entries.isEmpty

def keys (d : Dict α) : List String := d.entries.map (·.1)

def ofList (l : List (String × α)) : Dict α := l.foldl (fun d e => d.insert e.1 e.2) empty

def override (d e : Dict α) : Dict α := e.entries.foldl (fun d e => d.insert e.1 e.2) d

def mapVal (f : String → α → β) (d : Dict α) : Dict β :=
  ⟨d.entries.map (fun e => (e.1, f e.1 e.2)), by
    rw [List.pairwise_map]; exact d.sorted⟩

theorem findEntry_insertEntry (k k' : String) (v : α) (l : List (String × α)) :
    findEntry k' (insertEntry k v l) = if k' = k then some v else findEntry k' l := by
  induction l with
  | nil => simp [insertEntry, findEntry]
  | cons a r ih => grind [insertEntry, findEntry]

theorem get?_insert (d : Dict α) (k k' : String) (v : α) :
    (d.insert k v).get? k' = if k' = k then some v else d.get? k' :=
  findEntry_insertEntry k k' v d.entries

@[simp] theorem get?_insert_self (d : Dict α) (k : String) (v : α) :
    (d.insert k v).get? k = some v := by
  simp [get?_insert]

theorem get?_erase (d : Dict α) (k k' : String) :
    (d.erase k).get? k' = if k' = k then none else d.get? k' := by
  obtain ⟨l, h⟩ := d
  simp only [erase, get?]
  clear h
  induction l with
  | nil => simp [findEntry]
  | cons a r ih => grind [findEntry]

@[simp] theorem get?_empty (k : String) : (empty : Dict α).get? k = none := rfl

theorem mem_of_findEntry {l : List (String × α)} {k : String} {v : α} (h : findEntry k l = some v) :
    (k, v) ∈ l := by
  induction l with
  | nil => simp [findEntry] at h
  | cons a r ih => grind [findEntry]

theorem findEntry_eq_none_of_lt {l : List (String × α)} {k : String} (h : ∀ e ∈ l, k < e.1) :
    findEntry k l = none := by
  cases hl : findEntry k l with
  | none => rfl
  | some v => exact absurd (h _ (mem_of_findEntry hl)) (String.lt_irrefl k)

theorem get?_override (d e : Dict α) (k : String) :
    (d.override e).get? k = (e.get? k).or (d.get? k) := by
  obtain ⟨l, h⟩ := e
  simp only [override, get?]
  induction l generalizing d with
  | nil => rfl
  | cons a r ih =>
    obtain ⟨ha, hr⟩ := List.pairwise_cons.1 h
    rw [List.foldl_cons, ih (d.insert a.1 a.2) hr]
    by_cases hk : k = a.1
    · subst hk
      simp [findEntry, findEntry_eq_none_of_lt ha, findEntry_insertEntry, insert]
    · simp [findEntry, hk, findEntry_insertEntry, insert]

private theorem entries_ext {l m : List (String × α)} (hl : l.Pairwise (fun a b => a.1 < b.1))
    (hm : m.Pairwise (fun a b => a.1 < b.1)) (h : ∀ k, findEntry k l = findEntry k m) : l = m := by
  induction l generalizing m with
  | nil =>
    cases m with
    | nil => rfl
    | cons b s => simpa [findEntry] using h b.1
  | cons a r ih =>
    obtain ⟨har, hr⟩ := List.pairwise_cons.1 hl
    cases m with
    | nil => simpa [findEntry] using h a.1
    | cons b s =>
      obtain ⟨hbs, hs⟩ := List.pairwise_cons.1 hm
      have key : a.1 = b.1 := by
        rcases Std.lt_trichotomy a.1 b.1 with hlt | heq | hlt
        · have h1 := h a.1
          have h2 : findEntry a.1 s = none :=
            findEntry_eq_none_of_lt fun e he => String.lt_trans hlt (hbs e he)
          grind [findEntry]
        · exact heq
        · have h1 := h b.1
          have h2 : findEntry b.1 r = none :=
            findEntry_eq_none_of_lt fun e he => String.lt_trans hlt (har e he)
          grind [findEntry]
      have hv := h a.1
      simp [findEntry, key] at hv
      have hab : a = b := Prod.ext key hv
      subst hab
      rw [ih hr hs]
      intro k
      by_cases e : k = a.1
      · subst e
        rw [findEntry_eq_none_of_lt har, findEntry_eq_none_of_lt hbs]
      · simpa [findEntry, e] using h k

theorem ext_get? {d e : Dict α} (h : ∀ k, d.get? k = e.get? k) : d = e :=
  Dict.ext (entries_ext d.sorted e.sorted h)

end Dict

end Herald
