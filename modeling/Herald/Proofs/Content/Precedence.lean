import Herald.Content
import Mathlib.Data.List.Induction
/-!
Which of several has the last word: of templates for one key and version the one registered last,
and of parameters of one name those of the last source that has the name.
-/

set_option autoImplicit false

namespace Herald

section LastWord

variable {α β : Type} {f : α → Option β} {l : List α} {a : α} {b : β}

/-- The last in the list that has an answer has this one. -/
def LastWord (f : α → Option β) (l : List α) (b : β) : Prop :=
  ∃ before a after, l = before ++ a :: after ∧ f a = some b ∧ ∀ c ∈ after, f c = none

theorem lastWord_iff : LastWord f l b ↔ l.reverse.findSome? f = some b := by
  rw [List.findSome?_eq_some_iff]
  constructor
  · rintro ⟨before, a, after, rfl, ha, hafter⟩
    exact ⟨after.reverse, a, before.reverse, by simp, ha, by simpa using hafter⟩
  · rintro ⟨after, a, before, hl, ha, hafter⟩
    have hl := congrArg List.reverse hl
    exact ⟨before.reverse, a, after.reverse, by simpa using hl, ha, by simpa using hafter⟩

theorem not_lastWord_nil : ¬ LastWord f [] b := by simp [lastWord_iff]

theorem lastWord_concat : LastWord f (l ++ [a]) b ↔ f a = some b ∨ f a = none ∧ LastWord f l b := by
  rw [lastWord_iff, lastWord_iff, List.reverse_concat, List.findSome?_cons]
  cases f a <;> simp

end LastWord

namespace Catalog

variable {l : List (String × Version × Template)} {key : String} {version : Version} {t : Template}

def ofList (l : List (String × Version × Template)) : Catalog :=
  l.foldl (fun c r => c.register r.1 r.2.1 r.2.2) empty

def offered (key : String) (version : Version) (r : String × Version × Template) :
    Option Template :=
  if (r.1, r.2.1) = (key, version) then some r.2.2 else none

/-- The last template of the version, or the last long one if there is none of the version. -/
inductive Chosen (l : List (String × Version × Template)) (key : String) (version : Version)
    (t : Template) : Prop where
  | own (h : LastWord (offered key version) l t)
  | long (vacant : ∀ r ∈ l, offered key version r = none) (h : LastWord (offered key .long) l t)

theorem get?_ofList_concat (l : List (String × Version × Template))
    (r : String × Version × Template) :
    (ofList (l ++ [r])).get? key version =
      (offered key version r).or ((ofList l).get? key version) := by
  rw [ofList, List.foldl_append]
  refine (get?_register _ _ _ _ _ _).trans ?_
  rw [offered]
  split <;> rfl

theorem get?_ofList_eq_none : (ofList l).get? key version = none ↔
    ∀ r ∈ l, offered key version r = none := by
  induction l using List.reverseRecOn with
  | nil => exact iff_of_true rfl (by simp)
  | append_singleton l r ih =>
    rw [get?_ofList_concat, Option.or_eq_none_iff, ih, List.forall_mem_append,
      List.forall_mem_singleton, and_comm]

theorem get?_ofList_eq_some : (ofList l).get? key version = some t ↔
    LastWord (offered key version) l t := by
  induction l using List.reverseRecOn with
  | nil => exact iff_of_false (by rintro ⟨⟩) not_lastWord_nil
  | append_singleton l r ih => rw [get?_ofList_concat, Option.or_eq_some_iff, ih, lastWord_concat]

theorem find?_ofList_eq_some : (ofList l).find? key version = some t ↔ Chosen l key version t := by
  rw [find?, Option.or_eq_some_iff, get?_ofList_eq_some, get?_ofList_eq_none, get?_ofList_eq_some]
  constructor
  · rintro (h | ⟨vacant, h⟩)
    · exact .own h
    · exact .long vacant h
  · rintro (h | ⟨vacant, h⟩)
    · exact .inl h
    · exact .inr ⟨vacant, h⟩

end Catalog

namespace Bag

variable {sources : List Bag} {b c : Bag}

/-- The bag holds for each name what the last source that has the name holds for it, and remembers
nothing. -/
structure Merges (sources : List Bag) (b : Bag) : Prop where
  last : ∀ name v, b.getValue name = some v ↔ LastWord (·.getValue name) sources v
  bare : b.defaults = none

theorem merges_foldl (sources : List Bag) : Merges sources (sources.foldl merge empty) := by
  induction sources using List.reverseRecOn with
  | nil => exact ⟨fun name v => iff_of_false (by rintro ⟨⟩) not_lastWord_nil, rfl⟩
  | append_singleton sources c ih =>
    rw [List.foldl_append]
    refine ⟨fun name v => ?_, ih.bare⟩
    rw [lastWord_concat, ← ih.last name v]
    exact (congrArg (· = some v) (getValue_merge _ c name)).to_iff.trans Option.or_eq_some_iff

theorem Merges.unique (hb : Merges sources b) (hc : Merges sources c) : b = c := by
  have values : b.values = c.values := Dict.ext_get? fun name =>
    Option.ext fun v => (hb.last name v).trans (hc.last name v).symm
  have defaults : b.defaults = c.defaults := hb.bare.trans hc.bare.symm
  cases b
  cases c
  simp_all

end Bag

theorem Registry.toList_addAll {ι α : Type} (l : List (ι × α)) :
    (l.foldl (fun r e => r.add e.1 e.2) Registry.empty).toList = l.map (·.2) := by
  induction l using List.reverseRecOn with
  | nil => rfl
  | append_singleton l e ih =>
    rw [List.foldl_append, List.foldl_cons, List.foldl_nil, toList_add, ih, List.map_append,
      List.map_singleton]

namespace ContentService

variable {s : ContentService} {n : Notification} {p : Preferences} {c : ChannelPreferences}
    {fs : List Factory} {b d : Bag} {e : RenderError}

/-- The first of the factories that fails, fails like this. -/
def FirstFails (n : Notification) (p : Preferences) (fs : List Factory) (e : RenderError) : Prop :=
  ∃ before f after, fs = before ++ f :: after ∧ (∀ g ∈ before, ∃ b, g n p = .ok b) ∧
    f n p = .error e

abbrev Give (n : Notification) (p : Preferences) (fs : List Factory) (given : List Bag) : Prop :=
  List.Forall₂ (fun f b => f n p = .ok b) fs given

theorem addParams_eq_ok :
    addParams n p fs b = .ok d ↔ ∃ given, Give n p fs given ∧ d = given.foldl Bag.merge b := by
  induction fs generalizing b with
  | nil =>
    constructor
    · rintro ⟨⟩
      exact ⟨[], .nil, rfl⟩
    · rintro ⟨_, ⟨⟩, rfl⟩
      rfl
  | cons f fs ih =>
    rw [addParams]
    constructor
    · intro h
      cases hf : f n p with
      | error e =>
        rw [hf] at h
        cases h
      | ok c =>
        rw [hf] at h
        obtain ⟨given, hg, rfl⟩ := ih.1 h
        exact ⟨c :: given, .cons hf hg, rfl⟩
    · rintro ⟨given, hg, rfl⟩
      cases hg with
      | cons hf hg =>
        rw [hf]
        exact ih.2 ⟨_, hg, rfl⟩

theorem addParams_eq_error : addParams n p fs b = .error e ↔ FirstFails n p fs e := by
  induction fs generalizing b with
  | nil => simp [addParams, FirstFails]
  | cons f fs ih =>
    rw [addParams]
    cases hf : f n p with
    | error e' =>
      constructor
      · rintro ⟨⟩
        exact ⟨[], f, fs, rfl, by simp, hf⟩
      · rintro ⟨before, g, after, hl, hbefore, hg⟩
        cases before with
        | nil =>
          cases hl
          rw [← hf, hg]
        | cons g before =>
          cases hl
          obtain ⟨c, hc⟩ := hbefore f List.mem_cons_self
          cases hf.symm.trans hc
    | ok c =>
      refine ih.trans ?_
      constructor
      · rintro ⟨before, g, after, rfl, hbefore, hg⟩
        exact ⟨f :: before, g, after, rfl, List.forall_mem_cons.2 ⟨⟨c, hf⟩, hbefore⟩, hg⟩
      · rintro ⟨before, g, after, hl, hbefore, hg⟩
        cases before with
        | nil =>
          cases hl
          cases hf.symm.trans hg
        | cons g before =>
          cases hl
          exact ⟨before, _, after, rfl, (List.forall_mem_cons.1 hbefore).2, hg⟩

theorem mergeParams_eq_ok : s.mergeParams n p c = .ok b ↔
    ∃ given, Give n p s.factories.toList given ∧
    Bag.Merges (p.params :: c.params :: n.params :: given) b := by
  rw [mergeParams, addParams_eq_ok]
  refine exists_congr fun given => and_congr_right fun _ => ?_
  have hm := Bag.merges_foldl (p.params :: c.params :: n.params :: given)
  exact ⟨fun hb => hb ▸ hm, fun hb => hb.unique hm⟩

theorem produce_eq_ok {m : Dispatch} : s.produce n p c = .ok m ↔
    s.mergeParams n p c = .ok m.params ∧
    s.catalog.render n.templateKey c.version m.params = .ok m.message := by
  rw [produce]
  constructor
  · intro h
    cases hm : s.mergeParams n p c with
    | error e =>
      rw [hm] at h
      cases h
    | ok b =>
      simp only [hm] at h
      cases hr : s.catalog.render n.templateKey c.version b with
      | error e =>
        rw [hr] at h
        cases h
      | ok message =>
        rw [hr] at h
        cases h
        exact ⟨rfl, hr⟩
  · rintro ⟨hm, hr⟩
    simp only [hm, hr]

theorem produce_eq_error : s.produce n p c = .error e ↔ s.mergeParams n p c = .error e ∨
    ∃ b, s.mergeParams n p c = .ok b ∧ s.catalog.render n.templateKey c.version b = .error e := by
  rw [produce]
  cases hm : s.mergeParams n p c with
  | error e => simp
  | ok b => cases hr : s.catalog.render n.templateKey c.version b <;> simp [hr]

/-- Of the factories, registered one after another and perhaps more than once, the first one that
fails is the fault, of the bag and of the content alike. If none fails there is one bag: it has for
every name what the last source that has the name has, of the user, the channel, the notification
and the factories in their order, and remembers no defaults. With that bag the template is rendered,
and the content carries it. -/
theorem later_sources_win (catalog : Catalog) (registered : List (Mark × Factory))
    (n : Notification) (p : Preferences) (c : ChannelPreferences) :
    let s : ContentService := ⟨catalog, registered.foldl (fun r f => r.add f.1 f.2) .empty⟩
    let factories := registered.map (·.2)
    (∀ e, s.mergeParams n p c = .error e ↔ FirstFails n p factories e) ∧
    (∀ b, s.mergeParams n p c = .ok b ↔ ∃ given, Give n p factories given ∧
      Bag.Merges (p.params :: c.params :: n.params :: given) b) ∧
    (∀ e, s.produce n p c = .error e ↔ FirstFails n p factories e ∨
      ∃ b, s.mergeParams n p c = .ok b ∧ catalog.render n.templateKey c.version b = .error e) ∧
    ∀ m, s.produce n p c = .ok m ↔ s.mergeParams n p c = .ok m.params ∧
      catalog.render n.templateKey c.version m.params = .ok m.message := by
  intro s factories
  have hs : s.factories.toList = factories := Registry.toList_addAll registered
  have merge_error (e : RenderError) : s.mergeParams n p c = .error e ↔
      FirstFails n p factories e := by
    rw [mergeParams, addParams_eq_error, hs]
  refine ⟨merge_error, fun b => ?_, fun e => ?_, fun m => produce_eq_ok⟩
  · rw [mergeParams_eq_ok, hs]
  · rw [produce_eq_error, merge_error]

end ContentService

end Herald
