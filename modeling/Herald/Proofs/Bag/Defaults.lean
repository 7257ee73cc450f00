import Herald.Bag
import Mathlib.Data.List.Induction
/-!
Bags over whole histories. A name holds what the last edit that reached it left there, and what a
bag remembers for a name is what it held when its defaults were last taken. What is remembered is
never missing, so that to unset a name always puts its default back.
-/

set_option autoImplicit false

namespace Herald

theorem Value.as?_eq_some_iff {k : Value.Kind} {v : Value} {c : k.Carrier} : as? k v = some c ↔
    v = of k c := by
  constructor
  · intro h
    cases k <;> cases v <;> cases h <;> rfl
  · rintro rfl
    exact as?_of k c

namespace Bag

variable {b : Bag} {name : String}

def remembered (b : Bag) (name : String) : Option Value := b.defaults.bind (·.get? name)

theorem getValue_ofList (l : List (String × Value)) (name : String) :
    (ofList l).getValue name = l.reverse.findSome? fun e => if e.1 = name
    then some e.2 else none := by
  induction l using List.reverseRecOn with
  | nil => rfl
  | append_singleton l e ih =>
    have hinsert : (ofList (l ++ [e])).getValue name =
        ((ofList l).setValue e.1 e.2).getValue name := by
      rw [ofList, Dict.ofList, List.foldl_append]
      rfl
    rw [hinsert, getValue_setValue, ih, List.reverse_concat, List.findSome?_cons]
    by_cases h : name = e.1
    · rw [if_pos h, if_pos h.symm]
    · rw [if_neg h, if_neg (Ne.symm h)]

theorem contains_eq (b : Bag) (name : String) : b.contains name = (b.getValue name).isSome := rfl

def Complete (b : Bag) : Prop := ∀ name, (b.remembered name).isSome = true → b.contains name = true

theorem defaults_unsetValue (b : Bag) (name : String) :
    (b.unsetValue name).defaults = b.defaults := by
  unfold unsetValue
  split
  · split <;> rfl
  · rfl

theorem getValue_unsetValue (b : Bag) (n name : String) : (b.unsetValue n).getValue name =
    if n = name then if b.contains name then b.remembered name else none else b.getValue name := by
  by_cases hname : n = name
  · subst hname
    rw [if_pos rfl, unsetValue]
    cases hc : b.contains n with
    | false =>
      rw [contains_eq, Option.isSome_eq_false_iff, Option.isNone_iff_eq_none] at hc
      exact hc
    | true =>
      rw [if_pos rfl, if_pos rfl]
      cases hd : b.defaults.bind (·.get? n) with
      | none => exact (Dict.get?_erase _ _ _).trans (by simp [remembered, hd])
      | some v => exact (Dict.get?_insert_self _ _ _).trans hd.symm
  · rw [if_neg hname, unsetValue]
    split
    · have herase : (b.values.erase n).get? name = b.getValue name :=
        (Dict.get?_erase _ _ _).trans (if_neg (Ne.symm hname))
      split
      · exact herase
      · exact (Dict.get?_insert _ _ _ _).trans ((if_neg (Ne.symm hname)).trans herase)
    · rfl

theorem Complete.getValue_unsetValue (h : b.Complete) (name : String) :
    (b.unsetValue name).getValue name = b.remembered name := by
  rw [Bag.getValue_unsetValue, if_pos rfl]
  split
  · rfl
  · next hc =>
    cases hr : b.remembered name with
    | none => rfl
    | some v => exact absurd (h name (by rw [hr]; rfl)) hc

inductive Edit where
  | withDefaults (c : Bag)
  | ofList (l : List (String × Value))
  | set {k : Value.Kind} (key : Key k) (c : k.Carrier)
  | setValue (name : String) (v : Value)
  | unset {k : Value.Kind} (key : Key k)
  | unsetValue (name : String)
  | merge (c : Bag)
  /-- Takes what the bag holds as its defaults. -/
  | rebase

namespace Edit

def apply : Edit → Bag → Bag
  | .withDefaults c, _ => c.withDefaults
  | .ofList l, _ => .ofList l
  | .set key c, b => b.set key c
  | .setValue n v, b => b.setValue n v
  | .unset key, b => b.unset key
  | .unsetValue n, b => b.unsetValue n
  | .merge c, b => b.merge c
  | .rebase, b => b.withDefaults

/-- Whether it writes or unsets the name; one that begins another bag does either to every name. -/
def reaches (name : String) : Edit → Bool
  | .withDefaults _ | .ofList _ => true
  | .set key _ | .unset key => key.name == name
  | .setValue n _ | .unsetValue n => n == name
  | .merge c => c.contains name
  | .rebase => false

def unsets (name : String) : Edit → Bool
  | .unset key => key.name == name
  | .unsetValue n => n == name
  | _ => false

/-- Whether it decides what is remembered. -/
def founds : Edit → Bool
  | .withDefaults _ | .ofList _ | .rebase => true
  | _ => false

def leaves (name : String) (default : Option Value) : Edit → Option Value
  | .withDefaults c | .merge c => c.getValue name
  | .ofList l => l.reverse.findSome? fun e => if e.1 = name then some e.2 else none
  | .set (k := k) _ c => some (.of k c)
  | .setValue _ v => some v
  | .unset _ | .unsetValue _ => default
  | .rebase => none

/-- What it lets the bag remember for the name, if it decides that. -/
def recalls (name : String) (held : Option Value) : Edit → Option Value
  | .withDefaults c => c.getValue name
  | .rebase => held
  | _ => none

variable {e : Edit}

theorem reaches_of_unsets (h : e.unsets name = true) : e.reaches name = true := by
  cases e <;> first | exact h | cases h

theorem leaves_of_unsets (h : e.unsets name = true) (default : Option Value) :
    e.leaves name default = default := by
  cases e <;> first | rfl | cases h

theorem founds_of_unsets (h : e.unsets name = true) : e.founds = false := by
  cases e <;> first | rfl | cases h

/-- A name that an edit does not reach keeps what it holds, in any bag. -/
theorem getValue_apply_of_not_reaches (h : e.reaches name = false) (b : Bag) :
    (e.apply b).getValue name = b.getValue name := by
  cases e with
  | withDefaults c => cases h
  | ofList l => cases h
  | set key c =>
    exact (getValue_setValue _ _ _ _).trans (if_neg (Ne.symm (beq_eq_false_iff_ne.1 h)))
  | setValue n v =>
    exact (getValue_setValue _ _ _ _).trans (if_neg (Ne.symm (beq_eq_false_iff_ne.1 h)))
  | unset key => exact (getValue_unsetValue _ _ _).trans (if_neg (beq_eq_false_iff_ne.1 h))
  | unsetValue n => exact (getValue_unsetValue _ _ _).trans (if_neg (beq_eq_false_iff_ne.1 h))
  | merge c =>
    have hc : c.getValue name = none := by simpa [reaches, contains_eq] using h
    exact (getValue_merge _ _ _).trans (by rw [hc, Option.none_or])
  | rebase => rfl

theorem getValue_apply_of_reaches (h : e.reaches name = true) (hb : b.Complete) :
    (e.apply b).getValue name = e.leaves name (b.remembered name) := by
  cases e with
  | withDefaults c => rfl
  | ofList l => exact getValue_ofList l name
  | set key c => exact (getValue_setValue _ _ _ _).trans (if_pos (beq_iff_eq.1 h).symm)
  | setValue n v => exact (getValue_setValue _ _ _ _).trans (if_pos (beq_iff_eq.1 h).symm)
  | unset key => exact beq_iff_eq.1 h ▸ hb.getValue_unsetValue key.name
  | unsetValue n => exact beq_iff_eq.1 h ▸ hb.getValue_unsetValue n
  | merge c =>
    obtain ⟨v, hv⟩ := Option.isSome_iff_exists.1 (show (c.getValue name).isSome = true from h)
    exact (getValue_merge _ _ _).trans (by rw [leaves, hv, Option.some_or])
  | rebase => cases h

theorem defaults_apply (h : e.founds = false) (b : Bag) : (e.apply b).defaults = b.defaults := by
  cases e with
  | unset key => exact defaults_unsetValue b key.name
  | unsetValue n => exact defaults_unsetValue b n
  | _ => first | rfl | cases h

theorem remembered_apply_of_founds (h : e.founds = true) (b : Bag) (name : String) :
    (e.apply b).remembered name = e.recalls name (b.getValue name) := by
  cases e <;> first | rfl | cases h

theorem remembered_apply_of_not_founds (h : e.founds = false) (b : Bag) (name : String) :
    (e.apply b).remembered name = b.remembered name :=
  congrArg (·.bind (·.get? name)) (defaults_apply h b)

theorem complete_apply (e : Edit) (hb : b.Complete) : (e.apply b).Complete := by
  intro name hname
  rw [contains_eq]
  cases hf : e.founds with
  | true =>
    rw [remembered_apply_of_founds hf] at hname
    cases e with
    | withDefaults c => exact hname
    | rebase => exact hname
    | _ => cases hname
  | false =>
    rw [remembered_apply_of_not_founds hf] at hname
    cases he : e.reaches name with
    | false => exact (getValue_apply_of_not_reaches he b).symm ▸ hb name hname
    | true =>
      rw [getValue_apply_of_reaches he hb]
      cases e with
      | set key c => rfl
      | setValue n v => rfl
      | unset key => exact hname
      | unsetValue n => exact hname
      | merge c => exact he
      | _ => cases hf

end Edit

def run (b : Bag) (edits : List Edit) : Bag := edits.foldl (fun b e => e.apply b) b

variable {edits before after again : List Edit} {e : Edit}

theorem run_append (b : Bag) (before after : List Edit) :
    b.run (before ++ after) = (b.run before).run after :=
  List.foldl_append

theorem complete_run (hb : b.Complete) (edits : List Edit) : (b.run edits).Complete := by
  induction edits generalizing b with
  | nil => exact hb
  | cons e edits ih => exact ih (e.complete_apply hb)

theorem complete_empty : empty.Complete := fun _ h => h

theorem getValue_run_of_not_reaches (h : ∀ e ∈ edits, e.reaches name = false) (b : Bag) :
    (b.run edits).getValue name = b.getValue name := by
  induction edits generalizing b with
  | nil => rfl
  | cons e edits ih =>
    obtain ⟨he, h⟩ := List.forall_mem_cons.1 h
    exact (ih h (e.apply b)).trans (Edit.getValue_apply_of_not_reaches he b)

theorem defaults_run (h : ∀ e ∈ edits, e.founds = false) (b : Bag) :
    (b.run edits).defaults = b.defaults := by
  induction edits generalizing b with
  | nil => rfl
  | cons e edits ih =>
    obtain ⟨he, h⟩ := List.forall_mem_cons.1 h
    exact (ih h (e.apply b)).trans (Edit.defaults_apply he b)

theorem remembered_run_of_not_founds (h : ∀ e ∈ edits, e.founds = false) (b : Bag) (name : String) :
    (b.run edits).remembered name = b.remembered name :=
  congrArg (·.bind (·.get? name)) (defaults_run h b)

theorem getValue_run (he : e.reaches name = true) (hafter : ∀ d ∈ after, d.reaches name = false)
    (before : List Edit) : (empty.run (before ++ e :: after)).getValue name =
      e.leaves name ((empty.run before).remembered name) := by
  rw [run_append]
  exact (getValue_run_of_not_reaches hafter _).trans
    (Edit.getValue_apply_of_reaches he (complete_run complete_empty before))

theorem remembered_run (he : e.founds = true) (hafter : ∀ d ∈ after, d.founds = false)
    (before : List Edit) (name : String) : (empty.run (before ++ e :: after)).remembered name =
      e.recalls name ((empty.run before).getValue name) := by
  rw [run_append]
  exact (remembered_run_of_not_founds hafter _ name).trans
    (Edit.remembered_apply_of_founds he _ name)

theorem getValue_run_of_unsets (hne : again ≠ []) (h : ∀ e ∈ again, e.unsets name = true)
    (hb : b.Complete) : (b.run again).getValue name = b.remembered name := by
  cases again using List.reverseRecOn with
  | nil => exact absurd rfl hne
  | append_singleton before e =>
    obtain ⟨hbefore, he⟩ := List.forall_mem_append.1 h
    have he := he e (List.mem_singleton_self e)
    have hr : (b.run before).remembered name = b.remembered name :=
      remembered_run_of_not_founds (fun d hd => Edit.founds_of_unsets (hbefore d hd)) b name
    rw [run_append]
    exact (Edit.getValue_apply_of_reaches (Edit.reaches_of_unsets he)
      (complete_run hb before)).trans
      ((Edit.leaves_of_unsets he _).trans hr)

theorem get_eq_some_iff {k : Value.Kind} {key : Key k} {c : k.Carrier} :
    b.get key = some c ↔ b.getValue key.name = some (.of k c) := by
  rw [get, Option.bind_eq_some_iff]
  constructor
  · rintro ⟨v, hv, hc⟩
    rw [hv, Value.as?_eq_some_iff.1 hc]
  · intro h
    exact ⟨_, h, Value.as?_of k c⟩

theorem isSome_get_iff {k : Value.Kind} {key : Key k} :
    (b.get key).isSome = true ↔ ∃ v, b.getValue key.name = some v ∧ v.kind = k := by
  rw [get]
  cases b.getValue key.name with
  | none => simp
  | some v => simpa using Value.as?_isSome_iff

/-- After any history of a bag every name with a default is there. Unset it, by a key of whatever
type or by its name, once or many times in a row: then it holds its default, or nothing if it has
none. In general a name holds what the last edit that reached it left there, and nothing if none
did; what is remembered for it is what the last edit that decided this took for it. No edit changes,
in any bag, a name that it does not reach, and a merge changes nothing that is remembered. A key
reads a value if and only if it is of just the type of the key. -/
theorem keeps_the_last_edit :
    (∀ (edits : List Edit) (name : String), ((empty.run edits).remembered name).isSome = true →
      (empty.run edits).contains name = true) ∧
    (∀ (edits again : List Edit) (name : String), again ≠ [] → (∀ e ∈ again, e.unsets name = true) →
      (empty.run (edits ++ again)).getValue name = (empty.run edits).remembered name ∧
      (empty.run (edits ++ again)).remembered name = (empty.run edits).remembered name) ∧
    (∀ (before : List Edit) (e : Edit) (after : List Edit) (name : String), e.reaches name = true →
      (∀ d ∈ after, d.reaches name = false) → (empty.run (before ++ e :: after)).getValue name =
        e.leaves name ((empty.run before).remembered name)) ∧
    (∀ (edits : List Edit) (name : String), (∀ e ∈ edits, e.reaches name = false) →
      (empty.run edits).getValue name = none) ∧
    (∀ (before : List Edit) (e : Edit) (after : List Edit) (name : String), e.founds = true →
      (∀ d ∈ after, d.founds = false) → (empty.run (before ++ e :: after)).remembered name =
        e.recalls name ((empty.run before).getValue name)) ∧
    (∀ (b : Bag) (e : Edit) (name : String), e.reaches name = false →
      (e.apply b).getValue name = b.getValue name) ∧
    (∀ b c : Bag, (b.merge c).defaults = b.defaults) ∧
    ∀ (b : Bag) (k : Value.Kind) (key : Key k),
      (∀ c, b.get key = some c ↔ b.getValue key.name = some (.of k c)) ∧
      ((b.get key).isSome = true ↔ ∃ v, b.getValue key.name = some v ∧ v.kind = k) := by
  refine ⟨fun edits name => complete_run complete_empty edits name,
    fun edits again name hne h => ?_,
    fun before e after name he hafter => getValue_run he hafter before,
    fun edits name h => getValue_run_of_not_reaches h empty,
    fun before e after name he hafter => remembered_run he hafter before name,
    fun b e name h => Edit.getValue_apply_of_not_reaches h b, fun b c => rfl,
    fun b k key => ⟨fun c => get_eq_some_iff, isSome_get_iff⟩⟩
  rw [run_append]
  exact ⟨getValue_run_of_unsets hne h (complete_run complete_empty edits),
    remembered_run_of_not_founds (fun e he => Edit.founds_of_unsets (h e he)) _ name⟩

theorem keeps_the_last_edit_of_three :
    let x : Key .integer := { name := "x" }
    let b : Bag := .ofList [("x", .integer 1), ("y", .text "a")]
    let before : List Edit := [.withDefaults b, .set x 2,
      .merge (.withDefaults (.ofList [("x", .integer 3)]))]
    let after : List Edit := [.set x 4, .setValue "z" (.boolean true)]
    let again : List Edit := [.unsetValue "x", .unset x]
    (empty.run (before ++ .rebase :: after)).remembered "x" = some (.integer 3) ∧
      (empty.run (before ++ .rebase :: after)).contains "x" = true ∧
      (empty.run (before ++ .rebase :: after ++ again)).getValue "x" = some (.integer 3) ∧
      (empty.run (before ++ .rebase :: after)).getValue "y" = some (.text "a") ∧
      (empty.run (before ++ .rebase :: after ++ [.unsetValue "z"])).getValue "z" = none ∧
      (empty.run before).get x = some 3 := by
  intro x b before after again
  obtain ⟨present, unset, last, -, recalled, -, -, get⟩ := keeps_the_last_edit
  -- The names are looked up in the bag that is taken for the defaults, which is computed.
  have held : (empty.run before).getValue "x" = some (.integer 3) := by decide +kernel
  have hr : (empty.run (before ++ .rebase :: after)).remembered "x" = some (.integer 3) :=
    (recalled before .rebase after "x" rfl (by decide)).trans held
  have hz : (empty.run (before ++ .rebase :: after)).remembered "z" = none :=
    (recalled before .rebase after "z" rfl (by decide)).trans (by decide +kernel)
  exact ⟨hr, present _ "x" (by rw [hr]; rfl),
    (unset _ again "x" (by decide) (by decide)).1.trans hr,
    last [] (.withDefaults b) (before.tail ++ .rebase :: after) "y" rfl (by decide),
    (unset _ [.unsetValue "z"] "z" (by decide) (by decide)).1.trans hz, ((get _ _ x).1 3).2 held⟩

end Bag

end Herald
