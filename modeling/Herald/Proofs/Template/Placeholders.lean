import Herald.Template
import Mathlib.Data.List.TakeWhile
/-!
Where the holes of a text are, and what filling them comes to: one way to take the text apart, and
every part shown once, in its place.
-/

set_option autoImplicit false

namespace Herald.Template

def IsName (name : List Char) : Prop := name ≠ [] ∧ ∀ c ∈ name, isNameChar c = true

def written (name : List Char) : List Char := '$' :: '\x7b' :: (name ++ ['\x7d'])

def Opens (s : List Char) : Prop := ∃ name rest, IsName name ∧ s = written name ++ rest

/-- The text is made of these parts: from left to right, a hole where one opens, and else a
letter. -/
inductive Pieced : List Char → List Part → Prop where
  | nil : Pieced [] []
  | hole {name s : List Char} {ps : List Part} (proper : IsName name) (rest : Pieced s ps) :
      Pieced (written name ++ s) (.hole name :: ps)
  | letter {c : Char} {s : List Char} {ps : List Part} (closed : ¬ Opens (c :: s))
    (rest : Pieced s ps) :
      Pieced (c :: s) (.letter c :: ps)

variable {s t a name : List Char} {ps qs : List Part} {c x : Char} {b d : Bag} {e : RenderError}

theorem isNameChar_brace : isNameChar '\x7d' = false := by decide

theorem readHole?_written (h : IsName name) (rest : List Char) :
    readHole? (written name ++ rest) = some (name, rest) := by
  obtain ⟨ne_nil, hn⟩ := h
  have ht : (name ++ '\x7d' :: rest).takeWhile isNameChar = name := by
    rw [List.takeWhile_append_of_pos hn, List.takeWhile_cons_of_neg (by simp [isNameChar_brace]),
      List.append_nil]
  have hd : (name ++ '\x7d' :: rest).dropWhile isNameChar = '\x7d' :: rest := by
    rw [List.dropWhile_append_of_pos hn, List.dropWhile_cons_of_neg (by simp [isNameChar_brace])]
  obtain ⟨n, ns, rfl⟩ := List.exists_cons_of_ne_nil ne_nil
  simp only [written, List.cons_append, List.append_assoc, List.nil_append] at ht hd ⊢
  simp only [readHole?, ht, hd]

theorem written_of_readHole? {rest : List Char} (h : readHole? s = some (name, rest)) :
    IsName name ∧ s = written name ++ rest := by
  unfold readHole? at h
  split at h
  · next r =>
    split at h
    · next n ns rest' ht hd =>
      obtain ⟨rfl, rfl⟩ : n :: ns = name ∧ rest' = rest := by simpa using h
      have hr := List.takeWhile_append_dropWhile (p := isNameChar) (l := r)
      rw [ht, hd] at hr
      refine ⟨⟨List.cons_ne_nil _ _, fun c hc => List.mem_takeWhile_imp (ht ▸ hc)⟩, ?_⟩
      simp [written, ← hr]
    · cases h
  · cases h

theorem readHole?_eq_none : readHole? s = none ↔ ¬ Opens s := by
  constructor
  · rintro h ⟨name, rest, hn, rfl⟩
    rw [readHole?_written hn] at h
    cases h
  · intro h
    cases hs : readHole? s with
    | none => rfl
    | some r =>
      obtain ⟨name, rest⟩ := r
      obtain ⟨hn, he⟩ := written_of_readHole? hs
      exact absurd ⟨name, rest, hn, he⟩ h

theorem parts_nil : parts [] = [] := by
  rw [parts]
  rfl

theorem parts_written (h : IsName name) (s : List Char) :
    parts (written name ++ s) = .hole name :: parts s := by
  have hr := readHole?_written h s
  rw [parts]
  split
  · next hs =>
    cases hr.symm.trans hs
    rfl
  · next hs => cases hr.symm.trans hs

theorem parts_cons (h : ¬ Opens (c :: s)) : parts (c :: s) = .letter c :: parts s := by
  have hr := readHole?_eq_none.2 h
  rw [parts]
  split
  · next hs => cases hr.symm.trans hs
  · rfl

theorem pieced_parts (s : List Char) : Pieced s (parts s) := by
  fun_induction parts s with
  | case1 s name rest hr ih =>
    obtain ⟨hn, rfl⟩ := written_of_readHole? hr
    exact .hole hn ih
  | case2 => exact .nil
  | case3 c r hr ih => exact .letter (readHole?_eq_none.1 hr) ih

/-- There is one way to take a text apart. -/
theorem pieced_iff : Pieced s ps ↔ ps = parts s := by
  constructor
  · intro h
    induction h with
    | nil => exact parts_nil.symm
    | hole proper _ ih => rw [parts_written proper, ih]
    | letter closed _ ih => rw [parts_cons closed, ih]
  · rintro rfl
    exact pieced_parts s

def Bars (x : Char) : Prop := x ∉ ['\x7b', '\x7d'] ∧ isNameChar x = false

instance (x : Char) : Decidable (Bars x) := inferInstanceAs (Decidable (_ ∧ _))

/-- No hole reaches over a character that bars it. -/
theorem Opens.of_append (hx : Bars x) (ne_nil : s ≠ []) (h : Opens (s ++ x :: t)) : Opens s := by
  obtain ⟨name, rest, hn, he⟩ := h
  rcases List.append_eq_append_iff.1 he with ⟨m, hw, hm⟩ | ⟨m, rfl, -⟩
  · cases m with
    | nil => exact ⟨name, [], hn, by rw [hw, List.append_nil, List.append_nil]⟩
    | cons y m =>
      obtain ⟨rfl, -⟩ := List.cons.inj hm
      obtain ⟨k, s, rfl⟩ := List.exists_cons_of_ne_nil ne_nil
      -- behind the dollar sign the hole has braces and its name only
      have hmem : x ∈ '\x7b' :: (name ++ ['\x7d']) := by
        rw [(List.cons.inj hw).2]
        simp
      simp only [List.mem_cons, List.mem_append, List.not_mem_nil, or_false] at hmem
      rcases hmem with h | h | h
      · exact absurd (by simp [h]) hx.1
      · exact absurd (hn.2 x h) (by simp [hx.2])
      · exact absurd (by simp [h]) hx.1
  · exact ⟨name, m, hn, rfl⟩

theorem Pieced.append (hx : Bars x) (hs : Pieced s ps) (ht : Pieced (x :: t) qs) :
    Pieced (s ++ x :: t) (ps ++ qs) := by
  induction hs with
  | nil => exact ht
  | hole proper _ ih =>
    rw [List.append_assoc]
    exact .hole proper ih
  | letter closed _ ih => exact .letter (fun h => closed (h.of_append hx (List.cons_ne_nil _ _))) ih

theorem Pieced.letters (h : '$' ∉ a) (hs : Pieced s ps) :
    Pieced (a ++ s) (a.map .letter ++ ps) := by
  induction a with
  | nil => exact hs
  | cons c a ih =>
    rw [List.mem_cons, not_or] at h
    refine .letter ?_ (ih h.2)
    rintro ⟨name, rest, -, he⟩
    exact h.1 (List.cons.inj he).1.symm

theorem parts_append (hx : Bars x) (s t : List Char) :
    parts (s ++ x :: t) = parts s ++ parts (x :: t) :=
  (pieced_iff.1 ((pieced_parts s).append hx (pieced_parts (x :: t)))).symm

theorem parts_letters (h : '$' ∉ a) (s : List Char) : parts (a ++ s) = a.map .letter ++ parts s :=
  (pieced_iff.1 ((pieced_parts s).letters h)).symm

theorem mem_of_letter_mem (h : .letter c ∈ parts s) : c ∈ s := by
  have hs := pieced_parts s
  generalize parts s = ps at h hs
  induction hs with
  | nil => cases h
  | hole _ _ ih => exact List.mem_append_right _ (ih (by simpa using h))
  | letter _ _ ih =>
    rcases List.mem_cons.1 h with h | h
    · cases h
      exact List.mem_cons_self
    · exact List.mem_cons_of_mem _ (ih h)

/-- What a part comes to; a hole that the bag does not fill, to nothing. -/
def Part.shown (b : Bag) : Part → List Char
  | .letter c => [c]
  | .hole name => ((b.getValue (String.ofList name)).map (·.display.toList)).getD []

def Full (b : Bag) (ps : List Part) : Prop :=
  ∀ name, .hole name ∈ ps → b.getValue (String.ofList name) ≠ none

theorem full_cons_letter : Full b (.letter c :: ps) ↔ Full b ps := by simp [Full]

theorem full_cons_hole :
    Full b (.hole name :: ps) ↔ b.getValue (String.ofList name) ≠ none ∧ Full b ps := by
  simp [Full]

theorem full_append : Full b (ps ++ qs) ↔ Full b ps ∧ Full b qs := by
  simp [Full, or_imp, forall_and]

theorem fill_letter : fill b (.letter c :: ps) = (fill b ps).map (c :: ·) := by
  rw [fill]
  cases fill b ps <;> rfl

theorem fill_hole {v : Value} (h : b.getValue (String.ofList name) = some v) :
    fill b (.hole name :: ps) = (fill b ps).map (v.display.toList ++ ·) := by
  simp only [fill, h]
  cases fill b ps <;> rfl

theorem fill_hole_of_none (h : b.getValue (String.ofList name) = none) :
    fill b (.hole name :: ps) = .error (.missingParam (String.ofList name)) := by
  simp only [fill, h]

theorem fill_append (h : Full b ps) (qs : List Part) :
    fill b (ps ++ qs) = (fill b qs).map (ps.flatMap (Part.shown b) ++ ·) := by
  induction ps with
  | nil => cases hq : fill b qs <;> simp [hq, Except.map]
  | cons p ps ih =>
    cases p with
    | letter c =>
      rw [List.cons_append, fill_letter, ih (full_cons_letter.1 h)]
      cases fill b qs <;> rfl
    | hole name =>
      obtain ⟨hv, hps⟩ := full_cons_hole.1 h
      obtain ⟨v, hv⟩ := Option.ne_none_iff_exists'.1 hv
      rw [List.cons_append, fill_hole hv, ih hps]
      cases fill b qs <;> simp [Except.map, Part.shown, hv]

theorem fill_of_full (h : Full b ps) : fill b ps = .ok (ps.flatMap (Part.shown b)) := by
  simpa [fill, Except.map] using fill_append h []

/-- The first hole among the parts that the bag does not fill has this name. -/
def Lacks (b : Bag) (ps : List Part) (name : List Char) : Prop :=
  ∃ before after, ps = before ++ .hole name :: after ∧ Full b before ∧
    b.getValue (String.ofList name) = none

theorem fill_of_lacks (h : Lacks b ps name) :
    fill b ps = .error (.missingParam (String.ofList name)) := by
  obtain ⟨before, after, rfl, hb, hv⟩ := h
  rw [fill_append hb, fill_hole_of_none hv]
  rfl

theorem full_or_lacks (b : Bag) (ps : List Part) : Full b ps ∨ ∃ name, Lacks b ps name := by
  induction ps with
  | nil => exact .inl (by simp [Full])
  | cons p ps ih =>
    cases p with
    | letter c =>
      rcases ih with ih | ⟨name, before, after, rfl, hb, hv⟩
      · exact .inl (full_cons_letter.2 ih)
      · exact .inr ⟨name, .letter c :: before, after, rfl, full_cons_letter.2 hb, hv⟩
    | hole name =>
      by_cases hn : b.getValue (String.ofList name) = none
      · exact .inr ⟨name, [], ps, rfl, by simp [Full], hn⟩
      · rcases ih with ih | ⟨other, before, after, rfl, hb, hv⟩
        · exact .inl (full_cons_hole.2 ⟨hn, ih⟩)
        · exact .inr ⟨other, .hole name :: before, after, rfl, full_cons_hole.2 ⟨hn, hb⟩, hv⟩

theorem fill_eq_ok : fill b ps = .ok t ↔ Full b ps ∧ t = ps.flatMap (Part.shown b) := by
  constructor
  · intro h
    rcases full_or_lacks b ps with hf | ⟨name, hl⟩
    · exact ⟨hf, Except.ok.inj (h.symm.trans (fill_of_full hf))⟩
    · cases h.symm.trans (fill_of_lacks hl)
  · rintro ⟨hf, rfl⟩
    exact fill_of_full hf

theorem fill_eq_error :
    fill b ps = .error e ↔ ∃ name, Lacks b ps name ∧ e = .missingParam (String.ofList name) := by
  constructor
  · intro h
    rcases full_or_lacks b ps with hf | ⟨name, hl⟩
    · cases h.symm.trans (fill_of_full hf)
    · exact ⟨name, hl, Except.error.inj (h.symm.trans (fill_of_lacks hl))⟩
  · rintro ⟨name, hl, rfl⟩
    exact fill_of_lacks hl

theorem fill_congr
    (h : ∀ name, .hole name ∈ ps →
      b.getValue (String.ofList name) = d.getValue (String.ofList name)) :
    fill b ps = fill d ps := by
  induction ps with
  | nil => rfl
  | cons p ps ih =>
    have ih := ih fun name hn => h name (List.mem_cons_of_mem _ hn)
    cases p with
    | letter c => rw [fill_letter, fill_letter, ih]
    | hole name =>
      have hbd := h name List.mem_cons_self
      cases hv : d.getValue (String.ofList name) with
      | none => rw [fill_hole_of_none hv, fill_hole_of_none (hbd.trans hv)]
      | some v => rw [fill_hole hv, fill_hole (hbd.trans hv), ih]

theorem substitute_eq_ok {source text : String} : substitute source b = .ok text ↔
    Full b (parts source.toList) ∧
    text = String.ofList ((parts source.toList).flatMap (Part.shown b)) := by
  unfold substitute
  cases hf : fill b (parts source.toList) with
  | ok t =>
    obtain ⟨hb, rfl⟩ := fill_eq_ok.1 hf
    simp [hb, eq_comm]
  | error e =>
    have hn : ¬ Full b (parts source.toList) := fun hb => by cases hf.symm.trans (fill_of_full hb)
    simp [hn]

theorem substitute_eq_error {source : String} : substitute source b = .error e ↔
    ∃ name, Lacks b (parts source.toList) name ∧ e = .missingParam (String.ofList name) := by
  rw [← fill_eq_error, substitute]
  cases fill b (parts source.toList) <;> simp

/-- A source can be taken apart in one way, in which every hole that is written in it is a part. If
the bag fills all of them, the text is what the parts come to, one after another, and nothing that
was filled in is looked at again; if not, the first hole that is not filled is the fault. Of a bag
nothing else counts than what it has for the names in the source. -/
theorem fills_in_one_pass (source : String) : ∃ ps, (∀ qs, Pieced source.toList qs ↔ qs = ps) ∧
    (∀ a name z, IsName name → source.toList = a ++ (written name ++ z) →
      ∃ qs rs, Pieced a qs ∧ Pieced z rs ∧ ps = qs ++ .hole name :: rs) ∧
    ∀ b : Bag,
      (∀ text, substitute source b = .ok text ↔
        Full b ps ∧ text = String.ofList (ps.flatMap (Part.shown b))) ∧
      (∀ e, substitute source b = .error e ↔
        ∃ name, Lacks b ps name ∧ e = .missingParam (String.ofList name)) ∧
      ∀ d : Bag, (∀ name, .hole name ∈ ps →
        b.getValue (String.ofList name) = d.getValue (String.ofList name)) →
        substitute source b = substitute source d := by
  refine ⟨parts source.toList, fun qs => pieced_iff, fun a name z hn hs => ?_, fun b =>
    ⟨fun text => substitute_eq_ok, fun e => substitute_eq_error, fun d h => ?_⟩⟩
  · refine ⟨parts a, parts z, pieced_parts a, pieced_parts z, ?_⟩
    rw [hs, ← parts_written hn z]
    exact parts_append (by decide) a _
  · rw [substitute, substitute, fill_congr h]

theorem fills_in_one_pass_of_nested :
    let source := "$\x7b$\x7bx\x7d\x7d $\x7b\x7d $\x7ba b\x7d $\x7by\x7d"
    let b : Bag := .ofList [("x", .text "$\x7by\x7d"), ("y", .boolean true)]
    let d : Bag := .ofList [("a", .text ""), ("x", .text "$\x7by\x7d"), ("y", .boolean true)]
    substitute source b = .ok "$\x7b$\x7by\x7d\x7d $\x7b\x7d $\x7ba b\x7d true" ∧
      substitute source b = substitute source d := by
  intro source b d
  obtain ⟨ps, hp, -, hb⟩ := fills_in_one_pass source
  obtain rfl : parts source.toList = ps := (hp _).1 (pieced_parts _)
  have holes : ∀ name, .hole name ∈ parts source.toList → name = ['x'] ∨ name = ['y'] := by
    have hs : parts source.toList = "$\x7b".toList.map .letter ++ .hole ['x'] ::
        ("\x7d $\x7b\x7d $\x7ba b\x7d ".toList.map .letter ++ [.hole ['y']]) := by decide +kernel
    intro name hn
    simpa [hs] using hn
  refine ⟨((hb b).1 _).2 ⟨fun name hn => ?_, by decide +kernel⟩, (hb b).2.2 d fun name hn => ?_⟩
  · rcases holes name hn with rfl | rfl <;> decide +kernel
  · rcases holes name hn with rfl | rfl <;> decide +kernel

end Herald.Template
