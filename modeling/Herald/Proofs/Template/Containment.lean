import Herald.Proofs.Template.Placeholders
import Herald.Proofs.Message.Normalizing
import Herald.Proofs.Content.Precedence
/-!
The values that fill a template stay in their places: without line breaks they make no header, end
none, and do not reach from the subject into the body.
-/

set_option autoImplicit false

namespace Herald

namespace Template

open Text

variable {s : List Char} {ps : List Part} {c : Char} {b : Bag}

/-- The bag fills all holes among the parts, with texts that stay within a line. -/
structure Inline (b : Bag) (ps : List Part) : Prop where
  full : Full b ps
  feedless : ∀ name v, .hole name ∈ ps → b.getValue (String.ofList name) = some v →
  '\n' ∉ v.display.toList
  returnless : ∀ name v, .hole name ∈ ps → b.getValue (String.ofList name) = some v →
  '\r' ∉ v.display.toList

def filled (b : Bag) (s : List Char) : List Char := (parts s).flatMap (Part.shown b)

theorem not_mem_filled (hs : c ∉ s)
    (h : ∀ name v, .hole name ∈ parts s → b.getValue (String.ofList name) = some v →
      c ∉ v.display.toList) :
    c ∉ filled b s := by
  intro hc
  obtain ⟨p, hp, hc⟩ := List.mem_flatMap.1 hc
  cases p with
  | letter d =>
    obtain rfl := List.mem_singleton.1 hc
    exact hs (mem_of_letter_mem hp)
  | hole name =>
    cases hv : b.getValue (String.ofList name) with
    | none => simp [Part.shown, hv] at hc
    | some v => exact h name v hp hv (by simpa [Part.shown, hv] using hc)

theorem mem_filled_of_letter (h : .letter c ∈ parts s) : c ∈ filled b s :=
  List.mem_flatMap.2 ⟨.letter c, h, by simp [Part.shown]⟩

theorem parts_feed (s t : List Char) :
    parts (s ++ '\n' :: t) = parts s ++ .letter '\n' :: parts t := by
  rw [parts_append (by decide)]
  exact congrArg (parts s ++ ·) (parts_letters (a := ['\n']) (by decide) t)

theorem filled_feed (s t : List Char) :
    filled b (s ++ '\n' :: t) = filled b s ++ '\n' :: filled b t := by
  rw [filled, parts_feed, List.flatMap_append]
  rfl

theorem parts_rawText (s t : List Char) : parts (Message.rawText s t) =
    "Subject: ".toList.map .letter ++ (parts s ++ .letter '\n' :: .letter '\n' :: parts t) := by
  unfold Message.rawText
  rw [parts_feed, parts_feed, parts_letters (by decide), parts_nil, List.nil_append,
    List.append_assoc]

theorem filled_rawText (b : Bag) (s t : List Char) :
    filled b (Message.rawText s t) = Message.rawText (filled b s) (filled b t) := by
  have hl (a : List Char) : (a.map Part.letter).flatMap (Part.shown b) = a := by
    rw [List.flatMap_map]
    simp [Part.shown]
  rw [filled, parts_rawText, List.flatMap_append, hl, List.flatMap_append]
  unfold Message.rawText
  rw [List.append_assoc]
  rfl

theorem full_rawText (hs : Full b (parts s)) {t : List Char} (ht : Full b (parts t)) :
    Full b (parts (Message.rawText s t)) := by
  rw [parts_rawText, full_append, full_append, full_cons_letter, full_cons_letter]
  exact ⟨fun name hn => by simp at hn, hs, ht⟩

theorem parts_firstLine_subset (s : List Char) : parts (firstLine s) ⊆ parts s := by
  rcases firstLine_cases s with hs | ⟨r, hs⟩
  · exact fun p hp => hs ▸ hp
  · intro p hp
    rw [hs, parts_feed]
    exact List.mem_append_left _ hp

theorem firstLine_filled (h : '\n' ∉ filled b (firstLine s)) :
    firstLine (filled b s) = filled b (firstLine s) := by
  rcases firstLine_cases s with hs | ⟨r, hs⟩
  · have hf : filled b s = filled b (firstLine s) := congrArg (filled b) hs
    rw [hf, firstLine_of_inner h]
  · have hf : filled b s = filled b (firstLine s) ++ '\n' :: filled b r :=
      (congrArg (filled b) hs).trans (filled_feed _ r)
    rw [hf, firstLine_append h]
    simp [firstLine]

theorem begins_filled (h : Inline b (parts s)) (hc : .letter c ∈ parts (firstLine s))
    (blank : isBlank c = false) : allBlank (firstLine (filled b s)) = false := by
  have inner : '\n' ∉ filled b (firstLine s) :=
    not_mem_filled (feed_not_mem_firstLine s) fun name v hn =>
    h.feedless name v (parts_firstLine_subset s hn)
  rw [firstLine_filled inner]
  exact allBlank_eq_false_iff.2 ⟨c, mem_filled_of_letter hc, blank⟩

theorem substitute_of_full {source : String} (h : Full b (parts source.toList)) :
    substitute source b = .ok (String.ofList (filled b source.toList)) :=
  substitute_eq_ok.2 ⟨h, rfl⟩

theorem render_of_inline {t : Template} {subject body : List Char}
    (source : t.source = String.ofList (Message.rawText subject body))
    (hs : Inline b (parts subject)) (hb : Inline b (parts body))
    (inner : '\n' ∉ subject) (whole : '\r' ∉ subject) (plain : '\r' ∉ body)
    (hc : .letter c ∈ parts (firstLine body)) (blank : isBlank c = false) :
    t.render b = .ok ⟨t.kind, String.ofList (trim (filled b subject)),
      String.ofList (trimEnd (filled b body))⟩ := by
  have raw : substitute t.source b =
      .ok (String.ofList (Message.rawText (filled b subject) (filled b body))) := by
    have full := full_rawText hs.full hb.full
    rw [substitute_of_full (by rwa [source, String.toList_ofList]), source,
      String.toList_ofList, filled_rawText]
  have whole : (filled b subject).getLast? ≠ some '\r' := fun hl =>
    not_mem_filled whole hs.returnless (List.mem_of_getLast? hl)
  have parsed := Message.parse_rawText (not_mem_filled inner hs.feedless) whole
    (not_mem_filled plain hb.returnless) (begins_filled hb hc blank) t.kind
  simp only [render, raw, parsed]

end Template

namespace Catalog

open Text Template

/-- What is rendered for a key and a version is the last template that was registered for them, or
the last long one of the key if none was. And a template of a subject and a body gives a message of
that subject and that body, each filled on its own, whatever the values are that fill them, as long
as they keep to a line and the body has a first line without them. -/
theorem contains_values (l : List (String × Version × Template)) (key : String)
    (version : Version) : (∀ t, (ofList l).find? key version = some t ↔ Chosen l key version t) ∧
    ∀ (t : Template) (subject body : String) (b : Bag), Chosen l key version t →
      t.source = "Subject: " ++ subject ++ "\n\n" ++ body →
      '\n' ∉ subject.toList → '\r' ∉ subject.toList → '\r' ∉ body.toList →
      (∃ c, .letter c ∈ parts (firstLine body.toList) ∧ isBlank c = false) →
      Inline b (parts subject.toList) → Inline b (parts body.toList) →
      ∃ s r, substitute subject b = .ok s ∧ substitute body b = .ok r ∧
        (ofList l).render key version b =
          .ok ⟨t.kind, trimmed s, String.ofList (trimEnd r.toList)⟩ := by
  refine ⟨fun t => find?_ofList_eq_some, ?_⟩
  rintro t subject body b chosen source inner whole plain ⟨c, hc, blank⟩ hs hb
  refine ⟨_, _, substitute_of_full hs.full, substitute_of_full hb.full, ?_⟩
  have raw : t.source = String.ofList (Message.rawText subject.toList body.toList) :=
    source.trans (Message.text_eq ⟨t.kind, subject, body⟩)
  simp only [Catalog.render, find?_ofList_eq_some.2 chosen]
  rw [render_of_inline raw hs hb inner whole plain hc blank, trimmed, String.toList_ofList,
    String.toList_ofList]

theorem contains_values_of_two :
    let subject := "$\x7bx\x7d: $\x7by\x7d"
    let body := "a$\x7bx\x7d\n\n$\x7by\x7d"
    let l : List (String × Version × Template) :=
      [("news", .long, ⟨.html, "Subject: a\n\nb"⟩),
        ("news", .long, ⟨.text, "Subject: " ++ subject ++ "\n\n" ++ body⟩),
          ("digest", .short, ⟨.text, ""⟩)]
    let b : Bag := .ofList [("x", .text " Subject: $\x7by\x7d"), ("y", .text "")]
    (ofList l).render "news" .short b =
      .ok ⟨.text, "Subject: $\x7by\x7d:", "a Subject: $\x7by\x7d"⟩ := by
  intro subject body l b
  have hx : b.getValue (String.ofList ['x']) =
    some (.text " Subject: $\x7by\x7d") := by decide +kernel
  have hy : b.getValue (String.ofList ['y']) = some (.text "") := by decide +kernel
  have line (name : List Char) (v : Value) (hn : name = ['x'] ∨ name = ['y'])
      (hv : b.getValue (String.ofList name) = some v) : '\n' ∉ v.display.toList ∧
        '\r' ∉ v.display.toList := by
    rcases hn with rfl | rfl
    · cases hx.symm.trans hv
      decide
    · cases hy.symm.trans hv
      decide
  have inline {ps : List Part} (h : ∀ name, .hole name ∈ ps → name = ['x'] ∨ name = ['y']) :
      Inline b ps := by
    refine ⟨fun name hn => ?_, fun name v hn hv => (line name v (h name hn) hv).1,
      fun name v hn hv => (line name v (h name hn) hv).2⟩
    rcases h name hn with rfl | rfl <;> simp [hx, hy]
  have hs : parts subject.toList =
    [.hole ['x'], .letter ':', .letter ' ', .hole ['y']] := by decide +kernel
  have hb : parts body.toList =
      [.letter 'a', .hole ['x'], .letter '\n', .letter '\n', .hole ['y']] := by
    decide +kernel
  have chosen : Chosen l "news" .short ⟨.text, "Subject: " ++ subject ++ "\n\n" ++ body⟩ :=
    .long (by decide) ⟨[("news", .long, ⟨.html, "Subject: a\n\nb"⟩)], _,
      [("digest", .short, ⟨.text, ""⟩)], rfl, rfl, by decide⟩
  obtain ⟨s, r, hsub, hbody, hm⟩ :=
    (contains_values l "news" .short).2 _ subject body b chosen rfl (by decide)
    (by decide) (by decide) ⟨'a', by decide +kernel, by decide⟩ (inline (by simp [hs]))
      (inline (by simp [hb]))
  have subjectText : substitute subject b = .ok " Subject: $\x7by\x7d: " := by decide +kernel
  have bodyText : substitute body b = .ok "a Subject: $\x7by\x7d\n\n" := by decide +kernel
  cases hsub.symm.trans subjectText
  cases hbody.symm.trans bodyText
  rw [hm]
  decide +kernel

end Catalog

end Herald
