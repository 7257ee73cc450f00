import Herald.Proofs.Json.Fields
import Herald.Proofs.Config.Settings
/-!
The layers of a configuration. Each setting is decided by itself: by its variable if that is set,
else by the document if it has the field, else by the default. What keeps a configuration from being
read is the document, or the first variable that cannot be read.
-/

set_option autoImplicit false

namespace Herald

open Json

namespace Config

variable {lookup : String → Option String} {c d : Config} {e : Fault}

def fieldNames : List String := Setting.all.map Setting.field

theorem nodup_fieldNames : fieldNames.Nodup := by decide

theorem field_mem_fieldNames (s : Setting) : s.field ∈ fieldNames := List.mem_map_of_mem s.mem_all

variable {doc : Doc} {f : Fields} {file : Option Doc}

/-- What the document says of a setting; else the default. -/
inductive Filed : Option Doc → (s : Setting) → s.Carrier → Prop where
  | held {doc x : Doc} {s : Setting} {v : s.Carrier} (h : Doc.Holds fieldNames doc s.field x)
    (hv : s.decode? x = some v) : Filed (some doc) s v
  | standard {file : Option Doc} {s : Setting}
    (h : ∀ doc ∈ file, ∀ x, ¬ Doc.Holds fieldNames doc s.field x) :
    Filed file s (s.of {})

/-- It has the form of a record, and whatever it holds for a field can be read. -/
structure Decodes (doc : Doc) : Prop where
  form : Doc.HasForm fieldNames doc
  read (s : Setting) (x : Doc) : Doc.Holds fieldNames doc s.field x → ∃ v, s.decode? x = some v

theorem decode?_eq_some_iff : decode? doc = some c ↔ ∃ f, doc.fields? fieldNames = some f ∧
    ∀ s : Setting, f.withDefault s.field s.decode? (s.of {}) = some (s.of c) := by
  simp only [decode?, Option.bind_eq_bind, Option.bind_eq_some_iff]
  constructor
  · rintro ⟨f, hf, w, hw, m, hm, b, hb, p, hp, u, hu, l, hl, j, hj, ⟨⟩⟩
    refine ⟨f, hf, fun s => ?_⟩
    cases s <;> assumption
  · rintro ⟨f, hf, h⟩
    exact ⟨f, hf, _, h .workers, _, h .maxErrors, _, h .backoff, _, h .pollInterval,
      _, h .databaseUrl, _, h .logFilter, _, h .logJson, rfl⟩

theorem withDefault_eq_some (hf : doc.fields? fieldNames = some f) {s : Setting} {v : s.Carrier} :
    f.withDefault s.field s.decode? (s.of {}) = some v ↔ Filed (some doc) s v := by
  have find (x : Doc) : f.find? s.field = some x ↔ Doc.Holds fieldNames doc s.field x :=
    Doc.find?_eq_some hf nodup_fieldNames (field_mem_fieldNames s)
  rw [Fields.withDefault]
  cases hx : f.find? s.field with
  | none =>
    constructor
    · rintro ⟨⟩
      refine .standard fun _ hdoc x h => ?_
      cases hdoc
      cases hx.symm.trans ((find x).2 h)
    · rintro (⟨h, -⟩ | -)
      · cases hx.symm.trans ((find _).2 h)
      · rfl
  | some x =>
    constructor
    · exact .held ((find x).1 hx)
    · rintro (⟨h, hv⟩ | h)
      · cases hx.symm.trans ((find _).2 h)
        exact hv
      · exact absurd ((find x).1 hx) (h doc rfl x)

theorem decode?_eq_some :
    decode? doc = some c ↔ Doc.HasForm fieldNames doc ∧ ∀ s :
    Setting, Filed (some doc) s (s.of c) := by
  rw [decode?_eq_some_iff, ← Doc.isSome_fields?_iff]
  constructor
  · rintro ⟨f, hf, h⟩
    exact ⟨⟨f, hf⟩, fun s => (withDefault_eq_some hf).1 (h s)⟩
  · rintro ⟨⟨f, hf⟩, h⟩
    exact ⟨f, hf, fun s => (withDefault_eq_some hf).2 (h s)⟩

theorem Filed.unique {s : Setting} {v w : s.Carrier}
    (form : ∀ doc ∈ file, Doc.HasForm fieldNames doc)
    (hv : Filed file s v) (hw : Filed file s w) : v = w := by
  cases file with
  | none =>
    cases hv
    cases hw
    rfl
  | some doc =>
    obtain ⟨f, hf⟩ := Doc.isSome_fields?_iff.2 (form doc rfl)
    rw [← withDefault_eq_some hf] at hv hw
    exact Option.some.inj (hv.symm.trans hw)

def ofSettings (g : ∀ s : Setting, s.Carrier) : Config :=
  ⟨g .workers, g .maxErrors, g .backoff, g .pollInterval, g .databaseUrl, g .logFilter, g .logJson⟩

theorem of_ofSettings (g : ∀ s : Setting, s.Carrier) (s : Setting) : s.of (ofSettings g) = g s := by
  cases s <;> rfl

theorem Decodes.exists_filed (h : Decodes doc) (s : Setting) : ∃ v, Filed (some doc) s v := by
  by_cases held : ∃ x, Doc.Holds fieldNames doc s.field x
  · obtain ⟨x, hx⟩ := held
    obtain ⟨v, hv⟩ := h.read s x hx
    exact ⟨v, .held hx hv⟩
  · refine ⟨s.of {}, .standard fun _ hdoc x hx => held ⟨x, ?_⟩⟩
    cases hdoc
    exact hx

theorem exists_decode?_iff : (∃ c, decode? doc = some c) ↔ Decodes doc := by
  constructor
  · rintro ⟨c, h⟩
    obtain ⟨form, filed⟩ := decode?_eq_some.1 h
    refine ⟨form, fun s x hx => ?_⟩
    obtain ⟨f, hf⟩ := Doc.isSome_fields?_iff.2 form
    have hfiled := (withDefault_eq_some hf).2 (filed s)
    rw [Fields.withDefault,
      (Doc.find?_eq_some hf nodup_fieldNames (field_mem_fieldNames s)).2 hx] at hfiled
    exact ⟨_, hfiled⟩
  · intro h
    choose g hg using h.exists_filed
    exact ⟨ofSettings g, decode?_eq_some.2 ⟨h.form, fun s => (of_ofSettings g s).symm ▸ hg s⟩⟩

variable {read : String → Except FileFault String}

/-- The document that the variables are laid over, if one is named; it can be read. -/
inductive Opens (lookup : String → Option String) (read : String → Except FileFault String) :
    Option Doc → Prop where
  | unnamed (h : lookup "NOTIFY_CONFIG" = none) : Opens lookup read none
  | named {path text : String} {doc : Doc} (hpath : lookup "NOTIFY_CONFIG" = some path)
    (htext : read path = .ok text) (hdoc : Doc.read? text.toList = some doc)
    (decodes : Decodes doc) : Opens lookup read (some doc)

/-- What is wrong with the file that is named: it cannot be read, or has no configuration in it. -/
inductive FileFails [Objections] (lookup : String → Option String)
    (read : String → Except FileFault String) : Fault → Prop where
  | unread {path : String} {why : FileFault} (hpath : lookup "NOTIFY_CONFIG" = some path)
    (hread : read path = .error why) :
    FileFails lookup read (.misconfigured (.unreadableFile path why.message))
  | undecoded {path text : String} (hpath : lookup "NOTIFY_CONFIG" = some path)
    (htext : read path = .ok text) (h : ∀ doc, Doc.read? text.toList = some doc → ¬ Decodes doc) :
    FileFails lookup read (.unread .configuration text)

/-- A setting's own variable decides, and only without it the document. -/
inductive Decided (lookup : String → Option String) (file : Option Doc) (s : Setting) :
    s.Carrier → Prop where
  | given {raw : String} {v : s.Carrier} (h : lookup s.variableName = some raw)
    (hv : s.Stands raw v) : Decided lookup file s v
  | filed {v : s.Carrier} (h : lookup s.variableName = none) (hv : Filed file s v) :
  Decided lookup file s v

def start [Objections] (lookup : String → Option String) (read : String → Except FileFault String) :
    Except Fault Config :=
  match lookup "NOTIFY_CONFIG" with
  | none => .ok {}
  | some path => ofFile read path

theorem ofVariables_eq [Objections] :
    ofVariables lookup read = (start lookup read >>= withVariables lookup) := by
  rw [ofVariables, start, Variable.configFile]
  cases lookup "NOTIFY_CONFIG" <;> rfl

theorem ofText_eq_ok [Objections] {text : String} :
    ofText text = .ok c ↔ ∃ doc, Doc.read? text.toList = some doc ∧ decode? doc = some c := by
  rw [ofText, ← Option.bind_eq_some_iff]
  cases (Doc.read? text.toList).bind decode? <;> simp

theorem ofText_eq_error [Objections] {text : String} : ofText text = .error e ↔
    (∀ doc, Doc.read? text.toList = some doc → ¬ Decodes doc) ∧
      e = .unread .configuration text := by
  have undecoded : (∀ doc, Doc.read? text.toList = some doc → ¬ Decodes doc) ↔
      (Doc.read? text.toList).bind decode? = none := by
    rw [Option.bind_eq_none_iff]
    refine forall₂_congr fun doc _ => ?_
    rw [← exists_decode?_iff, ← Option.ne_none_iff_exists', not_not]
  rw [ofText, undecoded]
  cases (Doc.read? text.toList).bind decode? <;> simp [eq_comm]

theorem Opens.form (h : Opens lookup read file) : ∀ doc ∈ file, Doc.HasForm fieldNames doc := by
  rintro doc hdoc
  cases h with
  | unnamed => cases hdoc
  | named _ _ _ decodes =>
    cases hdoc
    exact decodes.form

theorem Opens.exists_filed (h : Opens lookup read file) : ∃ c, ∀ s :
    Setting, Filed file s (s.of c) := by
  cases h with
  | unnamed => exact ⟨{}, fun s => .standard fun doc hdoc => by cases hdoc⟩
  | named _ _ _ decodes =>
    obtain ⟨c, hc⟩ := exists_decode?_iff.2 decodes
    exact ⟨c, (decode?_eq_some.1 hc).2⟩

theorem start_eq_ok [Objections] : start lookup read = .ok c ↔ ∃ file, Opens lookup read file ∧
    ∀ s : Setting, Filed file s (s.of c) := by
  constructor
  · intro h
    rw [start] at h
    split at h
    · next hpath =>
      cases h
      exact ⟨none, .unnamed hpath, fun s => .standard fun doc hdoc => by cases hdoc⟩
    · next path hpath =>
      rw [ofFile] at h
      split at h
      · next text htext =>
        obtain ⟨doc, hdoc, hc⟩ := ofText_eq_ok.1 h
        exact ⟨some doc, .named hpath htext hdoc (exists_decode?_iff.1 ⟨c, hc⟩),
          (decode?_eq_some.1 hc).2⟩
      · cases h
  · rintro ⟨file, hfile, h⟩
    cases hfile with
    | unnamed hpath =>
      have standard (s : Setting) : Filed none s (s.of {}) := .standard fun _ hdoc => by cases hdoc
      rw [start, hpath, ext_of fun s => (h s).unique (fun _ hdoc => by cases hdoc) (standard s)]
    | @named path text doc hpath htext hdoc decodes =>
      have hc : decode? doc = some c := decode?_eq_some.2 ⟨decodes.form, h⟩
      rw [start, hpath]
      simp only [ofFile, htext]
      exact ofText_eq_ok.2 ⟨doc, hdoc, hc⟩

theorem start_eq_error [Objections] : start lookup read = .error e ↔ FileFails lookup read e := by
  constructor
  · intro h
    rw [start] at h
    split at h
    · cases h
    · next path hpath =>
      rw [ofFile] at h
      split at h
      · next text htext =>
        obtain ⟨undecoded, rfl⟩ := ofText_eq_error.1 h
        exact .undecoded hpath htext undecoded
      · next why hread =>
        cases h
        exact .unread hpath hread
  · rintro (⟨hpath, hread⟩ | ⟨hpath, htext, undecoded⟩)
    · rw [start, hpath]
      simp only [ofFile, hread]
    · rw [start, hpath]
      simp only [ofFile, htext]
      exact ofText_eq_error.2 ⟨undecoded, rfl⟩

theorem exists_start_iff [Objections] : (∃ c, start lookup read = .ok c) ↔
    ∃ file, Opens lookup read file := by
  simp only [start_eq_ok]
  constructor
  · rintro ⟨c, file, h, -⟩
    exact ⟨file, h⟩
  · rintro ⟨file, h⟩
    obtain ⟨c, hc⟩ := h.exists_filed
    exact ⟨c, file, h, hc⟩

theorem ofVariables_eq_ok_iff_given [Objections] : ofVariables lookup read = .ok c ↔
    ∃ b, start lookup read = .ok b ∧ ∀ s : Setting, s.given lookup (s.of b) = .ok (s.of c) := by
  rw [ofVariables_eq, exceptBind_eq_ok]
  exact exists_congr fun b => and_congr_right fun _ => withVariables_eq_ok

theorem ofVariables_eq_ok [Objections] : ofVariables lookup read = .ok c ↔
    ∃ file, Opens lookup read file ∧ ∀ s : Setting, Decided lookup file s (s.of c) := by
  rw [ofVariables_eq_ok_iff_given]
  constructor
  · rintro ⟨b, hb, hc⟩
    obtain ⟨file, hfile, filed⟩ := start_eq_ok.1 hb
    refine ⟨file, hfile, fun s => ?_⟩
    rcases Setting.given_eq_ok.1 (hc s) with ⟨raw, hraw, hv⟩ | ⟨hunset, hv⟩
    · exact .given hraw hv
    · rw [hv]
      exact .filed hunset (filed s)
  · rintro ⟨file, hfile, decided⟩
    -- The document also says something of the settings that their variables decide, if only the
    -- default.
    obtain ⟨b, filed⟩ := hfile.exists_filed
    refine ⟨b, start_eq_ok.2 ⟨file, hfile, filed⟩, fun s => Setting.given_eq_ok.2 ?_⟩
    have hs := decided s
    generalize s.of c = v at hs
    cases hs with
    | given hraw hv => exact .inl ⟨_, hraw, hv⟩
    | filed hunset hv => exact .inr ⟨hunset, hv.unique hfile.form (filed s)⟩

theorem exists_ofVariables_iff [Objections] : (∃ c, ofVariables lookup read = .ok c) ↔
    (∃ file, Opens lookup read file) ∧ ∀ s ∈ Setting.checked, s.Parses lookup := by
  simp only [ofVariables_eq, exceptBind_eq_ok, ← exists_start_iff]
  constructor
  · rintro ⟨c, b, hb, hc⟩
    exact ⟨⟨b, hb⟩, exists_withVariables_iff.1 ⟨c, hc⟩⟩
  · rintro ⟨⟨b, hb⟩, h⟩
    obtain ⟨c, hc⟩ := exists_withVariables_iff.2 h
    exact ⟨c, b, hb, hc⟩

/-- `e` is the fault of the first setting in the order of reading whose variable does not parse. -/
def FirstFault (lookup : String → Option String) (e : Fault) : Prop :=
  ∃ before s after, Setting.checked = before ++ s :: after ∧ (∀ t ∈ before, t.Parses lookup) ∧
    ∃ raw, lookup s.variableName = some raw ∧ s.read raw = .error e

theorem firstFault_iff : FirstFault lookup e ↔
    Setting.checked.findSome? (·.fault? lookup) = some e := by
  rw [List.findSome?_eq_some_iff, FirstFault]
  simp only [Setting.fault?_eq_none, Setting.fault?_eq_some]
  constructor
  · rintro ⟨before, s, after, h, parse, hs⟩
    exact ⟨before, s, after, h, hs, parse⟩
  · rintro ⟨before, s, after, h, hs, parse⟩
    exact ⟨before, s, after, h, parse, hs⟩

theorem ofVariables_eq_error [Objections] : ofVariables lookup read = .error e ↔
    FileFails lookup read e ∨ (∃ file, Opens lookup read file) ∧ FirstFault lookup e := by
  simp only [ofVariables_eq, exceptBind_eq_error, start_eq_error,
    withVariables_eq_error, firstFault_iff, ← exists_start_iff, exists_and_right]

theorem of_eq_of_agree [Objections] {s t : Setting} {lookup' : String → Option String}
    (agree : ∀ name, name ≠ s.variableName → lookup' name = lookup name)
    (h : ofVariables lookup read = .ok c)
    (h' : ofVariables lookup' read = .ok d) (hts : t ≠ s) : t.of d = t.of c := by
  obtain ⟨b, hb, hc⟩ := ofVariables_eq_ok_iff_given.1 h
  obtain ⟨b', hb', hd⟩ := ofVariables_eq_ok_iff_given.1 h'
  have hstart : start lookup' read = start lookup read := by
    rw [start, start, agree _ s.variableName_ne_configFile.symm]
  cases (hb.symm.trans hstart.symm).trans hb'
  have hgiven : t.given lookup' (t.of b) = t.given lookup (t.of b) := by
    rw [Setting.given, Setting.given, agree _ fun h => hts (Setting.variableName_injective h)]
  exact Except.ok.inj ((hd t).symm.trans (hgiven.trans (hc t)))

theorem of_eq_of_stands [Objections] {s : Setting} {raw : String} {v : s.Carrier}
    (h : ofVariables lookup read = .ok c)
    (hset : lookup s.variableName = some raw) (hv : s.Stands raw v) : s.of c = v := by
  obtain ⟨b, -, hc⟩ := ofVariables_eq_ok_iff_given.1 h
  have hgiven := hc s
  rw [Setting.given, hset] at hgiven
  exact Except.ok.inj (hgiven.symm.trans (Setting.read_eq_ok.2 hv))

end Config

end Herald
