import Herald.Content.Directory
import Herald.Proofs.Text.Splitting
import Herald.Proofs.Content.Precedence
import Mathlib.Data.List.Nodup
/-!
Templates from a directory, whose files may be listed in any order. Of the files for one key and
version the one listed last is the template; so the order does not count if and only if such files
are alike, and what is loaded is what the names of the documented form say if and only if all names
that are taken have that form and no two of them are for one key and version.
-/

set_option autoImplicit false

namespace Herald

section LastWord

variable {α β : Type} {f : α → Option β} {l : List α} {a : α} {b : β}

theorem LastWord.exists_mem (h : LastWord f l b) : ∃ a ∈ l, f a = some b := by
  obtain ⟨before, a, after, rfl, ha, -⟩ := h
  exact ⟨a, by simp, ha⟩

theorem exists_lastWord (ha : a ∈ l) (h : f a = some b) : ∃ b', LastWord f l b' := by
  simp only [lastWord_iff, ← Option.isSome_iff_exists, List.findSome?_isSome_iff, List.mem_reverse]
  exact ⟨a, ha, by rw [h]; rfl⟩

theorem exists_perm_lastWord (ha : a ∈ l) (h : f a = some b) :
    ∃ l', l'.Perm l ∧ LastWord f l' b := by
  obtain ⟨before, after, rfl⟩ := List.append_of_mem ha
  refine ⟨before ++ after ++ [a], ?_, lastWord_concat.2 (.inl h)⟩
  exact (List.perm_append_singleton a (before ++ after)).trans List.perm_middle.symm

/-- Where all answers are the same, the order does not count. -/
theorem lastWord_iff_exists (alike : ∀ a ∈ l, ∀ a' ∈ l, ∀ b b', f a = some b →
    f a' = some b' → b = b') : LastWord f l b ↔ ∃ a ∈ l, f a = some b := by
  refine ⟨LastWord.exists_mem, fun ⟨a, ha, h⟩ => ?_⟩
  obtain ⟨b', hlast⟩ := exists_lastWord ha h
  obtain ⟨a', ha', h'⟩ := hlast.exists_mem
  rwa [alike a ha a' ha' b b' h h']

theorem lastWord_filterMap {γ : Type} {g : γ → Option α} {l : List γ} :
    LastWord f (l.filterMap g) b ↔ LastWord (fun c => (g c).bind f) l b := by
  rw [lastWord_iff, lastWord_iff, ← List.filterMap_reverse, ← List.head?_filterMap,
    List.filterMap_filterMap, List.head?_filterMap]

end LastWord

namespace Catalog

def versionWord : Version → String
  | .long => "long"
  | .short => "short"

def endingWord : MessageKind → String
  | .text => "txt"
  | .html => "html"

def fileName (key : String) (version : Version) (ending : String) : String :=
  key ++ "." ++ versionWord version ++ "." ++ ending

/-- The name is the key, the word for the version and some ending, with no other points in it. -/
def Labels (name key : String) (version : Version) (kind : MessageKind) : Prop :=
  ∃ ending : String, '.' ∉ key.toList ∧ '.' ∉ ending.toList ∧ name = fileName key version ending ∧
    kind = if ending = "html" then .html else .text

/-- The name is of the form that is documented: the ending is the word for the kind. -/
def Documented (name key : String) (version : Version) (kind : MessageKind) : Prop :=
  '.' ∉ key.toList ∧ name = fileName key version (endingWord kind)

instance (name key : String) (version : Version) (kind : MessageKind) :
    Decidable (Documented name key version kind) :=
  inferInstanceAs (Decidable (_ ∧ _))

variable {name key : String} {version : Version} {kind : MessageKind}

theorem toList_fileName (key : String) (version : Version) (ending : String) :
    (fileName key version ending).toList =
      ['.'].intercalate [key.toList, (versionWord version).toList, ending.toList] := by
  simp [fileName, List.intercalate]

theorem labels_of_splitOnChar {k v e : List Char} (h : Text.splitOnChar '.' name.toList = [k, v, e])
    (hv : v = (versionWord version).toList) :
    Labels name (.ofList k) version (if e = "html".toList then .html else .text) := by
  obtain ⟨-, plain, hname⟩ := Text.splitOnChar_eq_iff.1 h
  refine ⟨.ofList e, by simpa using plain k (by simp), by simpa using plain e (by simp), ?_, ?_⟩
  · rw [← String.toList_inj, toList_fileName, String.toList_ofList,
      String.toList_ofList, ← hv, hname]
  · simp only [← String.toList_inj, String.toList_ofList]

theorem splitOnChar_fileName {ending : String} (hkey : '.' ∉ key.toList)
    (hending : '.' ∉ ending.toList)
    (version : Version) : Text.splitOnChar '.' (fileName key version ending).toList =
      [key.toList, (versionWord version).toList, ending.toList] := by
  refine Text.splitOnChar_eq_iff.2 ⟨by simp, ?_, toList_fileName key version ending⟩
  have hversion : '.' ∉ (versionWord version).toList := by cases version <;> decide
  simp [hkey, hending, hversion]

theorem ofFileName?_eq_some : ofFileName? name = some (key, version, kind) ↔
    Labels name key version kind := by
  constructor
  · intro h
    unfold ofFileName? at h
    split at h
    · next k v e hs =>
      dsimp only at h
      split at h
      · next hv =>
        cases h
        exact labels_of_splitOnChar hs hv
      · split at h
        · next hv =>
          cases h
          exact labels_of_splitOnChar hs hv
        · cases h
    · cases h
  · rintro ⟨ending, hkey, hending, rfl, rfl⟩
    rw [ofFileName?, splitOnChar_fileName hkey hending]
    simp only [String.toList_inj, String.ofList_toList]
    cases version
    · rfl
    · rfl

theorem Documented.labels (h : Documented name key version kind) : Labels name key version kind :=
  ⟨endingWord kind, h.1, by cases kind <;> decide, h.2, by cases kind <;> rfl⟩

theorem Labels.unique {key' : String} {version' : Version} {kind' : MessageKind}
    (h : Labels name key version kind) (h' : Labels name key' version' kind') :
    key = key' ∧ version = version' ∧ kind = kind' := by
  have he := Option.some.inj ((ofFileName?_eq_some.2 h).symm.trans (ofFileName?_eq_some.2 h'))
  simpa using he

def texts (files : List (String × String)) : List (String × FileEntry) :=
  files.map fun f => (f.1, .text f.2)

def ofFile? (f : String × String) : Option (String × Version × Template) :=
  (ofFileName? f.1).map fun r => (r.1, r.2.1, ⟨r.2.2, f.2⟩)

def source? (key : String) (version : Version) (f : String × String) : Option Template :=
  (ofFile? f).bind (offered key version)

def isLabelled (f : String × String) : Bool := (ofFileName? f.1).isSome

def isDocumented (f : String × String) : Bool :=
  (ofFileName? f.1).any fun r => Documented f.1 r.1 r.2.1 r.2.2

variable {files listed : List (String × String)} {f g : String × String} {t t' : Template}

theorem isLabelled_iff : isLabelled f = true ↔ ∃ key version kind, Labels f.1 key version kind := by
  simp only [isLabelled, Option.isSome_iff_exists, Prod.exists, ofFileName?_eq_some]

theorem isDocumented_iff : isDocumented f = true ↔
    ∃ key version kind, Documented f.1 key version kind := by
  simp only [isDocumented, Option.any_eq_true, Prod.exists, ofFileName?_eq_some, decide_eq_true_eq]
  exact ⟨fun ⟨key, version, kind, _, h⟩ => ⟨key, version, kind, h⟩,
    fun ⟨key, version, kind, h⟩ => ⟨key, version, kind, h.labels, h⟩⟩

theorem isLabelled_of_isDocumented (h : isDocumented f = true) : isLabelled f = true := by
  obtain ⟨key, version, kind, hd⟩ := isDocumented_iff.1 h
  exact isLabelled_iff.2 ⟨key, version, kind, hd.labels⟩

theorem source?_eq_some : source? key version f = some t ↔
    Labels f.1 key version t.kind ∧ f.2 = t.source := by
  rw [← ofFileName?_eq_some, source?, ofFile?]
  obtain ⟨kind, source⟩ := t
  cases h : ofFileName? f.1 with
  | none => simp
  | some r =>
    obtain ⟨key', version', kind'⟩ := r
    simp only [Option.map_some, Option.bind_some, offered]
    grind

theorem source?_eq_none : source? key version f = none ↔ ∀ kind, ¬ Labels f.1 key version kind := by
  constructor
  · intro h kind hl
    have hs : source? key version f = some ⟨kind, f.2⟩ := source?_eq_some.2 ⟨hl, rfl⟩
    rw [h] at hs
    cases hs
  · intro h
    cases hs : source? key version f with
    | none => rfl
    | some t => exact absurd (source?_eq_some.1 hs).1 (h t.kind)

theorem loadFiles_texts (c : Catalog) (files : List (String × String)) : c.loadFiles (texts files) =
    .ok ((files.filterMap ofFile?).foldl (fun c r => c.register r.1 r.2.1 r.2.2) c,
      files.countP isLabelled) := by
  induction files generalizing c with
  | nil => rfl
  | cons f files ih =>
    cases h : ofFileName? f.1 with
    | none =>
      have hl : isLabelled f = false := by rw [isLabelled, h]; rfl
      have hf : ofFile? f = none := by rw [ofFile?, h]; rfl
      rw [List.countP_cons_of_neg (by simp [hl]), List.filterMap_cons_none hf, ← ih c]
      simp only [texts, List.map_cons, loadFiles, h]
    | some r =>
      have hl : isLabelled f = true := by rw [isLabelled, h]; rfl
      have hf : ofFile? f = some (r.1, r.2.1, ⟨r.2.2, f.2⟩) := by rw [ofFile?, h]; rfl
      rw [List.countP_cons_of_pos hl, List.filterMap_cons_some hf, List.foldl_cons]
      have hrest := ih (c.register r.1 r.2.1 ⟨r.2.2, f.2⟩)
      simp only [texts] at hrest
      simp only [texts, List.map_cons, loadFiles, h, hrest]
      rfl

/-- Listed files are loaded, in any order, and as many as have names that are taken. For each key
and version the file that was listed last has the last word. -/
theorem exists_loadFiles (listed : List (String × String)) : ∃ c,
    empty.loadFiles (texts listed) = .ok (c, listed.countP isLabelled) ∧
    ∀ key version t, c.get? key version = some t ↔ LastWord (source? key version) listed t :=
  ⟨ofList (listed.filterMap ofFile?), loadFiles_texts empty listed,
    fun _ _ _ => get?_ofList_eq_some.trans lastWord_filterMap⟩

/-- The templates and their number are the same in whatever order the files are listed. -/
def OrderFree (files : List (String × String)) : Prop :=
  ∀ listed listed', listed.Perm files → listed'.Perm files → ∃ c c' n,
    empty.loadFiles (texts listed) = .ok (c, n) ∧ empty.loadFiles (texts listed') = .ok (c', n) ∧
    ∀ key version, c.get? key version = c'.get? key version

/-- In whatever order the files are listed, the templates are those of which a documented name
tells, and as many of them are counted. -/
def AsDocumented (files : List (String × String)) : Prop :=
  ∀ listed, listed.Perm files →
    ∃ c, empty.loadFiles (texts listed) = .ok (c, files.countP isDocumented) ∧
    ∀ key version t, c.get? key version = some t ↔
      ∃ f ∈ files, Documented f.1 key version t.kind ∧ f.2 = t.source

theorem orderFree_iff : OrderFree files ↔ ∀ f ∈ files, ∀ g ∈ files, ∀ key version t t',
    source? key version f = some t → source? key version g = some t' → t = t' := by
  constructor
  · intro h f hf g hg key version t t' ht ht'
    obtain ⟨listed, hlisted, hlast⟩ := exists_perm_lastWord hf ht
    obtain ⟨listed', hlisted', hlast'⟩ := exists_perm_lastWord hg ht'
    obtain ⟨c, hc, hget⟩ := exists_loadFiles listed
    obtain ⟨c', hc', hget'⟩ := exists_loadFiles listed'
    obtain ⟨_, _, _, hd, hd', same⟩ := h listed listed' hlisted hlisted'
    obtain ⟨rfl, -⟩ := Prod.mk.inj (Except.ok.inj (hc.symm.trans hd))
    obtain ⟨rfl, -⟩ := Prod.mk.inj (Except.ok.inj (hc'.symm.trans hd'))
    have heq := same key version
    rw [(hget key version t).2 hlast, (hget' key version t').2 hlast'] at heq
    exact Option.some.inj heq
  · intro alike listed listed' hlisted hlisted'
    obtain ⟨c, hc, hget⟩ := exists_loadFiles listed
    obtain ⟨c', hc', hget'⟩ := exists_loadFiles listed'
    refine ⟨c, c', _, hc, ?_, fun key version => Option.ext fun t => ?_⟩
    · rw [hc', (hlisted.trans hlisted'.symm).countP_eq]
    · have among {l : List (String × String)} (hl : l.Perm files) :
          LastWord (source? key version) l t ↔ ∃ f ∈ files, source? key version f = some t := by
        rw [lastWord_iff_exists fun f hf g hg =>
          alike f (hl.mem_iff.1 hf) g (hl.mem_iff.1 hg) key version]
        simp only [hl.mem_iff]
      rw [hget, hget', among hlisted, among hlisted']

theorem isDocumented_of_countP_eq (h : files.countP isLabelled = files.countP isDocumented)
    (hf : f ∈ files) (hl : isLabelled f = true) : isDocumented f = true := by
  have among : (files.filter isDocumented).countP isLabelled = files.countP isDocumented := by
    rw [List.countP_filter]
    refine List.countP_congr fun g _ => ?_
    rw [Bool.and_eq_true, and_iff_right_iff_imp]
    exact isLabelled_of_isDocumented
  rw [List.countP_eq_countP_filter_add files isLabelled isDocumented, among] at h
  have none_else : (files.filter fun g => !isDocumented g).countP isLabelled = 0 := by omega
  by_contra hd
  exact List.countP_eq_zero.1 none_else f (List.mem_filter.2 ⟨hf, by simpa using hd⟩) hl

theorem asDocumented_iff (distinct : (files.map (·.1)).Nodup) : AsDocumented files ↔
    (∀ f ∈ files, ∀ key version kind, Labels f.1 key version kind →
      Documented f.1 key version kind) ∧
    ∀ f ∈ files, ∀ g ∈ files, ∀ key version kind kind', Labels f.1 key version kind →
      Labels g.1 key version kind' → f = g := by
  constructor
  · intro h
    have documented (f : String × String) (hf : f ∈ files) (key : String) (version : Version)
        (kind : MessageKind) (hl : Labels f.1 key version kind) :
          Documented f.1 key version kind := by
      obtain ⟨c, hc, -⟩ := exists_loadFiles files
      obtain ⟨_, hd, -⟩ := h files (.refl _)
      have hcount := (Prod.mk.inj (Except.ok.inj (hc.symm.trans hd))).2
      obtain ⟨key', version', kind', hd⟩ := isDocumented_iff.1
        (isDocumented_of_countP_eq hcount hf (isLabelled_iff.2 ⟨key, version, kind, hl⟩))
      obtain ⟨rfl, rfl, rfl⟩ := hl.unique hd.labels
      exact hd
    refine ⟨documented, fun f hf g hg key version kind kind' hl hl' => ?_⟩
    have hd := documented f hf key version kind hl
    have hd' := documented g hg key version kind' hl'
    obtain ⟨c, -, hget⟩ := h files (.refl _)
    have ht := (hget key version ⟨kind, f.2⟩).2 ⟨f, hf, hd, rfl⟩
    have ht' := (hget key version ⟨kind', g.2⟩).2 ⟨g, hg, hd', rfl⟩
    obtain ⟨rfl, -⟩ := Template.mk.inj (Option.some.inj (ht.symm.trans ht'))
    exact List.inj_on_of_nodup_map distinct hf hg (hd.2.trans hd'.2.symm)
  · rintro ⟨documented, apart⟩ listed hlisted
    obtain ⟨c, hc, hget⟩ := exists_loadFiles listed
    refine ⟨c, ?_, fun key version t => ?_⟩
    · have hcount : files.countP isLabelled = files.countP isDocumented := by
        refine List.countP_congr fun f hf => ⟨fun hl => ?_, isLabelled_of_isDocumented⟩
        obtain ⟨key, version, kind, hl⟩ := isLabelled_iff.1 hl
        exact isDocumented_iff.2 ⟨key, version, kind, documented f hf key version kind hl⟩
      rw [hc, hlisted.countP_eq, hcount]
    · rw [hget, lastWord_iff_exists]
      · constructor
        · rintro ⟨f, hf, h⟩
          obtain ⟨hl, hs⟩ := source?_eq_some.1 h
          have hf := hlisted.mem_iff.1 hf
          exact ⟨f, hf, documented f hf key version t.kind hl, hs⟩
        · rintro ⟨f, hf, hd, hs⟩
          exact ⟨f, hlisted.mem_iff.2 hf, source?_eq_some.2 ⟨hd.labels, hs⟩⟩
      · intro f hf g hg t t' ht ht'
        have heq : f = g := apart f (hlisted.mem_iff.1 hf) g (hlisted.mem_iff.1 hg)
          key version t.kind t'.kind
          (source?_eq_some.1 ht).1 (source?_eq_some.1 ht').1
        subst heq
        exact Option.some.inj (ht.symm.trans ht')

/-- In whatever order files with distinct names are listed, they are loaded; those are counted whose
names are a key, a version's word and some ending, and of those for one key and version the file
listed last is the template. So the order does not count if and only if the files for one key and
version are alike in kind and text; and exactly the files with names of the documented form are
loaded, and counted, in whatever order, if and only if every ending is one of the two that are
documented and no two files are for one key and version. -/
theorem loads_as_documented_iff (files : List (String × String))
    (distinct : (files.map (·.1)).Nodup) :
    (∀ f, isLabelled f = true ↔ ∃ key version kind, Labels f.1 key version kind) ∧
    (∀ f, isDocumented f = true ↔ ∃ key version kind, Documented f.1 key version kind) ∧
    (∀ listed, listed.Perm files →
      ∃ c, empty.loadFiles (texts listed) = .ok (c, files.countP isLabelled) ∧
      ∀ key version t, c.get? key version = some t ↔
        ∃ before f after, listed = before ++ f :: after ∧
        Labels f.1 key version t.kind ∧ f.2 = t.source ∧ ∀ g ∈ after, ∀ kind,
        ¬ Labels g.1 key version kind) ∧
    (OrderFree files ↔ ∀ f ∈ files, ∀ g ∈ files, ∀ key version kind kind',
      Labels f.1 key version kind → Labels g.1 key version kind' → kind = kind' ∧ f.2 = g.2) ∧
    (AsDocumented files ↔
      (∀ f ∈ files, ∀ key version kind, Labels f.1 key version kind →
        Documented f.1 key version kind) ∧
      ∀ f ∈ files, ∀ g ∈ files, ∀ key version kind kind', Labels f.1 key version kind →
        Labels g.1 key version kind' → f = g) := by
  refine ⟨fun f => isLabelled_iff, fun f => isDocumented_iff, fun listed hlisted => ?_, ?_,
    asDocumented_iff distinct⟩
  · obtain ⟨c, hc, hget⟩ := exists_loadFiles listed
    refine ⟨c, by rw [hc, hlisted.countP_eq], fun key version t => (hget key version t).trans ?_⟩
    simp only [LastWord, source?_eq_some, source?_eq_none, and_assoc]
  · rw [orderFree_iff]
    constructor
    · intro alike f hf g hg key version kind kind' hl hl'
      exact Template.mk.inj (alike f hf g hg key version ⟨kind, f.2⟩ ⟨kind',
        g.2⟩ (source?_eq_some.2 ⟨hl, rfl⟩)
        (source?_eq_some.2 ⟨hl', rfl⟩))
    · rintro alike f hf g hg key version ⟨kind, s⟩ ⟨kind', s'⟩ ht ht'
      obtain ⟨hl, rfl⟩ := source?_eq_some.1 ht
      obtain ⟨hl', rfl⟩ := source?_eq_some.1 ht'
      obtain ⟨rfl, hs⟩ := alike f hf g hg key version kind kind' hl hl'
      rw [hs]

theorem loads_as_documented_iff_of_four :
    let files := [("welcome.long.txt", "Subject: Hi\n\nHello"), ("a.b.long.txt", "x"),
      ("welcome.short.html", "Subject: Hi\n\n<b>Hello</b>"), ("notes.txt", "y")]
    (files.map (·.1)).Nodup ∧ OrderFree files ∧ AsDocumented files := by
  intro files
  have distinct : (files.map (·.1)).Nodup := by decide
  have documented : ∀ f ∈ files, ∀ r ∈ ofFileName? f.1,
    Documented f.1 r.1 r.2.1 r.2.2 := by decide +kernel
  have apart : ∀ f ∈ files, ∀ g ∈ files, ∀ r ∈ ofFileName? f.1, ∀ r' ∈ ofFileName? g.1,
      r.1 = r'.1 → r.2.1 = r'.2.1 → f = g := by decide +kernel
  have one_each : ∀ f ∈ files, ∀ g ∈ files, ∀ key version kind kind', Labels f.1 key version kind →
      Labels g.1 key version kind' → f = g := fun f hf g hg key version kind kind' hl hl' =>
    apart f hf g hg _ (ofFileName?_eq_some.2 hl) _ (ofFileName?_eq_some.2 hl') rfl rfl
  obtain ⟨-, -, -, orderFree, asDocumented⟩ := loads_as_documented_iff files distinct
  refine ⟨distinct, orderFree.2 fun f hf g hg key version kind kind' hl hl' => ?_, asDocumented.2
    ⟨fun f hf key version kind hl => documented f hf _ (ofFileName?_eq_some.2 hl), one_each⟩⟩
  obtain rfl := one_each f hf g hg key version kind kind' hl hl'
  exact ⟨(hl.unique hl').2.2, rfl⟩

/-- A file with another ending is loaded as plain text all the same, and of a plain and an `html`
template for one key and version it is the order that decides. -/
theorem loads_strays_and_twins :
    let stray := [("welcome.long.md", "Subject: Hi\n\nHello")]
    let twins := [("welcome.long.txt", "Subject: Hi\n\nHello"),
      ("welcome.long.html", "Subject: Hi\n\n<b>Hello</b>")]
    ((stray.map (·.1)).Nodup ∧ ¬ AsDocumented stray) ∧
      (twins.map (·.1)).Nodup ∧ ¬ OrderFree twins ∧ ¬ AsDocumented twins := by
  intro stray twins
  have labels {name key : String} {version : Version} {kind : MessageKind}
      (h : ofFileName? name = some (key, version, kind)) : Labels name key version kind :=
        ofFileName?_eq_some.1 h
  have distinct : (stray.map (·.1)).Nodup := by decide
  have distinct' : (twins.map (·.1)).Nodup := by decide
  refine ⟨⟨distinct, fun h => ?_⟩, distinct', fun h => ?_, fun h => ?_⟩
  · have hd := ((asDocumented_iff distinct).1 h).1 _ List.mem_cons_self "welcome" .long .text
      (labels (by decide +kernel))
    exact absurd hd (by decide +kernel)
  · have heq := orderFree_iff.1 h twins[0] (by decide) twins[1] (by decide) "welcome" .long
      ⟨.text, twins[0].2⟩ ⟨.html, twins[1].2⟩ (by decide +kernel) (by decide +kernel)
    cases heq
  · have heq := ((asDocumented_iff distinct').1 h).2 twins[0] (by decide) twins[1]
      (by decide) "welcome" .long
      .text .html (labels (by decide +kernel)) (labels (by decide +kernel))
    exact absurd heq (by decide)

end Catalog

end Herald
