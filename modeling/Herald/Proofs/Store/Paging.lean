import Herald.Proofs.Store.Numbers
import Herald.Proofs.Store.Readiness
import Herald.Proofs.Store.Recent
import Mathlib.Data.Set.List
/-!
The latest notifications of a user, page by page: pages put together are the page of both, and all
together hold each notification for the given audiences once, the newest first.
-/

set_option autoImplicit false

namespace Herald

/-- Made later, or at the same instant under a greater number. -/
def Notification.Newer (a b : Notification) : Prop :=
  b.createdAt < a.createdAt ∨ a.createdAt = b.createdAt ∧ ∃ i j, a.id = some i ∧
    b.id = some j ∧ j < i

def Row.Newer (a b : Row) : Prop :=
  b.createdAt < a.createdAt ∨ a.createdAt = b.createdAt ∧ b.id < a.id

theorem Notification.Newer.ne {a b : Notification} (h : a.Newer b) : a ≠ b := by
  rintro rfl
  rcases h with h | ⟨-, i, j, hi, hj, hlt⟩
  · exact Instant.not_le.2 h (Instant.le_refl _)
  · cases hi.symm.trans hj
    omega

theorem Instant.ofMillis_lt {d e : Int} (h : d < e) (hd : first.toMillis ≤ d)
    (he : e ≤ last.toMillis) : ofMillis d < ofMillis e := by
  refine not_le.1 fun hn => ?_
  have hd' := toMillis_ofMillis hd (by omega)
  have he' := toMillis_ofMillis (by omega) he
  rw [le_iff_toNanos (plain_ofMillis e) (plain_ofMillis d)] at hn
  rw [toMillis_eq_div] at hd' he'
  omega

theorem Instant.toMillis_mem {t : Instant} (h : t ≤ last) :
    first.toMillis ≤ t.toMillis ∧ t.toMillis ≤ last.toMillis := by
  have hmin := t.min_le
  have hnanos := t.nanos_lt
  rw [le_def] at h
  simp only [toMillis, first, last] at *
  omega

namespace Store

variable {S : Type} [Store S]

/-- `l` holds the latest notifications, and every page is a part of it. -/
structure Paged (s : S) (user : String) (audiences : List Audience)
    (l : List Notification) : Prop where
  all : ∀ n, n ∈ l ↔ ∃ id, Store.get id s = .ok (some n) ∧ n.user = user ∧ n.audience ∈ audiences
  once : l.Nodup
  none : audiences = [] → l = []
  whole : ∀ count, l.length ≤ count → count < 9223372036854775808 →
    Store.getRecent user audiences 0 count s = .ok l
  pages : ∀ o a b, o + a + b < 9223372036854775808 → ∃ p q,
    Store.getRecent user audiences o a s = .ok p ∧
    Store.getRecent user audiences (o + a) b s = .ok q ∧
      Store.getRecent user audiences o (a + b) s = .ok (p ++ q)
  /-- It does not matter how often an audience is named, nor where. -/
  audiences : ∀ others, (∀ a, a ∈ others ↔ a ∈ audiences) → ∀ o c,
    Store.getRecent user others o c s = Store.getRecent user audiences o c s

variable {s : S} {user : String} {audiences : List Audience} {l : List Notification}

theorem Paged.of_page
    (page : ∀ o c, o + c < 9223372036854775808 →
      Store.getRecent user audiences o c s = .ok ((l.drop o).take c))
    (all : ∀ n, n ∈ l ↔ ∃ id, Store.get id s = .ok (some n) ∧ n.user = user ∧
      n.audience ∈ audiences)
    (once : l.Nodup)
    (others : ∀ others, (∀ a, a ∈ others ↔ a ∈ audiences) → ∀ o c,
      Store.getRecent user others o c s = Store.getRecent user audiences o c s) :
    Paged s user audiences l where
  all := all
  once := once
  none h := by
    refine List.eq_nil_iff_forall_not_mem.2 fun n hn => ?_
    obtain ⟨_, _, _, ha⟩ := (all n).1 hn
    simp [h] at ha
  whole count hl hc := by
    rw [page 0 count (by omega), List.drop_zero, List.take_of_length_le hl]
  pages o a b h := by
    refine ⟨_, _, page o a (by omega), page (o + a) b (by omega), ?_⟩
    rw [page o (a + b) (by omega), List.take_add, List.drop_drop]
  audiences := others

end Store

theorem MemoryStore.newer_recent (s : MemoryStore) (user : String) (audiences : List Audience) :
    (s.recent user audiences).Pairwise Notification.Newer := by
  have newest := s.newest_recentRecords user audiences
  have number : ∀ r ∈ s.recentRecords user audiences, r.2.id = some r.1 := fun r hr =>
    id_of_find? ((newest.all r.1 r.2).1 hr).1
  rw [recent_eq_map, List.pairwise_map]
  refine newest.ordered.imp_of_mem fun {a b} ha hb h => ?_
  exact h.imp id fun h => ⟨h.1, a.1, b.1, number a ha, number b hb, h.2⟩

theorem MemoryStore.paged (s : MemoryStore) (user : String) (audiences : List Audience) :
    Store.Paged s user audiences (s.recent user audiences) := by
  refine .of_page (fun o c _ => rfl) (fun n => ?_) ?_ fun others h o c => ?_
  · rw [recent_eq_map, List.mem_map]
    constructor
    · rintro ⟨r, hr, rfl⟩
      obtain ⟨hf, h⟩ := ((s.newest_recentRecords user audiences).all r.1 r.2).1 hr
      exact ⟨r.1, congrArg Except.ok hf, h⟩
    · rintro ⟨id, hf, h⟩
      exact ⟨(id, n), ((s.newest_recentRecords user audiences).all id n).2 ⟨Except.ok.inj hf, h⟩,
        rfl⟩
  · exact (s.newer_recent user audiences).imp fun h => h.ne
  · have he : others.contains = audiences.contains := by
      funext a
      simp [h a]
    simp only [Store.getRecent, recent]
    rw [he]

namespace Row

variable {rs : List Row} {l : List Notification}

theorem origin_of_notification [Objections] {r : Row} {n : Notification}
    (h : r.notification = .ok n) :
    n.id = some r.id ∧ n.user = r.user ∧ n.audience = r.kind ∧
    n.createdAt = .ofMillis r.createdAt := by
  simp only [notification] at h
  split at h
  · cases h
  · cases h
    exact ⟨rfl, rfl, rfl, rfl⟩

theorem exists_reads [Objections] (readable : ∀ r ∈ rs, r.Readable) :
    ∃ l : List Notification, rs.map notification = l.map .ok := by
  have h : rs.map notification ∈ Set.range (List.map Except.ok) := by
    rw [Set.range_list_map]
    intro x hx
    obtain ⟨r, hr, rfl⟩ := List.mem_map.1 hx
    obtain ⟨n, hn⟩ := readable_iff.1 (readable r hr)
    exact ⟨n, hn.symm⟩
  obtain ⟨l, hl⟩ := h
  exact ⟨l, hl.symm⟩

variable [Objections] (reads : rs.map notification = l.map .ok)

include reads

theorem readAll_eq : Table.readAll rs = .ok l := by
  induction rs generalizing l with
  | nil =>
    rw [List.map_eq_nil_iff.1 reads.symm]
    rfl
  | cons r rs ih =>
    obtain ⟨n, ns, rfl, hn, hns⟩ := List.map_eq_cons_iff.1 reads.symm
    simp only [Table.readAll, ← hn, ih hns.symm]

theorem mem_of_reads {n : Notification} : n ∈ l ↔ ∃ r ∈ rs, r.notification = .ok n := by
  have hm : n ∈ l ↔ Except.ok n ∈ l.map (Except.ok (ε := Fault)) := by simp
  rw [hm, ← reads, List.mem_map]

theorem pairwise_of_reads {R : Notification → Notification → Prop}
    (h : rs.Pairwise fun a b => ∀ m n, a.notification = .ok m → b.notification = .ok n → R m n) :
    l.Pairwise R := by
  have hread : (rs.map notification).Pairwise fun x y => ∀ m n, x = .ok m → y = .ok n → R m n :=
    List.pairwise_map.2 h
  rw [reads, List.pairwise_map] at hread
  exact hread.imp fun h => h _ _ rfl rfl

end Row

namespace Table

variable {t : Table} {user : String} {audiences : List Audience} {rs : List Row}
    {l : List Notification}

/-- The rows of `l`, in the order of their dates and numbers. -/
structure Listed [Objections] (t : Table) (user : String)
    (audiences : List Audience) (rs : List Row) (l : List Notification) : Prop where
  rows : ∀ r, r ∈ rs ↔ r ∈ t.rows ∧ r.user = user ∧ r.kind ∈ audiences
  newest : rs.Pairwise Row.Newer
  reads : rs.map Row.notification = l.map .ok

theorem mem_recentRows {r : Row} :
    r ∈ t.recentRows user audiences ↔ r ∈ t.rows ∧ r.user = user ∧ r.kind ∈ audiences := by
  rw [recentRows, List.mem_mergeSort, List.mem_filter]
  simp

theorem newest_recentRows (t : Table) (user : String) (audiences : List Audience) :
    (t.recentRows user audiences).Pairwise fun a b => a.Newer b ∧ a.id ≠ b.id :=
  pairwise_latest (t.ascending.filter _)

theorem listed [Objections] (readable : ∀ r ∈ t.rows, r.Readable) (user : String)
    (audiences : List Audience) : ∃ l, t.Listed user audiences (t.recentRows user audiences) l := by
  obtain ⟨l, hl⟩ := Row.exists_reads fun r hr => readable r (mem_recentRows.1 hr).1
  exact ⟨l, fun r => mem_recentRows, (t.newest_recentRows user audiences).imp fun h => h.1, hl⟩

theorem Listed.paged [Objections] (h : t.Listed user audiences (t.recentRows user audiences) l) :
    Store.Paged t user audiences l := by
  refine .of_page (fun o c hlt => ?_) (fun n => ?_) ?_ fun others h o c => ?_
  · have hb : bound o = o ∧ bound c = c := by
      simp only [bound]
      omega
    rw [getRecent_eq, hb.1, hb.2]
    refine Row.readAll_eq ?_
    rw [List.map_take, List.map_drop, h.reads, List.map_take, List.map_drop]
  · rw [Row.mem_of_reads h.reads]
    constructor
    · rintro ⟨r, hr, hn⟩
      obtain ⟨hm, hu, hk⟩ := mem_recentRows.1 hr
      obtain ⟨-, hnu, hnk, -⟩ := Row.origin_of_notification hn
      exact ⟨r.id, get_eq_some.2 ⟨r, find?_of_mem hm, hn⟩, hnu.trans hu, hnk ▸ hk⟩
    · rintro ⟨id, hg, hu, hk⟩
      obtain ⟨r, hf, hn⟩ := get_eq_some.1 hg
      obtain ⟨-, hnu, hnk, -⟩ := Row.origin_of_notification hn
      exact ⟨r, mem_recentRows.2 ⟨List.mem_of_find?_eq_some hf, hnu ▸ hu, hnk ▸ hk⟩, hn⟩
  · refine Row.pairwise_of_reads h.reads ((t.newest_recentRows user audiences).imp ?_)
    rintro a b ⟨-, hne⟩ m n hm hn rfl
    have hid := (Row.origin_of_notification hm).1.symm.trans (Row.origin_of_notification hn).1
    exact hne (Option.some.inj hid)
  · have he : others.contains = audiences.contains := by
      funext a
      simp [h a]
    rw [getRecent_eq, getRecent_eq, recentRows, recentRows, he]

theorem Listed.newer [Objections] (h : t.Listed user audiences rs l)
    (dates : ∀ r ∈ t.rows, Instant.first.toMillis ≤ r.createdAt ∧
      r.createdAt ≤ Instant.last.toMillis) :
    l.Pairwise Notification.Newer := by
  refine Row.pairwise_of_reads h.reads (h.newest.imp_of_mem fun {a b} ha hb hab m n hm hn => ?_)
  obtain ⟨hmi, -, -, hmc⟩ := Row.origin_of_notification hm
  obtain ⟨hni, -, -, hnc⟩ := Row.origin_of_notification hn
  rw [Notification.Newer, hmc, hnc]
  rcases hab with hlt | ⟨heq, hlt⟩
  · have hda := (dates a ((h.rows a).1 ha).1).2
    have hdb := (dates b ((h.rows b).1 hb).1).1
    exact .inl (Instant.ofMillis_lt hlt hdb hda)
  · exact .inr ⟨congrArg Instant.ofMillis heq, a.id, b.id, hmi, hni, hlt⟩

end Table

/-- Page after page of the latest is all of them, each once, the newest first. A table orders them
by what its rows say; that is the order of the dates that it gives out when it has none from beyond
the calendar. -/
theorem Store.pages_latest [Objections] (user : String) (audiences : List Audience) :
    (∀ s : MemoryStore, ∃ l, Paged s user audiences l ∧ l.Pairwise Notification.Newer) ∧
    (∀ t : Table, (∀ r ∈ t.rows, r.Readable) →
      ∃ rs l, t.Listed user audiences rs l ∧ Paged t user audiences l) ∧
    ∀ qs, (∀ r ∈ (Request.run Table.empty qs).rows, r.Readable) →
      (∀ n, .save n ∈ qs → n.createdAt ≤ .last) →
      ∃ l, Paged (Request.run Table.empty qs) user audiences l ∧ l.Pairwise Notification.Newer := by
  refine ⟨fun s => ⟨_, s.paged user audiences, s.newer_recent user audiences⟩, fun t readable => ?_,
    fun qs readable saved => ?_⟩
  · obtain ⟨l, listed⟩ := Table.listed readable user audiences
    exact ⟨_, l, listed, listed.paged⟩
  · obtain ⟨l, listed⟩ := Table.listed readable user audiences
    have dates : ∀ r ∈ (Request.run Table.empty qs).rows,
        Instant.first.toMillis ≤ r.createdAt ∧ r.createdAt ≤ Instant.last.toMillis :=
      Table.createdAt_run (P := fun d => Instant.first.toMillis ≤ d ∧ d ≤ Instant.last.toMillis)
        (by simp [Table.empty]) fun n hn => Instant.toMillis_mem (saved n hn)
    exact ⟨l, listed.paged, listed.newer dates⟩

theorem Store.pages_latest_of_three :
    let ann : Notification := .create "ann" "news" .epoch
    let bob : Notification := .create "bob" "news" .epoch
    let qs : List Request := [.save ann, .save bob, .save ann]
    let t := Request.run Table.empty qs
    ∃ l, Paged t "ann" [.personal] l ∧ l.Pairwise Notification.Newer ∧
      { ann with id := some 1 } ∈ l ∧ { ann with id := some 3 } ∈ l ∧
        { bob with id := some 2 } ∉ l := by
  intro ann bob qs t
  have readable : ∀ r ∈ t.rows, r.Readable := by decide +kernel
  have saved : ∀ n, Request.save n ∈ qs → n.createdAt ≤ .last := by
    simp only [qs, List.mem_cons, Request.save.injEq, List.not_mem_nil, or_false]
    rintro n (rfl | rfl | rfl) <;> decide
  obtain ⟨l, paged, newer⟩ := (pages_latest "ann" [.personal]).2.2 qs readable saved
  refine ⟨l, paged, newer, (paged.all _).2 ⟨1, ?_, rfl, by decide⟩,
    (paged.all _).2 ⟨3, ?_, rfl, by decide⟩, ?_⟩
  · decide +kernel
  · decide +kernel
  · intro hb
    obtain ⟨_, _, hu, _⟩ := (paged.all _).1 hb
    exact absurd hu (by decide)

end Herald
