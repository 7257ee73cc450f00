import Herald.Proofs.Time.Delay
import Herald.Proofs.Store.Order
import Herald.Proofs.Store.Records
import Mathlib.Data.List.Sort
/-!
The latest notifications of a user: all of them for the given audiences, each once, in one order.
-/

set_option autoImplicit false

namespace Herald.MemoryStore

variable {s : MemoryStore} {user : String} {audiences : List Audience} {a b c : Int × Notification}
  {l m : List (Int × Notification)}

def Newer (a b : Int × Notification) : Prop :=
  b.2.createdAt < a.2.createdAt ∨ a.2.createdAt = b.2.createdAt ∧ b.1 < a.1

/-- All records for these audiences of the user, the newest first. -/
structure Newest (s : MemoryStore) (user : String) (audiences : List Audience)
    (l : List (Int × Notification)) : Prop where
  all : ∀ id n, (id, n) ∈ l ↔ s.find? id = some n ∧ n.user = user ∧ n.audience ∈ audiences
  ordered : l.Pairwise Newer

instance : Std.Asymm Newer where
  asymm a b h := by
    simp only [Newer, Instant.lt_def, Instant.eq_iff] at *
    omega

theorem Newest.unique (hl : s.Newest user audiences l) (hm : s.Newest user audiences m) : l = m :=
  hl.ordered.eq_of_mem_iff hm.ordered fun r => (hl.all r.1 r.2).trans (hm.all r.1 r.2).symm

def recentRecords (s : MemoryStore) (user : String) (audiences : List Audience) :
    List (Int × Notification) :=
  (s.records.filter fun r => r.2.user == user && audiences.contains r.2.audience).mergeSort isLater

theorem recent_eq_map (s : MemoryStore) (user : String) (audiences : List Audience) :
    s.recent user audiences = (s.recentRecords user audiences).map (·.2) := rfl

theorem newest_recentRecords (s : MemoryStore) (user : String) (audiences : List Audience) :
    s.Newest user audiences (s.recentRecords user audiences) := by
  refine ⟨fun id n => ?_, ?_⟩
  · rw [recentRecords, List.mem_mergeSort, List.mem_filter, find?_eq_some]
    simp
  · exact (pairwise_latest (s.ascending.filter _)).imp fun h => h.1

end Herald.MemoryStore
