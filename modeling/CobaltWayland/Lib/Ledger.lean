import Mathlib.Data.List.Nodup

/-!
A ledger of requests and of what was done for them. A service is entered under the number of the
request that is the latest then, so to serve each request at most once is to find the latest one open
whenever something is served.
-/

namespace Requests

structure Ledger (α : Type*) where
  /-- The requests, oldest first. -/
  asked : List α
  /-- For each service the number of the request that was the latest then, and what was delivered. -/
  served : List (Nat × α) := []

namespace Ledger
variable {α : Type*} {l : Ledger α} {a : α}

def ask (l : Ledger α) (a : α) : Ledger α := { l with asked := l.asked ++ [a] }

def serve (l : Ledger α) (a : α) : Ledger α := { l with served := l.served ++ [(l.asked.length - 1, a)] }

/-- What was delivered is what was asked for, and never twice for one request. -/
def Once (l : Ledger α) : Prop :=
  (∀ service ∈ l.served, l.asked[service.1]? = some service.2) ∧ (l.served.map Prod.fst).Nodup

/-- The latest request asks for `a` and has not been served. -/
def Open (l : Ledger α) (a : α) : Prop :=
  l.asked[l.asked.length - 1]? = some a ∧ ∀ service ∈ l.served, service.1 + 1 < l.asked.length

structure Valid (l : Ledger α) : Prop where
  once : l.Once
  bound : ∀ service ∈ l.served, service.1 < l.asked.length

theorem ask_valid (valid : Valid l) (a : α) : Valid (l.ask a) where
  once := by
    obtain ⟨delivered, nodup⟩ := valid.once
    refine ⟨fun service member => ?_, nodup⟩
    simp only [ask, List.getElem?_append_left (valid.bound service member)]
    exact delivered service member
  bound := by
    intro service member
    have := valid.bound service member
    simp only [ask, List.length_append, List.length_singleton]
    omega

theorem ask_open (valid : Valid l) (a : α) : Open (l.ask a) a := by
  refine ⟨by simp [ask], fun service member => ?_⟩
  have := valid.bound service member
  simp only [ask, List.length_append, List.length_singleton]
  omega

theorem serve_valid (valid : Valid l) (waiting : Open l a) : Valid (l.serve a) := by
  obtain ⟨delivered, nodup⟩ := valid.once
  obtain ⟨latest, unserved⟩ := waiting
  have counted : l.asked.length - 1 < l.asked.length := (List.getElem?_eq_some_iff.mp latest).1
  refine ⟨⟨fun service member => ?_, ?_⟩, fun service member => ?_⟩
  · rcases List.mem_append.mp member with before | now
    · exact delivered service before
    · rw [List.mem_singleton.mp now]
      exact latest
  · simp only [serve, List.map_append, List.map_cons, List.map_nil]
    rw [List.nodup_append]
    refine ⟨nodup, List.nodup_singleton _, fun number before last now => ?_⟩
    obtain ⟨service, member, rfl⟩ := List.mem_map.mp before
    have := unserved service member
    rw [List.mem_singleton.mp now]
    omega
  · rcases List.mem_append.mp member with before | now
    · exact valid.bound service before
    · rw [List.mem_singleton.mp now]
      exact counted

end Ledger
end Requests
