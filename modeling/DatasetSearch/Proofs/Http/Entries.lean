import DatasetSearch.Proofs.Cache.Freshness
import DatasetSearch.Proofs.Http.Eviction

/-!
# What is stored by requests

A move of a session stores nothing, or the result of one call of the service that is not bypassed.
So every entry is under the key of such a call.  Nothing sets the clock back, and no execution
took longer than the clock has run.
-/

namespace DatasetSearch

open Cache (Call Entry Session Store)

variable {σ : Type}

theorem Reply.toNat_elapsedMs_le (reply : Reply) : reply.elapsedMs.toNat ≤ reply.delayMs := by
  rw [Reply.elapsedMs, UInt64.toNat_ofNat']
  exact Nat.mod_le _ _

theorem Cache.elapsedMs_le_of_executed {reply : Reply} {result : QueryResult}
    (h : executed reply = .ok result) : result.elapsedMs.toNat ≤ reply.delayMs := by
  unfold executed at h
  split at h
  · cases h
  · cases h
    exact reply.toNat_elapsedMs_le

/-- A result took no longer than the clock has run, if that is so of the stored ones. -/
theorem Cache.Fetches.elapsedMs_le {settings : Cache.Settings} {warehouse : Warehouse σ}
    {call : Call} {s t : Session σ} {result : QueryResult}
    (h : Fetches settings warehouse call s (.ok result, t))
    (hstored : ∀ p ∈ s.store.entries, p.2.value.elapsedMs.toNat ≤ s.clock) :
    result.elapsedMs.toNat ≤ t.clock := by
  generalize hfetched : ((.ok result, t) : Cache.Outcome × Session σ) = fetched at h
  cases h with
  | bypassed _ _ | missed _ _ _ =>
    obtain ⟨houtcome, rfl⟩ := Prod.mk.inj hfetched
    exact Nat.le_trans (elapsedMs_le_of_executed houtcome.symm) (Nat.le_add_left _ _)
  | hit _ _ hentry _ =>
    cases hfetched
    exact hstored _ (Store.mem_of_entry? hentry)
  | overflow _ _ _ => cases hfetched

theorem Cache.Call.storage_of_entry? {call : Call} {settings : Cache.Settings} {reply : Reply}
    {time : Nat} {entry : Entry} (h : call.entry? settings reply time = some entry) :
    entry.storedAt = time ∧ entry.ttl = call.lifetime settings ∧
      entry.value.elapsedMs.toNat ≤ reply.delayMs := by
  unfold Call.entry? at h
  split at h
  · cases h
  · cases h
  · split_ifs at h
    cases h
    exact ⟨rfl, rfl, reply.toNat_elapsedMs_le⟩

namespace Service

variable {service : Service} {warehouse : Warehouse σ} {s t : Session σ}

/-- What is stored after a move was stored before, or a call of the service has just stored it. -/
theorem Moves.mem_entries (h : service.Moves warehouse s t) {p : String × Entry}
    (hp : p ∈ t.store.entries) :
    p ∈ s.store.entries ∨
      ∃ call, service.Makes call ∧ call.bypass = false ∧ p.1 = call.key service.settings ∧
        p.2.storedAt = t.clock ∧ p.2.ttl = call.lifetime service.settings ∧
        p.2.value.elapsedMs.toNat ≤ t.clock := by
  cases h with
  | @calls call hcall =>
    have hfetches := Cache.fetches service.settings warehouse call s
    generalize (Cache.fetch service.settings warehouse call).run s = fetched at hfetches hp ⊢
    cases hfetches with
    | bypassed _ _ | hit _ _ _ _ | overflow _ _ _ => exact .inl hp
    | missed _ hbypass _ =>
      rcases Store.mem_refreshed.mp hp with ⟨hkey, hnew⟩ | ⟨-, hold⟩
      · obtain ⟨hstored, httl, helapsed⟩ := Call.storage_of_entry? hnew
        exact .inr ⟨call, hcall, hbypass, hkey, hstored, httl,
          Nat.le_trans helapsed (Nat.le_add_left _ _)⟩
      · exact .inl hold
  | evicts pattern =>
    obtain ⟨journal, hrun⟩ := Cache.run_invalidate pattern s
    obtain ⟨kept, -, hinvalidate⟩ := s.store.invalidate_eq pattern
    rw [hrun, hinvalidate] at hp
    exact .inl (List.mem_of_mem_filter hp)
  | reports journal => exact .inl hp

theorem Moves.clock_le (h : service.Moves warehouse s t) : s.clock ≤ t.clock := by
  cases h with
  | @calls call hcall =>
    have hfetches := Cache.fetches service.settings warehouse call s
    generalize (Cache.fetch service.settings warehouse call).run s = fetched at hfetches ⊢
    cases hfetches with
    | bypassed _ _ | missed _ _ _ => exact Nat.le_add_right _ _
    | hit _ _ _ _ | overflow _ _ _ => exact Nat.le_refl _
  | evicts pattern => exact Nat.le_refl _
  | reports journal => exact Nat.le_refl _

/-- Every entry is under the key of a call of the service that is not bypassed. -/
def AreKeyed (service : Service) (s : Session σ) : Prop :=
  ∀ p ∈ s.store.entries, ∃ call, service.Makes call ∧ call.bypass = false ∧
    p.1 = call.key service.settings

theorem AreKeyed.moves (hmoves : service.Moves warehouse s t) (h : service.AreKeyed s) :
    service.AreKeyed t := by
  intro p hp
  rcases hmoves.mem_entries hp with hold | ⟨call, hcall, hbypass, hkey, -⟩
  · exact h p hold
  · exact ⟨call, hcall, hbypass, hkey⟩

end Service

namespace Http.Server

variable {server : Server} {warehouse : Warehouse σ}

theorem areKeyed_replay (state : σ) (incidents : List Incident) :
    server.service.AreKeyed (server.replay warehouse (.start state) incidents) :=
  replay_invariant (fun _ _ hmoves h => h.moves hmoves) (fun _ _ h => h) incidents nofun

theorem clock_le_replay (s : Session σ) (incidents : List Incident) :
    s.clock ≤ (server.replay warehouse s incidents).clock :=
  replay_invariant (fun _ _ hmoves h => Nat.le_trans h hmoves.clock_le)
    (fun _ _ h => Nat.le_trans h (Nat.le_add_right _ _)) incidents (Nat.le_refl _)

end Http.Server

end DatasetSearch
