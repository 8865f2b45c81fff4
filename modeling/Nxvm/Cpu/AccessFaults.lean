/-
What a memory access can end with.

The segmentation check, the alignment check and the descriptor readers raise faults of their
own. Everything below them, from the translation of a linear address to the bus cycle, stops
only when the board refuses a cycle or when a page does: never with a general-protection fault
that a caller could take for its own.
-/
import Nxvm.Cpu.Paging

set_option autoImplicit false

namespace Nxvm.Cpu

open Nxvm.Lib Nxvm.Lib.Exec Nxvm.Lib.Memory

variable {β α γ : Type}

/-- A stop of the executor, or a page fault. -/
def Stop (e : Fault) : Prop := e.except = .ce ∨ e.except = .pf

/-- Every fault of `x` is a stop or a page fault. -/
def Stops (x : Exec β α) : Prop := ∀ c e c', x c = .error e c' → Stop e

namespace Stops

theorem of_pure (a : α) : Stops (pure a : Exec β α) := by
  intro c e c' hrun
  rw [pure_run] at hrun
  cases hrun

theorem of_throw {e : Fault} (h : Stop e) : Stops (throw e : Exec β α) := by
  intro c e' c' hrun
  cases hrun
  exact h

theorem of_query (f : Context β → α) : Stops (query f : Exec β α) := by
  intro c e c' hrun
  rw [query_run] at hrun
  cases hrun

theorem of_update (f : Context β → Context β) : Stops (update f : Exec β Unit) := by
  intro c e c' hrun
  rw [update_run] at hrun
  cases hrun

theorem bind {x : Exec β α} {f : α → Exec β γ} (hx : Stops x) (hf : ∀ a, Stops (f a)) :
    Stops (x >>= f) := by
  intro c e c' hrun
  rcases bind_eq_error.mp hrun with h | ⟨a, s, -, h⟩
  · exact hx c e c' h
  · exact hf a s e c' h

/-- The rest of a computation whose first answer is handed over: a fault among the answers is
itself a stop. -/
theorem bind_attempt {x : Exec β α} {f : Except Fault α → Exec β γ} (hx : Stops x)
    (hok : ∀ a, Stops (f (.ok a))) (herr : ∀ e, Stop e → Stops (f (.error e))) :
    Stops (attempt x >>= f) := by
  intro c e c' hrun
  rw [bind_run, Exec.attempt] at hrun
  cases hxc : x c with
  | ok a s =>
    rw [hxc] at hrun
    exact hok a s e c' hrun
  | error e' s =>
    rw [hxc] at hrun
    exact herr e' (hx c e' s hxc) s e c' hrun

theorem ite {p : Prop} [Decidable p] {x y : Exec β α} (hx : Stops x) (hy : Stops y) :
    Stops (if p then x else y) := by
  by_cases h : p
  · rw [if_pos h]
    exact hx
  · rw [if_neg h]
    exact hy

theorem get_cpu : Stops (get_cpu : Exec β CpuData) := of_query _

theorem set_cpu (f : CpuData → CpuData) : Stops (set_cpu f : Exec β Unit) := of_update _

theorem page_fault (linear : U32) (present write user : Bool) :
    Stops (page_fault linear present write user : Exec β α) := by
  apply bind (set_cpu _)
  intro _
  exact of_throw (Or.inr rfl)

end Stops

section Physical

variable (env : Env β)

/-! ## Physical accesses -/

theorem kma_read_bus_stops (physical : U32) (byte : Nat) (provenance : Provenance)
    (attributes : U32) : Stops (kma_read_bus env physical byte provenance attributes) := by
  intro c e c' hrun
  unfold kma_read_bus at hrun
  split at hrun
  · cases hrun
  · cases hrun
    exact Or.inl rfl

theorem kma_write_bus_stops (physical : U32) (data : List U8) (provenance : Provenance)
    (attributes : U32) : Stops (kma_write_bus env physical data provenance attributes) := by
  intro c e c' hrun
  unfold kma_write_bus at hrun
  split at hrun
  · cases hrun
  · cases hrun
    exact Or.inl rfl

theorem query_cache_memory_stops (physical : U32) (query : CacheQuery) (memory : CacheMemory) :
    Stops (query_cache_memory env physical query memory) := by
  intro c e c' hrun
  unfold query_cache_memory at hrun
  split at hrun
  · cases hrun
  · split at hrun
    · cases hrun
    · cases hrun
      exact Or.inl rfl

theorem kma_begin_memory_lock_stops : Stops (kma_begin_memory_lock env) := by
  intro c e c' hrun
  unfold kma_begin_memory_lock at hrun
  split at hrun
  · cases hrun
  · split at hrun
    · cases hrun
      exact Or.inl rfl
    · split at hrun
      · cases hrun
      · split at hrun
        · cases hrun
        · cases hrun
          exact Or.inl rfl

theorem kma_read_v30_stops (provenance : Provenance) (attributes : U32) (fuel : Nat) :
    ∀ address remaining, Stops (kma_read_v30 env provenance attributes fuel address remaining) := by
  induction fuel with
  | zero =>
    intro address remaining
    exact Stops.of_pure []
  | succ fuel ih =>
    intro address remaining
    apply Stops.ite (Stops.of_pure [])
    apply Stops.bind (kma_read_bus_stops env _ _ _ _)
    intro data
    apply Stops.bind (ih _ _)
    intro rest
    exact Stops.of_pure _

theorem kma_fill_line_stops (set : BitVec 7) (address : U32) (provenance : Provenance)
    (attributes : U32) : Stops (kma_fill_line env set address provenance attributes) := by
  apply Stops.bind (kma_read_bus_stops env _ _ _ _)
  intro bytes
  apply Stops.bind (Stops.of_query _)
  intro way
  apply Stops.bind (Stops.of_update _)
  intro _
  apply Stops.bind (Stops.of_update _)
  intro _
  apply Stops.bind (Stops.of_update _)
  intro _
  apply Stops.bind (Stops.of_update _)
  intro _
  exact Stops.of_pure _

theorem kma_read_line_stops (set : BitVec 7) (way : BitVec 2) (offset : BitVec 4) (part : Nat)
    (provenance : Provenance) :
    Stops (kma_read_line set way offset part provenance : Exec β (List U8)) := by
  apply Stops.bind (Stops.of_query _)
  intro data
  apply Stops.bind (Stops.of_update _)
  intro _
  apply Stops.bind (Stops.ite (Stops.of_update _) (Stops.of_pure ()))
  intro _
  exact Stops.of_pure _

theorem kma_read_missed_stops (physical : U32) (kind : CacheQuery) (memory : CacheMemory)
    (part : Nat) (provenance : Provenance) (attributes : U32) :
    Stops (kma_read_missed env physical kind memory part provenance attributes) := by
  apply Stops.bind Stops.get_cpu
  intro cpu
  apply Stops.bind (Stops.ite (query_cache_memory_stops env _ _ _) (Stops.of_pure memory))
  intro probed
  apply Stops.ite _ (kma_read_bus_stops env _ _ _ _)
  apply Stops.bind (kma_fill_line_stops env _ _ _ _)
  intro data
  exact Stops.of_pure _

theorem kma_read_part_stops (physical : U32) (remaining : Nat) (provenance : Provenance)
    (attributes : U32) : Stops (kma_read_part env physical remaining provenance attributes) := by
  apply Stops.bind (query_cache_memory_stops env _ _ _)
  intro memory
  apply Stops.bind (Stops.of_query _)
  intro locked
  apply Stops.ite (kma_read_bus_stops env _ _ _ _)
  apply Stops.bind (Stops.of_query _)
  intro way
  cases way with
  | some way => exact kma_read_line_stops _ way _ _ _
  | none => exact kma_read_missed_stops env _ _ _ _ _ _

theorem kma_read_486_stops (provenance : Provenance) (attributes : U32) (fuel : Nat) :
    ∀ physical remaining,
      Stops (kma_read_486 env provenance attributes fuel physical remaining) := by
  induction fuel with
  | zero =>
    intro physical remaining
    exact Stops.of_pure []
  | succ fuel ih =>
    intro physical remaining
    apply Stops.ite (Stops.of_pure [])
    apply Stops.bind (kma_read_part_stops env _ _ _ _)
    intro data
    apply Stops.bind (ih _ _)
    intro rest
    exact Stops.of_pure _

theorem kma_read_physical_stops (physical : U32) (byte : Nat) (provenance : Provenance)
    (attributes : U32) : Stops (kma_read_physical env physical byte provenance attributes) := by
  unfold kma_read_physical
  split
  · exact kma_read_v30_stops env _ _ _ _ _
  · exact kma_read_486_stops env _ _ _ _ _
  · exact kma_read_bus_stops env _ _ _ _

theorem kma_write_v30_stops (provenance : Provenance) (attributes : U32) (fuel : Nat) :
    ∀ address data, Stops (kma_write_v30 env provenance attributes fuel address data) := by
  induction fuel with
  | zero =>
    intro address data
    exact Stops.of_pure ()
  | succ fuel ih =>
    intro address data
    apply Stops.ite (Stops.of_pure ())
    apply Stops.bind (kma_write_bus_stops env _ _ _ _)
    intro _
    exact ih _ _

theorem kma_write_through_stops (address : U32) (way : Option (BitVec 2)) (data : List U8)
    (provenance : Provenance) (attributes : U32) :
    Stops (kma_write_through env address way data provenance attributes) := by
  apply Stops.bind_attempt (kma_write_bus_stops env _ _ _ _)
  · intro _
    exact Stops.of_pure ()
  · intro e he
    apply Stops.bind
    · cases way with
      | some way =>
        apply Stops.bind (Stops.of_query _)
        intro line
        exact Stops.of_update _
      | none => exact Stops.of_pure ()
    · intro _
      exact Stops.of_throw he

theorem kma_write_line_stops (set : BitVec 7) (way : BitVec 2) (offset : BitVec 4)
    (data : List U8) : Stops (kma_write_line set way offset data : Exec β Unit) := by
  apply Stops.bind (Stops.of_query _)
  intro line
  apply Stops.bind (Stops.of_update _)
  intro _
  apply Stops.bind (Stops.of_update _)
  intro _
  exact Stops.of_update _

theorem kma_write_part_stops (physical : U32) (data : List U8) (provenance : Provenance)
    (attributes : U32) : Stops (kma_write_part env physical data provenance attributes) := by
  apply Stops.bind (query_cache_memory_stops env _ _ _)
  intro memory
  apply Stops.bind (Stops.of_query _)
  intro way
  apply Stops.bind (Stops.of_query _)
  intro through
  apply Stops.bind (Stops.ite (kma_write_through_stops env _ _ _ _ _) (Stops.of_pure ()))
  intro _
  apply Stops.bind
  · cases way with
    | some way => exact kma_write_line_stops _ way _ _
    | none => exact Stops.of_pure ()
  · intro _
    exact Stops.of_pure _

theorem kma_write_486_stops (provenance : Provenance) (attributes : U32) (fuel : Nat) :
    ∀ physical data, Stops (kma_write_486 env provenance attributes fuel physical data) := by
  induction fuel with
  | zero =>
    intro physical data
    exact Stops.of_pure ()
  | succ fuel ih =>
    intro physical data
    apply Stops.ite (Stops.of_pure ())
    apply Stops.bind (kma_write_part_stops env _ _ _ _)
    intro part
    exact ih _ _

theorem kma_write_physical_stops (physical : U32) (data : List U8) (provenance : Provenance)
    (attributes : U32) : Stops (kma_write_physical env physical data provenance attributes) := by
  unfold kma_write_physical
  split
  · exact kma_write_v30_stops env _ _ _ _ _
  · exact kma_write_486_stops env _ _ _ _ _
  · exact kma_write_bus_stops env _ _ _ _

/-! ## Translations -/

theorem kma_update_locked_stops (translation : LinearTranslation) (directory write : Bool)
    (address : U32) (way : Option (BitVec 2)) (attributes : U32) :
    Stops (kma_update_locked env translation directory write address way attributes) := by
  apply Stops.bind (kma_read_bus_stops env _ _ _ _)
  intro bytes
  apply Stops.bind Stops.get_cpu
  intro cpu
  apply Stops.ite (Stops.page_fault _ _ _ _)
  apply Stops.ite (Stops.page_fault _ _ _ _)
  apply Stops.ite (Stops.of_pure _)
  apply Stops.bind (kma_write_through_stops env _ _ _ _ _)
  intro _
  apply Stops.bind
  · cases way with
    | some way => exact kma_write_line_stops _ way _ _
    | none => exact Stops.of_pure ()
  · intro _
    exact Stops.of_pure _

theorem kma_update_page_entry_stops (translation : LinearTranslation) (directory write : Bool) :
    Stops (kma_update_page_entry env translation directory write) := by
  apply Stops.bind Stops.get_cpu
  intro cpu
  apply Stops.bind (Stops.of_query _)
  intro owns_lock
  apply Stops.bind (query_cache_memory_stops env _ _ _)
  intro memory
  apply Stops.bind (Stops.of_query _)
  intro way
  apply Stops.bind (kma_begin_memory_lock_stops env)
  intro _
  apply Stops.bind_attempt (kma_update_locked_stops env _ _ _ _ _ _)
  · intro entry
    apply Stops.bind (Stops.ite (Stops.of_update _) (Stops.of_pure ()))
    intro _
    apply Stops.bind (Stops.of_pure entry)
    intro _
    exact Stops.of_pure _
  · intro e he
    apply Stops.bind (Stops.ite (Stops.of_update _) (Stops.of_pure ()))
    intro _
    apply Stops.bind (Stops.of_throw he)
    intro _
    exact Stops.of_pure _

theorem kma_check_page_entry_stops (linear : U32) (write : Bool) (vpl : Level) (entry : U32) :
    Stops (kma_check_page_entry env linear write vpl entry) := by
  apply Stops.bind Stops.get_cpu
  intro cpu
  apply Stops.ite _ (Stops.of_pure ())
  apply Stops.ite (Stops.page_fault _ _ _ _)
  exact Stops.ite (Stops.page_fault _ _ _ _) (Stops.of_pure ())

theorem kma_access_directory_stops (linear : U32) (write : Bool) (vpl : Level)
    (ppde cpde : U32) : Stops (kma_access_directory env linear write vpl ppde cpde) := by
  apply Stops.bind Stops.get_cpu
  intro cpu
  apply Stops.ite
  · apply Stops.ite _ (Stops.of_pure _)
    apply Stops.bind (kma_update_page_entry_stops env _ _ _)
    intro updated
    exact Stops.of_pure _
  · apply Stops.bind (kma_write_physical_stops env _ _ _ _)
    intro _
    exact Stops.of_pure _

theorem kma_read_page_entry_stops (linear : U32) (write : Bool) (vpl : Level)
    (address attributes : U32) :
    Stops (kma_read_page_entry env linear write vpl address attributes) := by
  apply Stops.bind (kma_read_physical_stops env _ _ _ _)
  intro bytes
  apply Stops.bind (Stops.ite (Stops.page_fault _ _ _ _) (Stops.of_pure ()))
  intro _
  exact Stops.of_pure _

theorem kma_walk_physical_linear_stops (linear : U32) (write : Bool) (vpl : Level) :
    Stops (kma_walk_physical_linear env linear write vpl) := by
  apply Stops.bind Stops.get_cpu
  intro cpu
  apply Stops.bind (kma_read_page_entry_stops env _ _ _ _ _)
  intro read
  apply Stops.bind (kma_access_directory_stops env _ _ _ _ _)
  intro cpde
  apply Stops.bind (kma_check_page_entry_stops env _ _ _ _)
  intro _
  apply Stops.bind (kma_read_page_entry_stops env _ _ _ _ _)
  intro cpte
  apply Stops.bind (kma_check_page_entry_stops env _ _ _ _)
  intro _
  exact Stops.of_pure _

theorem kma_tlb_lookup_stops (linear : U32) (write : Bool) (vpl : Level) :
    Stops (kma_tlb_lookup linear write vpl : Exec β (Option TlbEntry)) := by
  apply Stops.bind Stops.get_cpu
  intro cpu
  apply Stops.bind (Stops.of_query _)
  intro entry
  cases entry with
  | none => exact Stops.of_pure none
  | some entry =>
    apply Stops.ite (Stops.page_fault _ _ _ _)
    exact Stops.ite (Stops.of_pure _) (Stops.of_pure _)

theorem kma_prepare_physical_linear_stops (linear : U32) (byte : Nat) (write : Bool)
    (vpl : Level) : Stops (kma_prepare_physical_linear env linear byte write vpl) := by
  apply Stops.ite (Stops.of_throw (Or.inl rfl))
  apply Stops.bind Stops.get_cpu
  intro cpu
  apply Stops.ite (Stops.of_pure _)
  apply Stops.bind (Stops.ite (kma_tlb_lookup_stops _ _ _) (Stops.of_pure none))
  intro hit
  cases hit with
  | some entry => exact Stops.of_pure _
  | none => exact kma_walk_physical_linear_stops env _ _ _

theorem kma_access_table_stops (translation : LinearTranslation) (write : Bool) :
    Stops (kma_access_table env translation write) := by
  apply Stops.ite
  · apply Stops.ite (Stops.of_pure _)
    apply Stops.bind (kma_update_page_entry_stops env _ _ _)
    intro updated
    exact Stops.of_pure _
  · apply Stops.bind (kma_write_physical_stops env _ _ _ _)
    intro _
    exact Stops.of_pure _

theorem kma_commit_physical_linear_stops (translation : LinearTranslation) (write : Bool) :
    Stops (kma_commit_physical_linear env translation write) := by
  apply Stops.ite (Stops.of_pure _)
  apply Stops.ite
  · apply Stops.bind (Stops.of_update _)
    intro _
    exact Stops.of_pure _
  · apply Stops.bind (kma_access_table_stops env _ _)
    intro committed
    apply Stops.bind (Stops.ite (Stops.of_update _) (Stops.of_pure ()))
    intro _
    exact Stops.of_pure _

theorem kma_translate_linear_stops (linear : U32) (byte : Nat) (write : Bool) (vpl : Level) :
    Stops (kma_translate_linear env linear byte write vpl) := by
  apply Stops.ite
  · apply Stops.bind
    · apply Stops.bind (kma_prepare_physical_linear_stops env _ _ _ _)
      intro translation1
      apply Stops.bind (kma_prepare_physical_linear_stops env _ _ _ _)
      intro translation2
      apply Stops.bind (kma_commit_physical_linear_stops env _ _)
      intro committed1
      apply Stops.bind (kma_commit_physical_linear_stops env _ _)
      intro committed2
      exact Stops.of_pure _
    · intro pages
      exact Stops.of_pure _
  · apply Stops.bind
    · apply Stops.bind (kma_prepare_physical_linear_stops env _ _ _ _)
      intro translation
      apply Stops.bind (kma_commit_physical_linear_stops env _ _)
      intro committed
      exact Stops.of_pure _
    · intro page
      exact Stops.of_pure _

/-! ## Linear accesses -/

theorem kma_read_pages_stops (linear : U32) (byte : Nat) (pages : Pages) :
    Stops (kma_read_pages env linear byte pages) := by
  apply Stops.bind (Stops.of_query _)
  intro provenance
  cases pages.second with
  | none => exact kma_read_physical_stops env _ _ _ _
  | some second =>
    apply Stops.bind (kma_read_physical_stops env _ _ _ _)
    intro data1
    apply Stops.bind (kma_read_physical_stops env _ _ _ _)
    intro data2
    exact Stops.of_pure _

/-- A linear read ends with its bytes, with a stop or with a page fault. -/
theorem kma_read_linear_stops (linear : U32) (byte : Nat) (vpl : Level) :
    Stops (kma_read_linear env linear byte vpl) := by
  apply Stops.bind (kma_translate_linear_stops env _ _ _ _)
  intro pages
  exact kma_read_pages_stops env _ _ pages

end Physical

end Nxvm.Cpu
