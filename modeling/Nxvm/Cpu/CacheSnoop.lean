/-
Invalidation: writes of other masters that are reported to the processor, and the
flush of the whole cache.

Both strategies of `_kma_invalidate_cache_range` leave no valid line with a byte in
the reported range, so the lines that stay do not notice the write.
-/
import Nxvm.Cpu.CacheWrite

set_option autoImplicit false

namespace Nxvm.Cpu

open Nxvm.Lib Nxvm.Lib.Exec Nxvm.Lib.Memory Nxvm.Lib.Directory

variable {β : Type} {env : Env β} {L : ByteArrayBus env.bus} {T : U32 → Prop} {v : View}

/-- No valid line has a byte at an address `R` holds of. -/
def NoLineIn (R : U32 → Prop) (cache : BitVec 7 → BitVec 2 → CacheLine) : Prop :=
  ∀ set way, (cache set way).valid = true → ∀ k, ¬ R (byte_address (cache set way).tag set k)

/-- Lines outside the range of a write stay copies of memory. -/
theorem CoherentOn.of_outside {mem mem' : Mem 32} {cache cache' : BitVec 7 → BitVec 2 → CacheLine}
    {R : U32 → Prop} (h : CoherentOn T mem cache) (hd : Drops line_scheme cache cache')
    (hR : NoLineIn R cache') (hm : ∀ x, ¬ R x → mem' x = mem x) : CoherentOn T mem' cache' :=
  (h.drops hd).of_eq_on fun set way hv k _ => hm _ (hR set way hv k)

/-! ## Line by line -/

theorem drop_line_drops (cache : BitVec 7 → BitVec 2 → CacheLine) (a : U32) :
    Drops line_scheme cache (drop_line cache a) := by
  intro set way
  unfold drop_line
  split
  · exact Or.inr rfl
  · exact Or.inl rfl

/-- Dropping lines one after another: what is dropped stays dropped. -/
theorem foldl_drop_line (as : List U32) (cache : BitVec 7 → BitVec 2 → CacheLine) :
    Drops line_scheme cache (as.foldl drop_line cache) ∧
      NoLineIn (fun x => ∃ a ∈ as, cache_tag x = cache_tag a ∧ cache_set x = cache_set a)
        (as.foldl drop_line cache) := by
  induction as generalizing cache with
  | nil => exact ⟨fun _ _ => Or.inl rfl, by simp [NoLineIn]⟩
  | cons a as ih =>
    obtain ⟨hd, hno⟩ := ih (drop_line cache a)
    refine ⟨Drops.trans (drop_line_drops cache a) hd, fun set way hv k => ?_⟩
    rintro ⟨b, hb, ht, hs⟩
    rw [cache_tag_byte_address] at ht
    rw [cache_set_byte_address] at hs
    rcases List.mem_cons.mp hb with rfl | hb
    · -- the first line was dropped before the others, and stays dropped
      rcases hd set way with h | h
      · rw [List.foldl_cons] at hv ht
        rw [h] at hv ht
        unfold drop_line at hv ht
        split at hv
        · exact absurd hv (by simp)
        · rename_i hne
          rw [if_neg hne] at ht
          exact hne ⟨hs, ht⟩
      · rw [List.foldl_cons, show (as.foldl drop_line (drop_line cache b) set way).valid = false
          from h] at hv
        exact absurd hv (by simp)
    · exact hno set way hv k ⟨b, hb, by rw [cache_tag_byte_address]; exact ht,
        by rw [cache_set_byte_address]; exact hs⟩

/-- `x` is in the reported range. -/
def Reported (physical : U32) (bytes : Nat) (x : U32) : Prop :=
  physical.toNat ≤ x.toNat ∧ x.toNat < range_end physical bytes

/-- The walk over the range passes the line of every address in it. -/
theorem range_lines_cover {physical x : U32} {bytes : Nat} (hx : Reported physical bytes x) :
    ∃ a ∈ range_lines physical bytes, cache_tag x = cache_tag a ∧ cache_set x = cache_set a := by
  obtain ⟨hlo, hhi⟩ := hx
  have hxlt := x.isLt
  have hplt := physical.isLt
  have hfirst : (physical &&& ~~~15).toNat = physical.toNat / 16 * 16 := by
    exact Bits.and_not_low_toNat physical 15 4 rfl
  have hend : range_end physical bytes ≤ 0x100000000 := by
    unfold range_end
    omega
  refine ⟨BitVec.ofNat 32 ((physical &&& ~~~15).toNat + 16 * (x.toNat / 16 - physical.toNat / 16)),
    List.mem_map.mpr ⟨x.toNat / 16 - physical.toNat / 16, List.mem_range.mpr ?_, rfl⟩, ?_, ?_⟩
  · omega
  · refine BitVec.eq_of_toNat_eq ?_
    rw [cache_tag_toNat, cache_tag_toNat, BitVec.toNat_ofNat, hfirst]
    omega
  · refine BitVec.eq_of_toNat_eq ?_
    rw [cache_set_toNat, cache_set_toNat, BitVec.toNat_ofNat, hfirst]
    omega

/-! ## The whole routine -/

/-- **Snooping.** Memory may have changed in the reported range and nowhere else;
after the report the cache is a copy of it again. -/
theorem kma_invalidate_cache_range_spec (hprof : env.profile = .p80486sx) (physical : U32)
    (bytes : Nat) {v' : View}
    (hmem : ∀ x, ¬ Reported physical bytes x → v'.mem x = v.mem x)
    {Q : Fault → Context β → Prop} :
    Triple (fun c => L.view c = v' ∧ CoherentOn T v.mem c.cache)
      (kma_invalidate_cache_range env physical bytes) (fun _ => Shows L T v') Q := by
  refine Triple.of_update ?_
  rintro c ⟨hv, hco⟩
  have hplt := physical.isLt
  split
  · rename_i h0
    obtain rfl : bytes = 0 := by
      rcases h0 with h | h
      · exact h
      · exact absurd hprof h
    refine ⟨hv, hco.of_eq_on fun set way _ k _ => hmem _ ?_⟩
    rintro ⟨h₁, h₂⟩
    simp only [range_end, Nat.zero_min] at h₂
    omega
  · split
    · obtain ⟨hd, hno⟩ := foldl_drop_line (range_lines physical bytes) c.cache
      exact ⟨hv, hco.of_outside hd (fun set way hval k hx => hno set way hval k
        (range_lines_cover hx)) hmem⟩
    · refine ⟨hv, hco.of_outside ?_ ?_ hmem⟩
      · intro set way
        dsimp only
        split
        · exact Or.inr rfl
        · exact Or.inl rfl
      · intro set way hval k hx
        dsimp only at hval hx
        split at hval
        · exact absurd hval (by simp)
        · rename_i hout
          rw [if_neg hout] at hx
          obtain ⟨h₁, h₂⟩ := hx
          have hk := k.isLt
          rw [byte_address_toNat] at h₁ h₂
          rw [line_address_eq, byte_address_toNat, show ((0 : BitVec 4)).toNat = 0 from rfl] at hout
          omega

/-- A flush leaves nothing that could be wrong. -/
theorem kma_cache_invalidate_spec {Q : Fault → Context β → Prop} :
    Triple (fun c => L.view c = v) (kma_cache_invalidate (β := β)) (fun _ => Shows L T v) Q := by
  refine Triple.of_update fun c hv => ⟨hv, ?_, ?_⟩
  · intro set way way' hval
    exact absurd hval (by simp [line_scheme])
  · intro set way hval
    exact absurd hval (by simp [line_scheme])

/-! ## The lock -/

/-- The processor's part of a context, the lock left out. -/
def Context.unlocked (c : Context β) : Context Unit :=
  { c.processor with memory_lock_active := false }

theorem kma_begin_memory_lock_unlocked (env : Env β) :
    Respects (Frame.same Context.unlocked) (kma_begin_memory_lock env) := by
  refine ⟨fun c => ?_⟩
  unfold final kma_begin_memory_lock
  by_cases hl : c.memory_lock_active = true
  · rw [if_pos hl]
    rfl
  rw [if_neg hl]
  by_cases hp : (env.bus.begin_memory_lock.isSome != env.bus.complete_memory_lock.isSome) = true
  · rw [if_pos hp]
    rfl
  rw [if_neg hp]
  cases env.bus.begin_memory_lock with
  | none => rfl
  | some f =>
    rcases hr : f c.bus with ⟨ok, bus⟩
    cases ok with
    | true => simp only [hr]; rfl
    | false => simp only [hr]; rfl

theorem kma_begin_memory_lock_spec :
    Triple (Shows L T v) (kma_begin_memory_lock env)
      (fun _ c => Shows L T v c ∧ c.memory_lock_active = true) (Failed L T v) := by
  rintro c ⟨rfl, hco⟩
  unfold kma_begin_memory_lock
  by_cases hl : c.memory_lock_active = true
  · rw [if_pos hl]
    exact ⟨⟨rfl, hco⟩, hl⟩
  rw [if_neg hl]
  by_cases hp : (env.bus.begin_memory_lock.isSome != env.bus.complete_memory_lock.isSome) = true
  · rw [if_pos hp]
    exact ⟨⟨rfl, hco⟩, rfl⟩
  rw [if_neg hp]
  cases hf : env.bus.begin_memory_lock with
  | none => exact ⟨⟨rfl, hco⟩, rfl⟩
  | some f =>
    have hview : L.view { c with bus := (f c.bus).2 } = L.view c := by
      simp only [ByteArrayBus.view, View.mk.injEq]
      exact ⟨L.begin_mem f hf c.bus, L.begin_decode f hf c.bus⟩
    rcases hr : f c.bus with ⟨ok, bus⟩
    rw [hr] at hview
    cases ok with
    | true => simp only [hr]; exact ⟨⟨hview, hco⟩, trivial⟩
    | false => simp only [hr]; exact ⟨⟨hview, hco⟩, rfl⟩

/-- Completing the lock changes neither memory nor its decoding. -/
theorem complete_memory_lock_view (L : ByteArrayBus env.bus) (commit : Bool) :
    Respects (Frame.same L.view) (x86_core_cpu_bus_complete_memory_lock env commit) := by
  refine Respects.of_update fun c => ?_
  split
  · cases hf : env.bus.complete_memory_lock with
    | none => rfl
    | some f =>
      simp only [Frame.same, ByteArrayBus.view, View.mk.injEq]
      exact ⟨L.complete_mem f hf commit c.bus, L.complete_decode f hf commit c.bus⟩
  · rfl

/-- Nor does it touch anything else of the processor. -/
theorem complete_memory_lock_unlocked (env : Env β) (commit : Bool) :
    Respects (Frame.same Context.unlocked)
      (x86_core_cpu_bus_complete_memory_lock env commit) := by
  refine Respects.of_update fun c => ?_
  split
  · cases env.bus.complete_memory_lock with
    | none => rfl
    | some f => rfl
  · rfl

theorem complete_memory_lock_cache (env : Env β) (commit : Bool) (c : Context β) :
    (final (x86_core_cpu_bus_complete_memory_lock env commit) c).cache = c.cache := by
  have h : (final (x86_core_cpu_bus_complete_memory_lock env commit) c).unlocked = c.unlocked :=
    (complete_memory_lock_unlocked env commit).run c
  exact congrArg (fun d : Context Unit => d.cache) h

theorem complete_memory_lock_spec (commit : Bool) {Q : Fault → Context β → Prop} :
    Triple (Shows L T v) (x86_core_cpu_bus_complete_memory_lock env commit)
      (fun _ => Shows L T v) Q := by
  refine Triple.of_update fun c h => ?_
  change Shows L T v (final (x86_core_cpu_bus_complete_memory_lock env commit) c)
  refine ⟨((complete_memory_lock_view L commit).run c).trans h.view, ?_⟩
  rw [complete_memory_lock_cache]
  exact h.coherent

end Nxvm.Cpu
