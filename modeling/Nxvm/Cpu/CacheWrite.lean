/-
Writes keep the internal cache a copy of memory (`_kma_write_physical` on the
80486SX).

A write goes to the bus first and into the line afterwards. Between the two the
line and memory differ; the lemmas of the first section say that only the line
just written can tell, so putting the line right (or giving it up when the bus
failed) restores the invariant.
-/
import Nxvm.Cpu.CacheRead

set_option autoImplicit false

namespace Nxvm.Cpu

open Nxvm.Lib Nxvm.Lib.Exec Nxvm.Lib.Memory Nxvm.Lib.Directory

variable {β : Type} {env : Env β} {L : ByteArrayBus env.bus} {T : U32 → Prop} {v : View}

/-! ## A run of bytes inside one line -/

/-- In a run inside the line of `r`, positions in the line and in memory agree. -/
theorem line_index {r : U32} {n : Nat} (hn : (cache_offset r).toNat + n ≤ 16) (k : BitVec 4) :
    (byte_address (cache_tag r) (cache_set r) k - r).toNat = (k - cache_offset r).toNat ∨
      n ≤ (byte_address (cache_tag r) (cache_set r) k - r).toNat ∧
        n ≤ (k - cache_offset r).toNat := by
  have hk := k.isLt
  have hr := r.isLt
  have hb := byte_address_toNat (cache_tag r) (cache_set r) k
  rw [cache_tag_toNat, cache_set_toNat] at hb
  rw [BitVec.toNat_sub, BitVec.toNat_sub, hb, cache_offset_toNat]
  rw [cache_offset_toNat] at hn
  omega

/-- What is written inside the line of `r` has its tag and set. -/
theorem in_run_line {r x : U32} {n : Nat} (hn : (cache_offset r).toNat + n ≤ 16)
    (hx : InRun r n x) : cache_tag x = cache_tag r ∧ cache_set x = cache_set r := by
  rw [in_run_iff (by omega)] at hx
  obtain ⟨i, hi, rfl⟩ := hx
  rw [byte_address_add (by omega)]
  simp

/-- Writing a run into a copy of the line and into memory keeps them equal. -/
theorem store_line {r : U32} {bs : List U8} (hn : (cache_offset r).toNat + bs.length ≤ 16)
    {data : Mem 4} {m : Mem 32} {k : BitVec 4}
    (h : data k = m (byte_address (cache_tag r) (cache_set r) k)) :
    store data (cache_offset r) bs k =
      store m r bs (byte_address (cache_tag r) (cache_set r) k) := by
  unfold store
  rcases line_index hn k with he | ⟨h₁, h₂⟩
  · rw [he, h]
  · rw [List.getD_eq_default _ _ h₁, List.getD_eq_default _ _ h₂, h]

/-- A write inside the line of `r` is not seen by valid lines other than that one. -/
theorem store_other_line {r : U32} {bs : List U8}
    (hn : (cache_offset r).toNat + bs.length ≤ 16) (m : Mem 32)
    {tag : BitVec 21} {set : BitVec 7} (hne : ¬ (set = cache_set r ∧ tag = cache_tag r))
    (k : BitVec 4) : store m r bs (byte_address tag set k) = m (byte_address tag set k) := by
  refine store_outside fun hin => hne ?_
  obtain ⟨ht, hs⟩ := in_run_line hn hin
  rw [cache_tag_byte_address] at ht
  rw [cache_set_byte_address] at hs
  exact ⟨hs, ht⟩

section Line

variable {m : Mem 32} {cache : BitVec 7 → BitVec 2 → CacheLine} {r : U32} {bs : List U8}

/-- A write that no line holds. -/
theorem CoherentOn.store_absent (h : CoherentOn T m cache)
    (hn : (cache_offset r).toNat + bs.length ≤ 16)
    (hf : find line_scheme ways cache (cache_set r) (cache_tag r) = none) :
    CoherentOn T (store m r bs) cache := by
  refine h.of_eq_on fun set way hv k _ => store_other_line hn m ?_ k
  rintro ⟨rfl, ht⟩
  exact find_none mem_ways hf way hv ht

/-- A write that goes into the line as well. -/
theorem CoherentOn.store_present (h : CoherentOn T m cache)
    (hn : (cache_offset r).toNat + bs.length ≤ 16) {way : BitVec 2}
    (hf : find line_scheme ways cache (cache_set r) (cache_tag r) = some way) :
    CoherentOn T (store m r bs) (put cache (cache_set r) way
      { cache (cache_set r) way with
        data := store (cache (cache_set r) way).data (cache_offset r) bs }) := by
  obtain ⟨hv, ht⟩ := find_some hf
  refine ⟨h.unique.put_found hf ht, ?_⟩
  intro set way' hv' k hT
  by_cases hsw : set = cache_set r ∧ way' = way
  · obtain ⟨rfl, rfl⟩ := hsw
    rw [put_same] at hT ⊢
    have htag : (cache (cache_set r) way').tag = cache_tag r := ht
    simp only [htag] at hT ⊢
    have hold := h.agree (cache_set r) way' hv k
    rw [htag] at hold
    exact store_line hn (hold hT)
  · rw [put_other hsw] at hv' hT ⊢
    rw [store_other_line hn m ?_ k]
    · exact h.agree set way' hv' k hT
    · rintro ⟨rfl, ht'⟩
      exact hsw ⟨rfl, h.unique _ way' way hv' hv (ht'.trans ht.symm)⟩

/-- A write whose line is given up. -/
theorem CoherentOn.store_dropped (h : CoherentOn T m cache)
    (hn : (cache_offset r).toNat + bs.length ≤ 16) {way : BitVec 2}
    (hf : find line_scheme ways cache (cache_set r) (cache_tag r) = some way) :
    CoherentOn T (store m r bs) (put cache (cache_set r) way
      { cache (cache_set r) way with valid := false }) := by
  obtain ⟨hv, ht⟩ := find_some hf
  have hd : Drops line_scheme cache (put cache (cache_set r) way
      { cache (cache_set r) way with valid := false }) := by
    intro set way'
    by_cases hsw : set = cache_set r ∧ way' = way
    · obtain ⟨rfl, rfl⟩ := hsw
      rw [put_same]
      exact Or.inr rfl
    · exact Or.inl (put_other hsw)
  refine (h.drops hd).of_eq_on fun set way' hv' k _ => ?_
  by_cases hsw : set = cache_set r ∧ way' = way
  · obtain ⟨rfl, rfl⟩ := hsw
    rw [put_same] at hv'
    exact absurd hv' (by simp)
  · rw [put_other hsw] at hv' ⊢
    refine store_other_line hn m ?_ k
    rintro ⟨rfl, ht'⟩
    exact hsw ⟨rfl, h.unique _ way' way hv' hv (ht'.trans ht.symm)⟩

/-- A write that stays in the line, at addresses coherence does not speak of. -/
theorem CoherentOn.store_line_only (h : CoherentOn T m cache)
    (hn : (cache_offset r).toNat + bs.length ≤ 16) {way : BitVec 2}
    (hf : find line_scheme ways cache (cache_set r) (cache_tag r) = some way)
    (hT : ∀ i < bs.length, ¬ T (r + BitVec.ofNat 32 i)) :
    CoherentOn T m (put cache (cache_set r) way
      { cache (cache_set r) way with
        data := store (cache (cache_set r) way).data (cache_offset r) bs }) := by
  obtain ⟨hv, ht⟩ := find_some hf
  refine ⟨h.unique.put_found hf ht, h.agree.put fun _ k hTk => ?_⟩
  have htag : (cache (cache_set r) way).tag = cache_tag r := ht
  have hold := h.agree (cache_set r) way hv k
  simp only [htag] at hTk hold ⊢
  rw [store_outside, hold hTk]
  intro hin
  have hmem : InRun r bs.length (byte_address (cache_tag r) (cache_set r) k) := by
    rcases line_index hn k with he | ⟨_, h₂⟩
    · rw [InRun, he]
      exact hin
    · exact absurd hin (Nat.not_lt.mpr h₂)
  rw [in_run_iff (by omega)] at hmem
  obtain ⟨i, hi, he⟩ := hmem
  rw [he] at hTk
  exact hT i hi hTk

end Line

/-! ## The steps of a write -/

/-- The view with the bytes `bs` at address `r`. -/
def View.put (v : View) (r : U32) (bs : List U8) : View := { v with mem := store v.mem r bs }

/-- The view after a bus write, every byte at its decoded address. -/
def View.stored (v : View) (a : U32) (bs : List U8) : View :=
  { v with mem := store_through v.decoding.decode v.mem a bs }

theorem store_through_fixed {f : U32 → U32} (m : Mem 32) (a : U32) (bs : List U8)
    (hw : bs.length ≤ 2 ^ 32) (hf : ∀ i < bs.length, f (a + BitVec.ofNat 32 i) = a + BitVec.ofNat 32 i) :
    store_through f m a bs = store m a bs := by
  induction bs generalizing m a with
  | nil => simp [store_through]
  | cons b bs ih =>
    have h0 := hf 0 (by simp)
    simp only [BitVec.add_zero] at h0
    rw [store_through, h0, ih _ _ (by simp at hw; omega)]
    · exact store_append m a [b] bs (by simpa [Nat.add_comm] using hw)
    · intro i hi
      have := hf (i + 1) (by simpa using hi)
      rw [Nat.add_comm, BitVec.ofNat_add, ← BitVec.add_assoc] at this
      exact this

theorem store_through_append (f : U32 → U32) (m : Mem 32) (a : U32) (xs ys : List U8) :
    store_through f m a (xs ++ ys) =
      store_through f (store_through f m a xs) (a + BitVec.ofNat 32 xs.length) ys := by
  induction xs generalizing m a with
  | nil => simp [store_through]
  | cons x xs ih =>
    rw [List.cons_append, store_through, ih, store_through, List.length_cons, Nat.add_comm,
      BitVec.ofNat_add, ← BitVec.add_assoc]
    rfl

theorem store_through_other {f : U32 → U32} (m : Mem 32) (a : U32) (bs : List U8) {x : U32}
    (hx : ∀ i < bs.length, x ≠ f (a + BitVec.ofNat 32 i)) : store_through f m a bs x = m x := by
  induction bs generalizing m a with
  | nil => rfl
  | cons b bs ih =>
    rw [store_through, ih]
    · refine store_outside fun hin => ?_
      rw [in_run_iff (by simp)] at hin
      obtain ⟨i, hi, he⟩ := hin
      obtain rfl : i = 0 := by simpa using hi
      exact hx 0 (by simp) (by simpa using he)
    · intro i hi
      have := hx (i + 1) (by simpa using hi)
      rw [Nat.add_comm, BitVec.ofNat_add, ← BitVec.add_assoc] at this
      exact this

/-- A write inside a line that decodes to itself lands where it was sent. -/
theorem View.stored_eq_put (v : View) {r : U32} {bs : List U8} (hr : v.decoding.decode r = r)
    (hn : (cache_offset r).toNat + bs.length ≤ 16) : v.stored r bs = v.put r bs := by
  simp only [View.stored, View.put, View.mk.injEq, and_true]
  refine store_through_fixed _ _ _ (by omega) fun i hi => ?_
  rw [byte_address_add (by omega)]
  exact v.decoding.line_fixed hr _

/-- The bytes of one line, told by the address before decoding. -/
theorem View.stored_eq_put_decode (v : View) {a : U32} {bs : List U8}
    (hn : (cache_offset a).toNat + bs.length ≤ 16) :
    v.stored a bs = v.put (v.decoding.decode a) bs := by
  have hgen : ∀ (m : Mem 32) (s : U32) (ys : List U8) (j : Nat), s = a + BitVec.ofNat 32 j →
      (cache_offset a).toNat + (j + ys.length) ≤ 16 →
      store_through v.decoding.decode m s ys =
        store_through v.decoding.decode m (v.decoding.decode s) ys := by
    intro m s ys
    induction ys generalizing m s with
    | nil => intros; rfl
    | cons y ys ih =>
      rintro j rfl hj
      simp only [List.length_cons] at hj
      rw [store_through, store_through, v.decoding.twice]
      cases ys with
      | nil => rfl
      | cons z zs =>
        have hsucc : ∀ b : U32, b + BitVec.ofNat 32 j + 1 = b + BitVec.ofNat 32 (j + 1) := by
          intro b
          rw [BitVec.ofNat_add, ← BitVec.add_assoc]
          rfl
        have hstep : v.decoding.decode (a + BitVec.ofNat 32 j) + 1 =
            v.decoding.decode (a + BitVec.ofNat 32 (j + 1)) := by
          rw [v.decoding.line a j (by omega), hsucc,
            v.decoding.line a (j + 1) (by simp at hj; omega)]
        rw [hstep, hsucc]
        exact ih _ _ (j + 1) rfl (by omega)
  rw [← v.stored_eq_put (v.decoding.twice a) (by rw [v.decoding.offset]; exact hn)]
  simp only [View.stored, View.mk.injEq, and_true]
  exact hgen v.mem a bs 0 (by simp) (by simpa using hn)

/-- A bus write stores all of its bytes, or fails having stored a prefix. -/
theorem kma_write_bus_spec (a : U32) (data : List U8) (p : Provenance) (attributes : U32) :
    Triple (fun c : Context β => L.view c = v) (kma_write_bus env a data p attributes)
      (fun _ c => L.view c = v.stored a data)
      (fun e c => e.except = .ce ∧ ∃ k ≤ data.length, L.view c = v.stored a (data.take k)) := by
  rintro c rfl
  have hd := L.write_decode a data p (kma_memory_cache_control env c attributes) c.bus
  have hok := L.write_mem a data p (kma_memory_cache_control env c attributes) c.bus
  have hpre := L.write_prefix a data p (kma_memory_cache_control env c attributes) c.bus
  unfold kma_write_bus
  revert hd hok hpre
  generalize env.bus.write_memory a data p (kma_memory_cache_control env c attributes) c.bus = r
  obtain ⟨ok, bus⟩ := r
  intro hd hok hpre
  have hview : ∀ m, L.mem bus = m → L.view { c with bus := bus } = { L.view c with mem := m } := by
    rintro m rfl
    simp only [ByteArrayBus.view, View.mk.injEq, true_and]
    exact hd
  cases ok with
  | true => exact hview _ (hok rfl)
  | false =>
    obtain ⟨k, hk, hm⟩ := hpre
    exact ⟨rfl, k, hk, hview _ hm⟩

theorem kma_write_bus_processor (a : U32) (data : List U8) (p : Provenance) (attributes : U32) :
    Respects (Frame.same Context.processor) (kma_write_bus env a data p attributes) := by
  refine ⟨fun c => ?_⟩
  unfold final kma_write_bus
  cases h : env.bus.write_memory a data p (kma_memory_cache_control env c attributes) c.bus with
  | mk ok bus => cases ok <;> rfl

/-- What a failed write leaves behind: a prefix of the bytes, in memory and cache alike. -/
def FailedWrite (L : ByteArrayBus env.bus) (T : U32 → Prop) (v : View) (r : U32)
    (data : List U8) (e : Fault) (c : Context β) : Prop :=
  e.except = .ce ∧ ∃ k ≤ data.length, Shows L T (v.put r (data.take k)) c

/-- The bus half: the board has the bytes and the cache still the old ones, or the
write failed and the line is given up. -/
theorem kma_write_through_spec {r : U32} {data : List U8} (hr : v.decoding.decode r = r)
    (hn : (cache_offset r).toNat + data.length ≤ 16) (way : Option (BitVec 2)) (p : Provenance)
    (attributes : U32) :
    Triple (fun c => Shows L T v c ∧ kma_cache_way c r = way)
      (kma_write_through env r way data p attributes)
      (fun _ c => (L.view c = v.put r data ∧ CoherentOn T v.mem c.cache) ∧
        kma_cache_way c r = way)
      (FailedWrite L T v r data) := by
  have hbus : Triple (fun c => Shows L T v c ∧ kma_cache_way c r = way)
      (kma_write_bus env r data p attributes)
      (fun _ c => L.view c = v.put r data ∧
        CoherentOn T v.mem c.cache ∧ kma_cache_way c r = way)
      (fun e c => (e.except = .ce ∧ ∃ k ≤ data.length, L.view c = v.put r (data.take k)) ∧
        CoherentOn T v.mem c.cache ∧ kma_cache_way c r = way) := by
    refine ((kma_write_bus_spec (L := L) (v := v) r data p attributes).keep
      (kma_write_bus_processor ..)
      (fun d => CoherentOn T v.mem d.cache ∧ kma_cache_way d r = way)).conseq ?_ ?_ ?_
    · rintro c ⟨⟨hv, hco⟩, hway⟩
      exact ⟨hv, hco, hway⟩
    · rintro u c ⟨hv, hk⟩
      exact ⟨hv.trans (v.stored_eq_put hr hn), hk⟩
    · rintro e c ⟨⟨he, k, hk, hv⟩, hc⟩
      refine ⟨⟨he, k, hk, hv.trans (v.stored_eq_put hr ?_)⟩, hc⟩
      rw [List.length_take]
      omega
  refine Triple.bind (Triple.attempt hbus) fun written => ?_
  cases written with
  | ok _ => exact Triple.of_pure fun c h => ⟨⟨h.1, h.2.1⟩, h.2.2⟩
  | error fault =>
    have hlen : ∀ k, (cache_offset r).toNat + (data.take k).length ≤ 16 := by
      intro k
      rw [List.length_take]
      omega
    cases way with
    | none =>
      refine Triple.bind (M := fun _ c => FailedWrite L T v r data fault c)
        (Triple.of_pure ?_) fun _ => Triple.of_throw fun _ h => h
      rintro c ⟨⟨he, k, hk, hv⟩, hco, hway⟩
      exact ⟨he, k, hk, hv, hco.store_absent (hlen k) hway⟩
    | some way =>
      refine Triple.bind (M := fun _ c => FailedWrite L T v r data fault c) ?_
        fun _ => Triple.of_throw fun _ h => h
      refine Triple.bind (M := fun line c =>
        ((fault.except = .ce ∧ ∃ k ≤ data.length, L.view c = v.put r (data.take k)) ∧
          CoherentOn T v.mem c.cache ∧ kma_cache_way c r = some way) ∧
        c.cache (cache_set r) way = line) (Triple.of_query fun c h => ⟨h, rfl⟩) fun line => ?_
      refine Triple.of_update ?_
      rintro c ⟨⟨⟨he, k, hk, hv⟩, hco, hway⟩, rfl⟩
      exact ⟨he, k, hk, hv, hco.store_dropped (hlen k) hway⟩

/-- The line half after the bus half: the line has the bytes too. -/
theorem kma_write_line_spec {r : U32} {data : List U8}
    (hn : (cache_offset r).toNat + data.length ≤ 16) (way : BitVec 2) {Q : Fault → Context β → Prop} :
    Triple (fun c => (L.view c = v.put r data ∧ CoherentOn T v.mem c.cache) ∧
        kma_cache_way c r = some way)
      (kma_write_line (cache_set r) way (cache_offset r) data)
      (fun _ => Shows L T (v.put r data)) Q := by
  refine Triple.bind (M := fun line c => ((L.view c = v.put r data ∧ CoherentOn T v.mem c.cache) ∧
    kma_cache_way c r = some way) ∧ c.cache (cache_set r) way = line)
    (Triple.of_query fun c h => ⟨h, rfl⟩) fun line => ?_
  refine Triple.bind (M := fun _ => Shows L T (v.put r data)) (Triple.of_update ?_) fun _ => ?_
  · rintro c ⟨⟨⟨hv, hco⟩, hway⟩, rfl⟩
    exact ⟨hv, hco.store_present hn hway⟩
  · exact Triple.bind (M := fun _ => Shows L T (v.put r data))
      (Triple.of_update fun _ h => h.of_same rfl rfl) fun _ =>
        Triple.of_update fun _ h => h.of_same rfl rfl

/-- The line half alone (CR0.NW): coherence speaks of other addresses. -/
theorem kma_write_line_only {r : U32} {data : List U8}
    (hn : (cache_offset r).toNat + data.length ≤ 16)
    (hT : ∀ i < data.length, ¬ T (r + BitVec.ofNat 32 i)) (way : BitVec 2)
    {Q : Fault → Context β → Prop} :
    Triple (fun c => Shows L T v c ∧ kma_cache_way c r = some way)
      (kma_write_line (cache_set r) way (cache_offset r) data)
      (fun _ => Shows L T v) Q := by
  refine Triple.bind (M := fun line c => (Shows L T v c ∧
    kma_cache_way c r = some way) ∧ c.cache (cache_set r) way = line)
    (Triple.of_query fun c h => ⟨h, rfl⟩) fun line => ?_
  refine Triple.bind (M := fun _ => Shows L T v) (Triple.of_update ?_) fun _ => ?_
  · rintro c ⟨⟨⟨hv, hco⟩, hway⟩, rfl⟩
    exact ⟨hv, hco.store_line_only hn hway hT⟩
  · exact Triple.bind (M := fun _ => Shows L T v)
      (Triple.of_update fun _ h => h.of_same rfl rfl) fun _ =>
        Triple.of_update fun _ h => h.of_same rfl rfl

/-- **One turn of the write loop.** With CR0.NW clear the bytes of the part are in
memory; with CR0.NW set they may have stayed in the line, which must then not hold
an address of `T`. -/
theorem kma_write_part_spec (a : U32) (data : List U8) (p : Provenance) (attributes : U32)
    (nw : Bool) (hT : nw = true → ∀ i < line_part a data.length,
      ¬ T (v.decoding.decode (a + BitVec.ofNat 32 i))) :
    Triple (fun c => Shows L T v c ∧ c.cpu.cr0_nw = nw)
      (kma_write_part env a data p attributes)
      (fun part c => (∃ k ≤ part, (nw = false → k = part) ∧
        Shows L T (v.stored a (data.take k)) c) ∧ part = line_part a data.length)
      (fun e c => e.except = .ce ∧
        ∃ k ≤ data.length, Shows L T (v.stored a (data.take k)) c) := by
  have hoff : cache_offset (v.decoding.decode a) = cache_offset a := v.decoding.offset a
  have hpart : line_part (v.decoding.decode a) data.length = line_part a data.length := by
    rw [line_part, hoff, line_part]
  obtain ⟨hn, hle⟩ := line_part_le a data.length
  have hfixed := v.decoding.twice a
  generalize hr : v.decoding.decode a = r at *
  have htake : ∀ k ≤ line_part a data.length, (data.take k).length = k := by
    intro k hk
    rw [List.length_take]
    omega
  have hlen : ∀ k ≤ line_part a data.length, (cache_offset r).toNat + (data.take k).length ≤ 16 := by
    intro k hk
    rw [htake k hk, hoff]
    omega
  have hput : ∀ k ≤ line_part a data.length, v.stored a (data.take k) = v.put r (data.take k) := by
    intro k hk
    rw [v.stored_eq_put_decode (by rw [← hoff]; exact hlen k hk), hr]
  -- a failed bus write, in the terms of this theorem
  have hfail : ∀ e (c : Context β),
      FailedWrite L T v r (data.take (line_part a data.length)) e c →
      e.except = .ce ∧ ∃ k ≤ data.length, Shows L T (v.stored a (data.take k)) c := by
    rintro e c ⟨he, k, hk, hs⟩
    rw [htake _ (Nat.le_refl _)] at hk
    refine ⟨he, k, by omega, ?_⟩
    rw [List.take_take, Nat.min_eq_left hk] at hs
    rw [hput k hk]
    exact hs
  unfold kma_write_part
  refine Triple.bind (M := fun memory c => (Shows L T v c ∧ c.cpu.cr0_nw = nw) ∧
    memory.address = r) ?_ fun memory => Triple.assume fun hm => ?_
  · refine ((query_cache_memory_spec (L := L) (T := T) (v := v) a .lookup ⟨a, false⟩
      (Or.inl rfl)).keep (query_cache_memory_same ..) (fun c => c.cpu.cr0_nw = nw)).conseq
      (fun _ h => h) ?_ ?_
    · rintro memory c ⟨⟨hc, hm⟩, hnw⟩
      refine ⟨⟨hc, hnw⟩, ?_⟩
      rw [hm, if_neg (by decide), hr]
    · rintro e c ⟨⟨hc, he⟩, -⟩
      refine ⟨he, 0, by omega, ?_⟩
      simpa [View.stored, store_through] using hc
  rw [hm, hpart]
  refine Triple.bind (M := fun way c => (Shows L T v c ∧ c.cpu.cr0_nw = nw) ∧
    kma_cache_way c r = way) (Triple.of_query fun c h => ⟨h, rfl⟩) fun way => ?_
  refine Triple.bind (M := fun through c => (Shows L T v c ∧ kma_cache_way c r = way) ∧
    (through = false → nw = true ∧ way ≠ none)) (Triple.of_query ?_)
    fun through => Triple.assume fun hthrough => ?_
  · rintro c ⟨⟨hc, hnw⟩, hway⟩
    refine ⟨⟨hc, hway⟩, fun h => ?_⟩
    simp only [Bool.or_eq_false_iff, Bool.not_eq_false'] at h
    refine ⟨hnw.symm.trans h.2, fun hnone => ?_⟩
    rw [hnone] at h
    exact absurd h.1.2 (by simp)
  cases through with
  | true =>
    refine Triple.bind (M := fun _ c =>
      (L.view c = v.put r (data.take (line_part a data.length)) ∧ CoherentOn T v.mem c.cache) ∧
        kma_cache_way c r = way) ?_ fun _ => ?_
    · rw [if_pos rfl]
      exact (kma_write_through_spec hfixed (hlen _ (Nat.le_refl _)) way p attributes).weaken
        (fun _ _ h => h) hfail
    refine Triple.bind (M := fun _ => Shows L T (v.put r (data.take (line_part a data.length))))
      ?_ fun _ => Triple.of_pure ?_
    · cases way with
      | some way => exact kma_write_line_spec (hlen _ (Nat.le_refl _)) way
      | none =>
        refine Triple.of_pure ?_
        rintro c ⟨⟨hv, hco⟩, hway⟩
        exact ⟨hv, hco.store_absent (hlen _ (Nat.le_refl _)) hway⟩
    · intro c hc
      refine ⟨⟨line_part a data.length, Nat.le_refl _, fun _ => rfl, ?_⟩, rfl⟩
      rw [hput _ (Nat.le_refl _)]
      exact hc
  | false =>
    obtain ⟨hnw, hway⟩ := hthrough rfl
    refine Triple.bind (M := fun _ c => Shows L T v c ∧ kma_cache_way c r = way)
      (Triple.of_pure fun _ h => h) fun _ => ?_
    refine Triple.bind (M := fun _ => Shows L T v) ?_ fun _ => Triple.of_pure ?_
    · cases way with
      | none => exact absurd rfl hway
      | some way =>
        refine kma_write_line_only (hlen _ (Nat.le_refl _)) (fun i hi => ?_) way
        rw [htake _ (Nat.le_refl _)] at hi
        have := hT hnw i hi
        rwa [v.decoding.line a i (by omega), hr] at this
    · intro c hc
      refine ⟨⟨0, Nat.zero_le _, fun h => ?_, ?_⟩, rfl⟩
      · rw [hnw] at h
        exact absurd h (by decide)
      · simpa [View.stored, store_through] using hc

/-! ## The write loop -/

/-- `v'` is `v` with a change at most at the `n` bytes from `a` on. -/
structure View.Within (v : View) (a : U32) (n : Nat) (v' : View) : Prop where
  decoding : v'.decoding = v.decoding
  mem : ∀ x, (∀ i < n, x ≠ v.decoding.decode (a + BitVec.ofNat 32 i)) → v'.mem x = v.mem x

theorem View.within_stored (v : View) (a : U32) {bs : List U8} {n : Nat} (h : bs.length ≤ n) :
    v.Within a n (v.stored a bs) :=
  ⟨rfl, fun _ hx => store_through_other _ _ _ fun i hi => hx i (by omega)⟩

theorem View.Within.trans {v v₁ v₂ : View} {a : U32} {i j : Nat} (h₁ : v.Within a i v₁)
    (h₂ : v₁.Within (a + BitVec.ofNat 32 i) j v₂) : v.Within a (i + j) v₂ := by
  refine ⟨h₂.decoding.trans h₁.decoding, fun x hx => ?_⟩
  rw [h₂.mem x, h₁.mem x fun k hk => hx k (by omega)]
  intro k hk
  rw [h₁.decoding, BitVec.add_assoc, ← BitVec.ofNat_add]
  exact hx (i + k) (by omega)

theorem View.stored_append (v : View) (a : U32) (xs ys : List U8) :
    (v.stored a xs).stored (a + BitVec.ofNat 32 xs.length) ys = v.stored a (xs ++ ys) := by
  simp only [View.stored, View.mk.injEq, and_true]
  exact (store_through_append _ _ _ _ _).symm

/-- What a finished write leaves: a copy of memory in the cache, with all bytes in
memory when CR0.NW is clear. -/
def Written (L : ByteArrayBus env.bus) (T : U32 → Prop) (v : View) (a : U32) (data : List U8)
    (nw : Bool) (c : Context β) : Prop :=
  ∃ v', Shows L T v' c ∧ v.Within a data.length v' ∧ (nw = false → v' = v.stored a data)

/-- What a write leaves whose bus failed: the same for a prefix of the bytes. -/
def PartlyWritten (L : ByteArrayBus env.bus) (T : U32 → Prop) (v : View) (a : U32)
    (data : List U8) (nw : Bool) (e : Fault) (c : Context β) : Prop :=
  e.except = .ce ∧ ∃ v', Shows L T v' c ∧ v.Within a data.length v' ∧
    (nw = false → ∃ k ≤ data.length, v' = v.stored a (data.take k))

/-- The write loop, by induction on its fuel as for reads. -/
theorem kma_write_486_spec (p : Provenance) (attributes : U32) (nw : Bool) (fuel : Nat) (a : U32)
    (data : List U8) (v : View) (hfuel : data.length ≤ fuel)
    (hT : nw = true → ∀ i < data.length, ¬ T (v.decoding.decode (a + BitVec.ofNat 32 i))) :
    Triple (fun c => Shows L T v c ∧ c.cpu.cr0_nw = nw)
      (kma_write_486 env p attributes fuel a data)
      (fun _ => Written L T v a data nw) (PartlyWritten L T v a data nw) := by
  induction fuel generalizing a data v with
  | zero =>
    obtain rfl : data = [] := List.eq_nil_of_length_eq_zero (by omega)
    exact Triple.of_pure fun c hc => ⟨v, hc.1, ⟨rfl, fun _ _ => rfl⟩, fun _ => rfl⟩
  | succ fuel ih =>
    unfold kma_write_486
    refine Triple.ite (fun h0 => ?_) fun hne => ?_
    · subst h0
      exact Triple.of_pure fun c hc => ⟨v, hc.1, ⟨rfl, fun _ _ => rfl⟩, fun _ => rfl⟩
    have hpos : 0 < data.length := List.length_pos_iff.mpr hne
    obtain ⟨hoff, hle⟩ := line_part_le a data.length
    have hsome : 0 < line_part a data.length := by
      have := (cache_offset a).isLt
      unfold line_part
      omega
    have hturn : Triple (fun c => Shows L T v c ∧ c.cpu.cr0_nw = nw)
        (kma_write_part env a data p attributes)
        (fun part c => (∃ k, Shows L T (v.stored a (data.take k)) c ∧ c.cpu.cr0_nw = nw ∧
          k ≤ part ∧ (nw = false → k = part)) ∧ part = line_part a data.length)
        (PartlyWritten L T v a data nw) := by
      refine ((kma_write_part_spec (L := L) a data p attributes nw fun hnw i hi =>
        hT hnw i (by omega)).keep (kma_write_part_core ..)
        (fun d => d.cpu.cr0_nw = nw)).conseq (fun _ h => ⟨h, h.2⟩) ?_ ?_
      · rintro part c ⟨⟨⟨k, hk, hnw, hs⟩, hpart⟩, hcr0⟩
        exact ⟨⟨k, hs, hcr0, hk, hnw⟩, hpart⟩
      · rintro e c ⟨⟨he, k, hk, hs⟩, -⟩
        refine ⟨he, _, hs, v.within_stored a (by rw [List.length_take]; omega),
          fun _ => ⟨k, hk, rfl⟩⟩
    refine Triple.bind hturn fun part => Triple.assume fun hpart => ?_
    subst hpart
    refine Triple.of_exists fun k => ?_
    generalize line_part a data.length = part at *
    have hdrop : (data.drop part).length = data.length - part := List.length_drop
    have hrest := ih (a + BitVec.ofNat 32 part) (data.drop part) (v.stored a (data.take k))
      (by omega) (fun hnw i hi => by
        rw [BitVec.add_assoc, ← BitVec.ofNat_add]
        exact hT hnw (part + i) (by omega))
    refine Triple.conseq (P := fun c => ((Shows L T (v.stored a (data.take k)) c ∧
      c.cpu.cr0_nw = nw) ∧ (k ≤ part ∧ (nw = false → k = part)))) (Triple.assume fun hk =>
      hrest.weaken ?_ ?_) (fun c h => ⟨⟨h.1, h.2.1⟩, h.2.2⟩) (fun _ _ h => h) (fun _ _ h => h)
    · rintro _ c ⟨v', hs, hw, hv'⟩
      have hfirst : v.Within a part (v.stored a (data.take k)) :=
        v.within_stored a (by rw [List.length_take]; omega)
      refine ⟨v', hs, ?_, fun hnw => ?_⟩
      · have := hfirst.trans hw
        rwa [hdrop, Nat.add_sub_cancel' (by omega)] at this
      · have hlen : (data.take part).length = part := by
          rw [List.length_take]
          omega
        have := v.stored_append a (data.take part) (data.drop part)
        rw [hlen, List.take_append_drop] at this
        rw [hv' hnw, hk.2 hnw, this]
    · rintro e c ⟨he, v', hs, hw, hv'⟩
      have hfirst : v.Within a part (v.stored a (data.take k)) :=
        v.within_stored a (by rw [List.length_take]; omega)
      refine ⟨he, v', hs, ?_, fun hnw => ?_⟩
      · have := hfirst.trans hw
        rwa [hdrop, Nat.add_sub_cancel' (by omega)] at this
      · obtain ⟨j, hj, he'⟩ := hv' hnw
        have hlen : (data.take part).length = part := by
          rw [List.length_take]
          omega
        refine ⟨part + j, by omega, ?_⟩
        have := v.stored_append a (data.take part) ((data.drop part).take j)
        rw [hlen] at this
        rw [he', hk.2 hnw, this, List.take_add]

/-- **Cached writes are writes.** On the 80486SX with CR0.NW clear, a write that
completes has stored exactly its bytes, a write whose bus fails a prefix of them, and
either way the cache is a copy of memory afterwards. -/
theorem kma_write_physical_spec (hprof : env.profile = .p80486sx) (a : U32) (data : List U8)
    (p : Provenance) (attributes : U32) (nw : Bool)
    (hT : nw = true → ∀ i < data.length, ¬ T (v.decoding.decode (a + BitVec.ofNat 32 i))) :
    Triple (fun c => Shows L T v c ∧ c.cpu.cr0_nw = nw)
      (kma_write_physical env a data p attributes)
      (fun _ => Written L T v a data nw) (PartlyWritten L T v a data nw) := by
  unfold kma_write_physical
  rw [hprof]
  exact kma_write_486_spec p attributes nw data.length a data v (Nat.le_refl _) hT

end Nxvm.Cpu
