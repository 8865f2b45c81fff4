/-
Reads through the internal cache return what the bus would have returned
(`_kma_read_physical` on the 80486SX).

Every step of the read loop is a triple over `Shows`: the board shows the same
memory afterwards, the cache is still a copy of it, and the bytes answered are the
bytes of that memory.
-/
import Nxvm.Cpu.Board

set_option autoImplicit false

namespace Nxvm.Cpu

open Nxvm.Lib Nxvm.Lib.Exec Nxvm.Lib.Memory Nxvm.Lib.Directory

variable {β : Type} {env : Env β} {L : ByteArrayBus env.bus} {T : U32 → Prop} {v : View}

/-! ## What single steps do -/

/-- A bus read touches the board alone. -/
theorem kma_read_bus_processor (a : U32) (n : Nat) (p : Provenance) (attributes : U32) :
    Respects (Frame.same Context.processor) (kma_read_bus env a n p attributes) := by
  refine ⟨fun c => ?_⟩
  unfold final kma_read_bus
  cases h : env.bus.read_memory a n p (kma_is_reset_vector_fetch env.profile a n p)
    (kma_memory_cache_control env c attributes) c.bus with
  | mk data bus => cases data <;> rfl

/-- The bytes an uncached bus access of `n` bytes at `a` answers. -/
def View.bus_bytes (v : View) (profile : Profile) (p : Provenance) (a : U32) (n : Nat) : List U8 :=
  (List.range n).map fun i =>
    v.mem (if kma_is_reset_vector_fetch profile a n p then a + BitVec.ofNat 32 i
      else v.decoding.decode (a + BitVec.ofNat 32 i))

/-- A bus read answers the bytes of the view and changes nothing in it. -/
theorem kma_read_bus_view (a : U32) (n : Nat) (p : Provenance) (attributes : U32) :
    Triple (fun c => L.view c = v) (kma_read_bus env a n p attributes)
      (fun bytes c => L.view c = v ∧ bytes = v.bus_bytes env.profile p a n)
      (fun e c => L.view c = v ∧ e.except = .ce) := by
  rintro c rfl
  have hm := L.read_mem a n p (kma_is_reset_vector_fetch env.profile a n p)
    (kma_memory_cache_control env c attributes) c.bus
  have hd := L.read_decode a n p (kma_is_reset_vector_fetch env.profile a n p)
    (kma_memory_cache_control env c attributes) c.bus
  have hbytes := L.read_bytes a n p (kma_is_reset_vector_fetch env.profile a n p)
    (kma_memory_cache_control env c attributes) c.bus
  unfold kma_read_bus
  revert hm hd hbytes
  generalize env.bus.read_memory a n p (kma_is_reset_vector_fetch env.profile a n p)
    (kma_memory_cache_control env c attributes) c.bus = r
  obtain ⟨data, bus⟩ := r
  intro hm hd hbytes
  have hview : L.view { c with bus := bus } = L.view c := by
    simp only [ByteArrayBus.view, View.mk.injEq]
    exact ⟨hm, hd⟩
  cases data with
  | none => exact ⟨hview, rfl⟩
  | some f =>
    refine ⟨hview, List.map_congr_left fun i hi => ?_⟩
    exact hbytes f rfl i (List.mem_range.mp hi)

theorem kma_read_bus_spec (a : U32) (n : Nat) (p : Provenance) (attributes : U32) :
    Triple (Shows L T v) (kma_read_bus env a n p attributes)
      (fun bytes c => Shows L T v c ∧ bytes = v.bus_bytes env.profile p a n) (Failed L T v) := by
  refine ((kma_read_bus_view (L := L) (v := v) a n p attributes).keep (kma_read_bus_processor ..)
    (fun d => CoherentOn T v.mem d.cache)).conseq (fun c h => ⟨h.view, h.coherent⟩) ?_ ?_
  · rintro bytes c ⟨⟨hv, hb⟩, hco⟩
    exact ⟨⟨hv, hco⟩, hb⟩
  · rintro e c ⟨⟨hv, he⟩, hco⟩
    exact ⟨⟨hv, hco⟩, he⟩

/-- A cache query answers the address the access reaches, also where the board has
no such callback and the address stays as it was. -/
theorem query_cache_memory_spec (a : U32) (kind : CacheQuery) (memory : CacheMemory)
    (hm : memory.address = a ∨
      memory.address = if kind = .reset_lookup then a else v.decoding.decode a) :
    Triple (Shows L T v) (query_cache_memory env a kind memory)
      (fun answer c => Shows L T v c ∧
        answer.address = if kind = .reset_lookup then a else v.decoding.decode a)
      (Failed L T v) := by
  rintro c ⟨rfl, hco⟩
  unfold query_cache_memory
  cases hq : env.bus.query_cache_memory with
  | none =>
    refine ⟨⟨rfl, hco⟩, ?_⟩
    have hid : (L.view c).decoding.decode a = a := L.query_absent hq c.bus a
    rcases hm with h | h
    · rw [h, hid, ite_self]
    · exact h
  | some q =>
    cases ha : q a kind c.bus with
    | none => simp only [ha]; exact ⟨⟨rfl, hco⟩, rfl⟩
    | some answer =>
      simp only [ha]
      exact ⟨⟨rfl, hco⟩, L.query_address q hq a kind c.bus answer ha⟩

/-- What the lookup found is a valid line with the address's tag. -/
theorem kma_cache_way_some {c : Context β} {a : U32} {way : BitVec 2}
    (h : kma_cache_way c a = some way) :
    (c.cache (cache_set a) way).valid = true ∧ (c.cache (cache_set a) way).tag = cache_tag a :=
  find_some (t := line_scheme) h

/-! ## Reading

The addresses one turn of the read loop deals with: `a` is where the operand
continues, `r` the address the board resolves it to. -/

section Reading

variable {a : U32} {p : Provenance}

theorem reset_vector_iff (a : U32) (n : Nat) (p : Provenance) :
    kma_is_reset_vector_fetch .p80486sx a n p = true ↔
      n ≠ 0 ∧ (p = .instruction_fetch ∨ p = .instruction_prefetch) ∧
        0xfffffff0 ≤ a.toNat ∧ a.toNat + (n - 1) ≤ 0xffffffff := by
  simp only [kma_is_reset_vector_fetch, Bool.and_eq_true, Bool.or_eq_true, decide_eq_true_eq,
    bne_iff_ne, ne_eq, BitVec.le_def, and_assoc]
  exact Iff.rfl

theorem resolve_offset (v : View) (profile : Profile) (p : Provenance) (a : U32) :
    cache_offset (v.resolve profile p a) = cache_offset a := by
  unfold View.resolve
  split
  · rfl
  · exact v.decoding.offset a

/-- Inside a line, resolving goes along with the operand. -/
theorem resolve_add (v : View) {k : Nat} (hk : (cache_offset a).toNat + k < 16) :
    v.resolve .p80486sx p (a + BitVec.ofNat 32 k) =
      v.resolve .p80486sx p a + BitVec.ofNat 32 k := by
  have ha := a.isLt
  have hak : (a + BitVec.ofNat 32 k).toNat = a.toNat + k := by
    rw [cache_offset_toNat] at hk
    rw [BitVec.toNat_add, BitVec.toNat_ofNat]
    omega
  have hreset : kma_is_reset_vector_fetch .p80486sx (a + BitVec.ofNat 32 k) 1 p =
      kma_is_reset_vector_fetch .p80486sx a 1 p := by
    rw [cache_offset_toNat] at hk
    rw [Bool.eq_iff_iff, reset_vector_iff, reset_vector_iff, hak]
    constructor
    · rintro ⟨_, hp, h₁, h₂⟩
      exact ⟨by omega, hp, by omega, by omega⟩
    · rintro ⟨_, hp, h₁, h₂⟩
      exact ⟨by omega, hp, by omega, by omega⟩
  unfold View.resolve
  rw [hreset]
  split
  · rfl
  · exact v.decoding.line a k hk

/-- On the bus, the addresses of a resolved line stand for themselves. -/
theorem bus_address (v : View) {n k : Nat} {r : U32} (hr : v.resolve .p80486sx p a = r)
    {s : U32} (hs : cache_tag s = cache_tag r) (hset : cache_set s = cache_set r)
    (hn : (cache_offset s).toNat + n ≤ 16) (hk : k < n) :
    (if kma_is_reset_vector_fetch .p80486sx s n p then s + BitVec.ofNat 32 k
      else v.decoding.decode (s + BitVec.ofNat 32 k)) = s + BitVec.ofNat 32 k := by
  cases hflag : kma_is_reset_vector_fetch .p80486sx s n p with
  | true => simp
  | false =>
    simp only [Bool.false_eq_true, if_false]
    have hfixed : v.decoding.decode r = r := by
      unfold View.resolve at hr
      split at hr
      · -- a reset fetch resolves to itself and would be a reset fetch on the bus
        rename_i hra
        subst hr
        rw [reset_vector_iff] at hra
        have ht := congrArg BitVec.toNat hs
        have hs' := congrArg BitVec.toNat hset
        rw [cache_tag_toNat, cache_tag_toNat] at ht
        rw [cache_set_toNat, cache_set_toNat] at hs'
        rw [cache_offset_toNat] at hn
        have hs32 := s.isLt
        have : kma_is_reset_vector_fetch .p80486sx s n p = true := by
          rw [reset_vector_iff]
          refine ⟨by omega, hra.2.1, by omega, by omega⟩
        rw [this] at hflag
        exact absurd hflag (by simp)
      · rw [← hr]
        exact v.decoding.twice a
    rw [byte_address_add (by omega), hs, hset]
    exact v.decoding.line_fixed hfixed _

/-- The bytes an uncached access of `n` bytes at `a` reads. -/
def View.bytes (v : View) (profile : Profile) (p : Provenance) (a : U32) (n : Nat) : List U8 :=
  (List.range n).map fun i => v.byte profile p (a + BitVec.ofNat 32 i)

theorem line_part_le (r : U32) (n : Nat) :
    (cache_offset r).toNat + line_part r n ≤ 16 ∧ line_part r n ≤ n := by
  have := (cache_offset r).isLt
  unfold line_part
  omega

/-- The bytes of one turn, told by the resolved address. -/
theorem bytes_eq_resolved (v : View) {n : Nat} {r : U32} (hr : v.resolve .p80486sx p a = r)
    (hn : (cache_offset r).toNat + n ≤ 16) :
    v.bytes .p80486sx p a n = (List.range n).map fun i => v.mem (r + BitVec.ofNat 32 i) := by
  refine List.map_congr_left fun i hi => ?_
  have hi' := List.mem_range.mp hi
  rw [View.byte, resolve_add v (by rw [← resolve_offset v .p80486sx p a, hr]; omega), hr]

/-- Uncached: the bus answers the bytes of the turn. -/
theorem kma_read_bus_bytes (hprof : env.profile = .p80486sx) {n : Nat} {r : U32}
    (hr : v.resolve .p80486sx p a = r) (hn : (cache_offset r).toNat + n ≤ 16) (attributes : U32) :
    Triple (Shows L T v) (kma_read_bus env r n p attributes)
      (fun bytes c => Shows L T v c ∧ bytes = v.bytes .p80486sx p a n) (Failed L T v) := by
  refine (kma_read_bus_spec r n p attributes).conseq (fun _ h => h) ?_ (fun _ _ h => h)
  rintro bytes c ⟨hc, rfl⟩
  refine ⟨hc, ?_⟩
  rw [bytes_eq_resolved v hr hn]
  refine List.map_congr_left fun i hi => ?_
  rw [hprof, bus_address v hr rfl rfl hn (List.mem_range.mp hi)]

/-- What a read answers: as many bytes as were asked for, and where the cache is a copy of
memory the bytes of memory. -/
def Answers (T : U32 → Prop) (v : View) (p : Provenance) (a : U32) (n : Nat) (bytes : List U8) :
    Prop :=
  bytes.length = n ∧ ((∀ i < n, T (v.resolve .p80486sx p (a + BitVec.ofNat 32 i))) →
    bytes = v.bytes .p80486sx p a n)

theorem Answers.of_eq {n : Nat} {bytes : List U8} (h : bytes = v.bytes .p80486sx p a n) :
    Answers T v p a n bytes :=
  ⟨by rw [h]; simp [View.bytes], fun _ => h⟩

/-- A hit: the line's bytes are the bytes of memory. -/
theorem kma_read_line_spec {n : Nat} {r : U32} (hr : v.resolve .p80486sx p a = r)
    (hn : (cache_offset r).toNat + n ≤ 16) (way : BitVec 2) :
    Triple (fun c : Context β => Shows L T v c ∧ kma_cache_way c r = some way)
      (kma_read_line (cache_set r) way (cache_offset r) n p)
      (fun bytes c => Shows L T v c ∧ Answers T v p a n bytes) (Failed L T v) := by
  have hdata : ∀ c : Context β, Shows L T v c ∧ kma_cache_way c r = some way →
      Answers T v p a n (load (c.cache (cache_set r) way).data (cache_offset r) n) := by
    rintro c ⟨hc, hway⟩
    obtain ⟨hv, ht⟩ := kma_cache_way_some hway
    refine ⟨load_length _ _ _, fun hT => ?_⟩
    rw [bytes_eq_resolved v hr hn]
    refine List.map_congr_left fun i hi => ?_
    have hi' := List.mem_range.mp hi
    have hadd : byte_address (c.cache (cache_set r) way).tag (cache_set r)
        (cache_offset r + BitVec.ofNat 4 i) = r + BitVec.ofNat 32 i := by
      rw [ht, byte_address_add (by omega)]
    have hagree := hc.coherent.agree (cache_set r) way hv (cache_offset r + BitVec.ofNat 4 i)
    rw [hadd] at hagree
    refine hagree ?_
    rw [← hr, ← resolve_add v (by rw [← resolve_offset v .p80486sx p a, hr]; omega)]
    exact hT i hi'
  refine Triple.bind (M := fun data c => Shows L T v c ∧
    Answers T v p a n (load data (cache_offset r) n))
    (Triple.of_query fun c hc => ⟨hc.1, hdata c hc⟩) fun data => ?_
  refine Triple.bind (M := fun _ c => Shows L T v c ∧
    Answers T v p a n (load data (cache_offset r) n))
    (Triple.of_update fun c hc => ⟨hc.1.of_same rfl rfl, hc.2⟩) fun _ => ?_
  refine Triple.bind (M := fun _ c => Shows L T v c ∧
    Answers T v p a n (load data (cache_offset r) n)) ?_ fun _ => Triple.of_pure fun _ h => h
  refine Triple.ite (fun _ => ?_) (fun _ => Triple.of_pure fun _ h => h)
  exact Triple.of_update fun c hc => ⟨hc.1.of_same rfl rfl, hc.2⟩

/-- A fill: the line put into the cache is the line of memory. -/
theorem kma_fill_line_spec (hprof : env.profile = .p80486sx) {r : U32}
    (hr : v.resolve .p80486sx p a = r) (attributes : U32) :
    Triple (fun c => Shows L T v c ∧ kma_cache_way c r = none)
      (kma_fill_line env (cache_set r) r p attributes)
      (fun data c => Shows L T v c ∧
        ∀ k, data k = v.mem (byte_address (cache_tag r) (cache_set r) k))
      (Failed L T v) := by
  have hread : Triple (fun c => Shows L T v c ∧ kma_cache_way c r = none)
      (kma_read_bus env (r &&& ~~~15) 16 p attributes)
      (fun bytes c => (Shows L T v c ∧ kma_cache_way c r = none) ∧
        ∀ k, store (fun _ => 0) 0 bytes k = v.mem (byte_address (cache_tag r) (cache_set r) k))
      (Failed L T v) := by
    refine ((kma_read_bus_spec (L := L) (T := T) (v := v) (r &&& ~~~15) 16 p attributes).keep
      (kma_read_bus_processor _ _ _ _) (fun d => kma_cache_way d r = none)).conseq
      (fun _ h => h) ?_ (fun _ _ h => h.1)
    rintro bytes c ⟨⟨hc, rfl⟩, hway⟩
    refine ⟨⟨hc, hway⟩, fun k => ?_⟩
    have hk := k.isLt
    have hb := bus_address v hr (s := r &&& ~~~15) (n := 16) (k := k.toNat)
      (by rw [line_start]; simp) (by rw [line_start]; simp) (by rw [line_start]; simp) hk
    rw [store_inside (by simpa [View.bus_bytes] using hk)]
    have h0 : k - 0 = k := by simp
    simp only [View.bus_bytes, List.getElem_map, List.getElem_range, h0, hprof]
    rw [hb, byte_address_add (by rw [line_start]; simpa using hk), line_start]
    simp
  refine Triple.bind hread fun bytes => ?_
  refine Triple.bind (M := fun way c => (Shows L T v c ∧ kma_cache_way c r = none) ∧
    ∀ k, store (fun _ => 0) 0 bytes k = v.mem (byte_address (cache_tag r) (cache_set r) k))
    (Triple.of_query fun c hc => hc) fun way => ?_
  refine Triple.bind (M := fun _ c => Shows L T v c ∧
    ∀ k, store (fun _ => 0) 0 bytes k = v.mem (byte_address (cache_tag r) (cache_set r) k))
    (Triple.of_update ?_) fun _ => ?_
  · rintro c ⟨⟨⟨hv, hco⟩, hway⟩, hdata⟩
    refine ⟨⟨hv, ?_, ?_⟩, hdata⟩
    · exact hco.unique.put_absent mem_ways (k := cache_tag r) hway rfl
    · exact hco.agree.put fun _ k _ => hdata k
  · refine Triple.bind (M := fun _ c => Shows L T v c ∧
      ∀ k, store (fun _ => 0) 0 bytes k = v.mem (byte_address (cache_tag r) (cache_set r) k))
      (Triple.of_update fun c hc => ⟨hc.1.of_same rfl rfl, hc.2⟩) fun _ => ?_
    refine Triple.bind (M := fun _ c => Shows L T v c ∧
      ∀ k, store (fun _ => 0) 0 bytes k = v.mem (byte_address (cache_tag r) (cache_set r) k))
      (Triple.of_update fun c hc => ⟨hc.1.of_same rfl rfl, hc.2⟩) fun _ => ?_
    refine Triple.bind (M := fun _ c => Shows L T v c ∧
      ∀ k, store (fun _ => 0) 0 bytes k = v.mem (byte_address (cache_tag r) (cache_set r) k))
      (Triple.of_update fun c hc => ⟨hc.1.of_same rfl rfl, hc.2⟩) fun _ => ?_
    exact Triple.of_pure fun _ h => h

/-- A miss: filled or not, the bytes are the bytes of memory. -/
theorem kma_read_missed_spec (hprof : env.profile = .p80486sx) {n : Nat} {r : U32}
    (hr : v.resolve .p80486sx p a = r) (hn : (cache_offset r).toNat + n ≤ 16)
    {kind : CacheQuery}
    (hkind : kind = if kma_is_reset_vector_fetch .p80486sx a 1 p then .reset_lookup else .lookup)
    {memory : CacheMemory} (hm : memory.address = r) (attributes : U32) :
    Triple (fun c => Shows L T v c ∧ kma_cache_way c r = none)
      (kma_read_missed env a kind memory n p attributes)
      (fun bytes c => Shows L T v c ∧ bytes = v.bytes .p80486sx p a n) (Failed L T v) := by
  have hprobe : ∀ fillable : Bool, Triple (fun c => Shows L T v c ∧ kma_cache_way c r = none)
      (if kind = .lookup ∧ fillable = true then query_cache_memory env a .fill_probe memory
        else pure memory)
      (fun probed c => (Shows L T v c ∧ kma_cache_way c r = none) ∧ probed.address = r)
      (Failed L T v) := by
    intro fillable
    refine Triple.ite (fun hk => ?_) (fun _ => Triple.of_pure fun c hc => ⟨hc, hm⟩)
    have hdec : v.decoding.decode a = r := by
      rw [← hr, View.resolve, if_neg]
      intro hreset
      rw [hkind, if_pos hreset] at hk
      exact absurd hk.1 (by decide)
    refine ((query_cache_memory_spec a .fill_probe memory
      (Or.inr (by rw [hm, if_neg (by decide), hdec]))).keep (query_cache_memory_same ..)
      (fun c => kma_cache_way c r = none)).conseq (fun _ h => h) ?_ (fun _ _ h => h.1)
    rintro probed c ⟨⟨hc, hp⟩, hway⟩
    exact ⟨⟨hc, hway⟩, by rw [hp, if_neg (by decide), hdec]⟩
  refine Triple.bind (M := fun _ c => Shows L T v c ∧ kma_cache_way c r = none)
    (Triple.of_query fun _ hc => hc) fun cpu => ?_
  refine Triple.bind (hprobe _) fun probed => ?_
  by_cases hp : probed.address = r
  · rw [hm, hp]
    refine Triple.ite (fun _ => ?_) (fun _ => ?_)
    · refine Triple.bind ((kma_fill_line_spec hprof hr attributes).conseq (fun _ h => h.1)
        (fun _ _ h => h) (fun _ _ h => h)) fun data => Triple.of_pure ?_
      rintro c ⟨hc, hdata⟩
      refine ⟨hc, ?_⟩
      rw [bytes_eq_resolved v hr hn]
      refine List.map_congr_left fun i hi => ?_
      have hi' := List.mem_range.mp hi
      rw [hdata, byte_address_add (by omega)]
    · exact (kma_read_bus_bytes hprof hr hn attributes).conseq (fun _ h => h.1.1)
        (fun _ _ h => h) (fun _ _ h => h)
  · exact Triple.intro (fun _ _ _ hc => absurd hc.2 hp) (fun _ _ _ hc => absurd hc.2 hp)

/-- **One turn of the read loop**: the bytes of the operand in its line, as an
uncached access would read them. -/
theorem kma_read_part_spec (hprof : env.profile = .p80486sx) (a : U32) (remaining : Nat)
    (p : Provenance) (attributes : U32) :
    Triple (Shows L T v) (kma_read_part env a remaining p attributes)
      (fun bytes c => Shows L T v c ∧
        Answers T v p a (line_part (v.resolve .p80486sx p a) remaining) bytes)
      (Failed L T v) := by
  obtain ⟨hoff, -⟩ := line_part_le (v.resolve .p80486sx p a) remaining
  have haddr : (if (if kma_is_reset_vector_fetch .p80486sx a 1 p = true
        then CacheQuery.reset_lookup else .lookup) = .reset_lookup then a
      else v.decoding.decode a) = v.resolve .p80486sx p a := by
    unfold View.resolve
    cases kma_is_reset_vector_fetch .p80486sx a 1 p <;> simp
  unfold kma_read_part
  rw [hprof]
  refine Triple.bind (query_cache_memory_spec a _ ⟨a, false⟩ (Or.inl rfl)) fun memory => ?_
  refine Triple.bind (M := fun _ c => Shows L T v c ∧
    memory.address = v.resolve .p80486sx p a)
    (Triple.of_query fun c hc => ⟨hc.1, hc.2.trans haddr⟩) fun locked =>
      Triple.assume fun hm => ?_
  rw [hm]
  refine Triple.ite (fun _ => ?_) (fun _ => ?_)
  · exact (kma_read_bus_bytes hprof rfl hoff attributes).weaken
      (fun _ _ h => ⟨h.1, .of_eq h.2⟩) (fun _ _ h => h)
  · refine Triple.bind (M := fun way c => Shows L T v c ∧
      kma_cache_way c (v.resolve .p80486sx p a) = way)
      (Triple.of_query fun c hc => ⟨hc, rfl⟩) fun way => ?_
    cases way with
    | some way => exact kma_read_line_spec rfl hoff way
    | none =>
      exact (kma_read_missed_spec hprof rfl hoff rfl hm attributes).weaken
        (fun _ _ h => ⟨h.1, .of_eq h.2⟩) (fun _ _ h => h)

theorem bytes_append (v : View) (profile : Profile) (p : Provenance) (a : U32) (i j : Nat) :
    v.bytes profile p a i ++ v.bytes profile p (a + BitVec.ofNat 32 i) j =
      v.bytes profile p a (i + j) := by
  simp only [View.bytes, List.range_add, List.map_append, List.map_map]
  congr 1
  refine List.map_congr_left fun k _ => ?_
  simp only [Function.comp_apply, BitVec.ofNat_add, BitVec.add_assoc]

/-- Two reads, one after the other. -/
theorem Answers.append {i j : Nat} {xs ys : List U8} (hx : Answers T v p a i xs)
    (hy : Answers T v p (a + BitVec.ofNat 32 i) j ys) : Answers T v p a (i + j) (xs ++ ys) := by
  refine ⟨by rw [List.length_append, hx.1, hy.1], fun hT => ?_⟩
  rw [hx.2 fun k hk => hT k (by omega), hy.2 fun k hk => ?_, bytes_append]
  rw [BitVec.add_assoc, ← BitVec.ofNat_add]
  exact hT (i + k) (by omega)

/-- The read loop, by induction on its fuel: each turn moves at least one byte, so
the operand's length is fuel enough. -/
theorem kma_read_486_spec (hprof : env.profile = .p80486sx) (p : Provenance) (attributes : U32)
    (fuel : Nat) (a : U32) (remaining : Nat) (hfuel : remaining ≤ fuel) :
    Triple (Shows L T v) (kma_read_486 env p attributes fuel a remaining)
      (fun bytes c => Shows L T v c ∧ Answers T v p a remaining bytes) (Failed L T v) := by
  induction fuel generalizing a remaining with
  | zero =>
    obtain rfl : remaining = 0 := by omega
    exact Triple.of_pure fun c hc => ⟨hc, .of_eq rfl⟩
  | succ fuel ih =>
    unfold kma_read_486
    refine Triple.ite (fun h0 => Triple.of_pure fun c hc => ⟨hc, .of_eq (by rw [h0]; rfl)⟩)
      fun hpos => ?_
    obtain ⟨hoff, hle⟩ := line_part_le (v.resolve .p80486sx p a) remaining
    have hsome : 0 < line_part (v.resolve .p80486sx p a) remaining := by
      have := (cache_offset (v.resolve .p80486sx p a)).isLt
      unfold line_part
      omega
    refine Triple.bind (kma_read_part_spec hprof a remaining p attributes) fun data =>
      Triple.assume fun hdata => ?_
    generalize line_part (v.resolve .p80486sx p a) remaining = part at *
    rw [hdata.1]
    refine Triple.bind (ih (a + BitVec.ofNat 32 part) (remaining - part) (by omega)) fun rest =>
      Triple.of_pure fun c h => ⟨h.1, ?_⟩
    have hall := hdata.append h.2
    rwa [Nat.add_sub_cancel' hle] at hall

/-- A physical read of the 80486SX, wherever the cache is a copy of memory. -/
theorem kma_read_physical_answers (hprof : env.profile = .p80486sx) (a : U32) (n : Nat)
    (p : Provenance) (attributes : U32) :
    Triple (Shows L T v) (kma_read_physical env a n p attributes)
      (fun bytes c => Shows L T v c ∧ Answers T v p a n bytes) (Failed L T v) := by
  unfold kma_read_physical
  rw [hprof]
  exact kma_read_486_spec hprof p attributes n a n (Nat.le_refl n)

/-- **Cached reads are uncached reads.** On the 80486SX a read of `n` bytes returns
the bytes an uncached bus read would return, and leaves memory and the coherence of
the cache alone; it can only fail with the board. -/
theorem kma_read_physical_spec (hprof : env.profile = .p80486sx) (a : U32) (n : Nat)
    (p : Provenance) (attributes : U32)
    (hT : ∀ i < n, T (v.resolve .p80486sx p (a + BitVec.ofNat 32 i))) :
    Triple (Shows L T v) (kma_read_physical env a n p attributes)
      (fun bytes c => Shows L T v c ∧ bytes = v.bytes .p80486sx p a n) (Failed L T v) :=
  (kma_read_physical_answers hprof a n p attributes).weaken (fun _ _ h => ⟨h.1, h.2.2 hT⟩)
    fun _ _ h => h

end Reading

/-! ## Reading, whatever the cache holds

Without coherence nothing is known of the bytes; memory is still left alone, and only
the board can fail. -/

section AnyCache

/-- The board shows `v` before and after, and what fails is the board. -/
structure Harmless {α : Type} (L : ByteArrayBus env.bus) (x : Exec β α) : Prop where
  run : ∀ v, Triple (fun c => L.view c = v) x (fun _ c => L.view c = v)
    (fun e c => L.view c = v ∧ e.except = .ce)

variable {α γ : Type}

theorem Harmless.bind {x : Exec β α} {f : α → Exec β γ} (hx : Harmless L x)
    (hf : ∀ a, Harmless L (f a)) : Harmless L (x >>= f) :=
  ⟨fun v => Triple.bind (hx.run v) fun a => (hf a).run v⟩

theorem Harmless.of_pure (a : α) : Harmless L (pure a : Exec β α) :=
  ⟨fun _ => Triple.of_pure fun _ h => h⟩

theorem Harmless.of_query (f : Context β → α) : Harmless L (query f : Exec β α) :=
  ⟨fun _ => Triple.of_query fun _ h => h⟩

theorem Harmless.of_update {f : Context β → Context β} (h : ∀ c, (f c).bus = c.bus) :
    Harmless L (update f) :=
  ⟨fun v => Triple.of_update fun c hc => by rw [← hc, ByteArrayBus.view, ByteArrayBus.view, h]⟩

theorem Harmless.ite {p : Prop} [Decidable p] {x y : Exec β α} (hx : Harmless L x)
    (hy : Harmless L y) : Harmless L (if p then x else y) :=
  ⟨fun v => Triple.ite (fun _ => hx.run v) fun _ => hy.run v⟩

theorem kma_read_bus_harmless (a : U32) (n : Nat) (p : Provenance) (attributes : U32) :
    Harmless L (kma_read_bus env a n p attributes) :=
  ⟨fun _ => (kma_read_bus_view a n p attributes).weaken (fun _ _ h => h.1) fun _ _ h => h⟩

theorem query_cache_memory_harmless (a : U32) (kind : CacheQuery) (memory : CacheMemory) :
    Harmless L (query_cache_memory env a kind memory) := by
  refine ⟨?_⟩
  rintro v c rfl
  unfold query_cache_memory
  cases env.bus.query_cache_memory with
  | none => rfl
  | some q =>
    cases ha : q a kind c.bus with
    | none => simp [ha]
    | some answer => simp only [ha]

theorem put_line_harmless (set : BitVec 7) (way : BitVec 2) (line : CacheLine) :
    Harmless L (put_line set way line) := Harmless.of_update fun _ => rfl

theorem kma_cache_touch_harmless (set : BitVec 7) (way : BitVec 2) :
    Harmless L (kma_cache_touch set way) := Harmless.of_update fun _ => rfl

theorem kma_cache_report_harmless (set : BitVec 7) (way : BitVec 2) :
    Harmless L (kma_cache_report set way) := Harmless.of_update fun _ => rfl

theorem kma_fill_line_harmless (set : BitVec 7) (a : U32) (p : Provenance) (attributes : U32) :
    Harmless L (kma_fill_line env set a p attributes) := by
  refine (kma_read_bus_harmless ..).bind fun bytes => (Harmless.of_query _).bind fun way => ?_
  refine (put_line_harmless ..).bind fun _ => Harmless.bind ?_ fun _ => ?_
  · exact Harmless.of_update fun _ => rfl
  refine (kma_cache_touch_harmless ..).bind fun _ => ?_
  exact (kma_cache_report_harmless ..).bind fun _ => Harmless.of_pure _

theorem kma_read_part_harmless (a : U32) (remaining : Nat) (p : Provenance) (attributes : U32) :
    Harmless L (kma_read_part env a remaining p attributes) := by
  refine (query_cache_memory_harmless ..).bind fun memory => ?_
  refine (Harmless.of_query _).bind fun locked => Harmless.ite (kma_read_bus_harmless ..) ?_
  refine (Harmless.of_query _).bind fun way => ?_
  cases way with
  | some way =>
    refine (Harmless.of_query _).bind fun data => ?_
    refine (kma_cache_touch_harmless ..).bind fun _ => ?_
    refine Harmless.bind ?_ fun _ => Harmless.of_pure _
    exact Harmless.ite (kma_cache_report_harmless ..) (Harmless.of_pure _)
  | none =>
    refine (Harmless.of_query _).bind fun cpu => Harmless.bind ?_ fun probed => ?_
    · exact Harmless.ite (query_cache_memory_harmless ..) (Harmless.of_pure _)
    · refine Harmless.ite ?_ (kma_read_bus_harmless ..)
      exact (kma_fill_line_harmless ..).bind fun _ => Harmless.of_pure _

/-- A physical read leaves memory alone and can only fail with the board. -/
theorem kma_read_physical_harmless (a : U32) (n : Nat) (p : Provenance) (attributes : U32) :
    Harmless L (kma_read_physical env a n p attributes) := by
  have h486 : ∀ fuel a n, Harmless L (kma_read_486 env p attributes fuel a n) := by
    intro fuel
    induction fuel with
    | zero => exact fun _ _ => Harmless.of_pure _
    | succ fuel ih =>
      refine fun a n => Harmless.ite (Harmless.of_pure _) ((kma_read_part_harmless ..).bind ?_)
      exact fun data => (ih _ _).bind fun _ => Harmless.of_pure _
  have hv30 : ∀ fuel a n, Harmless L (kma_read_v30 env p attributes fuel a n) := by
    intro fuel
    induction fuel with
    | zero => exact fun _ _ => Harmless.of_pure _
    | succ fuel ih =>
      refine fun a n => Harmless.ite (Harmless.of_pure _) ((kma_read_bus_harmless ..).bind ?_)
      exact fun data => (ih _ _).bind fun _ => Harmless.of_pure _
  unfold kma_read_physical
  split
  · exact hv30 ..
  · exact h486 ..
  · exact kma_read_bus_harmless ..

end AnyCache

end Nxvm.Cpu
