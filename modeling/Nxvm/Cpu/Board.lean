/-
The board as a byte array, and what it means that the internal cache of the 80486SX
is a copy of it.

`ByteArrayBus` says what the memory callbacks of the bus do, including that they may
fail and that a failed write may have stored a prefix. `CoherentOn` is the invariant
of the cache: every valid line equals memory at its address, and no set holds a tag
twice. It is stated for a set `T` of addresses. With CR0.NW clear it holds for all
of them; with CR0.NW set, writes that hit a line stay in the line, and it holds for
whatever the program does not write. The second reading is what the page walk needs.
-/
import Nxvm.Cpu.Physical
import Nxvm.Lib.Bits

set_option autoImplicit false

namespace Nxvm.Cpu

open Nxvm.Lib Nxvm.Lib.Exec Nxvm.Lib.Memory Nxvm.Lib.Directory

variable {β : Type}

/-! ## Line addresses -/

/-- The address of byte `offset` of the line with this tag in this set. -/
def byte_address (tag : BitVec 21) (set : BitVec 7) (offset : BitVec 4) : U32 :=
  tag ++ set ++ offset

theorem byte_address_toNat (tag : BitVec 21) (set : BitVec 7) (offset : BitVec 4) :
    (byte_address tag set offset).toNat = tag.toNat * 2048 + set.toNat * 16 + offset.toNat := by
  have h₁ := set.isLt
  have h₂ := offset.isLt
  simp only [byte_address, BitVec.toNat_append]
  rw [← Nat.shiftLeft_add_eq_or_of_lt (by omega), ← Nat.shiftLeft_add_eq_or_of_lt (by omega)]
  simp only [Nat.shiftLeft_eq]
  omega

theorem line_address_eq (tag : BitVec 21) (set : BitVec 7) :
    line_address tag set = byte_address tag set 0 := rfl

theorem cache_tag_toNat (a : U32) : (cache_tag a).toNat = a.toNat / 2048 := by
  have := a.isLt
  simp only [cache_tag, BitVec.extractLsb'_toNat, Nat.shiftRight_eq_div_pow]
  omega

theorem cache_set_toNat (a : U32) : (cache_set a).toNat = a.toNat / 16 % 128 := by
  simp only [cache_set, BitVec.extractLsb'_toNat, Nat.shiftRight_eq_div_pow]

theorem cache_offset_toNat (a : U32) : (cache_offset a).toNat = a.toNat % 16 := by
  simp only [cache_offset, BitVec.extractLsb'_toNat, Nat.shiftRight_eq_div_pow]
  omega

/-- Tag, set and offset determine an address. -/
theorem byte_address_ext {a b : U32} (ht : cache_tag a = cache_tag b)
    (hs : cache_set a = cache_set b) (ho : cache_offset a = cache_offset b) : a = b := by
  have ht' := congrArg BitVec.toNat ht
  have hs' := congrArg BitVec.toNat hs
  have ho' := congrArg BitVec.toNat ho
  rw [cache_tag_toNat, cache_tag_toNat] at ht'
  rw [cache_set_toNat, cache_set_toNat] at hs'
  rw [cache_offset_toNat, cache_offset_toNat] at ho'
  refine BitVec.eq_of_toNat_eq ?_
  omega

@[simp] theorem cache_tag_byte_address (tag : BitVec 21) (set : BitVec 7) (offset : BitVec 4) :
    cache_tag (byte_address tag set offset) = tag := by
  have h₁ := set.isLt
  have h₂ := offset.isLt
  refine BitVec.eq_of_toNat_eq ?_
  rw [cache_tag_toNat, byte_address_toNat]
  omega

@[simp] theorem cache_set_byte_address (tag : BitVec 21) (set : BitVec 7) (offset : BitVec 4) :
    cache_set (byte_address tag set offset) = set := by
  have h₁ := set.isLt
  have h₂ := offset.isLt
  refine BitVec.eq_of_toNat_eq ?_
  rw [cache_set_toNat, byte_address_toNat]
  omega

@[simp] theorem cache_offset_byte_address (tag : BitVec 21) (set : BitVec 7) (offset : BitVec 4) :
    cache_offset (byte_address tag set offset) = offset := by
  have h₂ := offset.isLt
  refine BitVec.eq_of_toNat_eq ?_
  rw [cache_offset_toNat, byte_address_toNat]
  omega

theorem byte_address_self (a : U32) :
    byte_address (cache_tag a) (cache_set a) (cache_offset a) = a :=
  byte_address_ext (by simp) (by simp) (by simp)

/-- Moving inside a line moves the offset. -/
theorem byte_address_add {a : U32} {k : Nat} (h : (cache_offset a).toNat + k < 16) :
    a + BitVec.ofNat 32 k =
      byte_address (cache_tag a) (cache_set a) (cache_offset a + BitVec.ofNat 4 k) := by
  have ha := a.isLt
  have hoff : (cache_offset a + BitVec.ofNat 4 k).toNat = a.toNat % 16 + k := by
    rw [BitVec.toNat_add, BitVec.toNat_ofNat, cache_offset_toNat] at *
    omega
  refine BitVec.eq_of_toNat_eq ?_
  rw [byte_address_toNat, cache_tag_toNat, cache_set_toNat, hoff, BitVec.toNat_add,
    BitVec.toNat_ofNat]
  rw [cache_offset_toNat] at h
  omega

/-- The first address of a line. -/
theorem line_start (a : U32) : a &&& ~~~15 = byte_address (cache_tag a) (cache_set a) 0 := by
  have ha := a.isLt
  refine BitVec.eq_of_toNat_eq ?_
  rw [Bits.and_not_low_toNat a 15 4 rfl, byte_address_toNat, cache_tag_toNat, cache_set_toNat,
    show ((0 : BitVec 4)).toNat = 0 from rfl]
  omega

/-! ## The board as a byte array -/

/-- Byte `i` of `bs` stored at `f (a + i)`, one after another. -/
def store_through (f : U32 → U32) (m : Mem 32) (a : U32) : List U8 → Mem 32
  | [] => m
  | b :: bs => store_through f (store m (f a) [b]) (a + 1) bs

/-- Address decoding that treats a line as a whole: the offset in the line stays,
the rest of the line follows its first byte, and a decoded address stays where it
is. A20 masking is the decoding the board has. -/
structure Decoding where
  decode : U32 → U32
  offset : ∀ a, cache_offset (decode a) = cache_offset a
  line : ∀ a k, (cache_offset a).toNat + k < 16 →
    decode (a + BitVec.ofNat 32 k) = decode a + BitVec.ofNat 32 k
  twice : ∀ a, decode (decode a) = decode a

/-- What it means that the memory callbacks behave as a byte array: `mem` is the
array, `decoding` the board's live address decoding. Reads and writes decode every
byte; a reset fetch is not decoded; a failed write may have stored a prefix.
Without the query callback, addresses are not decoded at all. -/
structure ByteArrayBus (bus : BusProvider β) where
  mem : β → Mem 32
  decoding : β → Decoding
  read_mem : ∀ a n p r cc b, mem (bus.read_memory a n p r cc b).2 = mem b
  read_decode : ∀ a n p r cc b, decoding (bus.read_memory a n p r cc b).2 = decoding b
  read_bytes : ∀ a n p r cc b data, (bus.read_memory a n p r cc b).1 = some data →
    ∀ i < n, data i = mem b (if r then a + BitVec.ofNat 32 i
      else (decoding b).decode (a + BitVec.ofNat 32 i))
  write_decode : ∀ a data p cc b, decoding (bus.write_memory a data p cc b).2 = decoding b
  write_mem : ∀ a data p cc b, (bus.write_memory a data p cc b).1 = true →
    mem (bus.write_memory a data p cc b).2 = store_through (decoding b).decode (mem b) a data
  write_prefix : ∀ a data p cc b, ∃ k ≤ data.length,
    mem (bus.write_memory a data p cc b).2 =
      store_through (decoding b).decode (mem b) a (data.take k)
  query_address : ∀ q, bus.query_cache_memory = some q → ∀ a kind b answer,
    q a kind b = some answer →
    answer.address = if kind = .reset_lookup then a else (decoding b).decode a
  query_absent : bus.query_cache_memory = none → ∀ b a, (decoding b).decode a = a
  begin_mem : ∀ f, bus.begin_memory_lock = some f → ∀ b, mem (f b).2 = mem b
  begin_decode : ∀ f, bus.begin_memory_lock = some f → ∀ b, decoding (f b).2 = decoding b
  complete_mem : ∀ f, bus.complete_memory_lock = some f → ∀ commit b, mem (f commit b) = mem b
  complete_decode : ∀ f, bus.complete_memory_lock = some f →
    ∀ commit b, decoding (f commit b) = decoding b

/-- A byte array and the way it is addressed: all a program can tell of the board. -/
structure View where
  mem : Mem 32
  decoding : Decoding

variable {env : Env β}

/-- What the board shows now. -/
def ByteArrayBus.view (L : ByteArrayBus env.bus) (c : Context β) : View :=
  ⟨L.mem c.bus, L.decoding c.bus⟩

/-- The address an access by `provenance` to `a` reaches. -/
def View.resolve (v : View) (profile : Profile) (provenance : Provenance) (a : U32) : U32 :=
  if kma_is_reset_vector_fetch profile a 1 provenance then a else v.decoding.decode a

/-- The byte an uncached bus read of `a` by `provenance` returns. -/
def View.byte (v : View) (profile : Profile) (provenance : Provenance) (a : U32) : U8 :=
  v.mem (v.resolve profile provenance a)

/-- If one byte of a line is decoded to itself, all of them are. -/
theorem Decoding.line_fixed (d : Decoding) {r : U32} (h : d.decode r = r) (k : BitVec 4) :
    d.decode (byte_address (cache_tag r) (cache_set r) k) =
      byte_address (cache_tag r) (cache_set r) k := by
  have hstart : ∀ j : BitVec 4, byte_address (cache_tag r) (cache_set r) j =
      byte_address (cache_tag r) (cache_set r) 0 + BitVec.ofNat 32 j.toNat := by
    intro j
    rw [byte_address_add (by simpa using j.isLt)]
    simp
  have hline : ∀ j : BitVec 4, d.decode (byte_address (cache_tag r) (cache_set r) j) =
      d.decode (byte_address (cache_tag r) (cache_set r) 0) + BitVec.ofNat 32 j.toNat := by
    intro j
    rw [hstart j, d.line _ _ (by simpa using j.isLt)]
  have hzero : d.decode (byte_address (cache_tag r) (cache_set r) 0) =
      byte_address (cache_tag r) (cache_set r) 0 := by
    have hr := hline (cache_offset r)
    rw [byte_address_self, h] at hr
    have hs := hstart (cache_offset r)
    rw [byte_address_self] at hs
    exact (BitVec.add_left_inj _).mp (hr.symm.trans hs)
  rw [hline k, hzero, ← hstart k]

/-! ## The invariant -/

/-- The cache agrees with the byte array on the addresses in `T`, and finds every
line in one way only. -/
structure CoherentOn (T : U32 → Prop) (mem : Mem 32) (cache : BitVec 7 → BitVec 2 → CacheLine) :
    Prop where
  unique : Unique line_scheme cache
  agree : AllValid line_scheme
    (fun set line => ∀ k, T (byte_address line.tag set k) →
      line.data k = mem (byte_address line.tag set k)) cache

/-- The board shows `v`, and the cache is a copy of it on `T`. -/
structure Shows (L : ByteArrayBus env.bus) (T : U32 → Prop) (v : View) (c : Context β) : Prop where
  view : L.view c = v
  coherent : CoherentOn T v.mem c.cache

/-- An ending that is a provider failure and nothing else. -/
def Failed (L : ByteArrayBus env.bus) (T : U32 → Prop) (v : View) (e : Fault) (c : Context β) :
    Prop :=
  Shows L T v c ∧ e.except = .ce

theorem CoherentOn.drops {T : U32 → Prop} {mem : Mem 32}
    {cache cache' : BitVec 7 → BitVec 2 → CacheLine} (h : CoherentOn T mem cache)
    (hd : Drops line_scheme cache cache') : CoherentOn T mem cache' :=
  ⟨h.unique.drops hd, h.agree.drops hd⟩

/-- A change of memory that lines on `T` do not see. -/
theorem CoherentOn.of_eq_on {T : U32 → Prop} {mem mem' : Mem 32}
    {cache : BitVec 7 → BitVec 2 → CacheLine} (h : CoherentOn T mem cache)
    (hm : ∀ set way, (cache set way).valid = true → ∀ k,
      T (byte_address (cache set way).tag set k) →
      mem' (byte_address (cache set way).tag set k) =
        mem (byte_address (cache set way).tag set k)) : CoherentOn T mem' cache :=
  ⟨h.unique, fun set way hv k hT => (h.agree set way hv k hT).trans (hm set way hv k hT).symm⟩

variable {L : ByteArrayBus env.bus} {T : U32 → Prop} {v : View}

/-- Only the cache and the board matter. -/
theorem Shows.of_same {c c' : Context β} (h : Shows L T v c) (hb : c'.bus = c.bus)
    (hc : c'.cache = c.cache) : Shows L T v c' := by
  obtain ⟨hv, hco⟩ := h
  refine ⟨?_, by rw [hc]; exact hco⟩
  rw [← hv, ByteArrayBus.view, ByteArrayBus.view, hb]

end Nxvm.Cpu
