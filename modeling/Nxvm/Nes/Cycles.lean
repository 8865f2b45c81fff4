/-
An instruction is charged the transfers it makes.

The cycle count of a case is a number of its own, apart from the transfers the case
makes. For each way of addressing and each form of case the two agree: a case is
charged its transfers and the fetch of its opcode. The implied forms are charged two
cycles and make no transfer; the end of the step makes the one they lack, and tells
them from the immediate forms by the trace.
-/
import Nxvm.Nes.Bus
import Nxvm.Nes.Cpu

set_option autoImplicit false

namespace Nxvm.Nes

open Nxvm.Lib Nxvm.Lib.Exec
open Nxvm.Machine (Status)

/-! ## The processor's transfers -/

/-- `x` makes `n` transfers whenever it ends well. -/
abbrev Clocked {α : Type} (n : ℕ) (x : NesM α) : Prop := Takes transfers n not_ok x

/-- `f` is no transfer and counts nothing. -/
def Quiet (f : Console → Console) : Prop :=
  ∀ m, (f m).slots = m.slots ∧ (f m).trace_count = m.trace_count ∧ (f m).cycles = m.cycles

theorem update_clocked {f : Console → Console} (h : Quiet f) : Clocked 0 (update f) :=
  .of_update fun m => ⟨by rw [(h m).1]; simp, (h m).2.1, (h m).2.2⟩

theorem trap_unsupported_ok {α : Type} {address : U16} {r : Except Status α} {a : α}
    {m m' : Console} (h : trap_unsupported address r m = .ok a m') : r = .ok a ∧ m' = m := by
  cases r with
  | ok b =>
    cases h
    exact ⟨rfl, rfl⟩
  | error s =>
    obtain ⟨u, m₁, -, hfail⟩ := bind_eq_ok.mp h
    cases hfail

theorem trap_unsupported_error {α : Type} {address : U16} {r : Except Status α} {e : Stop}
    {m m' : Console} (h : trap_unsupported address r m = .error e m') :
    ∃ s, r = .error s ∧ e = .status s ∧ (s = .unsupported → m'.trap.trap_valid) := by
  cases r with
  | ok b => cases h
  | error s =>
    refine ⟨s, rfl, ?_⟩
    unfold trap_unsupported at h
    by_cases hs : s = .unsupported
    · subst hs
      cases h
      exact ⟨rfl, fun _ => rfl⟩
    · have hcode : ¬ code (.error s : Except Status α) = .unsupported := hs
      rw [perform_if, if_neg hcode] at h
      cases h
      exact ⟨rfl, fun hs' => absurd hs' hs⟩

theorem trapped_clocked {α : Type} {x : NesM α} {n : ℕ} (hx : Clocked n x) (address : U16) :
    Clocked n (status_of x >>= trap_unsupported address) := by
  refine ⟨fun h => ?_, fun h => ?_⟩
  · obtain ⟨r, m₁, hr, htrap⟩ := bind_eq_ok.mp h
    obtain ⟨rfl, rfl⟩ := trap_unsupported_ok htrap
    rcases status_of_eq_ok.mp hr with ⟨a, ha, hxa⟩ | ⟨s, hs, -⟩
    · cases ha
      exact hx.ok hxa
    · cases hs
  · rcases bind_eq_error.mp h with hr | ⟨r, m₁, hr, htrap⟩
    · exact hx.error (status_of_eq_error hr).1
    · obtain ⟨s, rfl, rfl, -⟩ := trap_unsupported_error htrap
      rcases status_of_eq_ok.mp hr with ⟨a, ha, -⟩ | ⟨s', hs', hxs⟩
      · cases ha
      · cases hs'
        exact hx.error hxs

/-- What a status of success says of the transfers behind it. -/
theorem status_of_clocked {α : Type} {n : ℕ} {x : NesM α} (hx : Clocked n x)
    {r : Except Status α} {m m' : Console} (h : status_of x m = .ok r m') (hr : code r = .ok) :
    ∃ a, r = .ok a ∧ transfers.after n m m' := by
  rcases status_of_eq_ok.mp h with ⟨a, rfl, hxa⟩ | ⟨s, rfl, hxs⟩
  · exact ⟨a, rfl, hx.after hxa⟩
  · have hs : s = .ok := hr
    rw [hs] at hxs
    exact absurd rfl (hx.error hxs)

theorem cpu_read_clocked (address : U16) : Clocked 1 (core_cpu_read address) :=
  trapped_clocked (bus_read_takes address) address

theorem cpu_write_clocked (address : U16) (value : U8) : Clocked 1 (core_cpu_write address value) :=
  trapped_clocked (bus_write_takes address value) address

/-! ## Addressing -/

theorem fetch_clocked : Clocked 1 core_cpu_fetch := by
  unfold core_cpu_fetch
  exact .bind .of_get (fun m => .bind (cpu_read_clocked _) (fun _ => .bind (update_clocked
    fun _ => ⟨rfl, rfl, rfl⟩) (fun _ => .of_pure _) rfl) rfl) rfl

theorem fetch_word_clocked : Clocked 2 core_cpu_fetch_word := by
  unfold core_cpu_fetch_word
  exact .bind fetch_clocked (fun _ => .bind fetch_clocked (fun _ => .of_pure _) rfl) rfl

theorem uncorrected_read_spends (base : U16) (index : U8) (always : Bool) :
    Spends transfers (fun e k => k = if e.crossed ∨ always then 1 else 0) not_ok
      (uncorrected_read base index always) := by
  unfold uncorrected_read
  refine Spends.bind (Takes.of_perform_if (n := 1)
      (.bind (cpu_read_clocked _) (fun _ => .of_pure _) rfl))
    (S := fun _ e k => e.crossed =
      (base &&& 0xff00 != (base + index.zeroExtend 16) &&& 0xff00) ∧ k = 0)
    (fun _ => .of_pure ⟨rfl, rfl⟩) ?_
  rintro - e i j hi ⟨he, rfl⟩
  rw [he]
  exact hi

/-- A way of addressing that makes `n` transfers, and one more when a page is crossed. -/
abbrev Reaches (n : ℕ) (mode : NesM Effective) : Prop :=
  Spends transfers (fun e k => k = n + if e.crossed then 1 else 0) not_ok mode

theorem Reaches.after {α : Type} {x : NesM α} {f : α → NesM Effective} {i j n : ℕ}
    (hx : Clocked i x) (hf : ∀ a, Reaches j (f a)) (h : i + j = n) : Reaches n (x >>= f) :=
  Spends.bind hx hf fun _ _ _ _ hi hj => by rw [hi, hj, ← h, Nat.add_assoc]

theorem plain_reaches (address : U16) : Reaches 0 (pure (plain address)) := .of_pure rfl

theorem uncorrected_read_reaches (base : U16) (index : U8) :
    Reaches 0 (uncorrected_read base index false) :=
  (uncorrected_read_spends base index false).weaken fun e k hk => by simpa using hk

theorem uncorrected_read_clocked (base : U16) (index : U8) :
    Clocked 1 (uncorrected_read base index true) :=
  (uncorrected_read_spends base index true).weaken fun e k hk => by simpa using hk

theorem zero_page_word_clocked (pointer : U8) : Clocked 2 (zero_page_word pointer) :=
  .bind (cpu_read_clocked _) (fun _ => .bind (cpu_read_clocked _) (fun _ => .of_pure _) rfl) rfl

theorem zero_page_indexed_address_clocked (base index : U8) :
    Clocked 1 (core_cpu_zero_page_indexed_address base index) :=
  .bind (cpu_read_clocked _) (fun _ => .of_pure _) rfl

theorem indirect_x_address_clocked : Clocked 4 core_cpu_indirect_x_address :=
  .bind fetch_clocked (fun _ => .bind (cpu_read_clocked _) (fun _ => .bind .of_get
    (fun _ => zero_page_word_clocked _) rfl) rfl) rfl

theorem zero_page_reaches : Reaches 1 zero_page :=
  .after fetch_clocked (fun _ => plain_reaches _) rfl

theorem zero_page_indexed_reaches (index : Console → U8) :
    Reaches 2 (zero_page_indexed index) :=
  .after fetch_clocked (fun _ => .after .of_get (fun _ => .after
    (zero_page_indexed_address_clocked _ _) (fun _ => plain_reaches _) rfl) rfl) rfl

theorem absolute_reaches : Reaches 2 absolute :=
  .after fetch_word_clocked (fun _ => plain_reaches _) rfl

theorem absolute_indexed_reaches (index : Console → U8) :
    Reaches 2 (absolute_indexed index false) :=
  .after .of_get (fun _ => .after fetch_word_clocked (fun _ => uncorrected_read_reaches _ _)
    rfl) rfl

theorem indirect_x_reaches : Reaches 4 indirect_x :=
  .after indirect_x_address_clocked (fun _ => plain_reaches _) rfl

theorem indirect_y_reaches : Reaches 3 (core_cpu_indirect_y_address false) :=
  .after fetch_clocked (fun _ => .after (zero_page_word_clocked _) (fun _ => .after .of_get
    (fun _ => uncorrected_read_reaches _ _) rfl) rfl) rfl

/-- A way of addressing that corrects no page makes the same transfers each time. -/
theorem zero_page_clocked : Clocked 1 zero_page :=
  .bind fetch_clocked (fun _ => .of_pure _) rfl

theorem zero_page_indexed_clocked (index : Console → U8) :
    Clocked 2 (zero_page_indexed index) :=
  .bind fetch_clocked (fun _ => .bind .of_get (fun _ => .bind
    (zero_page_indexed_address_clocked _ _) (fun _ => .of_pure _) rfl) rfl) rfl

theorem absolute_clocked : Clocked 2 absolute :=
  .bind fetch_word_clocked (fun _ => .of_pure _) rfl

theorem absolute_indexed_clocked (index : Console → U8) :
    Clocked 3 (absolute_indexed index true) :=
  .bind .of_get (fun _ => .bind fetch_word_clocked (fun _ => uncorrected_read_clocked _ _)
    rfl) rfl

theorem indirect_x_clocked : Clocked 4 indirect_x :=
  .bind indirect_x_address_clocked (fun _ => .of_pure _) rfl

theorem indirect_y_clocked : Clocked 4 (core_cpu_indirect_y_address true) :=
  .bind fetch_clocked (fun _ => .bind (zero_page_word_clocked _) (fun _ => .bind .of_get
    (fun _ => uncorrected_read_clocked _ _) rfl) rfl) rfl

/-! ## Forms -/

/-- A case is charged its transfers and the fetch of its opcode; a case without transfers is
charged two cycles, the second of which the end of the step makes good. -/
def Charged (o : Outcome) (k : ℕ) : Prop := o.cycles.toNat = k + 1 ∨ k = 0 ∧ o.cycles = 2

/-- A case of the switch, or what is left of it after `made` transfers: its charge is that of
an instruction, is exact when the case ends well, and no status gets past it. -/
structure Exact (made : ℕ) (x : NesM Outcome) : Prop where
  bound : ∀ {m o m'}, x m = .ok o m' → 1 ≤ o.cycles.toNat ∧ o.cycles.toNat ≤ 7
  charged : ∀ {m o m'}, x m = .ok o m' → o.status = .ok →
    ∃ k, Charged o (made + k) ∧ transfers.after k m m'
  caught : ∀ {m s m'}, x m ≠ .error (.status s) m'

namespace Exact

variable {made : ℕ}

theorem ite {c : Prop} [Decidable c] {x y : NesM Outcome} (hx : Exact made x)
    (hy : Exact made y) : Exact made (if c then x else y) := by
  by_cases hc : c
  · rw [if_pos hc]; exact hx
  · rw [if_neg hc]; exact hy

theorem bind_get {f : Console → NesM Outcome} (hf : ∀ m, Exact made (f m)) :
    Exact made (get >>= f) :=
  ⟨fun {m} => (hf m).bound, fun {m} => (hf m).charged, fun {m} => (hf m).caught⟩

theorem of_pure {cycles : U32} (h : cycles.toNat = made + 1) (hmade : made ≤ 6) :
    Exact made (pure ⟨.ok, cycles⟩) := by
  refine ⟨fun hok => ?_, fun hok _ => ?_, fun herr => by cases herr⟩
  · cases hok
    show 1 ≤ cycles.toNat ∧ cycles.toNat ≤ 7
    omega
  · cases hok
    exact ⟨0, Or.inl h, transfers.refl _⟩

/-- What is done after a case whatever its status. -/
theorem then_update {x : NesM Outcome} (hx : Exact made x) {f : Console → Console}
    (hf : Quiet f) :
    Exact made (do
      let outcome ← x
      update f
      pure outcome) := by
  refine ⟨fun hok => ?_, fun hok hstatus => ?_, fun herr => ?_⟩
  · obtain ⟨o, m₁, hxo, hrest⟩ := bind_eq_ok.mp hok
    cases hrest
    exact hx.bound hxo
  · obtain ⟨o, m₁, hxo, hrest⟩ := bind_eq_ok.mp hok
    cases hrest
    obtain ⟨k, hk, hafter⟩ := hx.charged hxo hstatus
    exact ⟨k, hk, transfers.trans hafter ((update_clocked hf).after (update_run f m₁))⟩
  · rcases bind_eq_error.mp herr with hxe | ⟨o, m₁, -, hrest⟩
    · exact hx.caught hxe
    · cases hrest

/-- A case that looks at a status: it is over when the status is a failure, and goes on after
the transfers made when it is not. -/
theorem of_status_of {α : Type} {R : α → ℕ → Prop} {x : NesM α} (hx : Spends transfers R not_ok x)
    {f : Except Status α → NesM Outcome} {cycles : U32} (hlo : 1 ≤ cycles.toNat)
    (hhi : cycles.toNat ≤ 7) (herror : ∀ s, f (.error s) = pure ⟨s, cycles⟩)
    (hok : ∀ a n, R a n → Exact (made + n) (f (.ok a))) :
    Exact made (status_of x >>= f) := by
  have herr : ∀ {m s m'}, x m = .error (.status s) m' → s ≠ .ok := by
    intro m s m' h hs
    exact hx.error h (by rw [hs])
  refine ⟨fun h => ?_, fun h hstatus => ?_, fun h => ?_⟩
  · obtain ⟨r, m₁, hr, hf⟩ := bind_eq_ok.mp h
    rcases status_of_eq_ok.mp hr with ⟨a, rfl, hxa⟩ | ⟨s, rfl, -⟩
    · obtain ⟨n, hn, -⟩ := hx.ok hxa
      exact (hok a n hn).bound hf
    · rw [herror] at hf
      cases hf
      exact ⟨hlo, hhi⟩
  · obtain ⟨r, m₁, hr, hf⟩ := bind_eq_ok.mp h
    rcases status_of_eq_ok.mp hr with ⟨a, rfl, hxa⟩ | ⟨s, rfl, hxs⟩
    · obtain ⟨n, hn, hafter⟩ := hx.ok hxa
      obtain ⟨k, hk, hafter'⟩ := (hok a n hn).charged hf hstatus
      exact ⟨n + k, by rwa [← Nat.add_assoc], transfers.trans hafter hafter'⟩
    · rw [herror] at hf
      cases hf
      exact absurd hstatus (herr hxs)
  · rcases bind_eq_error.mp h with hr | ⟨r, m₁, hr, hf⟩
    · exact (status_of_eq_error hr).2 _ rfl
    · rcases status_of_eq_ok.mp hr with ⟨a, rfl, hxa⟩ | ⟨s, rfl, -⟩
      · obtain ⟨n, hn, -⟩ := hx.ok hxa
        exact (hok a n hn).caught hf
      · rw [herror] at hf
        cases hf

theorem of_counted {n : ℕ} {x : NesM Unit} (hx : Clocked n x) {cycles : U32}
    (h : cycles.toNat = made + n + 1) (hn : made + n ≤ 6) : Exact made (counted cycles x) := by
  have hbound : 1 ≤ cycles.toNat ∧ cycles.toNat ≤ 7 := by omega
  refine of_status_of hx hbound.1 hbound.2 (fun _ => rfl) ?_
  rintro a k rfl
  exact of_pure h hn

end Exact

theorem implied_exact {f : Console → Console} (hf : Quiet f) : Exact 0 (implied f) := by
  refine ⟨fun hok => ?_, fun hok _ => ?_, fun herr => by cases herr⟩
  · cases hok
    exact ⟨by decide, by decide⟩
  · cases hok
    exact ⟨0, Or.inr ⟨rfl, rfl⟩, (update_clocked hf).after (update_run f _)⟩

theorem immediate_exact {f : U8 → Console → Console} (hf : ∀ v, Quiet (f v)) :
    Exact 0 (immediate f) :=
  .of_counted (n := 1) (.bind fetch_clocked (fun v => update_clocked (hf v)) rfl) rfl (by decide)

theorem read_form_exact {n : ℕ} {mode : NesM Effective} (hmode : Reaches n mode) {cycles : U32}
    (h : cycles.toNat = n + 2) (hn : n ≤ 4) {f : U8 → Console → Console}
    (hf : ∀ v, Quiet (f v)) : Exact 0 (read_form mode cycles f) := by
  refine .of_status_of hmode (by omega) (by omega) (fun _ => rfl) ?_
  rintro e k rfl
  refine .of_counted (n := 1) (.bind (cpu_read_clocked _) (fun v => update_clocked (hf v)) rfl)
    ?_ ?_
  · cases e.crossed with
    | true => simp only [if_true]; bv_omega
    | false => simp only [Bool.false_eq_true, if_false]; bv_omega
  · split <;> omega

theorem load_form_exact {form : (U8 → Console → Console) → NesM Outcome}
    {store : U8 → Console → Console} {register : Console → U8} (h : Exact 0 (form store)) :
    Exact 0 (load_form form store register) :=
  .then_update h fun _ => ⟨rfl, rfl, rfl⟩

theorem write_form_exact {n : ℕ} {mode : NesM Effective} (hmode : Clocked n mode) {cycles : U32}
    (h : cycles.toNat = n + 2) (hn : n ≤ 4) (register : Console → U8) :
    Exact 0 (write_form mode cycles register) :=
  .of_counted (n := n + 1) (.bind hmode (fun _ => .bind .of_get (fun _ => cpu_write_clocked _ _)
    rfl) rfl) (by omega) (by omega)

theorem modify_form_exact {n : ℕ} {mode : NesM Effective} (hmode : Clocked n mode)
    {cycles : U32} (h : cycles.toNat = n + 4) (hn : n ≤ 3) {f : U8 → Console → U8 × Console}
    (hf : ∀ v, Quiet fun m => (f v m).2) : Exact 0 (modify_form mode cycles f) := by
  refine .of_counted (n := n + 3) ?_ (by omega) (by omega)
  refine .bind (j := 3) hmode (fun _ => ?_) rfl
  refine .bind (j := 2) (cpu_read_clocked _) (fun v => ?_) rfl
  refine .bind (j := 2) .of_get (fun m => ?_) rfl
  refine .bind (j := 2) (update_clocked (hf v)) (fun _ => ?_) rfl
  refine .bind (j := 1) (cpu_write_clocked _ _) (fun _ => ?_) rfl
  refine .bind (j := 0) (cpu_write_clocked _ _) (fun _ => ?_) rfl
  exact update_clocked fun _ => ⟨rfl, rfl, rfl⟩

/-! ## Cases -/

section Cases

variable {f : U8 → Console → Console}

/-- The forms that read their operand, each with the cycles its cases give it. -/
theorem zero_page_read_exact (hf : ∀ v, Quiet (f v)) : Exact 0 (read_form zero_page 3 f) :=
  read_form_exact zero_page_reaches rfl (by decide) hf

theorem zero_page_indexed_read_exact (index : Console → U8) (hf : ∀ v, Quiet (f v)) :
    Exact 0 (read_form (zero_page_indexed index) 4 f) :=
  read_form_exact (zero_page_indexed_reaches index) rfl (by decide) hf

theorem absolute_read_exact (hf : ∀ v, Quiet (f v)) : Exact 0 (read_form absolute 4 f) :=
  read_form_exact absolute_reaches rfl (by decide) hf

theorem absolute_indexed_read_exact (index : Console → U8) (hf : ∀ v, Quiet (f v)) :
    Exact 0 (read_form (absolute_indexed index false) 4 f) :=
  read_form_exact (absolute_indexed_reaches index) rfl (by decide) hf

theorem indirect_x_read_exact (hf : ∀ v, Quiet (f v)) : Exact 0 (read_form indirect_x 6 f) :=
  read_form_exact indirect_x_reaches rfl (by decide) hf

theorem indirect_y_read_exact (hf : ∀ v, Quiet (f v)) :
    Exact 0 (read_form (core_cpu_indirect_y_address false) 5 f) :=
  read_form_exact indirect_y_reaches rfl (by decide) hf

end Cases

theorem case_bit_exact (opcode : U8) : Exact 0 (case_bit opcode) :=
  .ite (zero_page_read_exact fun _ _ => ⟨rfl, rfl, rfl⟩)
    (absolute_read_exact fun _ _ => ⟨rfl, rfl, rfl⟩)

theorem case_add_exact (opcode : U8) : Exact 0 (case_add opcode) :=
  .ite (zero_page_read_exact fun _ _ => ⟨rfl, rfl, rfl⟩)
    (absolute_read_exact fun _ _ => ⟨rfl, rfl, rfl⟩)

theorem case_add_indexed_exact (opcode : U8) : Exact 0 (case_add_indexed opcode) :=
  .ite (zero_page_indexed_read_exact _ fun _ _ => ⟨rfl, rfl, rfl⟩)
    (.ite (absolute_indexed_read_exact _ fun _ _ => ⟨rfl, rfl, rfl⟩)
    (.ite (absolute_indexed_read_exact _ fun _ _ => ⟨rfl, rfl, rfl⟩)
    (.ite (indirect_x_read_exact fun _ _ => ⟨rfl, rfl, rfl⟩)
      (indirect_y_read_exact fun _ _ => ⟨rfl, rfl, rfl⟩))))

/-- The three operations an opcode chooses between. -/
theorem logic_quiet (c d : Prop) [Decidable c] [Decidable d] (v : U8) :
    Quiet ((if c then ora else if d then and_a else eor) v) := by
  intro m
  split
  · exact ⟨rfl, rfl, rfl⟩
  split
  · exact ⟨rfl, rfl, rfl⟩
  · exact ⟨rfl, rfl, rfl⟩

theorem case_logic_exact (opcode : U8) : Exact 0 (case_logic opcode) :=
  .ite (zero_page_read_exact (logic_quiet _ _)) (absolute_read_exact (logic_quiet _ _))

theorem case_logic_indexed_exact (opcode : U8) : Exact 0 (case_logic_indexed opcode) :=
  .ite (zero_page_indexed_read_exact _ (logic_quiet _ _))
    (.ite (absolute_indexed_read_exact _ (logic_quiet _ _))
      (absolute_indexed_read_exact _ (logic_quiet _ _)))

theorem case_logic_indirect_exact (opcode : U8) : Exact 0 (case_logic_indirect opcode) :=
  .ite (indirect_x_read_exact (logic_quiet _ _)) (indirect_y_read_exact (logic_quiet _ _))

theorem case_compare_exact (opcode : U8) : Exact 0 (case_compare opcode) :=
  .bind_get fun _ => .ite (zero_page_read_exact fun _ _ => ⟨rfl, rfl, rfl⟩)
    (absolute_read_exact fun _ _ => ⟨rfl, rfl, rfl⟩)

theorem case_compare_indexed_exact (opcode : U8) : Exact 0 (case_compare_indexed opcode) :=
  .ite (zero_page_indexed_read_exact _ fun _ _ => ⟨rfl, rfl, rfl⟩)
    (.ite (absolute_indexed_read_exact _ fun _ _ => ⟨rfl, rfl, rfl⟩)
    (.ite (absolute_indexed_read_exact _ fun _ _ => ⟨rfl, rfl, rfl⟩)
    (.ite (indirect_x_read_exact fun _ _ => ⟨rfl, rfl, rfl⟩)
      (indirect_y_read_exact fun _ _ => ⟨rfl, rfl, rfl⟩))))

theorem shift_quiet (rotate right : Bool) (v : U8) :
    Quiet fun m => (shift rotate right v m).2 := by
  intro m
  cases right with
  | true => exact ⟨rfl, rfl, rfl⟩
  | false => exact ⟨rfl, rfl, rfl⟩

theorem case_shift_exact (opcode : U8) : Exact 0 (case_shift opcode) :=
  .ite (.ite (modify_form_exact (zero_page_indexed_clocked _) rfl (by decide) (shift_quiet _ _))
      (modify_form_exact zero_page_clocked rfl (by decide) (shift_quiet _ _)))
    (.ite (modify_form_exact (absolute_indexed_clocked _) rfl (by decide) (shift_quiet _ _))
      (modify_form_exact absolute_clocked rfl (by decide) (shift_quiet _ _)))

theorem count_quiet (decrement : Bool) (v : U8) : Quiet fun m => (count_by decrement v m).2 :=
  fun _ => ⟨rfl, rfl, rfl⟩

theorem case_count_exact (opcode : U8) : Exact 0 (case_count opcode) :=
  .ite (modify_form_exact (zero_page_indexed_clocked _) rfl (by decide) (count_quiet _))
    (modify_form_exact zero_page_clocked rfl (by decide) (count_quiet _))

theorem case_count_absolute_exact (opcode : U8) : Exact 0 (case_count_absolute opcode) :=
  .ite (modify_form_exact (absolute_indexed_clocked _) rfl (by decide) (count_quiet _))
    (modify_form_exact absolute_clocked rfl (by decide) (count_quiet _))

/-- After the operand and the opcode, a taken branch makes one transfer, or two. -/
theorem branch_to_exact (operand : U8) : Exact 1 (branch_to operand) := by
  refine .bind_get fun m => ?_
  refine .of_status_of (cpu_read_clocked _) (by decide) (by decide)
    (fun _ => rfl) ?_
  rintro a n rfl
  refine .ite ?_ ?_
  · refine .of_counted (n := 1) ?_ rfl (by decide)
    exact .bind (cpu_read_clocked _) (fun _ => update_clocked fun _ => ⟨rfl, rfl, rfl⟩) rfl
  · refine .of_counted (n := 0) ?_ rfl (by decide)
    exact update_clocked fun _ => ⟨rfl, rfl, rfl⟩

theorem case_branch_exact (opcode : U8) : Exact 0 (case_branch opcode) := by
  refine .of_status_of fetch_clocked (by decide) (by decide) (fun _ => rfl) ?_
  rintro operand n rfl
  exact .bind_get fun m => .ite (branch_to_exact operand) (.of_pure rfl (by decide))

theorem case_jmp_exact : Exact 0 case_jmp := by
  refine .of_counted (n := 2) ?_ rfl (by decide)
  exact .bind fetch_word_clocked (fun _ => update_clocked fun _ => ⟨rfl, rfl, rfl⟩) rfl

theorem case_jmp_indirect_exact : Exact 0 case_jmp_indirect := by
  refine .of_counted (n := 4) ?_ rfl (by decide)
  refine .bind (j := 2) fetch_word_clocked (fun _ => ?_) rfl
  refine .bind (j := 1) (cpu_read_clocked _) (fun _ => ?_) rfl
  refine .bind (j := 0) (cpu_read_clocked _) (fun _ => ?_) rfl
  exact update_clocked fun _ => ⟨rfl, rfl, rfl⟩

theorem push_clocked (value : U8) : Clocked 1 (core_cpu_push value) :=
  .bind .of_get (fun _ => .bind (cpu_write_clocked _ _) (fun _ => update_clocked
    fun _ => ⟨rfl, rfl, rfl⟩) rfl) rfl

theorem stack_read_clocked : Clocked 1 stack_read :=
  .bind .of_get (fun _ => cpu_read_clocked _) rfl

theorem pop_clocked : Clocked 1 core_cpu_pop :=
  .bind (update_clocked fun _ => ⟨rfl, rfl, rfl⟩) (fun _ => stack_read_clocked) rfl

theorem push_pc_clocked : Clocked 2 push_pc :=
  .bind .of_get (fun _ => .bind (push_clocked _) (fun _ => push_clocked _) rfl) rfl

theorem discarded_read_clocked : Clocked 1 discarded_read :=
  .bind .of_get (fun _ => .bind (cpu_read_clocked _) (fun _ => .of_pure _) rfl) rfl

theorem case_jsr_exact : Exact 0 case_jsr := by
  refine .of_counted (n := 5) ?_ rfl (by decide)
  refine .bind (j := 4) fetch_clocked (fun _ => ?_) rfl
  refine .bind (j := 3) stack_read_clocked (fun _ => ?_) rfl
  refine .bind (j := 1) push_pc_clocked (fun _ => ?_) rfl
  refine .bind (j := 0) fetch_clocked (fun _ => ?_) rfl
  exact update_clocked fun _ => ⟨rfl, rfl, rfl⟩

theorem case_rts_exact : Exact 0 case_rts := by
  refine .of_counted (n := 5) ?_ rfl (by decide)
  refine .bind (j := 4) discarded_read_clocked (fun _ => ?_) rfl
  refine .bind (j := 3) stack_read_clocked (fun _ => ?_) rfl
  refine .bind (j := 2) pop_clocked (fun _ => ?_) rfl
  refine .bind (j := 1) pop_clocked (fun _ => ?_) rfl
  refine .bind (j := 0) (cpu_read_clocked _) (fun _ => ?_) rfl
  exact update_clocked fun _ => ⟨rfl, rfl, rfl⟩

theorem case_push_exact (value : Console → U8) : Exact 0 (case_push value) := by
  refine .of_counted (n := 2) ?_ rfl (by decide)
  refine .bind (j := 1) discarded_read_clocked (fun _ => ?_) rfl
  exact .bind .of_get (fun _ => push_clocked _) rfl

theorem case_pull_exact {f : U8 → Console → Console} (hf : ∀ v, Quiet (f v)) :
    Exact 0 (case_pull f) := by
  refine .of_counted (n := 3) ?_ rfl (by decide)
  refine .bind (j := 2) discarded_read_clocked (fun _ => ?_) rfl
  refine .bind (j := 1) stack_read_clocked (fun _ => ?_) rfl
  exact .bind pop_clocked (fun v => update_clocked (hf v)) rfl

theorem case_brk_exact : Exact 0 case_brk := by
  refine .then_update (.of_counted (n := 6) ?_ rfl (by decide)) fun _ => ⟨rfl, rfl, rfl⟩
  refine .bind (j := 5) discarded_read_clocked (fun _ => ?_) rfl
  refine .bind (j := 5) (update_clocked fun _ => ⟨rfl, rfl, rfl⟩) (fun _ => ?_) rfl
  refine .bind (j := 3) push_pc_clocked (fun _ => ?_) rfl
  refine .bind (j := 3) .of_get (fun _ => ?_) rfl
  refine .bind (j := 2) (push_clocked _) (fun _ => ?_) rfl
  refine .bind (j := 1) (cpu_read_clocked _) (fun _ => ?_) rfl
  refine .bind (j := 0) (cpu_read_clocked _) (fun _ => ?_) rfl
  exact update_clocked fun _ => ⟨rfl, rfl, rfl⟩

theorem case_rti_exact : Exact 0 case_rti := by
  refine .of_counted (n := 5) ?_ rfl (by decide)
  refine .bind (j := 4) discarded_read_clocked (fun _ => ?_) rfl
  refine .bind (j := 3) stack_read_clocked (fun _ => ?_) rfl
  refine .bind (j := 2) pop_clocked (fun _ => ?_) rfl
  refine .bind (j := 2) (update_clocked fun _ => ⟨rfl, rfl, rfl⟩) (fun _ => ?_) rfl
  refine .bind (j := 1) pop_clocked (fun _ => ?_) rfl
  refine .bind (j := 0) pop_clocked (fun _ => ?_) rfl
  exact update_clocked fun _ => ⟨rfl, rfl, rfl⟩

/-! ## The switch -/

/-- Every case of the switch is charged exactly. -/
theorem switch_exact : ∀ c ∈ switch_cases, ∀ opcode, Exact 0 (c.2 opcode) := by
  simp only [switch_cases, List.forall_mem_cons]
  refine ⟨fun _ => implied_exact fun _ => ⟨rfl, rfl, rfl⟩,
    fun _ => implied_exact fun _ => ⟨rfl, rfl, rfl⟩,
    fun _ => implied_exact fun _ => ⟨rfl, rfl, rfl⟩,
    fun _ => implied_exact fun _ => ⟨rfl, rfl, rfl⟩,
    fun _ => implied_exact fun _ => ⟨rfl, rfl, rfl⟩,
    fun _ => implied_exact fun _ => ⟨rfl, rfl, rfl⟩,
    fun _ => implied_exact fun _ => ⟨rfl, rfl, rfl⟩,
    fun _ => implied_exact fun _ => ⟨rfl, rfl, rfl⟩,
    fun _ => implied_exact fun _ => ⟨rfl, rfl, rfl⟩,
    fun _ => implied_exact fun _ => ⟨rfl, rfl, rfl⟩,
    fun _ => implied_exact fun _ => ⟨rfl, rfl, rfl⟩,
    fun _ => implied_exact fun _ => ⟨rfl, rfl, rfl⟩,
    fun _ => load_form_exact (immediate_exact fun _ _ => ⟨rfl, rfl, rfl⟩),
    fun _ => immediate_exact fun _ _ => ⟨rfl, rfl, rfl⟩,
    fun _ => immediate_exact fun _ _ => ⟨rfl, rfl, rfl⟩,
    fun _ => immediate_exact fun _ _ => ⟨rfl, rfl, rfl⟩,
    fun _ => immediate_exact fun _ _ => ⟨rfl, rfl, rfl⟩,
    fun _ => immediate_exact fun _ _ => ⟨rfl, rfl, rfl⟩,
    case_bit_exact,
    fun _ => immediate_exact fun _ _ => ⟨rfl, rfl, rfl⟩,
    fun _ => immediate_exact fun _ _ => ⟨rfl, rfl, rfl⟩,
    case_add_exact,
    case_add_indexed_exact,
    case_logic_exact,
    case_logic_indexed_exact,
    case_logic_indirect_exact,
    case_compare_exact,
    case_compare_indexed_exact,
    case_shift_exact,
    fun _ => load_form_exact (zero_page_read_exact fun _ _ => ⟨rfl, rfl, rfl⟩),
    fun _ => load_form_exact (zero_page_indexed_read_exact _ fun _ _ => ⟨rfl, rfl, rfl⟩),
    fun _ => load_form_exact (absolute_read_exact fun _ _ => ⟨rfl, rfl, rfl⟩),
    fun _ => load_form_exact (absolute_indexed_read_exact _ fun _ _ => ⟨rfl, rfl, rfl⟩),
    fun _ => load_form_exact (absolute_indexed_read_exact _ fun _ _ => ⟨rfl, rfl, rfl⟩),
    fun _ => load_form_exact (indirect_x_read_exact fun _ _ => ⟨rfl, rfl, rfl⟩),
    fun _ => load_form_exact (indirect_y_read_exact fun _ _ => ⟨rfl, rfl, rfl⟩),
    fun _ => write_form_exact zero_page_clocked rfl (by decide) _,
    fun _ => write_form_exact absolute_clocked rfl (by decide) _,
    fun _ => write_form_exact (zero_page_indexed_clocked _) rfl (by decide) _,
    fun _ => write_form_exact (absolute_indexed_clocked _) rfl (by decide) _,
    fun _ => write_form_exact (absolute_indexed_clocked _) rfl (by decide) _,
    fun _ => write_form_exact indirect_x_clocked rfl (by decide) _,
    fun _ => write_form_exact indirect_y_clocked rfl (by decide) _,
    fun _ => write_form_exact zero_page_clocked rfl (by decide) _,
    fun _ => write_form_exact (zero_page_indexed_clocked _) rfl (by decide) _,
    fun _ => write_form_exact absolute_clocked rfl (by decide) _,
    fun _ => write_form_exact zero_page_clocked rfl (by decide) _,
    fun _ => write_form_exact (zero_page_indexed_clocked _) rfl (by decide) _,
    fun _ => write_form_exact absolute_clocked rfl (by decide) _,
    case_count_exact,
    case_count_absolute_exact,
    fun _ => load_form_exact (immediate_exact fun _ _ => ⟨rfl, rfl, rfl⟩),
    fun _ => load_form_exact (immediate_exact fun _ _ => ⟨rfl, rfl, rfl⟩),
    fun _ => load_form_exact (zero_page_read_exact fun _ _ => ⟨rfl, rfl, rfl⟩),
    fun _ => load_form_exact (zero_page_indexed_read_exact _ fun _ _ => ⟨rfl, rfl, rfl⟩),
    fun _ => load_form_exact (absolute_read_exact fun _ _ => ⟨rfl, rfl, rfl⟩),
    fun _ => load_form_exact (absolute_indexed_read_exact _ fun _ _ => ⟨rfl, rfl, rfl⟩),
    fun _ => load_form_exact (zero_page_read_exact fun _ _ => ⟨rfl, rfl, rfl⟩),
    fun _ => load_form_exact (zero_page_indexed_read_exact _ fun _ _ => ⟨rfl, rfl, rfl⟩),
    fun _ => load_form_exact (absolute_read_exact fun _ _ => ⟨rfl, rfl, rfl⟩),
    fun _ => load_form_exact (absolute_indexed_read_exact _ fun _ _ => ⟨rfl, rfl, rfl⟩),
    fun _ => implied_exact fun _ => ⟨rfl, rfl, rfl⟩,
    fun _ => implied_exact fun _ => ⟨rfl, rfl, rfl⟩,
    fun _ => implied_exact fun _ => ⟨rfl, rfl, rfl⟩,
    fun _ => implied_exact fun _ => ⟨rfl, rfl, rfl⟩,
    fun _ => implied_exact fun _ => ⟨rfl, rfl, rfl⟩,
    fun _ => implied_exact fun _ => ⟨rfl, rfl, rfl⟩,
    fun _ => implied_exact fun _ => ⟨rfl, rfl, rfl⟩,
    fun _ => implied_exact fun _ => ⟨rfl, rfl, rfl⟩,
    fun _ => implied_exact fun _ => ⟨rfl, rfl, rfl⟩,
    fun _ => implied_exact fun _ => ⟨rfl, rfl, rfl⟩,
    fun _ => immediate_exact fun _ _ => ⟨rfl, rfl, rfl⟩,
    case_branch_exact,
    fun _ => case_jmp_exact,
    fun _ => case_jmp_indirect_exact,
    fun _ => case_jsr_exact,
    fun _ => case_rts_exact,
    fun _ => case_push_exact _,
    fun _ => case_pull_exact fun _ _ => ⟨rfl, rfl, rfl⟩,
    fun _ => case_push_exact _,
    fun _ => case_pull_exact fun _ _ => ⟨rfl, rfl, rfl⟩,
    fun _ => case_brk_exact,
    fun _ => case_rti_exact, ?_⟩
  exact List.forall_mem_nil _

theorem unsupported_opcode_exact (opcode_pc : U16) (opcode : U8) :
    Exact 0 (unsupported_opcode opcode_pc opcode) := by
  refine ⟨fun hok => ?_, fun hok _ => ?_, fun herr => by cases herr⟩
  · cases hok
    exact ⟨by decide, by decide⟩
  · cases hok
    exact ⟨0, Or.inl rfl, by simp [transfers]⟩

theorem execute_opcode_exact (opcode_pc : U16) (opcode : U8) :
    Exact 0 (execute_opcode opcode_pc opcode) := by
  unfold execute_opcode
  refine .ite (unsupported_opcode_exact _ _) ?_
  cases hfind : switch_cases.find? fun c => decide (opcode ∈ c.1) with
  | none => exact unsupported_opcode_exact _ _
  | some c => exact switch_exact c (List.mem_of_find?_eq_some hfind) opcode

/-! ## One instruction -/

/-- The end of an instruction that goes well makes the transfer the implied forms lack. -/
theorem completed_ok {outcome : Outcome} {k : ℕ} (hstatus : outcome.status = .ok)
    (hcharged : Charged outcome k) {m m' : Console} (hcount : m.trace_count = bump^[k] 1)
    (h : completed outcome m = .ok .ok m') :
    ∃ n, k + 1 + n = outcome.cycles.toNat ∧ transfers.after n m m' := by
  unfold completed at h
  rw [get_bind_run] at h
  by_cases hlack : outcome.status = .ok ∧ outcome.cycles = 2 ∧ m.trace_count = 1
  · rw [if_pos hlack] at h
    obtain ⟨r, m₁, hr, hpure⟩ := bind_eq_ok.mp h
    obtain ⟨hcode, rfl⟩ := pure_eq_ok.mp hpure
    obtain ⟨-, -, hafter⟩ := status_of_clocked discarded_read_clocked hr hcode
    obtain rfl : k = 0 := bump_iterate_one.mp (hcount ▸ hlack.2.2)
    exact ⟨1, by rw [hlack.2.1]; rfl, hafter⟩
  · rw [if_neg hlack] at h
    obtain ⟨-, rfl⟩ := pure_eq_ok.mp h
    refine ⟨0, ?_, transfers.refl m⟩
    rcases hcharged with hcharged | ⟨rfl, hcycles⟩
    · exact hcharged.symm
    · exact absurd ⟨hstatus, hcycles, hcount⟩ hlack

/-- A failure is not taken back by the end of the instruction. -/
theorem completed_status {outcome : Outcome} {status : Status} {m m' : Console}
    (h : completed outcome m = .ok status m') (hok : status = .ok) : outcome.status = .ok := by
  unfold completed at h
  rw [get_bind_run] at h
  by_cases hlack : outcome.status = .ok ∧ outcome.cycles = 2 ∧ m.trace_count = 1
  · exact hlack.1
  · rw [if_neg hlack] at h
    obtain ⟨hs, -⟩ := pure_eq_ok.mp h
    rw [hs, hok]

/-- The parts of an instruction that ended: its fetch, its case, its end. -/
theorem step_parts {m m' : Console} {cycles : U32} (h : core_machine_step m = .ok cycles m') :
    ∃ opcode outcome status m₁ m₂ m₃,
      core_cpu_fetch { m with trace_count := 0 } = .ok opcode m₁ ∧
      execute_opcode m.pc opcode m₁ = .ok outcome m₂ ∧
      completed outcome m₂ = .ok status m₃ ∧ cycles = outcome.cycles ∧
      m' = retire opcode (core_cpu_flag_is_set m 0x04) (trap_failure status m.pc opcode
        { m₃ with cycles := m₃.cycles + outcome.cycles.zeroExtend 64 }) := by
  unfold core_machine_step core_bus_trace_reset at h
  rw [update_bind_run, get_bind_run] at h
  by_cases htrap : m.trap.trap_valid
  · rw [if_pos htrap] at h
    cases h
  rw [if_neg htrap] at h
  obtain ⟨opcode, m₁, hfetch, h₁⟩ := bind_eq_ok.mp h
  obtain ⟨outcome, m₂, hexecute, h₂⟩ := bind_eq_ok.mp h₁
  obtain ⟨status, m₃, hcompleted, h₃⟩ := bind_eq_ok.mp h₂
  cases h₃
  exact ⟨opcode, outcome, status, m₁, m₂, m₃, hfetch, hexecute, hcompleted, rfl, rfl⟩

theorem trap_failure_valid {status : Status} (h : status ≠ .ok) (opcode_pc : U16) (opcode : U8)
    (m : Console) : (trap_failure status opcode_pc opcode m).trap.trap_valid = true := by
  unfold trap_failure
  rw [if_neg h]
  by_cases htrap : m.trap.trap_valid
  · simp [htrap]
  · simp [htrap]

theorem retire_trap (opcode : U8) (poll_i : Bool) (m : Console) :
    (retire opcode poll_i m).trap = m.trap := by
  unfold retire
  split
  · rfl
  · rfl

theorem retire_counts (opcode : U8) (poll_i : Bool) (m : Console) :
    (retire opcode poll_i m).slots = m.slots ∧ (retire opcode poll_i m).cycles = m.cycles := by
  unfold retire
  split
  · exact ⟨rfl, rfl⟩
  · exact ⟨rfl, rfl⟩

/-- An instruction that does not trap is charged the slots it took. -/
theorem step_charged {m m' : Console} {cycles : U32} (h : core_machine_step m = .ok cycles m')
    (htrap : m'.trap.trap_valid = false) :
    m'.slots = m.slots + cycles.zeroExtend 64 ∧ m'.cycles = m.cycles + cycles.zeroExtend 64 := by
  obtain ⟨opcode, outcome, status, m₁, m₂, m₃, hfetch, hexecute, hcompleted, rfl, rfl⟩ :=
    step_parts h
  have hstatus : status = .ok := by
    by_contra hne
    rw [retire_trap, trap_failure_valid hne] at htrap
    cases htrap
  subst hstatus
  have houtcome := completed_status hcompleted rfl
  obtain ⟨hn₁, ht₁, hc₁⟩ := fetch_clocked.after hfetch
  obtain ⟨k, hk, hn₂, ht₂, hc₂⟩ := (execute_opcode_exact _ _).charged hexecute houtcome
  rw [Nat.zero_add] at hk
  obtain ⟨n, hn, hn₃, -, hc₃⟩ := completed_ok houtcome hk (by rw [ht₂, ht₁]; rfl) hcompleted
  obtain ⟨hslots, hcycles⟩ := retire_counts opcode (core_cpu_flag_is_set m 0x04)
    (trap_failure .ok m.pc opcode
      { m₃ with cycles := m₃.cycles + outcome.cycles.zeroExtend 64 })
  refine ⟨?_, ?_⟩
  · rw [hslots]
    show m₃.slots = _
    rw [hn₃, hn₂, hn₁, BitVec.add_assoc, BitVec.add_assoc, ← BitVec.ofNat_add,
      ← BitVec.ofNat_add, show 1 + (k + n) = outcome.cycles.toNat by omega, BitVec.ofNat_toNat]
  · rw [hcycles]
    show m₃.cycles + _ = _
    rw [hc₃, hc₂, hc₁]

theorem step_bound {m m' : Console} {cycles : U32} (h : core_machine_step m = .ok cycles m') :
    1 ≤ cycles.toNat ∧ cycles.toNat ≤ 7 := by
  obtain ⟨opcode, outcome, status, m₁, m₂, m₃, -, hexecute, -, rfl, -⟩ := step_parts h
  exact (execute_opcode_exact _ _).bound hexecute

/-! ## Interrupts -/

theorem interrupt_entry_clocked (nmi : Bool) : Clocked 5 (interrupt_entry nmi) := by
  unfold interrupt_entry
  refine .bind (j := 4) discarded_read_clocked (fun _ => ?_) rfl
  refine .bind (j := 3) discarded_read_clocked (fun _ => ?_) rfl
  refine .bind (j := 1) push_pc_clocked (fun _ => ?_) rfl
  refine .bind (j := 1) .of_get (fun m => ?_) rfl
  refine .bind (j := 0) (push_clocked _) (fun _ => ?_) rfl
  refine .bind (j := 0) .of_get (fun m => .ite (fun _ => ?_) fun _ => Takes.of_pure _) rfl
  exact Takes.bind (update_clocked fun _ => ⟨rfl, rfl, rfl⟩) (fun _ => .of_pure _) rfl

theorem interrupt_vector_clocked (nmi : Bool) : Clocked 2 (interrupt_vector (.ok nmi)) := by
  unfold interrupt_vector
  refine .bind (i := 0) (j := 2) (.of_pure _) (fun nmi => ?_) rfl
  refine .bind (j := 1) (cpu_read_clocked _) (fun _ => ?_) rfl
  exact .bind (cpu_read_clocked _) (fun _ => .of_pure _) rfl

theorem rethrow_eq_ok {α : Type} {r : Except Status α} {a : α} {m m' : Console}
    (h : rethrow r m = .ok a m') : r = .ok a ∧ m' = m := by
  cases r with
  | ok b =>
    cases h
    exact ⟨rfl, rfl⟩
  | error s => cases h

/-- The interrupt sequence takes seven slots and is charged seven cycles. -/
theorem interrupt_sequence_charged {nmi : Bool} {m m' : Console} {u : Unit}
    (h : interrupt_sequence nmi m = .ok u m') :
    m'.slots = m.slots + 7 ∧ m'.cycles = m.cycles + 7 := by
  unfold interrupt_sequence at h
  rw [update_bind_run] at h
  obtain ⟨entry, m₁, hentry, h₁⟩ := bind_eq_ok.mp h
  rw [update_bind_run] at h₁
  obtain ⟨vector, m₂, hvector, h₂⟩ := bind_eq_ok.mp h₁
  rw [update_bind_run] at h₂
  obtain ⟨pc, m₃, hpc, h₃⟩ := bind_eq_ok.mp h₂
  obtain ⟨rfl, rfl⟩ := rethrow_eq_ok hpc
  cases h₃
  rcases status_of_eq_ok.mp hvector with ⟨pc', hpc', hv⟩ | ⟨s, hs, -⟩
  · cases hpc'
    obtain ⟨nmi', m₄, hnmi, -⟩ := bind_eq_ok.mp hv
    obtain ⟨rfl, -⟩ := rethrow_eq_ok hnmi
    obtain ⟨-, -, hn, -, hc⟩ := status_of_clocked (interrupt_entry_clocked _) hentry rfl
    obtain ⟨hn', -, hc'⟩ := (interrupt_vector_clocked _).after hv
    refine ⟨?_, ?_⟩
    · show m₂.slots = _
      rw [hn']
      show m₁.slots + _ = _
      rw [hn, BitVec.add_assoc]
      rfl
    · show m₂.cycles + 7 = _
      rw [hc']
      show m₁.cycles + 7 = _
      rw [hc]
  · cases hs

/-- A served interrupt takes seven slots and is charged seven cycles; a service with nothing
to serve takes none. -/
theorem service_interrupt_charged {m m' : Console} {serviced : Bool}
    (h : core_machine_service_interrupt m = .ok serviced m') :
    m'.slots = m.slots + (if serviced then 7 else 0) ∧
      m'.cycles = m.cycles + (if serviced then 7 else 0) := by
  unfold core_machine_service_interrupt core_bus_trace_reset at h
  rw [update_bind_run, get_bind_run] at h
  by_cases hdefer : m.nmi_pending ∧ m.nmi_defer_once
  · rw [if_pos hdefer] at h
    cases h
    simp
  rw [if_neg hdefer] at h
  by_cases hnone : !m.nmi_pending ∧ (!m.irq_asserted ∨ m.irq_poll_i)
  · rw [if_pos hnone] at h
    cases h
    simp
  rw [if_neg hnone] at h
  obtain ⟨u, m₁, hsequence, hpure⟩ := bind_eq_ok.mp h
  cases hpure
  have hcharged := interrupt_sequence_charged hsequence
  simpa using hcharged

/-! ## Reset -/

theorem reset_stack_clocked : Clocked 1 reset_stack_cycle :=
  .bind .of_get (fun _ => .bind (bus_read_takes _) (fun _ => update_clocked
    fun _ => ⟨rfl, rfl, rfl⟩) rfl) rfl

theorem reset_sequence_clocked : Clocked 7 reset_sequence := by
  unfold reset_sequence
  refine .bind (j := 7) .of_get (fun m => ?_) rfl
  refine .bind (j := 6) (bus_read_takes _) (fun _ => ?_) rfl
  refine .bind (j := 5) (bus_read_takes _) (fun _ => ?_) rfl
  refine .bind (j := 4) reset_stack_clocked (fun _ => ?_) rfl
  refine .bind (j := 3) reset_stack_clocked (fun _ => ?_) rfl
  refine .bind (j := 2) reset_stack_clocked (fun _ => ?_) rfl
  refine .bind (j := 1) (bus_read_takes _) (fun _ => ?_) rfl
  refine .bind (j := 0) (bus_read_takes _) (fun _ => ?_) rfl
  exact update_clocked fun _ => ⟨rfl, rfl, rfl⟩

end Nxvm.Nes
