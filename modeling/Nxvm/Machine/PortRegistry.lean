/-
What holds of the port registry whatever was registered, failed and was rolled back.

A registration is a sequence of insertions, each of which may fail and leaves what was
inserted before it in the chains. Insertions only prepend, and a new entry lies at an
address no older entry lies at; so popping each chain down to the head it had restores
the chains.
-/
import Mathlib.Algebra.BigOperators.Fin
import Nxvm.Machine.Port

set_option autoImplicit false

namespace Nxvm.Machine

open Nxvm.Lib Nxvm.Lib.Gather Nxvm.Chips

section PortRegistry

variable {σ : Type}

/-! ## One insertion -/

/-- An entry that may be added: an owner where there is none, or a contributor to reads
beside an owner. -/
def Admissible (port : PortConnect σ) (entry : PortEntry σ) : Prop :=
  (entry.wired_or = false → port_find_provider port entry.port_id entry.write = none) ∧
    (entry.wired_or = true → entry.write = false ∧
      (port_find_provider port entry.port_id false).isSome = true)

/-- Everything an insertion can do: note a failure, or put one admissible entry in front of
its chain. -/
theorem port_add_provider_cases (port : PortConnect σ) (port_id : U16) (write : Bool)
    (read_provider : Option (PortReadProvider σ)) (write_provider : Option (PortWriteProvider σ))
    (owner : Option ℕ) (wired_or : Bool) (byte_lane_end : U16) (allocated : Bool) :
    let added := port_add_provider port port_id write read_provider write_provider owner wired_or
      byte_lane_end allocated
    (∃ status test, added.2 =
        { port with registration_status := status, test_allocation := test }) ∨
      ∃ test entry, added.2 = port_link { port with test_allocation := test } entry ∧
        entry.address = port.next_address ∧ entry.wired_or = wired_or ∧
        Admissible port entry := by
  intro added
  have htest : ∃ test, (port_test_attempt port).2 = { port with test_allocation := test } := by
    unfold port_test_attempt
    cases port.test_allocation <;> exact ⟨_, rfl⟩
  obtain ⟨test, htest⟩ := htest
  simp only [added, port_add_provider]
  split_ifs with hnull hstatus hreject hmemory
  · exact Or.inl ⟨port.registration_status, port.test_allocation, rfl⟩
  · exact Or.inl ⟨port.registration_status, port.test_allocation, rfl⟩
  · exact Or.inl ⟨.invalid_state, port.test_allocation, rfl⟩
  · rw [htest]
    exact Or.inl ⟨.no_memory, test, rfl⟩
  · rw [htest]
    refine Or.inr ⟨test, _, rfl, rfl, rfl, ?_, ?_⟩
    · intro hown
      dsimp only at hown ⊢
      subst hown
      simpa using hreject
    · intro hwired
      dsimp only at hwired ⊢
      subst hwired
      cases write with
      | true => simp at hreject
      | false =>
        refine ⟨rfl, ?_⟩
        simpa [Option.isSome_iff_ne_none] using hreject

/-! ## Well-formed registries -/

/-- The chains are those of their ports, lie at addresses that were given, and hold one owner
for each port and direction. -/
structure Registered (port : PortConnect σ) : Prop where
  placed : ∀ bucket, ∀ entry ∈ port.buckets bucket, port_bucket entry.port_id = bucket
  given : ∀ bucket, ∀ entry ∈ port.buckets bucket, entry.address < port.next_address
  single : ∀ bucket port_id write,
    (port.buckets bucket).countP (is_provider port_id write) ≤ 1

theorem port_initialize_registered : Registered ( port_initialize : PortConnect σ) :=
  ⟨fun _ _ h => absurd h List.not_mem_nil, fun _ _ h => absurd h List.not_mem_nil,
    fun _ _ _ => Nat.zero_le _⟩

/-- Chains that lost entries are as well formed as before. -/
theorem Registered.sublist {port port' : PortConnect σ} (h : Registered port)
    (hsub : ∀ bucket, (port'.buckets bucket).Sublist (port.buckets bucket))
    (hnext : port'.next_address = port.next_address) : Registered port' := by
  refine ⟨fun bucket entry he => h.placed bucket entry ((hsub bucket).subset he),
    fun bucket entry he => ?_, fun bucket port_id write => ?_⟩
  · rw [hnext]
    exact h.given bucket entry ((hsub bucket).subset he)
  · exact ((hsub bucket).countP_le).trans (h.single bucket port_id write)

theorem port_link_buckets (port : PortConnect σ) (entry : PortEntry σ)
    (bucket : Fin port_bucket_count) :
    (port_link port entry).buckets bucket =
      if bucket = port_bucket entry.port_id then entry :: port.buckets bucket
      else port.buckets bucket := by
  unfold port_link
  by_cases h : bucket = port_bucket entry.port_id
  · subst h
    simp
  · simp [h]

theorem Registered.link {port : PortConnect σ} (h : Registered port)
    (test : Option PortTestAllocation) {entry : PortEntry σ}
    (haddress : entry.address = port.next_address) (hentry : Admissible port entry) :
    Registered (port_link { port with test_allocation := test } entry) := by
  refine ⟨fun bucket other ho => ?_, fun bucket other ho => ?_, fun bucket port_id write => ?_⟩
  · rw [port_link_buckets] at ho
    split_ifs at ho with hb
    · rcases List.mem_cons.mp ho with rfl | ho
      · exact hb.symm
      · exact h.placed bucket other ho
    · exact h.placed bucket other ho
  · rw [port_link_buckets] at ho
    change other.address < port.next_address + 1
    split_ifs at ho with hb
    · rcases List.mem_cons.mp ho with rfl | ho
      · omega
      · exact Nat.lt_succ_of_lt (h.given bucket other ho)
    · exact Nat.lt_succ_of_lt (h.given bucket other ho)
  · have hsingle := h.single bucket port_id write
    rw [port_link_buckets]
    split_ifs with hb
    · rw [List.countP_cons]
      by_cases hown : is_provider port_id write entry = true
      · -- an owner is only added where the search found none
        have hparts : (entry.port_id = port_id ∧ entry.write = write) ∧ entry.wired_or = false := by
          simpa [is_provider] using hown
        obtain ⟨⟨hport, hwrite⟩, hwired⟩ := hparts
        have hnone := hentry.1 hwired
        rw [port_find_provider, ← hb, hport, hwrite] at hnone
        have hzero : (port.buckets bucket).countP (is_provider port_id write) = 0 :=
          List.countP_eq_zero.mpr fun other ho => List.find?_eq_none.mp hnone other ho
        rw [if_pos hown]
        change (port.buckets bucket).countP _ + 1 ≤ 1
        omega
      · rw [if_neg hown]
        exact hsingle
    · exact hsingle

theorem port_add_provider_registered {port : PortConnect σ} (h : Registered port)
    (port_id : U16) (write : Bool) (read_provider : Option (PortReadProvider σ))
    (write_provider : Option (PortWriteProvider σ)) (owner : Option ℕ) (wired_or : Bool)
    (byte_lane_end : U16) (allocated : Bool) :
    Registered (port_add_provider port port_id write read_provider write_provider owner wired_or
      byte_lane_end allocated).2 := by
  obtain ⟨status, test, hadded⟩ | ⟨test, entry, hadded, haddress, -, hentry⟩ :=
    port_add_provider_cases port port_id write read_provider write_provider owner wired_or
      byte_lane_end allocated
  · rw [hadded]
    exact ⟨h.placed, h.given, h.single⟩
  · rw [hadded]
    exact h.link test haddress hentry

theorem port_add_route_registered {port : PortConnect σ} (h : Registered port)
    (route : PortRoute σ) (allocated : Bool × Bool) :
    Registered (port_add_route port route allocated).2 := by
  have hread : Registered (if route.read.isSome then
      port_add_provider port route.address false route.read none route.owner
        route.wired_or_read route.byte_lane_end allocated.1
      else (Status.ok, port)).2 := by
    split_ifs
    · exact port_add_provider_registered h _ _ _ _ _ _ _ _
    · exact h
  unfold port_add_route
  dsimp only
  by_cases hw : (if route.read.isSome then
      port_add_provider port route.address false route.read none route.owner
        route.wired_or_read route.byte_lane_end allocated.1
      else (Status.ok, port)).1 = .ok ∧ route.write.isSome
  · rw [if_pos hw]
    exact port_add_provider_registered hread _ _ _ _ _ _ _ _
  · rw [if_neg hw]
    exact hread

/-! ## Rolling back -/

/-- The chains of `port'` are those of `port` with newer entries in front. -/
structure Extends (port port' : PortConnect σ) : Prop where
  next_address : port.next_address ≤ port'.next_address
  prepended : ∀ bucket, ∃ added, port'.buckets bucket = added ++ port.buckets bucket ∧
    ∀ entry ∈ added, port.next_address ≤ entry.address

theorem Extends.refl (port : PortConnect σ) : Extends port port :=
  ⟨le_rfl, fun _ => ⟨[], rfl, fun _ h => absurd h List.not_mem_nil⟩⟩

theorem Extends.trans {port port' port'' : PortConnect σ} (h : Extends port port')
    (h' : Extends port' port'') : Extends port port'' := by
  refine ⟨h.next_address.trans h'.next_address, fun bucket => ?_⟩
  obtain ⟨added, hadded, hnew⟩ := h.prepended bucket
  obtain ⟨added', hadded', hnew'⟩ := h'.prepended bucket
  refine ⟨added' ++ added, by rw [hadded', hadded, List.append_assoc], fun entry he => ?_⟩
  rcases List.mem_append.mp he with he | he
  · exact h.next_address.trans (hnew' entry he)
  · exact hnew entry he

theorem port_add_provider_extends (port : PortConnect σ) (port_id : U16) (write : Bool)
    (read_provider : Option (PortReadProvider σ)) (write_provider : Option (PortWriteProvider σ))
    (owner : Option ℕ) (wired_or : Bool) (byte_lane_end : U16) (allocated : Bool) :
    Extends port (port_add_provider port port_id write read_provider write_provider owner
      wired_or byte_lane_end allocated).2 := by
  obtain ⟨status, test, hadded⟩ | ⟨test, entry, hadded, haddress, -, -⟩ :=
    port_add_provider_cases port port_id write read_provider write_provider owner wired_or
      byte_lane_end allocated
  · rw [hadded]
    exact ⟨le_rfl, fun _ => ⟨[], rfl, fun _ h => absurd h List.not_mem_nil⟩⟩
  · rw [hadded]
    refine ⟨Nat.le_succ _, fun bucket => ?_⟩
    rw [port_link_buckets]
    split_ifs
    · refine ⟨[entry], rfl, fun other ho => ?_⟩
      rw [List.mem_singleton.mp ho, haddress]
    · exact ⟨[], rfl, fun _ h => absurd h List.not_mem_nil⟩

theorem port_add_route_extends (port : PortConnect σ) (route : PortRoute σ)
    (allocated : Bool × Bool) : Extends port (port_add_route port route allocated).2 := by
  have hread : Extends port (if route.read.isSome then
      port_add_provider port route.address false route.read none route.owner
        route.wired_or_read route.byte_lane_end allocated.1
      else (Status.ok, port)).2 := by
    split_ifs
    · exact port_add_provider_extends _ _ _ _ _ _ _ _ _
    · exact Extends.refl port
  unfold port_add_route
  dsimp only
  by_cases hw : (if route.read.isSome then
      port_add_provider port route.address false route.read none route.owner
        route.wired_or_read route.byte_lane_end allocated.1
      else (Status.ok, port)).1 = .ok ∧ route.write.isSome
  · rw [if_pos hw]
    exact hread.trans (port_add_provider_extends _ _ _ _ _ _ _ _ _)
  · rw [if_neg hw]
    exact hread

theorem port_add_routes_extends (routes : List (PortRoute σ × Bool × Bool))
    (port : PortConnect σ) :
    Extends port (routes.foldl (fun port route => (port_add_route port route.1 route.2).2)
      port) := by
  induction routes generalizing port with
  | nil => exact Extends.refl port
  | cons route routes ih => exact (port_add_route_extends port route.1 route.2).trans (ih _)

/-- Rolling back to a checkpoint of an older registry restores its chains. -/
theorem Extends.rollback {port port' : PortConnect σ} (h : Extends port port')
    (hport : Registered port) :
    (port_rollback_registration port' (port_registration_begin port).1).buckets =
      port.buckets := by
  funext bucket
  obtain ⟨added, hadded, hnew⟩ := h.prepended bucket
  have hhead : (port_registration_begin port).1 bucket =
      (port.buckets bucket).head?.map (·.address) := rfl
  simp only [port_rollback_registration, hhead]
  rw [hadded, List.dropWhile_append_of_pos]
  · -- the old head is the one of the checkpoint
    cases port.buckets bucket with
    | nil => rfl
    | cons entry rest => simp
  · -- a newer entry lies at another address than the old head
    intro entry he
    rw [bne_iff_ne]
    intro heq
    obtain ⟨head, hmem, haddress⟩ := Option.map_eq_some_iff.mp heq.symm
    have hold := hport.given bucket head (List.mem_of_mem_head? hmem)
    have hlate := hnew entry he
    omega

/-! ## Runs -/

/-- A call that changes the registry. -/
inductive PortOp (σ : Type) where
  | registration_begin
  | add_route (route : PortRoute σ) (allocated : Bool × Bool)
  | rollback_registration (checkpoint : PortCheckpoint)
  | unregister_owner (owner : ℕ)
  | set_test_allocation (test_allocation : Option PortTestAllocation)
  | finalize

/-- The registry after the call. -/
def port_apply (port : PortConnect σ) : PortOp σ → PortConnect σ
  | .registration_begin => (port_registration_begin port).2
  | .add_route route allocated => (port_add_route port route allocated).2
  | .rollback_registration checkpoint => port_rollback_registration port checkpoint
  | .unregister_owner owner => port_unregister_owner port owner
  | .set_test_allocation test_allocation => port_set_test_allocation port test_allocation
  | .finalize => port_finalize port

theorem port_apply_registered {port : PortConnect σ} (h : Registered port) (op : PortOp σ) :
    Registered (port_apply port op) := by
  cases op with
  | registration_begin => exact ⟨h.placed, h.given, h.single⟩
  | add_route route allocated => exact port_add_route_registered h route allocated
  | rollback_registration checkpoint =>
    exact h.sublist (fun bucket => List.dropWhile_sublist _) rfl
  | unregister_owner owner => exact h.sublist (fun bucket => List.filter_sublist) rfl
  | set_test_allocation test_allocation => exact ⟨h.placed, h.given, h.single⟩
  | finalize => exact h.sublist (fun bucket => List.nil_sublist _) rfl

theorem run_registered (ops : List (PortOp σ)) {port : PortConnect σ} (h : Registered port) :
    Registered (ops.foldl port_apply port) := by
  induction ops generalizing port with
  | nil => exact h
  | cons op ops ih => exact ih (port_apply_registered h op)

/-- The chain of a port has an entry with these providers. -/
def Linked (port : PortConnect σ) (port_id : U16) (write : Bool)
    (read_provider : Option (PortReadProvider σ)) (write_provider : Option (PortWriteProvider σ))
    (owner : Option ℕ) : Prop :=
  ∃ entry ∈ port.buckets (port_bucket port_id), entry.port_id = port_id ∧ entry.write = write ∧
    entry.read_provider = read_provider ∧ entry.write_provider = write_provider ∧
      entry.owner = owner

/-- What a route reads and writes with is in the chain of its port. -/
def Installed (port : PortConnect σ) (route : PortRoute σ) : Prop :=
  (route.read.isSome → Linked port route.address false route.read none route.owner) ∧
    (route.write.isSome → Linked port route.address true none route.write route.owner)

section Linked

variable {port : PortConnect σ} {port_id : U16} {write : Bool}
  {read_provider : Option (PortReadProvider σ)} {write_provider : Option (PortWriteProvider σ)}
  {owner : Option ℕ}

theorem Linked.extends {port' : PortConnect σ}
    (h : Linked port port_id write read_provider write_provider owner)
    (hext : Extends port port') :
    Linked port' port_id write read_provider write_provider owner := by
  obtain ⟨entry, he, hentry⟩ := h
  obtain ⟨added, hadded, -⟩ := hext.prepended (port_bucket port_id)
  exact ⟨entry, hadded ▸ List.mem_append_right added he, hentry⟩

theorem port_add_provider_linked {wired_or : Bool} {byte_lane_end : U16} {allocated : Bool}
    (h : (port_add_provider port port_id write read_provider write_provider owner wired_or
      byte_lane_end allocated).1 = .ok) :
    Linked (port_add_provider port port_id write read_provider write_provider owner wired_or
      byte_lane_end allocated).2 port_id write read_provider write_provider owner := by
  simp only [port_add_provider, Linked] at h ⊢
  split_ifs at h ⊢ with hnull hstatus
  · exact absurd h hstatus
  · rw [port_link_buckets, if_pos rfl]
    exact ⟨_, List.mem_cons_self, rfl, rfl, rfl, rfl, rfl⟩

theorem port_add_route_installed {route : PortRoute σ} {allocated : Bool × Bool}
    (h : (port_add_route port route allocated).1 = .ok) :
    Installed (port_add_route port route allocated).2 route := by
  unfold port_add_route at h ⊢
  dsimp only at h ⊢
  split_ifs at h ⊢ with hread hwrite hwrite
  · exact ⟨fun _ => (port_add_provider_linked hwrite.1).extends
      (port_add_provider_extends _ _ _ _ _ _ _ _ _), fun _ => port_add_provider_linked h⟩
  · exact ⟨fun _ => port_add_provider_linked h, fun hsome => absurd ⟨h, hsome⟩ hwrite⟩
  · exact ⟨fun hsome => absurd hsome hread, fun _ => port_add_provider_linked h⟩
  · exact ⟨fun hsome => absurd hsome hread, fun hsome => absurd ⟨h, hsome⟩ hwrite⟩

end Linked

/-- In every reachable registry, installing several routes installs all of them or leaves the
chains as they were. -/
theorem install_port_routes_all_or_none (ops : List (PortOp σ))
    (routes : List (PortRoute σ × Bool × Bool)) :
    let port := ops.foldl port_apply ( port_initialize : PortConnect σ)
    let installed := install_port_routes port routes
    if installed.1 = .ok then ∀ route ∈ routes, Installed installed.2 route.1
    else installed.2.buckets = port.buckets := by
  have hroutes (routes : List (PortRoute σ × Bool × Bool)) (port : PortConnect σ) :
      Extends port (port_add_routes port routes).2 ∧ ((port_add_routes port routes).1 = .ok →
        ∀ route ∈ routes, Installed (port_add_routes port routes).2 route.1) := by
    induction routes generalizing port with
    | nil => exact ⟨Extends.refl port, fun _ _ h => absurd h List.not_mem_nil⟩
    | cons route routes ih =>
      have hadd := port_add_route_extends port route.1 route.2
      simp only [port_add_routes]
      split_ifs with hadded
      · exact ⟨hadd, fun hok => absurd hok hadded⟩
      · obtain ⟨hext, hall⟩ := ih (port_add_route port route.1 route.2).2
        have hfirst := port_add_route_installed (not_not.mp hadded)
        exact ⟨hadd.trans hext, fun hok => List.forall_mem_cons.mpr
          ⟨⟨fun h => (hfirst.1 h).extends hext, fun h => (hfirst.2 h).extends hext⟩, hall hok⟩⟩
  intro port installed
  have h : Registered port := run_registered ops port_initialize_registered
  obtain ⟨hext, hall⟩ := hroutes routes (port_registration_begin port).2
  simp only [installed, install_port_routes]
  split_ifs with hvalid hfalse hstatus hadded hok
  · exact hfalse.elim
  · rfl
  · rfl
  · exact hext.rollback ⟨h.placed, h.given, h.single⟩
  · exact hall hok
  · exact absurd hok hadded

/-! ## Where contributors are added -/

/-- A wired-OR entry that one insertion brings is a contributor to reads beside an owner. -/
theorem port_add_provider_beside {port : PortConnect σ} {port_id : U16} {write : Bool}
    {read_provider : Option (PortReadProvider σ)}
    {write_provider : Option (PortWriteProvider σ)} {owner : Option ℕ} {wired_or : Bool}
    {byte_lane_end : U16} {allocated : Bool} {bucket : Fin port_bucket_count}
    {entry : PortEntry σ}
    (hafter : entry ∈ (port_add_provider port port_id write read_provider write_provider owner
      wired_or byte_lane_end allocated).2.buckets bucket)
    (hbefore : entry ∉ port.buckets bucket) (hwired : entry.wired_or = true) :
    entry.write = false ∧
      (port_find_provider port entry.port_id false).isSome = true := by
  obtain ⟨status, test, hadded⟩ | ⟨test, added, hadded, -, -, hentry⟩ :=
    port_add_provider_cases port port_id write read_provider write_provider owner wired_or
      byte_lane_end allocated
  · rw [hadded] at hafter
    exact absurd hafter hbefore
  · rw [hadded, port_link_buckets] at hafter
    split_ifs at hafter
    · rcases List.mem_cons.mp hafter with rfl | hafter
      · exact hentry.2 hwired
      · exact absurd hafter hbefore
    · exact absurd hafter hbefore

/-- A write provider is never a wired-OR entry. -/
theorem port_add_provider_write {port : PortConnect σ} {port_id : U16}
    {read_provider : Option (PortReadProvider σ)}
    {write_provider : Option (PortWriteProvider σ)} {owner : Option ℕ}
    {byte_lane_end : U16} {allocated : Bool} {bucket : Fin port_bucket_count}
    {entry : PortEntry σ}
    (hafter : entry ∈ (port_add_provider port port_id true read_provider write_provider owner
      false byte_lane_end allocated).2.buckets bucket)
    (hwired : entry.wired_or = true) : entry ∈ port.buckets bucket := by
  obtain ⟨status, test, hadded⟩ | ⟨test, added, hadded, -, hown, -⟩ :=
    port_add_provider_cases port port_id true read_provider write_provider owner false
      byte_lane_end allocated
  · rw [hadded] at hafter
    exact hafter
  · rw [hadded, port_link_buckets] at hafter
    split_ifs at hafter
    · rcases List.mem_cons.mp hafter with rfl | hafter
      · exact absurd (hown.symm.trans hwired) Bool.false_ne_true
      · exact hafter
    · exact hafter

/-- A wired-OR entry that a call brings is a contributor to reads, and its port had an owner
before the call. -/
theorem port_apply_beside {port : PortConnect σ} {op : PortOp σ}
    {bucket : Fin port_bucket_count} {entry : PortEntry σ}
    (hafter : entry ∈ (port_apply port op).buckets bucket)
    (hbefore : entry ∉ port.buckets bucket) (hwired : entry.wired_or = true) :
    entry.write = false ∧
      (port_find_provider port entry.port_id false).isSome = true := by
  cases op with
  | registration_begin => exact absurd hafter hbefore
  | rollback_registration checkpoint =>
    exact absurd ((List.dropWhile_sublist _).subset hafter) hbefore
  | unregister_owner owner => exact absurd (List.filter_sublist.subset hafter) hbefore
  | set_test_allocation test_allocation => exact absurd hafter hbefore
  | finalize => exact absurd hafter List.not_mem_nil
  | add_route route allocated =>
    simp only [port_apply, port_add_route] at hafter
    by_cases hread : route.read.isSome
    · simp only [hread, if_true] at hafter
      split_ifs at hafter
      · exact port_add_provider_beside (port_add_provider_write hafter hwired) hbefore hwired
      · exact port_add_provider_beside hafter hbefore hwired
    · simp only [hread, Bool.false_eq_true, if_false] at hafter
      split_ifs at hafter
      · exact absurd (port_add_provider_write hafter hwired) hbefore
      · exact absurd hafter hbefore

/-! ## Reading in any order -/

/-- What a call of an entry's read provider depends on. -/
def contribution (entry : PortEntry σ) : Option (PortReadProvider σ) × Option ℕ :=
  (entry.read_provider, entry.owner)

/-- The call of a read provider by its function and owner. -/
def contribute (port_id : U16) (tick : U64)
    (provider : Option (PortReadProvider σ) × Option ℕ) (s : σ) : Except Status U32 × σ :=
  match provider.1 with
  | none => (.ok 0, s)
  | some read =>
    match read provider.2 port_id tick 0 s with
    | (status, value, s) => (if status = .ok then .ok value else .error status, s)

theorem gather_contributions (port_id : U16) (tick : U64) (entries : List (PortEntry σ))
    (value : U32) (s : σ) :
    gather (fun entry => read_provider entry port_id tick 0) (· ||| ·) entries value s =
      gather (contribute port_id tick) (· ||| ·) (entries.map contribution) value s := by
  induction entries generalizing value s with
  | nil => rfl
  | cons entry entries ih =>
    rw [List.map_cons, gather, gather]
    have hcall : contribute port_id tick (contribution entry) s =
        read_provider entry port_id tick 0 s := rfl
    rw [hcall]
    cases read_provider entry port_id tick 0 s with
    | mk answer s' =>
      cases answer with
      | error status => rfl
      | ok x => exact ih (value ||| x) s'

instance : RightCommutative (fun x y : U32 => x ||| y) :=
  ⟨fun x y z => by rw [BitVec.or_assoc, BitVec.or_comm y z, ← BitVec.or_assoc]⟩

/-- A provider that fails does not fail with the status of success. -/
theorem contribute_error (port_id : U16) (tick : U64)
    (provider : Option (PortReadProvider σ) × Option ℕ) (s : σ) (status : Status) (s' : σ)
    (h : contribute port_id tick provider s = (.error status, s')) : status ≠ .ok := by
  unfold contribute at h
  cases hread : provider.1 with
  | none =>
    rw [hread] at h
    cases h
  | some read =>
    rw [hread] at h
    dsimp only at h
    split_ifs at h with hstatus
    · cases h
    · cases h
      exact hstatus

/-- The owner of a port, but for the address its entry lies at. -/
def port_owner (port : PortConnect σ) (port_id : U16) : Option (PortEntry σ) :=
  (port_find_provider port port_id false).map fun entry => { entry with address := 0 }

theorem port_read_owned_congr {port port' : PortConnect σ} {port_id : U16}
    (h : port_owner port' port_id = port_owner port port_id) (data : PortData) (tick : U64)
    (s : σ) : port_read_owned port' data port_id tick s =
      port_read_owned port data port_id tick s := by
  have hread (port : PortConnect σ) : port_read_owned port data port_id tick s =
      (port_owner port port_id).elim (.ok 0, s)
        fun entry => read_owner data port_id tick entry s := by
    unfold port_read_owned port_owner
    cases port_find_provider port port_id false <;> rfl
  rw [hread, hread, h]

/-- Two registries with the same owner of a port, whose contributors to it differ in their
order only, are read alike, when the read succeeds and no contributor changes what another
answers. -/
theorem port_read_any_order {port port' : PortConnect σ} {data : PortData} {port_id : U16}
    {tick : U64} {s : σ} (howner : port_owner port' port_id = port_owner port port_id)
    (hperm : ((port_contributors port port_id).map contribution).Perm
      ((port_contributors port' port_id).map contribution))
    (hcalm : Undisturbed (contribute port_id tick)
      ((port_contributors port port_id).map contribution)
      (port_read_owned port data port_id tick s).2)
    (hok : (port_execute_read_current port data port_id tick s).1 = .ok) :
    (port_execute_read_current port' data port_id tick s).1 = .ok ∧
      (port_execute_read_current port' data port_id tick s).2.1 =
        (port_execute_read_current port data port_id tick s).2.1 := by
  unfold port_execute_read_current at hok ⊢
  rw [port_read_owned_congr howner]
  cases howned : port_read_owned port data port_id tick s with
  | mk answer s1 =>
    rw [howned] at hok hcalm
    cases answer with
    | error status => exact ⟨hok, rfl⟩
    | ok value =>
      simp only [gather_contributions] at hok ⊢
      cases hleft : gather (contribute port_id tick) (· ||| ·)
          ((port_contributors port port_id).map contribution) value s1 with
      | mk joined s2 =>
        rw [hleft] at hok
        cases joined with
        | error status =>
          exact absurd hok (gather_error (P := (· ≠ .ok)) (contribute_error port_id tick) hleft)
        | ok v =>
          have hright := gather_perm hcalm hperm
            (b := value) (v := v) (by rw [hleft])
          cases hr : gather (contribute port_id tick) (· ||| ·)
              ((port_contributors port' port_id).map contribution) value s1 with
          | mk joined' s2' =>
            rw [hr] at hright
            cases hright
            exact ⟨rfl, rfl⟩

/-! ## The registry -/

/-- Every entry of the registry. -/
def port_entries (port : PortConnect σ) : List (PortEntry σ) :=
  (List.finRange port_bucket_count).flatMap port.buckets

theorem Registered.one_owner {port : PortConnect σ} (h : Registered port) (port_id : U16)
    (write : Bool) : (port_entries port).countP (is_provider port_id write) ≤ 1 := by
  have hother (bucket : Fin port_bucket_count) (hb : bucket ≠ port_bucket port_id) :
      (port.buckets bucket).countP (is_provider port_id write) = 0 := by
    refine List.countP_eq_zero.mpr fun entry he hown => hb ?_
    have hport : entry.port_id = port_id := by
      simp only [is_provider, Bool.and_eq_true, decide_eq_true_eq] at hown
      exact hown.1.1
    rw [← h.placed bucket entry he, hport]
  have hsum : (port_entries port).countP (is_provider port_id write) =
      ∑ bucket, (port.buckets bucket).countP (is_provider port_id write) := by
    rw [port_entries, List.countP_flatMap, Fin.sum_univ_def]
    rfl
  rw [hsum, Finset.sum_eq_single (port_bucket port_id) (fun bucket _ hb => hother bucket hb)
    (fun habsent => absurd (Finset.mem_univ _) habsent)]
  exact h.single _ port_id write

end PortRegistry

/-! ## Contributors that interfere -/

/-- A provider that answers a fixed value. -/
def fixed_read (value : U32) : PortReadProvider U32 := fun _ _ _ _ s => (.ok, value, s)

/-- A provider that answers what the last one left, and leaves one itself. -/
def marking_read : PortReadProvider U32 := fun _ _ _ _ _ => (.ok, 0, 1)

/-- A provider that answers what the last one left. -/
def reporting_read : PortReadProvider U32 := fun _ _ _ _ s => (.ok, s, s)

/-- A route of port 3F7h that only reads. -/
def read_route (read : PortReadProvider U32) (wired_or : Bool) : PortOp U32 :=
  .add_route { address := 0x3f7, read := some read, write := none, owner := none
               wired_or_read := wired_or, byte_lane_end := 0 } (true, true)

end Nxvm.Machine
