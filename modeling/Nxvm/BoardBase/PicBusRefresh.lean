/-
What the master knows of the slave.

The master holds a copy of the slave's request, and a refresh renews it. Most calls
into the pair refresh after they have changed something. Two do not: time that passes
may make a delayed request of the slave deliverable, and a poll of the master takes
the slave's request away. Where neither happens, scanning for an interrupt answers
what it would answer after another refresh.
-/
import Nxvm.BoardBase.PicBus
import Nxvm.Chips.PicInputs

set_option autoImplicit false

namespace Nxvm.BoardBase

open Nxvm.Lib Nxvm.Lib.Register Nxvm.Chips Nxvm.Machine

/-! ## Levels -/

/-- Both chips have seen the levels of their buses. -/
structure Shown (pair : PicPair) : Prop where
  master : Latched pair.master.device (pic_bus_levels pair.master)
  slave : Latched pair.slave.device (pic_bus_levels pair.slave)
  slave_cascade : pair.slave.device.cascade_irr = 0

theorem board_pic_initialize_shown : Shown board_pic_initialize := by
  have hlevels (master : Bool) :
      pic_bus_levels { device := pic_create master, asserted := Table.fill 0 } = 0 :=
    eq_zero_iff_lines.mpr fun id => by
      rw [pic_bus_levels, getLsbD_of_lines]
      simp
  refine ⟨⟨?_, fun h => ?_⟩, ⟨?_, fun h => ?_⟩, rfl⟩
  · exact (hlevels true).symm
  · exact absurd h (by decide)
  · exact (hlevels false).symm
  · exact absurd h (by decide)

theorem board_pic_refresh_shown (pair : PicPair) : Shown (board_pic_refresh pair) :=
  ⟨pic_set_inputs_latched _ _ _ _, pic_set_inputs_latched _ _ _ _, pic_cascade_seen_zero _⟩

/-- On a pair whose levels were shown, refreshing only renews the cascade request. -/
theorem Shown.refresh {pair : PicPair} (h : Shown pair) :
    board_pic_refresh pair =
      { pair with master := { pair.master with device := { pair.master.device with
          cascade_irr := pic_cascade_seen pair.master.device
            (cascade_request pair.slave.device) } } } := by
  have hslave : pic_set_inputs pair.slave.device (pic_bus_levels pair.slave) 0 0 =
      pair.slave.device := by
    rw [h.slave.set_inputs, pic_cascade_seen_zero, ← h.slave_cascade]
  unfold board_pic_refresh
  simp only [hslave, h.master.set_inputs]

theorem respond_intr_frame (pic : Pic) (id : Fin 8) (cascade : Bool) :
    (respond_intr pic id cascade).imr = pic.imr ∧
      (respond_intr pic id cascade).icw1 = pic.icw1 ∧
      (respond_intr pic id cascade).icw3 = pic.icw3 ∧
      (respond_intr pic id cascade).icw4 = pic.icw4 ∧
      (respond_intr pic id cascade).cascade_master = pic.cascade_master := by
  unfold respond_intr automatic_eoi withdraw_request
  dsimp only
  split_ifs <;> exact ⟨rfl, rfl, rfl, rfl, rfl⟩

/-- Only a cascade request is taken from the cascade inputs. -/
theorem respond_intr_cascade_irr (pic : Pic) (id : Fin 8) (cascade : Bool) :
    (respond_intr pic id cascade).cascade_irr =
      if cascade then pic.cascade_irr &&& ~~~line id else pic.cascade_irr := by
  unfold respond_intr automatic_eoi withdraw_request
  dsimp only
  split_ifs <;> rfl

/-- Answering one line keeps the others in service. -/
theorem respond_intr_in_service {pic : Pic} {id other : Fin 8} {cascade : Bool}
    (hne : other ≠ id) (h : in_service pic other = true) :
    in_service (respond_intr pic id cascade) other = true := by
  have hwithdraw : (withdraw_request { pic with isr := pic.isr ||| line id } id cascade).isr =
      pic.isr ||| line id := by
    unfold withdraw_request
    split_ifs <;> rfl
  have hset : (pic.isr ||| line id).getLsbD other.val = true := by
    rw [getLsbD_set]
    exact Bool.or_eq_true_iff.mpr (Or.inl h)
  unfold respond_intr automatic_eoi in_service
  dsimp only
  split_ifs
  · rw [hwithdraw, getLsbD_clear, decide_eq_false hne, Bool.not_false, Bool.and_true, hset]
  · rw [hwithdraw, getLsbD_clear, decide_eq_false hne, Bool.not_false, Bool.and_true, hset]
  · rw [hwithdraw, hset]

/-- What reading a register leaves of a chip: itself but for OCW3, after it has answered
the request of a poll. -/
theorem pic_read_register_cases (pic : Pic) (selector value : U8) :
    (∃ ocw3, (pic_read_register pic selector value).2 = { pic with ocw3 := ocw3 }) ∨
      ∃ request ocw3, selector = 0 ∧ is_set pic.ocw3 ocw3_p = true ∧
        pic_select pic = some request ∧
        (pic_read_register pic selector value).2 =
          { respond_intr pic request.line request.cascade with ocw3 := ocw3 } := by
  unfold pic_read_register
  split_ifs with h0 h1
  · unfold io_read_00x0
    split_ifs with hpoll
    · cases hselect : pic_select pic with
      | none => exact Or.inl ⟨_, rfl⟩
      | some request => exact Or.inr ⟨request, _, h0, hpoll, rfl, rfl⟩
    · exact Or.inl ⟨_, rfl⟩
    · exact Or.inl ⟨_, rfl⟩
    · exact Or.inl ⟨_, rfl⟩
  · exact Or.inl ⟨_, rfl⟩
  · exact Or.inl ⟨_, rfl⟩

theorem pic_read_register_latched {pic : Pic} {levels : U8} (h : Latched pic levels)
    (selector value : U8) : Latched (pic_read_register pic selector value).2 levels := by
  obtain ⟨ocw3, hread⟩ | ⟨request, ocw3, -, -, -, hread⟩ :=
    pic_read_register_cases pic selector value
  · rw [hread]
    exact ⟨h.input_levels, h.requests⟩
  · have hrespond := h.respond_intr request.line request.cascade
    rw [hread]
    exact ⟨hrespond.input_levels, hrespond.requests⟩

/-- Acknowledging keeps what was shown. -/
theorem pic_acknowledge_latched {pic : Pic} {levels : U8} (h : Latched pic levels) :
    Latched (pic_acknowledge pic).2 levels := by
  unfold pic_acknowledge
  cases pic_select pic with
  | none => exact h
  | some request => exact h.respond_intr request.line request.cascade

/-- Everything a call can do to the chips: end in a refresh, leave them, set their timing,
let time pass, or read or acknowledge the master alone. -/
theorem board_pic_apply_cases (pair : PicPair) (op : PicPairOp) :
    (∃ pair', board_pic_apply pair op = board_pic_refresh pair') ∨
      (∃ sources, board_pic_apply pair op = { pair with sources := sources }) ∨
      (∃ master slave, board_pic_apply pair op = board_pic_set_irq_timing pair master slave) ∨
      (∃ elapsed_ticks, op = .advance elapsed_ticks) ∨
      (∃ selector value, op = .read_register .master selector value ∧
        board_pic_apply pair op = { pair with master := { pair.master with
          device := (pic_read_register pair.master.device selector value).2 } }) ∨
      ((pic_acknowledge pair.master.device).1.cascade = false ∧
        board_pic_apply pair op = { pair with master := { pair.master with
          device := (pic_acknowledge pair.master.device).2 } }) := by
  cases op with
  | refresh => exact Or.inl ⟨pair, rfl⟩
  | reset => exact Or.inl ⟨_, rfl⟩
  | set_irq_timing master slave => exact Or.inr (Or.inr (Or.inl ⟨master, slave, rfl⟩))
  | advance elapsed_ticks => exact Or.inr (Or.inr (Or.inr (Or.inl ⟨elapsed_ticks, rfl⟩)))
  | write_register side selector value =>
    simp only [board_pic_apply, board_pic_write_register]
    split_ifs
    · exact Or.inr (Or.inl ⟨pair.sources, rfl⟩)
    · exact Or.inl ⟨_, rfl⟩
  | read_register side selector value =>
    simp only [board_pic_apply, board_pic_read_register]
    split_ifs with hselector hside
    · exact Or.inr (Or.inl ⟨pair.sources, rfl⟩)
    · exact Or.inl ⟨_, rfl⟩
    · cases side with
      | slave => exact absurd rfl hside
      | master => exact Or.inr (Or.inr (Or.inr (Or.inr (Or.inl ⟨selector, value, rfl, rfl⟩))))
  | irq_source_bind handle irq allocated =>
    refine Or.inr (Or.inl ?_)
    simp only [board_pic_apply, board_pic_irq_source_bind]
    split
    · exact ⟨pair.sources, rfl⟩
    · cases handle <;> dsimp only <;> split_ifs <;> exact ⟨_, rfl⟩
  | irq_source_assert id =>
    simp only [board_pic_apply, board_pic_irq_source_assert]
    cases pair.sources[id]? with
    | none => exact Or.inr (Or.inl ⟨pair.sources, rfl⟩)
    | some source =>
      dsimp only
      by_cases hskip : source.asserted = true ∨ 16 ≤ source.irq.toNat
      · rw [if_pos hskip]
        exact Or.inr (Or.inl ⟨pair.sources, rfl⟩)
      · rw [if_neg hskip]
        exact Or.inl ⟨_, rfl⟩
  | irq_source_deassert id =>
    simp only [board_pic_apply, board_pic_irq_source_deassert]
    cases pair.sources[id]? with
    | none => exact Or.inr (Or.inl ⟨pair.sources, rfl⟩)
    | some source =>
      dsimp only
      split_ifs
      · exact Or.inr (Or.inl ⟨pair.sources, rfl⟩)
      · exact Or.inr (Or.inl ⟨_, rfl⟩)
      · exact Or.inr (Or.inl ⟨_, rfl⟩)
      · exact Or.inl ⟨_, rfl⟩
  | get_interrupt =>
    simp only [board_pic_apply, board_pic_get_interrupt]
    split_ifs with hcascade
    · exact Or.inl ⟨_, rfl⟩
    · exact Or.inr (Or.inr (Or.inr (Or.inr (Or.inr
        ⟨Bool.eq_false_of_not_eq_true hcascade, rfl⟩))))

/-- Every call leaves both chips with the levels of their buses. -/
theorem board_pic_apply_shown {pair : PicPair} (h : Shown pair) (op : PicPairOp) :
    Shown (board_pic_apply pair op) := by
  obtain ⟨pair', happly⟩ | ⟨sources, happly⟩ | ⟨master, slave, happly⟩ | ⟨elapsed_ticks, rfl⟩ |
    ⟨selector, value, -, happly⟩ | ⟨-, happly⟩ := board_pic_apply_cases pair op
  · rw [happly]
    exact board_pic_refresh_shown pair'
  · rw [happly]
    exact ⟨h.master, h.slave, h.slave_cascade⟩
  · rw [happly]
    exact ⟨h.master.set_irq_timing master, h.slave.set_irq_timing slave, h.slave_cascade⟩
  · exact ⟨h.master.advance elapsed_ticks, h.slave.advance elapsed_ticks, h.slave_cascade⟩
  · rw [happly]
    exact ⟨pic_read_register_latched h.master selector value, h.slave, h.slave_cascade⟩
  · rw [happly]
    exact ⟨pic_acknowledge_latched h.master, h.slave, h.slave_cascade⟩

/-! ## The cascade request -/

/-- The slave's request is at the master, or the master could not deliver it anyway. -/
structure Heard (pair : PicPair) : Prop where
  shown : Shown pair
  cascade :
    pair.master.device.cascade_irr =
        pic_cascade_seen pair.master.device (cascade_request pair.slave.device) ∨
      ∃ id, cascade_request pair.slave.device = line id ∧ Listens pair.master.device id ∧
        pair.master.device.cascade_irr = 0 ∧ Deaf pair.master.device id

theorem board_pic_refresh_heard (pair : PicPair) : Heard (board_pic_refresh pair) :=
  ⟨board_pic_refresh_shown pair, Or.inl rfl⟩

theorem board_pic_initialize_heard : Heard board_pic_initialize :=
  ⟨board_pic_initialize_shown, Or.inl (by decide)⟩

/-- Scanning answers what it would answer after another refresh. -/
theorem Heard.scan {pair : PicPair} (h : Heard pair) :
    board_pic_scan_interrupt (board_pic_refresh pair) = board_pic_scan_interrupt pair := by
  have hselect : pic_select { pair.master.device with
      cascade_irr := pic_cascade_seen pair.master.device
        (cascade_request pair.slave.device) } = pic_select pair.master.device := by
    obtain hheard | ⟨id, hrequest, hlisten, hquiet, hdeaf⟩ := h.cascade
    · rw [← hheard]
    · rw [hrequest, pic_cascade_seen_line, if_pos hlisten]
      exact pic_select_deaf hlisten hdeaf hquiet
  rw [h.shown.refresh]
  simp only [board_pic_scan_interrupt, hselect]

/-- What a slave asks is one line of the master. -/
theorem cascade_request_cases (slave : Pic) :
    cascade_request slave = 0 ∧
        (pic_select slave = none ∨ pic_cascade_address slave = none) ∨
      ∃ id, pic_cascade_address slave = some id ∧ (pic_select slave).isSome = true ∧
        cascade_request slave = line id := by
  unfold cascade_request
  cases pic_cascade_address slave with
  | none => exact Or.inl ⟨rfl, Or.inr rfl⟩
  | some id =>
    cases pic_select slave with
    | none => exact Or.inl ⟨rfl, Or.inl rfl⟩
    | some request => exact Or.inr ⟨id, rfl, rfl, rfl⟩

theorem line_ne_zero (id : Fin 8) : line id ≠ 0 :=
  ne_zero_iff_lines.mpr ⟨id, by rw [getLsbD_line]; simp⟩

/-! ## The calls that do not refresh -/

/-- The call does not take the slave's request from a master that could deliver it: no
delay of the slave passes for such a master, and no poll of the master answers the
slave's request in a mode that lets the line be requested again at once. -/
def Hears (pair : PicPair) : PicPairOp → Prop
  | .advance elapsed_ticks =>
    ∀ id, pic_cascade_address pair.slave.device = some id →
      pic_select pair.slave.device = none →
      (pic_select (pic_advance pair.slave.device elapsed_ticks)).isSome = true →
      Listens pair.master.device id → Deaf pair.master.device id
  | .read_register .master selector _ =>
    selector = 0 → is_set pair.master.device.ocw3 ocw3_p = true →
      ∀ request, pic_select pair.master.device = some request → request.cascade = true →
        is_set pair.master.device.icw4 icw4_aeoi = false ∧
          is_set pair.master.device.icw4 icw4_sfnm = false
  | _ => True

theorem cascade_request_advance_of_some {slave : Pic} (elapsed_ticks : U64)
    (h : (pic_select slave).isSome = true) :
    cascade_request (pic_advance slave elapsed_ticks) = cascade_request slave := by
  obtain ⟨request, hbefore⟩ := Option.isSome_iff_exists.mp h
  obtain ⟨request', hafter⟩ := Option.isSome_iff_exists.mp (pic_select_advance elapsed_ticks h)
  have haddress : pic_cascade_address (pic_advance slave elapsed_ticks) =
      pic_cascade_address slave := rfl
  unfold cascade_request
  rw [hbefore, hafter, haddress]
  cases pic_cascade_address slave <;> rfl

theorem Heard.advance {pair : PicPair} (h : Heard pair) {elapsed_ticks : U64}
    (hop : Hears pair (.advance elapsed_ticks)) :
    Heard (board_pic_advance pair elapsed_ticks) := by
  refine ⟨board_pic_apply_shown h.shown (.advance elapsed_ticks), ?_⟩
  change pair.master.device.cascade_irr = pic_cascade_seen pair.master.device
      (cascade_request (pic_advance pair.slave.device elapsed_ticks)) ∨
    ∃ id, cascade_request (pic_advance pair.slave.device elapsed_ticks) = line id ∧
      Listens pair.master.device id ∧ pair.master.device.cascade_irr = 0 ∧
      Deaf pair.master.device id
  cases hbefore : pic_select pair.slave.device with
  | some request =>
    rw [cascade_request_advance_of_some elapsed_ticks (by rw [hbefore]; rfl)]
    exact h.cascade
  | none =>
    have hzero : cascade_request pair.slave.device = 0 := by
      unfold cascade_request
      rw [hbefore]
      cases pic_cascade_address pair.slave.device <;> rfl
    have hquiet : pair.master.device.cascade_irr = 0 := by
      obtain hheard | ⟨id, hrequest, -, -, -⟩ := h.cascade
      · rw [hheard, hzero, pic_cascade_seen_zero]
      · exact absurd (hrequest.symm.trans hzero) (line_ne_zero id)
    -- the slave may ask now what it did not ask before
    obtain ⟨hafter, -⟩ | ⟨id, haddress, hsome, hafter⟩ :=
      cascade_request_cases (pic_advance pair.slave.device elapsed_ticks)
    · rw [hafter, pic_cascade_seen_zero]
      exact Or.inl hquiet
    · rw [hafter, pic_cascade_seen_line]
      by_cases hlisten : Listens pair.master.device id
      · exact Or.inr ⟨id, rfl, hlisten, hquiet, hop id haddress hbefore hsome hlisten⟩
      · rw [if_neg hlisten]
        exact Or.inl hquiet

/-- The master answers a request that is not the slave's. -/
theorem Heard.respond_own {pair : PicPair} (h : Heard pair) {request : PicRequest}
    (hselect : pic_select pair.master.device = some request)
    (hown : request.cascade = false) :
    Heard { pair with master := { pair.master with
      device := respond_intr pair.master.device request.line request.cascade } } := by
  obtain ⟨himr, hicw1, hicw3, hicw4, hmaster⟩ :=
    respond_intr_frame pair.master.device request.line request.cascade
  have hirr := respond_intr_cascade_irr pair.master.device request.line request.cascade
  rw [hown, if_neg Bool.false_ne_true, ← hown] at hirr
  refine ⟨⟨h.shown.master.respond_intr _ _, h.shown.slave, h.shown.slave_cascade⟩, ?_⟩
  dsimp only
  rw [hirr]
  unfold pic_cascade_seen Listens Deaf
  rw [hicw1, hicw3, hicw4, hmaster, himr]
  obtain hheard | ⟨id, hrequest, hlisten, hquiet, hdeaf⟩ := h.cascade
  · exact Or.inl hheard
  · refine Or.inr ⟨id, hrequest, hlisten, hquiet, hdeaf.imp_right fun ⟨hserved, hsfnm⟩ => ?_⟩
    -- the deaf line is not the one that is answered, so it stays in service
    have hne : id ≠ request.line := fun hid => by
      have hsel := (pic_select_eq_some hselect).1
      rw [← hid, pic_selects_quiet hlisten (by rw [hquiet]; simp)] at hsel
      exact Bool.false_ne_true hsel
    refine ⟨?_, hsfnm⟩
    exact respond_intr_in_service hne hserved

/-- A poll of the master that answers the slave's request. The line is in service then and
is not selected again. -/
theorem Heard.respond_cascade {pair : PicPair} (h : Heard pair) {request : PicRequest}
    (hselect : pic_select pair.master.device = some request)
    (hcascade : request.cascade = true)
    (haeoi : is_set pair.master.device.icw4 icw4_aeoi = false)
    (hsfnm : is_set pair.master.device.icw4 icw4_sfnm = false) :
    Heard { pair with master := { pair.master with
      device := respond_intr pair.master.device request.line request.cascade } } := by
  obtain ⟨himr, hicw1, hicw3, hicw4, hmaster⟩ :=
    respond_intr_frame pair.master.device request.line request.cascade
  have hirr := respond_intr_cascade_irr pair.master.device request.line request.cascade
  rw [hcascade, if_pos rfl, ← hcascade] at hirr
  have hasked : pair.master.device.cascade_irr.getLsbD request.line.val = true := by
    have hflag := congrArg PicRequest.cascade (pic_select_eq_some hselect).2
    rw [hcascade, pic_request_of, is_set_line] at hflag
    exact (Bool.and_eq_true_iff.mp hflag.symm).2
  have hserved : in_service (respond_intr pair.master.device request.line request.cascade)
      request.line = true := by
    have hwithdraw : (withdraw_request { pair.master.device with
        isr := pair.master.device.isr ||| line request.line } request.line
        request.cascade).isr = pair.master.device.isr ||| line request.line ∧
        (withdraw_request { pair.master.device with
          isr := pair.master.device.isr ||| line request.line } request.line
          request.cascade).icw4 = pair.master.device.icw4 := by
      rw [withdraw_request, if_pos hcascade]
      exact ⟨rfl, rfl⟩
    unfold respond_intr automatic_eoi in_service
    rw [hwithdraw.2, haeoi, if_neg Bool.false_ne_true, hwithdraw.1, getLsbD_set]
    simp
  refine ⟨⟨h.shown.master.respond_intr _ _, h.shown.slave, h.shown.slave_cascade⟩, ?_⟩
  dsimp only
  rw [hirr]
  unfold pic_cascade_seen Listens Deaf
  rw [hicw1, hicw3, hicw4, hmaster, himr]
  obtain hheard | ⟨id, -, -, hquiet, -⟩ := h.cascade
  · obtain ⟨hnone, -⟩ | ⟨id, -, -, hrequest⟩ := cascade_request_cases pair.slave.device
    · rw [hheard, hnone, pic_cascade_seen_zero] at hasked
      simp at hasked
    · -- the slave's line is the one that was answered
      rw [hrequest, pic_cascade_seen_line] at hheard
      by_cases hlisten : Listens pair.master.device id
      · rw [if_pos hlisten] at hheard
        rw [hheard, getLsbD_line, decide_eq_true_eq] at hasked
        subst hasked
        refine Or.inr ⟨_, hrequest, hlisten, ?_, Or.inr ⟨hserved, hsfnm⟩⟩
        rw [hheard]
        apply eq_of_lines
        intro other
        rw [getLsbD_clear, getLsbD_line]
        cases decide (other = request.line) <;> simp
      · rw [if_neg hlisten] at hheard
        rw [hheard] at hasked
        simp at hasked
  · rw [hquiet] at hasked
    simp at hasked

/-- The third operation control word does not matter to the cascade. -/
theorem Heard.set_ocw3 {pair : PicPair} (h : Heard pair) (ocw3 : U8) :
    Heard { pair with master := { pair.master with
      device := { pair.master.device with ocw3 := ocw3 } } } :=
  ⟨⟨⟨h.shown.master.input_levels, h.shown.master.requests⟩, h.shown.slave,
    h.shown.slave_cascade⟩, h.cascade⟩

theorem Heard.read_master {pair : PicPair} (h : Heard pair) {selector value : U8}
    (hop : Hears pair (.read_register .master selector value)) :
    Heard { pair with master := { pair.master with
      device := (pic_read_register pair.master.device selector value).2 } } := by
  obtain ⟨ocw3, hread⟩ | ⟨request, ocw3, hselector, hpoll, hselect, hread⟩ :=
    pic_read_register_cases pair.master.device selector value
  · rw [hread]
    exact h.set_ocw3 ocw3
  · rw [hread]
    cases hcascade : request.cascade with
    | false =>
      have hrespond := h.respond_own hselect hcascade
      rw [hcascade] at hrespond
      exact hrespond.set_ocw3 ocw3
    | true =>
      obtain ⟨haeoi, hsfnm⟩ := hop hselector hpoll request hselect hcascade
      have hrespond := h.respond_cascade hselect hcascade haeoi hsfnm
      rw [hcascade] at hrespond
      exact hrespond.set_ocw3 ocw3

theorem Heard.acknowledge_own {pair : PicPair} (h : Heard pair)
    (hown : (pic_acknowledge pair.master.device).1.cascade = false) :
    Heard { pair with master := { pair.master with
      device := (pic_acknowledge pair.master.device).2 } } := by
  unfold pic_acknowledge at hown ⊢
  cases hselect : pic_select pair.master.device with
  | none => exact h
  | some request =>
    rw [hselect] at hown
    exact h.respond_own hselect hown

/-- One call of a run that keeps the slave's request at the master. -/
theorem board_pic_apply_heard {pair : PicPair} (h : Heard pair) {op : PicPairOp}
    (hop : Hears pair op) : Heard (board_pic_apply pair op) := by
  obtain ⟨pair', happly⟩ | ⟨sources, happly⟩ | ⟨master, slave, happly⟩ | ⟨elapsed_ticks, rfl⟩ |
    ⟨selector, value, rfl, happly⟩ | ⟨hown, happly⟩ := board_pic_apply_cases pair op
  · rw [happly]
    exact board_pic_refresh_heard pair'
  · rw [happly]
    exact ⟨⟨h.shown.master, h.shown.slave, h.shown.slave_cascade⟩, h.cascade⟩
  · have hshown := board_pic_apply_shown h.shown (.set_irq_timing master slave)
    rw [happly]
    exact ⟨hshown, h.cascade⟩
  · exact h.advance hop
  · rw [happly]
    exact h.read_master hop
  · rw [happly]
    exact h.acknowledge_own hown

/-! ## Runs -/

/-- Every call of the run is one that `Hears` where it is made. -/
def HearsAll (pair : PicPair) : List PicPairOp → Prop
  | [] => True
  | op :: ops => Hears pair op ∧ HearsAll (board_pic_apply pair op) ops

theorem run_heard (ops : List PicPairOp) {pair : PicPair} (h : Heard pair)
    (hops : HearsAll pair ops) : Heard (ops.foldl board_pic_apply pair) := by
  induction ops generalizing pair with
  | nil => exact h
  | cons op ops ih => exact ih (board_pic_apply_heard h hops.1) hops.2

/-- While a scan finds an interrupt, peeking answers the vector the next acknowledge
gives. -/
theorem board_pic_peek_eq_get {pair : PicPair} (h : board_pic_scan_interrupt pair = true) :
    board_pic_peek_interrupt pair = (board_pic_get_interrupt pair).1 := by
  unfold board_pic_scan_interrupt at h
  unfold board_pic_peek_interrupt board_pic_get_interrupt pic_acknowledge
  cases hmaster : pic_select pair.master.device with
  | none =>
    rw [hmaster] at h
    exact absurd h Bool.false_ne_true
  | some request =>
    rw [hmaster] at h
    cases hcascade : request.cascade with
    | false => simp only [hcascade, Bool.false_eq_true, if_false]
    | true =>
      simp only [hcascade, Bool.not_true, Bool.false_or] at h
      obtain ⟨request', hslave⟩ := Option.isSome_iff_exists.mp h
      simp only [hcascade, if_true, hslave]

/-- Programs both chips as a PC/AT does, with a delay of five ticks on the slave's lines,
and unmasks line 9 while its source asserts it. -/
def delayed_slave_request : List PicPairOp :=
  [.set_irq_timing (Table.fill 0) (Table.fill 5),
    .write_register .master 0 0x11, .write_register .master 1 0x08,
    .write_register .master 1 0x04, .write_register .master 1 0x01,
    .write_register .slave 0 0x11, .write_register .slave 1 0x70,
    .write_register .slave 1 0x02, .write_register .slave 1 0x01,
    .write_register .slave 1 0xff,
    .irq_source_bind none 9 true, .irq_source_assert 0,
    .write_register .slave 1 0x00]

end Nxvm.BoardBase
