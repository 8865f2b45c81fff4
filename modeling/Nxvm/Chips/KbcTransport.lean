/-
The transport of the keyboard controller, without the controller.

A FIFO and one place for a waiting reply: a reply that is handed over takes the place if it
is free and is dropped otherwise, and a waiting reply is published whole. As long as
nothing is cleared, every reply that took the place is published once, in order, or still
waits; and what was put into the FIFO was taken from it or is still in it, in order.
-/
import Nxvm.Chips.Kbc

set_option autoImplicit false

namespace Nxvm.Chips

/-! ## The machine -/

/-- The FIFO and the waiting reply. -/
structure KbcTransport where
  fifo : List KbcEntry
  waiting : Option KbcReply
  deriving DecidableEq

/-- One event; `none` where it cannot happen. -/
def KbcTransport.step (t : KbcTransport) : KbcEvent → Option KbcTransport
  | .handed reply => some { t with waiting := t.waiting.or (some reply) }
  | .published reply =>
    if t.waiting = some reply then some { fifo := t.fifo ++ reply.entries, waiting := none }
    else none
  | .queued entry => some { t with fifo := t.fifo ++ [entry] }
  | .taken entry =>
    if t.fifo.head? = some entry then some { t with fifo := t.fifo.tail } else none
  | .cleared => some { fifo := [], waiting := none }

/-- A journal, event by event. -/
def KbcTransport.run : KbcTransport → List KbcEvent → Option KbcTransport
  | t, [] => some t
  | t, event :: events => (t.step event).bind fun t => t.run events

theorem KbcTransport.run_append (t : KbcTransport) (events events' : List KbcEvent) :
    t.run (events ++ events') = (t.run events).bind fun t => t.run events' := by
  induction events generalizing t with
  | nil => rfl
  | cons event events ih =>
    simp only [List.cons_append, KbcTransport.run]
    cases t.step event with
    | none => rfl
    | some t => exact ih t

/-! ## Replies -/

/-- The replies that take the place. -/
def KbcTransport.accepted : KbcTransport → List KbcEvent → List KbcReply
  | _, [] => []
  | t, event :: events =>
    (match event with
      | .handed reply => if t.waiting.isNone then [reply] else []
      | _ => []) ++
      (match t.step event with
        | none => []
        | some t => t.accepted events)

/-- The replies that are published. -/
def published (events : List KbcEvent) : List KbcReply :=
  events.filterMap fun
    | .published reply => some reply
    | _ => none

/-- Every accepted reply is published once, in order, or is the one that waits. -/
theorem KbcTransport.replies_conserved {t t' : KbcTransport} {events : List KbcEvent}
    (hrun : t.run events = some t') (hcleared : .cleared ∉ events) :
    t.waiting.toList ++ t.accepted events = published events ++ t'.waiting.toList := by
  induction events generalizing t with
  | nil =>
    obtain rfl : t = t' := Option.some.inj hrun
    simp [KbcTransport.accepted, published]
  | cons event events ih =>
    rw [List.mem_cons, not_or] at hcleared
    simp only [KbcTransport.run] at hrun
    obtain ⟨mid, hstep, hrest⟩ := Option.bind_eq_some_iff.mp hrun
    have hmid := ih hrest hcleared.2
    simp only [KbcTransport.accepted, hstep]
    cases event with
    | handed reply =>
      obtain rfl : _ = mid := Option.some.inj hstep
      cases hwaiting : t.waiting with
      | none =>
        simp only [hwaiting] at hmid ⊢
        exact hmid
      | some other =>
        simp only [hwaiting] at hmid ⊢
        exact hmid
    | published reply =>
      simp only [KbcTransport.step] at hstep
      split_ifs at hstep with hwaiting
      obtain rfl := Option.some.inj hstep
      rw [hwaiting]
      change reply :: _ = reply :: _
      exact congrArg (reply :: ·) hmid
    | queued entry =>
      obtain rfl : _ = mid := Option.some.inj hstep
      exact hmid
    | taken entry =>
      simp only [KbcTransport.step] at hstep
      split_ifs at hstep with hhead
      obtain rfl := Option.some.inj hstep
      exact hmid
    | cleared => exact absurd rfl hcleared.1

/-- The reply that waits is the next one that is published. -/
theorem KbcTransport.first_published {t t' : KbcTransport} {events : List KbcEvent}
    (hrun : t.run events = some t') (hcleared : .cleared ∉ events) {reply : KbcReply}
    (hwaiting : t.waiting = some reply) :
    (published events = [] ∧ t'.waiting = some reply) ∨
      ∃ mid rest, events = mid ++ .published reply :: rest ∧ published mid = [] := by
  induction events generalizing t with
  | nil =>
    obtain rfl : t = t' := Option.some.inj hrun
    exact Or.inl ⟨rfl, hwaiting⟩
  | cons event events ih =>
    rw [List.mem_cons, not_or] at hcleared
    simp only [KbcTransport.run] at hrun
    obtain ⟨next, hstep, hrest⟩ := Option.bind_eq_some_iff.mp hrun
    have hon (hnext : next.waiting = some reply) (hother : published [event] = []) :
        (published (event :: events) = [] ∧ t'.waiting = some reply) ∨
          ∃ mid rest, event :: events = mid ++ .published reply :: rest ∧ published mid = [] := by
      have hcons (events : List KbcEvent) :
          published (event :: events) = published [event] ++ published events :=
        List.filterMap_append (l := [event])
      obtain ⟨hnone, hend⟩ | ⟨mid, rest, hevents, hmid⟩ := ih hrest hcleared.2 hnext
      · exact Or.inl ⟨by rw [hcons, hother, hnone]; rfl, hend⟩
      · exact Or.inr ⟨event :: mid, rest, by rw [hevents]; rfl, by rw [hcons, hother, hmid]; rfl⟩
    cases event with
    | handed other =>
      obtain rfl := Option.some.inj hstep
      exact hon (by rw [hwaiting]; rfl) rfl
    | published other =>
      simp only [KbcTransport.step] at hstep
      split_ifs at hstep with hother
      obtain rfl : reply = other := Option.some.inj (hwaiting.symm.trans hother)
      exact Or.inr ⟨[], events, rfl, rfl⟩
    | queued entry =>
      obtain rfl := Option.some.inj hstep
      exact hon hwaiting rfl
    | taken entry =>
      simp only [KbcTransport.step] at hstep
      split_ifs at hstep with hhead
      obtain rfl := Option.some.inj hstep
      exact hon hwaiting rfl
    | cleared => exact absurd rfl hcleared.1

/-! ## Bytes -/

/-- The bytes that are put into the FIFO. -/
def placed (events : List KbcEvent) : List KbcEntry :=
  events.flatMap fun
    | .published reply => reply.entries
    | .queued entry => [entry]
    | _ => []

/-- The bytes that are taken from the FIFO. -/
def taken (events : List KbcEvent) : List KbcEntry :=
  events.filterMap fun
    | .taken entry => some entry
    | _ => none

/-- What was put into the FIFO is taken from it in order, or is still in it. -/
theorem KbcTransport.bytes_conserved {t t' : KbcTransport} {events : List KbcEvent}
    (hrun : t.run events = some t') (hcleared : .cleared ∉ events) :
    t.fifo ++ placed events = taken events ++ t'.fifo := by
  induction events generalizing t with
  | nil =>
    obtain rfl : t = t' := Option.some.inj hrun
    simp [placed, taken]
  | cons event events ih =>
    rw [List.mem_cons, not_or] at hcleared
    simp only [KbcTransport.run] at hrun
    obtain ⟨mid, hstep, hrest⟩ := Option.bind_eq_some_iff.mp hrun
    have hmid := ih hrest hcleared.2
    cases event with
    | handed reply =>
      obtain rfl : _ = mid := Option.some.inj hstep
      exact hmid
    | published reply =>
      simp only [KbcTransport.step] at hstep
      split_ifs at hstep with hwaiting
      obtain rfl := Option.some.inj hstep
      change t.fifo ++ (reply.entries ++ placed events) = taken events ++ t'.fifo
      rw [← List.append_assoc]
      exact hmid
    | queued entry =>
      obtain rfl : _ = mid := Option.some.inj hstep
      change t.fifo ++ ([entry] ++ placed events) = taken events ++ t'.fifo
      rw [← List.append_assoc]
      exact hmid
    | taken entry =>
      simp only [KbcTransport.step] at hstep
      split_ifs at hstep with hhead
      obtain rfl := Option.some.inj hstep
      obtain ⟨rest, hfifo⟩ := List.head?_eq_some_iff.mp hhead
      rw [hfifo] at hmid ⊢
      exact congrArg (entry :: ·) hmid
    | cleared => exact absurd rfl hcleared.1

end Nxvm.Chips
