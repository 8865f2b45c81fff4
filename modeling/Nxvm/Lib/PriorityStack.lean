/-
Nested service: a stack of priorities in which each newcomer outranks all of those
below it.

Whoever serves requests by priority, interrupts a service only for a more urgent
request and ends the most urgent service first, keeps such a stack without storing
it: the set of what is in service determines it.
-/
import Mathlib.Data.List.Sort
import Mathlib.Tactic.Common

set_option autoImplicit false

namespace Nxvm.Lib

/-- What is in service, the most urgent first. The least value is the most urgent. -/
structure PriorityStack (α : Type) [LinearOrder α] where
  levels : List α
  nested : levels.Pairwise (· < ·)

namespace PriorityStack

variable {α : Type} [LinearOrder α]

/-- Nothing is in service. -/
def empty : PriorityStack α := ⟨[], List.Pairwise.nil⟩

/-- `a` is more urgent than everything in service. -/
def Admits (s : PriorityStack α) (a : α) : Prop := ∀ b ∈ s.levels, a < b

/-- `a` interrupts what is in service. -/
def push (s : PriorityStack α) (a : α) (h : s.Admits a) : PriorityStack α :=
  ⟨a :: s.levels, List.pairwise_cons.mpr ⟨h, s.nested⟩⟩

/-- What was served last is done. -/
def pop (s : PriorityStack α) : PriorityStack α := ⟨s.levels.tail, s.nested.tail⟩

/-- What was served last. -/
def top (s : PriorityStack α) : Option α := s.levels.head?

/-- The top is the most urgent of what is in service. -/
theorem top_le {s : PriorityStack α} {a b : α} (h : s.top = some a) (hb : b ∈ s.levels) :
    a ≤ b := by
  obtain ⟨levels, nested⟩ := s
  cases levels with
  | nil => cases h
  | cons c rest =>
    cases h
    rcases List.mem_cons.mp hb with rfl | hb
    · exact le_rfl
    · exact ((List.pairwise_cons.mp nested).1 b hb).le

theorem mem_of_top {s : PriorityStack α} {a : α} (h : s.top = some a) : a ∈ s.levels :=
  List.mem_of_mem_head? h

/-- The top is gone, everything else stays. -/
theorem mem_pop {s : PriorityStack α} {b : α} :
    b ∈ s.pop.levels ↔ b ∈ s.levels ∧ s.top ≠ some b := by
  obtain ⟨levels, nested⟩ := s
  cases levels with
  | nil => simp [pop]
  | cons c rest =>
    have hlt := (List.pairwise_cons.mp nested).1
    simp only [pop, top, List.tail_cons, List.mem_cons, List.head?_cons, ne_eq,
      Option.some.injEq]
    constructor
    · exact fun hb => ⟨Or.inr hb, (hlt b hb).ne⟩
    · rintro ⟨rfl | hb, hne⟩
      · exact absurd rfl hne
      · exact hb

theorem top_eq_none {s : PriorityStack α} : s.top = none ↔ ∀ b, b ∉ s.levels := by
  rw [top, List.head?_eq_none_iff, List.eq_nil_iff_forall_not_mem]

/-- The most urgent of what is in service is the top. -/
theorem top_eq_some {s : PriorityStack α} {a : α} (ha : a ∈ s.levels)
    (hle : ∀ b ∈ s.levels, a ≤ b) : s.top = some a := by
  cases h : s.top with
  | none => exact absurd ha (top_eq_none.mp h a)
  | some c => rw [le_antisymm (hle c (mem_of_top h)) (top_le h ha)]

end PriorityStack

end Nxvm.Lib
