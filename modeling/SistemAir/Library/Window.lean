import Mathlib.Data.List.Basic
import Mathlib.Algebra.Order.Ring.Int

/-! Counting events in a moving window. An event is recorded only after a look at the
window that ends at the look; the bound holds for the windows that end anywhere. -/
namespace SlidingWindow

def inside (width now time : Int) : Bool := now - width < time && time ≤ now

def Bounded (limit : Nat) (width : Int) (times : List Int) : Prop :=
  ∀ now, (times.filter (inside width now)).length ≤ limit

variable {limit : Nat} {width : Int} {times : List Int}

theorem bounded_nil : Bounded limit width [] := fun _ => Nat.zero_le _

/-- The events a later window holds were seen by an earlier look, which has no upper end. -/
theorem length_inside_le (width : Int) {look now : Int} (h : look ≤ now) (times : List Int) :
    (times.filter (inside width now)).length ≤
      (times.filter fun time => look - width < time).length := by
  refine (List.monotone_filter_right times fun time htime => ?_).length_le
  simp only [inside, Bool.and_eq_true, decide_eq_true_eq] at htime ⊢
  omega

theorem Bounded.append {look time : Int} (h : Bounded limit width times)
    (hfew : (times.filter fun time => look - width < time).length < limit) (hle : look ≤ time) :
    Bounded limit width (times ++ [time]) := by
  intro now
  rw [List.filter_append, List.length_append]
  by_cases hnow : time ≤ now
  · have hold := length_inside_le width (hle.trans hnow) times
    have hnew : ([time].filter (inside width now)).length ≤ 1 :=
      List.length_filter_le (inside width now) [time]
    omega
  · have hnew : [time].filter (inside width now) = [] := by
      simp [inside, hnow]
    have hold := h now
    rw [hnew]
    exact hold

/-! Several looks may come before the first of their events. -/

/-- The windows are bounded, and would be if `pending` more events came at any time from `now`
on. -/
structure Reserved (limit pending : Nat) (width now : Int) (times : List Int) : Prop where
  bounded : Bounded limit width times
  ahead : ∀ later, now ≤ later → (times.filter (inside width later)).length + pending ≤ limit

section Reserved
variable {pending : Nat} {now : Int}

theorem Reserved.tick (h : Reserved limit pending width now times) {now' : Int}
    (hle : now ≤ now') : Reserved limit pending width now' times :=
  ⟨h.bounded, fun later hlater => h.ahead later (hle.trans hlater)⟩

theorem Reserved.fewer (h : Reserved limit pending width now times) {pending' : Nat}
    (hle : pending' ≤ pending) : Reserved limit pending' width now times := by
  refine ⟨h.bounded, fun later hlater => ?_⟩
  have hahead := h.ahead later hlater
  omega

theorem Bounded.reserve (h : Bounded limit width times)
    (hfew : (times.filter fun time => now - width < time).length + pending ≤ limit) :
    Reserved limit pending width now times := by
  refine ⟨h, fun later hlater => ?_⟩
  have hinside := length_inside_le width hlater times
  omega

theorem Reserved.record (h : Reserved limit (pending + 1) width now times) :
    Reserved limit pending width now (times ++ [now]) := by
  have hnew (later : Int) : ([now].filter (inside width later)).length ≤ 1 :=
    List.length_filter_le (inside width later) [now]
  constructor
  · intro later
    rw [List.filter_append, List.length_append]
    by_cases hlater : now ≤ later
    · have hahead := h.ahead later hlater
      have hone := hnew later
      omega
    · have hnone : [now].filter (inside width later) = [] := by
        simp [inside, hlater]
      have hold := h.bounded later
      rw [hnone]
      exact hold
  · intro later hlater
    rw [List.filter_append, List.length_append]
    have hahead := h.ahead later hlater
    have hone := hnew later
    omega

end Reserved

end SlidingWindow
