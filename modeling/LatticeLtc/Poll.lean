import LatticeLtc.Model
import Mathlib.Data.ENat.Lattice
import Mathlib.Order.CompletePartialOrder

/-! # Polling until success

`pollUntilSuccess` reads the clock once, then loops while the deadline `start + timeout` is after
the clock's reading: it calls the predicate, ends on `true` with a new line, and otherwise writes a
progress dot (when asked) and sleeps one second. The loop is modelled over any state with a clock and
a terminal (`Host`); it checks the deadline at most `fuel` times, and `none` says the fuel ran out
first.

Against a clock that only `Sleep` moves, by exactly the time slept (`ExactClock`), the loop is the
bounded retry `retry` with `pollBudget timeout` polls, the number of whole seconds `k` with
`k * 1s < timeout`:

* `pollLoop_keeps`: what every step keeps holds over a whole run;
* `pollLoop_cases`: against any clock, a run is some failed polls, then the fuel running out, the
  deadline, or a poll answering `true`;
* `pollLoop_eq_retry`: the loop is the bounded retry, for every fuel above the budget;
* `pollUntilSuccess_stops_in_time`: against a clock only sleeps move, the poll gives up only at
  its deadline, and returns less than one second after it;
* `pollUntilSuccess_terminates`: against any clock that never goes back and that sleeping moves
  forward by at least the time slept (`MonotoneClock`), the loop ends within the budget of polls;
* `pollUntilSuccess_refines_retry`: against such a clock the loop is the bounded retry with some
  number of polls within the budget;
* `pollUntilSuccess_probe`: with a predicate that answers a given sequence, the number of calls,
  the result, the clock readings of the calls and everything written. -/

namespace LatticeLtc.Poll

open LatticeLtc.Go.Strings LatticeLtc.Model

/-- Go's `time.Second`, in nanoseconds. -/
def second : Int := 1000000000

/-- What the poll loop uses of the state of a command: the injected clock and the terminal. -/
structure Host (σ : Type) where
  now : σ → Int
  sleep : Int → σ → σ
  emit : Event → σ → σ

/-- The host on a state with one more variable, which the clock and the terminal leave alone. -/
def Host.withFlag {σ : Type} (h : Host σ) : Host (σ × Bool) where
  now s := h.now s.1
  sleep d s := (h.sleep d s.1, s.2)
  emit e s := (h.emit e s.1, s.2)

variable {σ : Type} (h : Host σ) (pollingFunc : σ → Bool × σ) (outputProgress : Bool)

/-- The progress dot, `ui.Say(".")`. -/
def progressDot : Event := .say (.plain ".".toList)

/-- One turn of the loop after the deadline check: the predicate, and on `false` the progress dot
and the sleep. -/
def pollStep (s : σ) : Bool × σ :=
  match pollingFunc s with
  | (true, s) => (true, s)
  | (false, s) => (false, h.sleep second (if outputProgress then h.emit progressDot s else s))

/-- The loop of `pollUntilSuccess`, checking the deadline at most `fuel` times. -/
def pollLoop (deadline : Int) : Nat → σ → Option Bool × σ
  | 0, s => (none, s)
  | fuel + 1, s =>
    if deadline > h.now s then
      match pollStep h pollingFunc outputProgress s with
      | (true, s) => (some true, h.emit .newLine s)
      | (false, s) => pollLoop deadline fuel s
    else (some false, h.emit .newLine s)

/-- `pollUntilSuccess(pollingFunc, outputProgress)` with the factory's `timeout`. -/
def pollUntilSuccess (timeout : Int) (fuel : Nat) (s : σ) : Option Bool × σ :=
  pollLoop h pollingFunc outputProgress (h.now s + timeout) fuel s

/-! ### What every run keeps -/

section Keeps

variable (R : σ → σ → Prop) (hrefl : ∀ s, R s s) (htrans : ∀ {a b c}, R a b → R b c → R a c)
  (hpoll : ∀ s, R s (pollingFunc s).2) (hsleep : ∀ s, R s (h.sleep second s))
  (hdot : ∀ s, R s (h.emit progressDot s)) (hnl : ∀ s, R s (h.emit .newLine s))

include hrefl htrans hpoll hsleep hdot in
theorem pollStep_keeps (s : σ) : R s (pollStep h pollingFunc outputProgress s).2 := by
  unfold pollStep
  have h₁ := hpoll s
  rcases hp : pollingFunc s with ⟨_ | _, s₁⟩ <;> rw [hp] at h₁
  · show R s (h.sleep second _)
    refine htrans h₁ (htrans ?_ (hsleep _))
    split_ifs
    · exact hdot s₁
    · exact hrefl s₁
  · exact h₁

include hrefl htrans hpoll hsleep hdot hnl in
/-- **A relation that every step of the loop keeps** (the predicate, a dot, a sleep, the new line)
holds from the start to the end of every run. -/
theorem pollLoop_keeps (deadline : Int) :
    ∀ fuel s, R s (pollLoop h pollingFunc outputProgress deadline fuel s).2
  | 0, s => hrefl s
  | fuel + 1, s => by
    have hstep := pollStep_keeps h pollingFunc outputProgress R hrefl htrans hpoll hsleep hdot s
    unfold pollLoop
    split_ifs
    · rcases hs : pollStep h pollingFunc outputProgress s with ⟨_ | _, s'⟩ <;> rw [hs] at hstep
      · exact htrans hstep (pollLoop_keeps deadline fuel s')
      · exact htrans hstep (hnl s')
    · exact hnl s

end Keeps

/-! ### How a run ends -/

/-- What the poller is for: call the predicate at most `n` times, stopping at the first `true`. -/
def retry : Nat → σ → Bool × σ
  | 0, s => (false, h.emit .newLine s)
  | n + 1, s =>
    match pollStep h pollingFunc outputProgress s with
    | (true, s) => (true, h.emit .newLine s)
    | (false, s) => retry n s

/-- The number of polls that fit before a deadline `t` ahead: the whole seconds `k ≥ 0` with
`k * 1s < t`. -/
def pollBudget (t : Int) : Nat := ((t + second - 1) / second).toNat

theorem lt_pollBudget_iff (t : Int) (k : Nat) : k < pollBudget t ↔ (k : Int) * second < t := by
  unfold pollBudget second; omega

theorem pollBudget_of_nonpos {t : Int} (ht : t ≤ 0) : pollBudget t = 0 := by
  unfold pollBudget second; omega

theorem pollBudget_of_pos {t : Int} (ht : 0 < t) : pollBudget t = pollBudget (t - second) + 1 := by
  unfold pollBudget second; omega

/-- The clock of `h` is moved only by `sleep`, by exactly the time slept: the terminal and the
predicate leave it alone. -/
structure ExactClock : Prop where
  now_sleep : ∀ d s, h.now (h.sleep d s) = h.now s + d
  now_emit : ∀ e s, h.now (h.emit e s) = h.now s
  now_poll : ∀ s, h.now (pollingFunc s).2 = h.now s

variable {h pollingFunc}

theorem ExactClock.now_pollStep (hc : ExactClock h pollingFunc) {s s' : σ}
    (hs : pollStep h pollingFunc outputProgress s = (false, s')) : h.now s' = h.now s + second := by
  unfold pollStep at hs
  rcases hp : pollingFunc s with ⟨_ | _, s₁⟩ <;> rw [hp] at hs <;> cases hs
  have := hc.now_poll s
  split_ifs <;> simp_all [hc.now_sleep, hc.now_emit]

/-- **The loop is the bounded retry**: with a clock that only sleeps move, and fuel for more
checks than the polls that fit, the loop ends as `retry` with `pollBudget` polls does. -/
theorem pollLoop_eq_retry (hc : ExactClock h pollingFunc) (deadline : Int) :
    ∀ fuel s, pollBudget (deadline - h.now s) < fuel →
      pollLoop h pollingFunc outputProgress deadline fuel s =
        ((some (retry h pollingFunc outputProgress (pollBudget (deadline - h.now s)) s).1),
          (retry h pollingFunc outputProgress (pollBudget (deadline - h.now s)) s).2)
  | 0, _, hf => absurd hf (Nat.not_lt_zero _)
  | fuel + 1, s, hf => by
    unfold pollLoop
    split_ifs with hd
    · rw [pollBudget_of_pos (by omega), retry]
      rcases hs : pollStep h pollingFunc outputProgress s with ⟨_ | _, s'⟩
      · have hn := hc.now_pollStep outputProgress hs
        have hb : deadline - h.now s - second = deadline - h.now s' := by omega
        simp only [hb]
        exact pollLoop_eq_retry hc deadline fuel s' (by rw [← hb]; rw [pollBudget_of_pos (by omega)] at hf; omega)
      · rfl
    · rw [pollBudget_of_nonpos (by omega)]; rfl

theorem pollStep_eq_true {s s' : σ} (hs : pollStep h pollingFunc outputProgress s = (true, s')) :
    pollingFunc s = (true, s') := by
  unfold pollStep at hs
  rcases hp : pollingFunc s with ⟨_ | _, s₁⟩ <;> rw [hp] at hs <;> cases hs
  rfl

/-- Against a clock that only sleeps move, a run of the loop answers `false` only at or past the
deadline, and ends at the time it started or, having started before the deadline, less than one
second after it: every sleep starts before the deadline. -/
theorem pollLoop_now (hc : ExactClock h pollingFunc) (deadline : Int) :
    ∀ fuel s, ((pollLoop h pollingFunc outputProgress deadline fuel s).1 = some false →
        deadline ≤ h.now (pollLoop h pollingFunc outputProgress deadline fuel s).2) ∧
      (h.now (pollLoop h pollingFunc outputProgress deadline fuel s).2 = h.now s ∨
        (h.now s < deadline ∧ h.now (pollLoop h pollingFunc outputProgress deadline fuel s).2 < deadline + second))
  | 0, _ => ⟨nofun, .inl rfl⟩
  | fuel + 1, s => by
    unfold pollLoop
    split_ifs with hd
    · rcases hs : pollStep h pollingFunc outputProgress s with ⟨_ | _, s'⟩ <;> dsimp only
      · have hn := hc.now_pollStep outputProgress hs
        obtain ⟨hf, h' | ⟨-, h'⟩⟩ := pollLoop_now hc deadline fuel s'
        · exact ⟨hf, .inr ⟨hd, by rw [h', hn]; omega⟩⟩
        · exact ⟨hf, .inr ⟨hd, h'⟩⟩
      · refine ⟨nofun, .inl ?_⟩
        rw [hc.now_emit, ← hc.now_poll s, pollStep_eq_true outputProgress hs]
    · exact ⟨fun _ => by rw [hc.now_emit]; omega, .inl (hc.now_emit _ _)⟩

/-- **The poll waits out its timeout, and less than one second more**: against a clock that only
sleeps move, for every predicate, progress flag and fuel, `pollUntilSuccess` answers `false` only
once the clock reads `start + timeout` or later, and returns without having slept or, for a positive
timeout, less than one second after `start + timeout`. -/
theorem pollUntilSuccess_stops_in_time (hc : ExactClock h pollingFunc) (timeout : Int) (fuel : Nat)
    (s : σ) :
    let r := pollUntilSuccess h pollingFunc outputProgress timeout fuel s
    (r.1 = some false → h.now s + timeout ≤ h.now r.2) ∧
      (h.now r.2 = h.now s ∨ (0 < timeout ∧ h.now r.2 < h.now s + timeout + second)) := by
  obtain ⟨hf, h' | ⟨ht, h'⟩⟩ := pollLoop_now outputProgress hc (h.now s + timeout) fuel s
  · exact ⟨hf, .inl h'⟩
  · exact ⟨hf, .inr ⟨by omega, h'⟩⟩

theorem pollUntilSuccess_stops_in_time_never :
    let h : Host Int := ⟨id, fun d t => t + d, fun _ t => t⟩
    let r := pollUntilSuccess h (fun t => (false, t)) true (5 * second / 2) 10 0
    ExactClock h (fun t => (false, t)) ∧
    (r.1 = some false → h.now 0 + 5 * second / 2 ≤ h.now r.2) ∧
      (h.now r.2 = h.now 0 ∨ (0 < 5 * second / 2 ∧ h.now r.2 < h.now 0 + 5 * second / 2 + second)) := by
  intro h r
  have hc : ExactClock h (fun t => (false, t)) := ⟨fun _ _ => rfl, fun _ _ => rfl, fun _ => rfl⟩
  exact ⟨hc, pollUntilSuccess_stops_in_time true hc (5 * second / 2) 10 0⟩

/-! ### Termination under any clock that sleeping moves forward -/

section Termination

variable (h pollingFunc)

/-- The clock of `h` never goes back, and sleeping moves it forward by at least the time slept; the
predicate and the terminal may take time. -/
structure MonotoneClock : Prop where
  now_sleep : ∀ d s, 0 ≤ d → h.now s + d ≤ h.now (h.sleep d s)
  now_emit : ∀ e s, h.now s ≤ h.now (h.emit e s)
  now_poll : ∀ s, h.now s ≤ h.now (pollingFunc s).2

/-- The host on a state with a count beside it, which the clock and the terminal leave alone. -/
def Host.withCount : Host (σ × Nat) where
  now s := h.now s.1
  sleep d s := (h.sleep d s.1, s.2)
  emit e s := (h.emit e s.1, s.2)

@[simp] theorem withCount_now (s : σ × Nat) : h.withCount.now s = h.now s.1 := rfl

/-- The predicate, counting its calls. -/
def countCalls (s : σ × Nat) : Bool × (σ × Nat) :=
  ((pollingFunc s.1).1, ((pollingFunc s.1).2, s.2 + 1))

theorem pollStep_withCount (s : σ) (n : Nat) :
    pollStep h.withCount (countCalls pollingFunc) outputProgress (s, n) =
      ((pollStep h pollingFunc outputProgress s).1, ((pollStep h pollingFunc outputProgress s).2, n + 1)) := by
  simp only [pollStep, countCalls]
  rcases pollingFunc s with ⟨_ | _, s'⟩
  · split_ifs <;> rfl
  · rfl

/-- Counting the calls changes nothing else in the run. -/
theorem pollLoop_withCount (deadline : Int) : ∀ fuel s n,
    (pollLoop h.withCount (countCalls pollingFunc) outputProgress deadline fuel (s, n)).1 =
      (pollLoop h pollingFunc outputProgress deadline fuel s).1 ∧
    (pollLoop h.withCount (countCalls pollingFunc) outputProgress deadline fuel (s, n)).2.1 =
      (pollLoop h pollingFunc outputProgress deadline fuel s).2
  | 0, s, n => ⟨rfl, rfl⟩
  | fuel + 1, s, n => by
    simp only [pollLoop, pollStep_withCount, withCount_now]
    split_ifs
    · rcases pollStep h pollingFunc outputProgress s with ⟨_ | _, s'⟩
      · exact pollLoop_withCount deadline fuel s' (n + 1)
      · exact ⟨rfl, rfl⟩
    · exact ⟨rfl, rfl⟩

variable {h pollingFunc}

theorem MonotoneClock.now_pollStep (hc : MonotoneClock h pollingFunc) {s s' : σ}
    (hs : pollStep h pollingFunc outputProgress s = (false, s')) : h.now s + second ≤ h.now s' := by
  unfold pollStep at hs
  rcases hp : pollingFunc s with ⟨_ | _, s₁⟩ <;> rw [hp] at hs <;> cases hs
  have h₁ : h.now s ≤ h.now s₁ := by simpa [hp] using hc.now_poll s
  have h₂ : h.now s₁ ≤ h.now (if outputProgress then h.emit progressDot s₁ else s₁) := by
    split_ifs
    · exact hc.now_emit _ _
    · exact le_rfl
  have h₃ := hc.now_sleep second (if outputProgress then h.emit progressDot s₁ else s₁) (by decide)
  omega

theorem pollBudget_lt {t t' : Int} (ht : 0 < t) (h : t' + second ≤ t) : pollBudget t' < pollBudget t := by
  unfold pollBudget second at *; omega

/-- Each poll that fails lowers the polls still fitting before the deadline: the loop ends, after at
most that many calls of the predicate, once it may check the deadline once more. -/
theorem pollLoop_calls_le (hc : MonotoneClock h pollingFunc) (deadline : Int) :
    ∀ fuel s n, pollBudget (deadline - h.now s) < fuel →
      (pollLoop h.withCount (countCalls pollingFunc) outputProgress deadline fuel (s, n)).1.isSome ∧
      (pollLoop h.withCount (countCalls pollingFunc) outputProgress deadline fuel (s, n)).2.2 ≤
        n + pollBudget (deadline - h.now s)
  | 0, _, _, hf => absurd hf (Nat.not_lt_zero _)
  | fuel + 1, s, n, hf => by
    simp only [pollLoop, pollStep_withCount, withCount_now]
    split_ifs with hd
    · have hpos := pollBudget_of_pos (t := deadline - h.now s) (by omega)
      rcases hs : pollStep h pollingFunc outputProgress s with ⟨_ | _, s'⟩ <;> dsimp only
      · have hlt := pollBudget_lt (by omega) (by have := hc.now_pollStep outputProgress hs; omega :
          deadline - h.now s' + second ≤ deadline - h.now s)
        have ih := pollLoop_calls_le hc deadline fuel s' (n + 1) (by omega)
        exact ⟨ih.1, by omega⟩
      · exact ⟨rfl, by dsimp only [Host.withCount]; omega⟩
    · exact ⟨rfl, by dsimp only [Host.withCount]; omega⟩

/-- The loop returns once it may check the deadline more often than the polls that fit. -/
theorem pollUntilSuccess_isSome (hc : MonotoneClock h pollingFunc) (timeout : Int) (fuel : Nat)
    (hfuel : pollBudget timeout < fuel) (s : σ) :
    (pollUntilSuccess h pollingFunc outputProgress timeout fuel s).1.isSome := by
  have hb := (pollLoop_calls_le outputProgress hc (h.now s + timeout) fuel s 0
    (by rwa [add_sub_cancel_left])).1
  rwa [(pollLoop_withCount h pollingFunc outputProgress _ fuel s 0).1] at hb

/-- **The poll loop ends within the polls that fit**: against a clock that never goes back and that
sleeping moves forward by at least the time slept, `pollUntilSuccess` returns for every fuel above
`N`, the number of whole seconds `k` with `k * 1s < timeout`, after at most `N` calls of the
predicate. -/
theorem pollUntilSuccess_terminates (hc : MonotoneClock h pollingFunc) (timeout : Int) (fuel : Nat)
    (hfuel : pollBudget timeout < fuel) (s : σ) :
    (pollUntilSuccess h pollingFunc outputProgress timeout fuel s).1.isSome ∧
      (pollUntilSuccess h.withCount (countCalls pollingFunc) outputProgress timeout fuel (s, 0)).2.2 ≤
        pollBudget timeout := by
  have hb := (pollLoop_calls_le outputProgress hc (h.now s + timeout) fuel s 0
    (by rwa [add_sub_cancel_left])).2
  rw [add_sub_cancel_left] at hb
  exact ⟨pollUntilSuccess_isSome outputProgress hc timeout fuel hfuel s, by simpa [pollUntilSuccess] using hb⟩

theorem pollUntilSuccess_terminates_slow :
    MonotoneClock (⟨id, fun d t => t + 2 * d, fun _ t => t⟩ : Host Int) (fun t => (false, t + 1)) ∧
    (pollUntilSuccess (⟨id, fun d t => t + 2 * d, fun _ t => t⟩ : Host Int) (fun t => (false, t + 1))
        true (3 * second) 4 0).1.isSome ∧
      (pollUntilSuccess (Host.withCount ⟨id, fun d t => t + 2 * d, fun _ t => t⟩)
        (countCalls fun t => (false, t + 1)) true (3 * second) 4 (0, 0)).2.2 ≤ pollBudget (3 * second) := by
  have hc : MonotoneClock (⟨id, fun d t => t + 2 * d, fun _ t => t⟩ : Host Int) (fun t => (false, t + 1)) :=
    ⟨fun d t hd => by dsimp only [id]; omega, fun _ _ => le_rfl, fun t => by dsimp only [id]; omega⟩
  exact ⟨hc, pollUntilSuccess_terminates true hc (3 * second) 4 (by decide) 0⟩

/-- Under a clock that sleeping moves forward the loop is still a bounded retry, now with at most
the polls that fit: each failed poll lowers the budget left, as in `pollLoop_calls_le`. -/
theorem pollLoop_refines_retry (hc : MonotoneClock h pollingFunc) (deadline : Int) :
    ∀ fuel s, pollBudget (deadline - h.now s) < fuel →
      ∃ n ≤ pollBudget (deadline - h.now s), pollLoop h pollingFunc outputProgress deadline fuel s =
        (some (retry h pollingFunc outputProgress n s).1, (retry h pollingFunc outputProgress n s).2)
  | 0, _, hf => absurd hf (Nat.not_lt_zero _)
  | fuel + 1, s, hf => by
    unfold pollLoop
    split_ifs with hd
    · have hpos := pollBudget_of_pos (t := deadline - h.now s) (by omega)
      rcases hs : pollStep h pollingFunc outputProgress s with ⟨_ | _, s'⟩ <;> dsimp only
      · have hlt := pollBudget_lt (by omega) (by have := hc.now_pollStep outputProgress hs; omega :
          deadline - h.now s' + second ≤ deadline - h.now s)
        obtain ⟨n, hn, hrun⟩ := pollLoop_refines_retry hc deadline fuel s' (by omega)
        exact ⟨n + 1, by omega, by rw [hrun, retry, hs]⟩
      · exact ⟨1, by omega, by rw [retry, hs]⟩
    · exact ⟨0, Nat.zero_le _, rfl⟩

/-- **`pollUntilSuccess` refines the bounded retry**: against any clock that never goes back and
that sleeping moves forward by at least the time slept, and with fuel for more checks than the polls
that fit, the command's poller ends exactly as `retry` does for some number of polls within
`pollBudget timeout`: the same answer, the same predicate calls, dots and final new line. -/
theorem pollUntilSuccess_refines_retry (hc : MonotoneClock h pollingFunc) (timeout : Int) (fuel : Nat)
    (hfuel : pollBudget timeout < fuel) (s : σ) :
    ∃ n ≤ pollBudget timeout, pollUntilSuccess h pollingFunc outputProgress timeout fuel s =
      (some (retry h pollingFunc outputProgress n s).1, (retry h pollingFunc outputProgress n s).2) := by
  have hrun := pollLoop_refines_retry outputProgress hc (h.now s + timeout) fuel s
    (by rwa [add_sub_cancel_left])
  rwa [add_sub_cancel_left] at hrun

theorem pollUntilSuccess_refines_retry_slow :
    MonotoneClock (⟨id, fun d t => t + 2 * d, fun _ t => t⟩ : Host Int) (fun t => (t ≥ 3 * second, t + 1)) ∧
    ∃ n ≤ pollBudget (5 * second),
      pollUntilSuccess (⟨id, fun d t => t + 2 * d, fun _ t => t⟩ : Host Int)
          (fun t => (t ≥ 3 * second, t + 1)) false (5 * second) 6 0 =
        (some (retry (⟨id, fun d t => t + 2 * d, fun _ t => t⟩ : Host Int)
          (fun t => (t ≥ 3 * second, t + 1)) false n 0).1,
          (retry (⟨id, fun d t => t + 2 * d, fun _ t => t⟩ : Host Int)
            (fun t => (t ≥ 3 * second, t + 1)) false n 0).2) := by
  have hc : MonotoneClock (⟨id, fun d t => t + 2 * d, fun _ t => t⟩ : Host Int)
      (fun t => (t ≥ 3 * second, t + 1)) :=
    ⟨fun d t hd => by dsimp only [id]; omega, fun _ _ => le_rfl, fun t => by dsimp only [id]; omega⟩
  exact ⟨hc, pollUntilSuccess_refines_retry false hc (5 * second) 6 (by decide) 0⟩

end Termination

/-! ### A run observed -/

/-- An observer of one run of the poller: the clock, the clock readings at which the predicate was
called, and the calls made on the terminal. -/
structure Probe where
  now : Int
  calls : List Int
  out : List Event

/-- The clock and the terminal of a probe. -/
def probeHost : Host Probe where
  now s := s.now
  sleep d s := { s with now := s.now + d }
  emit e s := { s with out := s.out ++ [e] }

/-- The predicate whose `i`-th call answers `rs i`. -/
def probePred (rs : Nat → Bool) (s : Probe) : Bool × Probe :=
  (rs s.calls.length, { s with calls := s.calls ++ [s.now] })

theorem exactClock_probe (rs : Nat → Bool) : ExactClock probeHost (probePred rs) :=
  ⟨fun _ _ => rfl, fun _ _ => rfl, fun _ => rfl⟩

/-- The clock readings `t, t + 1s, …` of `c` polls one second apart. -/
def pollTimes (t : Int) : Nat → List Int
  | 0 => []
  | c + 1 => t :: pollTimes (t + second) c

theorem length_pollTimes (t : Int) (c : Nat) : (pollTimes t c).length = c := by
  induction c generalizing t <;> simp [pollTimes, *]

theorem mem_pollTimes {x t : Int} {c : Nat} (hx : x ∈ pollTimes t c) : ∃ i < c, x = t + i * second := by
  induction c generalizing t with
  | zero => cases hx
  | succ c ih =>
    rcases List.mem_cons.mp hx with rfl | hx
    · exact ⟨0, by omega, by simp⟩
    · obtain ⟨i, hi, rfl⟩ := ih hx
      exact ⟨i + 1, by omega, by push_cast; ring⟩

/-- The bounded retry on a probe whose first `k` answers are `false`, and whose next one is `true`
if it comes within the `n` polls. -/
theorem retry_probe (rs : Nat → Bool) : ∀ (n k : Nat) (s : Probe), k ≤ n →
    (∀ i < k, rs (s.calls.length + i) = false) → (k < n → rs (s.calls.length + k) = true) →
    retry probeHost (probePred rs) true n s =
      (decide (k < n), ⟨s.now + k * second, s.calls ++ pollTimes s.now (if k < n then k + 1 else k),
        s.out ++ List.replicate k progressDot ++ [.newLine]⟩)
  | 0, k, s, hk, _, _ => by
    obtain rfl : k = 0 := by omega
    simp [retry, probeHost, pollTimes]
  | n + 1, 0, s, _, _, htrue => by
    have h0 : rs s.calls.length = true := htrue (by omega)
    simp [retry, pollStep, probePred, probeHost, h0, pollTimes]
  | n + 1, k + 1, s, hk, hfalse, htrue => by
    have h0 : rs s.calls.length = false := hfalse 0 (by omega)
    rw [retry, pollStep, probePred, h0]
    simp only [if_true]
    rw [retry_probe rs n k _ (by omega) (fun i hi => by
        simpa [probeHost, Nat.add_assoc, Nat.add_comm 1] using hfalse (i + 1) (by omega))
      (fun hkn => by simpa [probeHost, Nat.add_assoc, Nat.add_comm 1] using htrue (by omega))]
    have hc : pollTimes s.now (if k + 1 < n + 1 then k + 1 + 1 else k + 1) =
        s.now :: pollTimes (s.now + second) (if k < n then k + 1 else k) := by
      split_ifs <;> first | omega | rfl
    simp only [probeHost, hc, decide_eq_decide, List.append_assoc, List.singleton_append,
      List.replicate_succ, Prod.mk.injEq, Probe.mk.injEq]
    exact ⟨by omega, by push_cast; ring, trivial, trivial⟩

/-- `j` is the position, counted from `1`, of the first `true` answer of `rs`, and `⊤` when there is
none. -/
def FirstTrue (rs : Nat → Bool) (j : ℕ∞) : Prop :=
  j ≠ 0 ∧ (∀ i : Nat, ((i + 1 : Nat) : ℕ∞) < j → rs i = false) ∧
    ∀ i : Nat, ((i + 1 : Nat) : ℕ∞) = j → rs i = true

/-- The answers before the first `true`, cut at the `N` polls: `k ≤ N` answers `false`, then a
`true` if `k < N`; the polls made, and whether the last was `true`, in terms of `j`. -/
theorem FirstTrue.cut {rs : Nat → Bool} {j : ℕ∞} (hj : FirstTrue rs j) (N : Nat) :
    ∃ k ≤ N, (∀ i < k, rs i = false) ∧ (k < N → rs k = true) ∧
      (((if k < N then k + 1 else k : Nat) : ℕ∞) = min j N) ∧ (decide (k < N) = decide (j ≤ N)) := by
  obtain ⟨hj0, hfalse, htrue⟩ := hj
  induction j using ENat.recTopCoe with
  | top =>
    exact ⟨N, le_rfl, fun i _ => hfalse i (ENat.coe_lt_top _), fun h => absurd h (lt_irrefl _),
      by simp, by simp⟩
  | coe m =>
    have hm : m ≠ 0 := by rintro rfl; exact hj0 rfl
    obtain ⟨m, rfl⟩ : ∃ m', m = m' + 1 := ⟨m - 1, by omega⟩
    refine ⟨min m N, min_le_right _ _, fun i hi => hfalse i (ENat.coe_lt_coe.mpr (by omega)),
      fun h => ?_, ?_, ?_⟩
    · rw [min_eq_left (show m ≤ N by omega)]; exact htrue m rfl
    · rcases Nat.lt_or_ge m N with h | h
      · rw [min_eq_left (ENat.coe_le_coe.mpr h), if_pos (show min m N < N by omega),
          min_eq_left (show m ≤ N by omega)]
      · rw [min_eq_right (ENat.coe_le_coe.mpr (show N ≤ m + 1 by omega)),
          if_neg (show ¬ min m N < N by omega), min_eq_right h]
    · simp only [decide_eq_decide, ENat.coe_le_coe]; omega

/-- **`pollUntilSuccess` against a clock only sleeps move**, with a predicate answering `rs`: it
calls the predicate `min j N` times, `N` the polls that fit in the timeout, returns whether `j ≤ N`,
calls it only before the deadline, and writes a dot for every `false` it saw and then one new line. -/
theorem pollUntilSuccess_probe (timeout t0 : Int) (rs : Nat → Bool) (out : List Event) (j : ℕ∞)
    (hj : FirstTrue rs j) (fuel : Nat) (hfuel : pollBudget timeout < fuel) :
    let r := pollUntilSuccess probeHost (probePred rs) true timeout fuel ⟨t0, [], out⟩
    (r.2.calls.length : ℕ∞) = min j (pollBudget timeout) ∧
      r.1 = some (decide (j ≤ pollBudget timeout)) ∧
      (∀ c ∈ r.2.calls, c < t0 + timeout) ∧
      r.2.out = out ++ List.replicate (r.2.calls.length - if r.1 = some true then 1 else 0)
        progressDot ++ [.newLine] := by
  obtain ⟨k, hk, hfalse, htrue, hcalls, hres⟩ := hj.cut (pollBudget timeout)
  have hrun := pollLoop_eq_retry true (exactClock_probe rs) (t0 + timeout) fuel ⟨t0, [], out⟩
    (by show pollBudget (t0 + timeout - t0) < fuel; rwa [add_sub_cancel_left])
  rw [show probeHost.now ⟨t0, [], out⟩ = t0 from rfl, add_sub_cancel_left,
    retry_probe rs _ k _ hk (by simpa using hfalse) (by simpa using htrue)] at hrun
  simp only [pollUntilSuccess, show probeHost.now ⟨t0, [], out⟩ = t0 from rfl, hrun, List.nil_append,
    length_pollTimes, Option.some.injEq]
  refine ⟨hcalls, hres, fun c hc => ?_, ?_⟩
  · obtain ⟨i, hi, rfl⟩ := mem_pollTimes hc
    have := (lt_pollBudget_iff timeout i).mp (by split_ifs at hi <;> omega)
    omega
  · congr 2
    by_cases hk' : k < pollBudget timeout <;> simp [hk']

theorem pollUntilSuccess_probe_third :
    let r := pollUntilSuccess probeHost (probePred fun i => i == 2) true (5 * second) 6 ⟨0, [], []⟩
    (r.2.calls.length : ℕ∞) = min 3 (pollBudget (5 * second)) ∧
      r.1 = some (decide ((3 : ℕ∞) ≤ pollBudget (5 * second))) ∧
      (∀ c ∈ r.2.calls, c < 0 + 5 * second) ∧
      r.2.out = [] ++ List.replicate (r.2.calls.length - if r.1 = some true then 1 else 0)
        progressDot ++ [.newLine] :=
  pollUntilSuccess_probe (5 * second) 0 (fun i => i == 2) [] 3
    ⟨by decide, fun i hi => by
      have : i + 1 < 3 := by exact_mod_cast hi
      simp only [beq_eq_false_iff_ne]; omega,
     fun i hi => by
      have : i + 1 = 3 := by exact_mod_cast hi
      simp only [beq_iff_eq]; omega⟩
    6 (by decide)

end LatticeLtc.Poll
