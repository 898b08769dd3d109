import LiveTrace.Proofs.Daemon.Verbs
import LiveTrace.Verbosity.Level
/-!
# LiveTrace.Proofs.Daemon.Consistency

**A daemon in memory stays consistent.** Exactly its APIs have levels, and every level is a number
with a name (`Daemon.Consistent`), however the daemon was built and whatever calls it has answered
since, because the only call that touches levels sets those that there are, in range. So what the
daemon tells of a level is a name that a client reads as the level of the same number
(`Daemon.calls_keep_consistent`).
-/

namespace LiveTrace

universe u v w

/-- Tables with values under the same keys list the same keys. -/
theorem Table.keys_eq_of_contains {κ : Type u} {α : Type v} {β : Type w} [Ord κ] [BEq κ]
    [LawfulBEq κ] [Std.TransOrd κ] [Std.LawfulEqOrd κ] {s : Table κ α} {t : Table κ β}
    (h : ∀ k, s.contains k = t.contains k) : s.keys = t.keys := by
  have hsame : s.mapValues (fun _ => ()) = t.mapValues fun _ => () := by
    refine ext_get? fun k => ?_
    have hk := h k
    rw [get?_mapValues, get?_mapValues]
    rw [contains, contains] at hk
    cases hs : s.get? k <;> cases ht : t.get? k <;> simp_all
  have hkeys := congrArg Table.keys hsame
  simpa [keys, mapValues, List.map_map, Function.comp_def] using hkeys

namespace Daemon

/-! ### Names of levels -/

/-- What is told of a level in range is a name. -/
theorem encodeLevel_inRange {n : Int} (h : 0 ≤ n ∧ n ≤ 3) :
    ∃ name, encodeLevel n = .string name := by
  obtain rfl | rfl | rfl | rfl : n = 0 ∨ n = 1 ∨ n = 2 ∨ n = 3 := by omega
  all_goals exact ⟨_, rfl⟩

/-- What is told of a level in range is read as the level of its number. -/
theorem ofJson?_encodeLevel {n : Int} (h : 0 ≤ n ∧ n ≤ 3) :
    VerbosityLevel.ofJson? (encodeLevel n) = some (.ofNumber n) := by
  obtain rfl | rfl | rfl | rfl : n = 0 ∨ n = 1 ∨ n = 2 ∨ n = 3 := by omega
  all_goals decide +kernel

/-! ### Consistent daemons -/

/-- The APIs have levels, nothing else has, and every level has a name. -/
structure Consistent (d : Daemon) : Prop where
  keyed : ∀ name, d.levels.contains name = d.apis.contains name
  inRange : ∀ name level, d.levels.get? name = some level → 0 ≤ level ∧ level ≤ 3
  globalInRange : 0 ≤ d.globalLevel ∧ d.globalLevel ≤ 3

namespace Consistent

variable {d : Daemon}

theorem withApi (h : d.Consistent) (name : String) (description : Json) :
    (d.withApi name description).Consistent where
  keyed other := by
    rw [Daemon.withApi, Table.contains_insert, Table.contains_insert, h.keyed]
  inRange other level hlevel := by
    rw [Daemon.withApi, Table.get?_insert] at hlevel
    split at hlevel
    · cases hlevel
      decide
    · exact h.inRange other level hlevel
  globalInRange := h.globalInRange

theorem setLevel (h : d.Consistent) (name : String) {level : Int}
    (hlevel : 0 ≤ level ∧ level ≤ 3) : (d.setLevel name level).Consistent := by
  unfold Daemon.setLevel
  split
  · exact ⟨h.keyed, h.inRange, hlevel⟩
  · split
    · -- every API gets the level
      refine ⟨fun other => ?_, fun other level' hother => ?_, h.globalInRange⟩
      · rw [← h.keyed, Table.contains, Table.get?_mapValues, Option.isSome_map, Table.contains]
      · rw [Table.get?_mapValues] at hother
        obtain ⟨_, -, rfl⟩ := Option.map_eq_some_iff.1 hother
        exact hlevel
    · split
      · rename_i hcontains
        refine ⟨fun other => ?_, fun other level' hother => ?_, h.globalInRange⟩
        · rw [← h.keyed, Table.contains_insert]
          by_cases hname : other = name <;> simp [hname, hcontains]
        · rw [Table.get?_insert] at hother
          split at hother
          · cases hother
            exact hlevel
          · exact h.inRange other level' hother
      · exact h

/-- **A call keeps a daemon consistent.** -/
theorem call (h : d.Consistent) {apiVerb : String} {d' : Daemon} (hcall : d.IsCall apiVerb d') :
    d'.Consistent := by
  cases hcall with
  | idle => exact h
  | set _ args => exact set_induction h (fun d name level hlevel hd => hd.setLevel name hlevel) args
  | trace | session => exact ⟨h.keyed, h.inRange, h.globalInRange⟩

end Consistent

theorem consistent_new : new.Consistent := by
  refine Consistent.withApi ⟨fun _ => rfl, fun name level hlevel => ?_, by decide⟩ _ _
  contradiction

/-! ### Runs -/

/-- The daemons to start from. -/
inductive Built : Daemon → Prop
  | new : Built new
  | calculator : Built calculator
  | withApi {d : Daemon} (h : Built d) (name : String) (description : Json) :
      Built (d.withApi name description)

theorem Built.consistent {d : Daemon} (h : d.Built) : d.Consistent := by
  induction h with
  | new => exact consistent_new
  | calculator => exact consistent_new.withApi ..
  | withApi _ name description ih => exact ih.withApi name description

/-- What can happen to a daemon. -/
inductive Step
  | call (apiVerb : String) (args : Json)
  /-- From now on calls of a verb fail. -/
  | fail (apiVerb : String)
  | recover (apiVerb : String)

/-- A daemon after a step. -/
def step (d : Daemon) : Step → Daemon
  | .call apiVerb args => (d.handle apiVerb args).2
  | .fail apiVerb => d.fail apiVerb
  | .recover apiVerb => d.recover apiVerb

/-- A daemon after a run. -/
def run (d : Daemon) (steps : List Step) : Daemon := steps.foldl step d

theorem run_induction {motive : Daemon → Prop} {d : Daemon} (start : motive d)
    (keep : ∀ (d : Daemon) (e : Step), motive d → motive (d.step e)) (steps : List Step) :
    motive (d.run steps) := by
  induction steps generalizing d with
  | nil => exact start
  | cons e rest ih => exact ih (keep d e start)

theorem Consistent.step {d : Daemon} (h : d.Consistent) (e : Step) : (d.step e).Consistent := by
  cases e with
  | call apiVerb args => exact h.call (d.isCall apiVerb args)
  | fail | recover => exact ⟨h.keyed, h.inRange, h.globalInRange⟩

theorem apis_step (d : Daemon) (e : Step) : (d.step e).apis = d.apis := by
  cases e with
  | call apiVerb args => exact (d.isCall apiVerb args).apis
  | fail | recover => rfl

theorem apis_run (d : Daemon) (steps : List Step) : (d.run steps).apis = d.apis :=
  run_induction (motive := fun d' => d'.apis = d.apis) rfl
    (fun d' e h => (d'.apis_step e).trans h) steps

/-- **Calls keep a daemon consistent.** Take any daemon that can be built and let it answer any
calls, some of which may be made to fail. Then exactly its APIs have levels, as at the start; its
own level and those of the APIs are in range, and what is told of each is a name that a client reads
as a level of the same number. Whatever call comes next, `set` changes only levels, `trace` only
subscriptions and `session` only the token and the number of its renewals; and calls of all other
verbs and calls that are made to fail change nothing. -/
theorem calls_keep_consistent {built : Daemon} (hbuilt : built.Built) (steps : List Step) :
    let d := built.run steps
    d.levels.keys = d.apis.keys ∧ d.levels.keys = built.levels.keys ∧
      (∀ n ∈ d.globalLevel :: d.levels.values, 0 ≤ n ∧ n ≤ 3 ∧
        ∃ name level, encodeLevel n = .string name ∧
          VerbosityLevel.ofJson? (.string name) = some level ∧ level.number = n) ∧
      ∀ args : Json,
        (∃ levels globalLevel, (d.handle "monitor/set" args).2 = { d with levels, globalLevel }) ∧
          (∃ traces, (d.handle "monitor/trace" args).2 = { d with traces }) ∧
          (∃ token refreshes,
            (d.handle "monitor/session" args).2 = { d with token, refreshes }) ∧
          (∀ apiVerb, apiVerb ≠ "monitor/set" → apiVerb ≠ "monitor/trace" →
            apiVerb ≠ "monitor/session" → (d.handle apiVerb args).2 = d) ∧
          ∀ apiVerb, d.failing.contains apiVerb = true → (d.handle apiVerb args).2 = d := by
  intro d
  have hd : d.Consistent := run_induction hbuilt.consistent (fun _ e h => h.step e) steps
  have hkeys : d.levels.keys = d.apis.keys := Table.keys_eq_of_contains hd.keyed
  have hbuiltKeys : built.levels.keys = built.apis.keys :=
    Table.keys_eq_of_contains hbuilt.consistent.keyed
  have hapis : d.apis = built.apis := built.apis_run steps
  refine ⟨hkeys, by rw [hkeys, hapis, hbuiltKeys], fun n hn => ?_, fun args => ?_⟩
  · have hrange : 0 ≤ n ∧ n ≤ 3 := by
      rcases List.mem_cons.1 hn with rfl | hn
      · exact hd.globalInRange
      · obtain ⟨⟨name, n⟩, hmem, rfl⟩ := List.mem_map.1 hn
        exact hd.inRange name n (Table.get?_eq_some_iff.2 hmem)
    obtain ⟨name, hname⟩ := encodeLevel_inRange hrange
    refine ⟨hrange.1, hrange.2, name, .ofNumber n, hname, hname ▸ ofJson?_encodeLevel hrange, ?_⟩
    rw [VerbosityLevel.number_ofNumber, VerbosityLevel.clamp]
    omega
  · exact ⟨(d.isCall _ args).of_set, (d.isCall _ args).of_trace, (d.isCall _ args).of_session,
      fun apiVerb => (d.isCall apiVerb args).of_other,
      fun apiVerb hfailing => by rw [d.handle_failing hfailing]⟩

/-- APIs of names that mean something else in a request, a request of every kind of name with
numbers out of range, and a verb that fails. -/
theorem calls_keep_consistent_odd_names :
    let built := (calculator.withApi "" .null).withApi "*" .null
    let request : Json := .object [("verbosity", .object [("", .int 9), ("*", .string "DEBUG"),
      ("calc", .int (-3)), ("nobody", .int 2), ("monitor", .null)])]
    let d := built.run [.call "monitor/set" request, .fail "monitor/trace"]
    built.Built ∧ d.levels.keys = d.apis.keys ∧ d.levels.keys = ["", "*", "calc", "monitor"] ∧
      d.levels.values = [3, 3, 0, 3] ∧ d.globalLevel = 3 ∧
      (0 ∈ d.globalLevel :: d.levels.values ∧ ∃ name level, encodeLevel 0 = .string name ∧
        VerbosityLevel.ofJson? (.string name) = some level ∧ level.number = 0) ∧
      (∃ token refreshes,
        (d.handle "monitor/session" (.object [("refresh-token", .bool true)])).2 =
          { d with token, refreshes }) ∧
      ("other/set" ≠ "monitor/set" ∧ "other/set" ≠ "monitor/trace" ∧
        "other/set" ≠ "monitor/session" ∧ (d.handle "other/set" request).2 = d) ∧
      d.failing.contains "monitor/trace" = true ∧
      (d.handle "monitor/trace" (.object [("drop", .bool true)])).2 = d := by
  intro built request d
  have hbuilt : built.Built := (Built.calculator.withApi ..).withApi ..
  have hfailing : d.failing.contains "monitor/trace" = true := by decide +kernel
  have hzero : 0 ∈ d.globalLevel :: d.levels.values := by decide +kernel
  obtain ⟨hkeys, hsame, hlevels, hcalls⟩ :=
    calls_keep_consistent hbuilt [.call "monitor/set" request, .fail "monitor/trace"]
  obtain ⟨-, -, hsession, -, -⟩ := hcalls (.object [("refresh-token", .bool true)])
  obtain ⟨-, -, -, hother, -⟩ := hcalls request
  obtain ⟨-, -, -, -, hidle⟩ := hcalls (.object [("drop", .bool true)])
  exact ⟨hbuilt, hkeys, hsame.trans (by decide +kernel), by decide +kernel, by decide +kernel,
    ⟨hzero, (hlevels 0 hzero).2.2⟩, hsession,
    ⟨by decide, by decide, by decide, hother _ (by decide) (by decide) (by decide)⟩,
    hfailing, hidle _ hfailing⟩

end Daemon

end LiveTrace
