import Mathlib.Data.List.Infix
import Mathlib.Data.String.Basic
import LiveTrace.Daemon
/-!
# LiveTrace.Proofs.Daemon.Verbs

**What a call can do to a daemon.** Each verb has a part of the daemon that is its own, and a call
changes nothing else (`Daemon.isCall`): `set` has the levels, `trace` the subscriptions and
`session` the token. Whatever comes to levels comes one name at a time and in range
(`Daemon.setLevels_induction`). What calls keep is derived from these two.
-/

namespace LiveTrace

theorem Text.strip?_eq_some {front s rest : String} :
    strip? front s = some rest ↔ s = front ++ rest := by
  rw [strip?, Option.map_eq_some_iff]
  constructor
  · rintro ⟨cs, hcs, rfl⟩
    rw [List.isPrefixOf?_eq_some_iff_append_eq] at hcs
    rw [← String.toList_inj, String.toList_append, String.toList_ofList, hcs]
  · rintro rfl
    refine ⟨rest.toList, ?_, String.ofList_toList⟩
    rw [List.isPrefixOf?_eq_some_iff_append_eq, String.toList_append]

namespace Daemon

/-! ### Levels that are asked for -/

theorem levelOfName?_inRange {name : String} {level : Int} (h : levelOfName? name = some level) :
    0 ≤ level ∧ level ≤ 3 := by
  unfold levelOfName? at h
  split at h
  · cases h; decide
  · split at h
    · cases h; decide
    · split at h
      · cases h; decide
      · split at h
        · cases h; decide
        · contradiction

theorem decodeLevel?_inRange {v : Json} {level : Int} (h : decodeLevel? v = some level) :
    0 ≤ level ∧ level ≤ 3 := by
  unfold decodeLevel? at h
  split at h
  · exact levelOfName?_inRange h
  · obtain ⟨n, -, rfl⟩ := Option.map_eq_some_iff.1 h
    omega

/-- What is kept whenever one level is set in range is kept by every request. -/
theorem setLevels_induction {motive : Daemon → Prop} {d : Daemon} (start : motive d)
    (keep : ∀ (d : Daemon) (name : String) (level : Int), 0 ≤ level ∧ level ≤ 3 → motive d →
      motive (d.setLevel name level)) (v : Json) : motive (d.setLevels v) := by
  unfold setLevels
  split
  · rename_i levels
    induction levels generalizing d with
    | nil => exact start
    | cons e rest ih =>
      rw [List.foldl_cons]
      cases hlevel : decodeLevel? e.2 with
      | none => exact ih start
      | some level => exact ih (keep d e.1 level (decodeLevel?_inRange hlevel) start)
  · cases hlevel : decodeLevel? v with
    | none => exact start
    | some level =>
      have hrange := decodeLevel?_inRange hlevel
      exact keep _ "*" level hrange (keep d "" level hrange start)

theorem set_induction {motive : Daemon → Prop} {d : Daemon} (start : motive d)
    (keep : ∀ (d : Daemon) (name : String) (level : Int), 0 ≤ level ∧ level ≤ 3 → motive d →
      motive (d.setLevel name level)) (args : Json) : motive (d.set args) := by
  unfold set
  cases args.get? "verbosity" with
  | none => exact start
  | some v => exact setLevels_induction start keep v

theorem setLevel_frame (d : Daemon) (name : String) (level : Int) :
    ∃ levels globalLevel, d.setLevel name level = { d with levels, globalLevel } := by
  unfold setLevel
  split
  · exact ⟨d.levels, level, rfl⟩
  · split
    · exact ⟨_, d.globalLevel, rfl⟩
    · split <;> exact ⟨_, d.globalLevel, rfl⟩

theorem set_frame (d : Daemon) (args : Json) :
    ∃ levels globalLevel, d.set args = { d with levels, globalLevel } := by
  refine set_induction (motive := fun d' => ∃ levels globalLevel, d' = { d with levels, globalLevel })
    ⟨_, _, rfl⟩ ?_ args
  rintro _ name level - ⟨levels, globalLevel, rfl⟩
  obtain ⟨levels', globalLevel', hset⟩ :=
    setLevel_frame { d with levels, globalLevel } name level
  exact ⟨levels', globalLevel', hset⟩

/-! ### Calls -/

theorem verb?_eq_some {apiVerb verb : String} :
    verb? apiVerb = some verb ↔ apiVerb = "monitor/" ++ verb :=
  Text.strip?_eq_some

theorem handle_failing (d : Daemon) {apiVerb : String} (h : d.failing.contains apiVerb = true)
    (args : Json) : d.handle apiVerb args = (refuse "injected failure", d) := if_pos h

/-- What a call can do to a daemon. -/
inductive IsCall (d : Daemon) (apiVerb : String) : Daemon → Prop
  /-- Nothing, as with all calls that fail, that read, or that are of no known verb. -/
  | idle : IsCall d apiVerb d
  | set (h : apiVerb = "monitor/set") (args : Json) : IsCall d apiVerb (d.set args)
  | trace (h : apiVerb = "monitor/trace") (traces : Table String Unit) :
      IsCall d apiVerb { d with traces }
  | session (h : apiVerb = "monitor/session") : IsCall d apiVerb d.refreshToken

theorem dropTraces_frame (d : Daemon) (specification : Option Json) :
    ∃ traces, (d.dropTraces specification).2 = { d with traces } := by
  unfold dropTraces
  split
  · exact ⟨_, rfl⟩
  · exact ⟨_, rfl⟩
  · dsimp only
    split <;> exact ⟨_, rfl⟩

theorem trace_frame (d : Daemon) (args : Json) :
    ∃ traces, (d.trace args).2 = { d with traces } := by
  unfold trace
  split
  · exact d.dropTraces_frame _
  · split
    · rename_i tag _
      exact dropTraces_frame { d with traces := d.traces.insert tag () } _
    · exact ⟨_, rfl⟩

/-- **A call changes only what its verb is for.** -/
theorem isCall (d : Daemon) (apiVerb : String) (args : Json) :
    d.IsCall apiVerb (d.handle apiVerb args).2 := by
  unfold handle
  split
  · exact .idle
  · split
    · exact .idle
    · rename_i hverb
      exact .set (verb?_eq_some.1 hverb) args
    · rename_i hverb
      obtain ⟨traces, htraces⟩ := d.trace_frame args
      rw [htraces]
      exact .trace (verb?_eq_some.1 hverb) traces
    · rename_i hverb
      show d.IsCall apiVerb (if _ then d.refreshToken else d)
      split
      · exact .session (verb?_eq_some.1 hverb)
      · exact .idle
    · exact .idle

namespace IsCall

variable {d d' : Daemon} {apiVerb : String}

theorem apis (h : d.IsCall apiVerb d') : d'.apis = d.apis := by
  cases h with
  | idle | trace | session => rfl
  | set _ args =>
    obtain ⟨levels, globalLevel, hset⟩ := d.set_frame args
    rw [hset]

/-- Only calls of `monitor/trace` touch subscriptions. -/
theorem traces (h : d.IsCall apiVerb d') (hverb : apiVerb ≠ "monitor/trace") :
    d'.traces = d.traces := by
  cases h with
  | idle | session => rfl
  | set _ args =>
    obtain ⟨levels, globalLevel, hset⟩ := d.set_frame args
    rw [hset]
  | trace htrace => contradiction

theorem of_set (h : d.IsCall "monitor/set" d') :
    ∃ levels globalLevel, d' = { d with levels, globalLevel } := by
  cases h with
  | idle => exact ⟨_, _, rfl⟩
  | set _ args => exact d.set_frame args
  | trace hverb | session hverb => exact absurd hverb (by decide)

theorem of_trace (h : d.IsCall "monitor/trace" d') : ∃ traces, d' = { d with traces } := by
  cases h with
  | idle => exact ⟨_, rfl⟩
  | trace _ traces => exact ⟨traces, rfl⟩
  | set hverb | session hverb => exact absurd hverb (by decide)

theorem of_session (h : d.IsCall "monitor/session" d') :
    ∃ token refreshes, d' = { d with token, refreshes } := by
  cases h with
  | idle | session => exact ⟨_, _, rfl⟩
  | set hverb | trace hverb => exact absurd hverb (by decide)

theorem of_other (h : d.IsCall apiVerb d') (hset : apiVerb ≠ "monitor/set")
    (htrace : apiVerb ≠ "monitor/trace") (hsession : apiVerb ≠ "monitor/session") : d' = d := by
  cases h with
  | idle => rfl
  | set hverb | trace hverb | session hverb => contradiction

end IsCall

end Daemon

end LiveTrace
