import LiveTrace.Registry.Document
import LiveTrace.Verbosity.State
/-!
# LiveTrace.Proofs.Verbosity.Reported

**Applying reported levels.** The levels of a document are applied one by one, each confirmed and
then selected under the guard that is held meanwhile. What comes of it in the end
(`VerbosityState.snd_applyReported`): the counted levels are put into both tables in order, and
nothing else changes, the guard included. So for each target both tables have the level that the
document reports (`Snapshot.level?`), or what they had if it reports none.
-/

namespace LiveTrace

/-- The level that a document reports for a target: the last one that is understood of those it
lists under a name of the target. -/
def Snapshot.level? (target : VerbosityTarget) (snapshot : Snapshot) : Option VerbosityLevel :=
  (snapshot.verbosity.getD []).reverse.findSome? fun e =>
    if VerbosityTarget.ofWireName e.1 = target then VerbosityLevel.ofJson? e.2 else none

theorem VerbosityTarget.ofWireName_injective {name name' : String}
    (h : ofWireName name = ofWireName name') : name = name' := by
  rw [← wireName_ofWireName name, h, wireName_ofWireName]

namespace VerbosityState

/-- Levels put into a table in order. -/
def putAll (table : Levels) (l : List (VerbosityTarget × VerbosityLevel)) : Levels :=
  l.foldl (fun t e => t.insert e.1 e.2) table

theorem isHeld_hold (v : VerbosityState) : v.hold.isHeld = true := by simp [isHeld, hold]

/-- Under a guard a selection is displayed, and gives no request. -/
theorem select_of_isHeld {v : VerbosityState} (h : v.isHeld = true) (target : VerbosityTarget)
    (level : VerbosityLevel) :
    v.select target level = (none, { v with displayed := v.displayed.insert target level }) :=
  if_pos h

/-- Under a guard a level goes into both tables. -/
theorem applyLevel_of_isHeld {v : VerbosityState} (h : v.isHeld = true) (target : VerbosityTarget)
    (level : VerbosityLevel) :
    v.applyLevel target level =
      { v with
        confirmed := v.confirmed.insert target level
        displayed := v.displayed.insert target level } := by
  have hheld : isHeld { v with confirmed := v.confirmed.insert target level } = true := h
  rw [applyLevel, select_of_isHeld hheld]

/-- Under a guard levels go into both tables in order. -/
theorem foldl_applyLevel (l : List (VerbosityTarget × VerbosityLevel)) {v : VerbosityState}
    (h : v.isHeld = true) :
    l.foldl (fun v e => v.applyLevel e.1 e.2) v =
      { v with confirmed := putAll v.confirmed l, displayed := putAll v.displayed l } := by
  induction l generalizing v with
  | nil => rfl
  | cons e rest ih =>
    rw [List.foldl_cons, applyLevel_of_isHeld h, ih (by exact h)]
    rfl

/-- Applying reported levels puts those that count into both tables, and nothing else. -/
theorem snd_applyReported (v : VerbosityState) (monitorApi : String)
    (levels : List (String × Json)) :
    (v.applyReported monitorApi levels).2 =
      { v with
        confirmed := putAll v.confirmed (reported monitorApi levels)
        displayed := putAll v.displayed (reported monitorApi levels) } := by
  rw [applyReported, foldl_applyLevel _ v.isHeld_hold]
  rfl

/-- Searching the levels that count for a target finds what the document reports for it, unless it
is the monitoring API. -/
theorem lookup?_reported (monitorApi : String) (target : VerbosityTarget)
    (snapshot : Snapshot) :
    Entries.lookup? target (reported monitorApi (snapshot.verbosity.getD [])).reverse =
      if target.wireName = monitorApi then none else snapshot.level? target := by
  unfold Snapshot.level? reported
  rw [← List.filterMap_reverse]
  induction (snapshot.verbosity.getD []).reverse with
  | nil => simp [Entries.lookup?]
  | cons e rest ih =>
    rw [List.filterMap_cons, List.findSome?_cons]
    by_cases htarget : VerbosityTarget.ofWireName e.1 = target
    · -- the only name that means the target is its own
      have hname : target.wireName = e.1 := by rw [← htarget, VerbosityTarget.wireName_ofWireName]
      rw [hname] at ih ⊢
      by_cases hapi : e.1 = monitorApi
      · simpa [hapi] using ih
      · cases hlevel : VerbosityLevel.ofJson? e.2 with
        | none => simpa [hapi, hlevel] using ih
        | some level => simp [hapi, htarget, Entries.lookup?]
    · rw [if_neg htarget, ← ih]
      by_cases hapi : e.1 = monitorApi
      · rw [if_pos hapi]
      · rw [if_neg hapi]
        cases VerbosityLevel.ofJson? e.2 with
        | none => rfl
        | some level => simp [Entries.lookup?, Ne.symm htarget]

/-- After levels are applied, a target has the level that was reported for it, or else the one it
had. -/
theorem get?_putAll_reported (table : Levels) (monitorApi : String) (target : VerbosityTarget)
    (snapshot : Snapshot) :
    (putAll table (reported monitorApi (snapshot.verbosity.getD []))).get? target =
      (if target.wireName = monitorApi then none else snapshot.level? target).or
        (table.get? target) := by
  rw [← lookup?_reported]
  exact Table.get?_foldl_insert ..

end VerbosityState

end LiveTrace
