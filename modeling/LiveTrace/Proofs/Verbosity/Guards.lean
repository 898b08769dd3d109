import Mathlib.Data.Set.Card
import LiveTrace.Proofs.Entries
import LiveTrace.Proofs.Verbosity.Reported
/-!
# LiveTrace.Proofs.Verbosity.Guards

**Guards.** The state of the levels only counts the guards that are held, and any number of them can
be held at once and dropped in any order. A run of `Guarded` levels knows each guard by itself;
after every run there are as many guards alive as the state counts (`Guarded.isCounted_run`), so that
it is held exactly while some guard is alive. Reported levels are applied under one guard more than
that. So no selection that this makes gives a request, whether anyone else holds a guard or not, and
afterwards the guards are as before (`Guarded.levels_applied_under_guards`).
-/

namespace LiveTrace

namespace VerbosityState

/-! ### Reported levels by name -/

/-- Whether a level is reported for a target: under a name that means the target and is not that of
the monitoring API, and by a value that is understood as this level. -/
def Reports (levels : Table String Json) (monitorApi : String) (target : VerbosityTarget)
    (level : VerbosityLevel) : Prop :=
  ∃ name value, levels.get? name = some value ∧ name ≠ monitorApi ∧
    VerbosityTarget.ofWireName name = target ∧ VerbosityLevel.ofJson? value = some level

theorem mem_reported {levels : Table String Json} {monitorApi : String} {target : VerbosityTarget}
    {level : VerbosityLevel} :
    (target, level) ∈ reported monitorApi levels.entries ↔
      Reports levels monitorApi target level := by
  rw [reported, List.mem_filterMap]
  constructor
  · rintro ⟨⟨name, value⟩, hmem, hlevel⟩
    by_cases hname : name = monitorApi
    · simp [hname] at hlevel
    · rw [if_neg hname, Option.map_eq_some_iff] at hlevel
      obtain ⟨l, hvalue, heq⟩ := hlevel
      obtain ⟨rfl, rfl⟩ := Prod.mk.inj heq
      exact ⟨name, value, Table.get?_eq_some_iff.2 hmem, hname, rfl, hvalue⟩
  · rintro ⟨name, value, hvalue, hname, rfl, hlevel⟩
    exact ⟨(name, value), Table.get?_eq_some_iff.1 hvalue, by rw [if_neg hname, hlevel]; rfl⟩

/-- Names that differ mean targets that differ, so no target is reported twice. -/
theorem nodup_reported (levels : Table String Json) (monitorApi : String) :
    ((reported monitorApi levels.entries).map Prod.fst).Nodup := by
  have hnames : levels.entries.Pairwise fun e f => e.1 ≠ f.1 :=
    List.pairwise_map.1 (Entries.Ascending.nodup_keys levels.ascending)
  refine List.pairwise_map.2 (List.Pairwise.filterMap _ (fun e f hne => ?_) hnames)
  intro a ha b hb heq
  -- what is reported under a name is reported for the target of this name
  have htarget {e : String × Json} {a : VerbosityTarget × VerbosityLevel}
      (ha : (if e.1 = monitorApi then none
        else (VerbosityLevel.ofJson? e.2).map fun l => (.ofWireName e.1, l)) = some a) :
      a.1 = .ofWireName e.1 := by
    split at ha
    · contradiction
    · obtain ⟨l, -, rfl⟩ := Option.map_eq_some_iff.1 ha
      rfl
  rw [htarget ha, htarget hb] at heq
  exact hne (VerbosityTarget.ofWireName_injective heq)

/-- Targets that are reported get their level, and the others keep what they have. -/
theorem get?_putAll_of_reports (table : Levels) (levels : Table String Json) (monitorApi : String) :
    let after := putAll table (reported monitorApi levels.entries)
    (∀ target level, Reports levels monitorApi target level →
        after.get? target = some level) ∧
      ∀ target, (∀ level, ¬Reports levels monitorApi target level) →
        after.get? target = table.get? target := by
  intro after
  have hget (target : VerbosityTarget) : after.get? target =
      (Entries.lookup? target (reported monitorApi levels.entries).reverse).or
        (table.get? target) := Table.get?_foldl_insert ..
  have hlookup (target : VerbosityTarget) (level : VerbosityLevel) :
      Entries.lookup? target (reported monitorApi levels.entries).reverse = some level ↔
        Reports levels monitorApi target level := by
    have hnodup : ((reported monitorApi levels.entries).reverse.map Prod.fst).Nodup := by
      rw [List.map_reverse, List.nodup_reverse]
      exact nodup_reported levels monitorApi
    rw [Entries.lookup?_eq_some_iff hnodup, List.mem_reverse, mem_reported]
  refine ⟨fun target level h => ?_, fun target h => ?_⟩
  · rw [hget, (hlookup target level).2 h, Option.some_or]
  · have hnone : Entries.lookup? target (reported monitorApi levels.entries).reverse = none :=
      Option.eq_none_iff_forall_ne_some.2 fun level hsome => h level ((hlookup target level).1 hsome)
    rw [hget, hnone, Option.none_or]

/-- As many levels are applied as there are targets that get one. -/
theorem length_reported (levels : Table String Json) (monitorApi : String) :
    (reported monitorApi levels.entries).length =
      {target | ∃ level, Reports levels monitorApi target level}.ncard := by
  let targets := (reported monitorApi levels.entries).map Prod.fst
  have hset : {target | ∃ level, Reports levels monitorApi target level} =
      (targets.toFinset : Set VerbosityTarget) := by
    ext target
    simp only [Set.mem_ofPred_eq, List.coe_toFinset, ← mem_reported]
    exact ⟨fun ⟨level, h⟩ => List.mem_map.2 ⟨_, h, rfl⟩, fun h => by
      obtain ⟨⟨_, level⟩, hmem, rfl⟩ := List.mem_map.1 h
      exact ⟨level, hmem⟩⟩
  rw [hset, Set.ncard_coe_finset, List.toFinset_card_of_nodup (nodup_reported levels monitorApi),
    List.length_map]

/-- Apply levels one after the other, gathering the requests that the selections give. -/
def applyAll : VerbosityState → List (VerbosityTarget × VerbosityLevel) →
    List VerbosityCommand × VerbosityState
  | s, [] => ([], s)
  | s, (target, level) :: rest =>
    let (request, s) := select { s with confirmed := s.confirmed.insert target level } target level
    let (requests, s) := applyAll s rest
    (request.toList ++ requests, s)

theorem snd_applyAll (s : VerbosityState) (l : List (VerbosityTarget × VerbosityLevel)) :
    (s.applyAll l).2 = l.foldl (fun s e => s.applyLevel e.1 e.2) s := by
  induction l generalizing s with
  | nil => rfl
  | cons e rest ih => exact ih (s.applyLevel e.1 e.2)

/-- Under a guard no selection gives a request. -/
theorem fst_applyAll_of_isHeld {s : VerbosityState} (h : s.isHeld = true)
    (l : List (VerbosityTarget × VerbosityLevel)) : (s.applyAll l).1 = [] := by
  induction l generalizing s with
  | nil => rfl
  | cons e rest ih =>
    have hheld : isHeld { s with confirmed := s.confirmed.insert e.1 e.2 } = true := h
    rw [applyAll, select_of_isHeld hheld]
    exact ih h

/-! ### Runs with guards -/

/-- What can happen to the levels of a session and to guards. -/
inductive Step
  | hold
  /-- The guard that was taken after so many others is dropped. -/
  | drop (guard : Nat)
  | select (target : VerbosityTarget) (level : VerbosityLevel)
  | settle (target : VerbosityTarget)
  /-- The daemon reports levels, which are applied. -/
  | report (levels : Table String Json) (monitorApi : String)

end VerbosityState

/-- Levels together with the guards that are alive. -/
structure Guarded where
  levels : VerbosityState
  /-- The guards that are alive, each known by how many were taken before it. -/
  alive : Finset Nat
  /-- How many guards were taken. -/
  taken : Nat

namespace Guarded

open VerbosityState (Reports reported putAll)

/-- No level is known and no guard was taken. -/
def start : Guarded := ⟨.empty, ∅, 0⟩

/-- Levels and guards after a step. A guard is dropped once only. -/
def step (g : Guarded) : VerbosityState.Step → Guarded
  | .hold => ⟨g.levels.hold, insert g.taken g.alive, g.taken + 1⟩
  | .drop guard =>
    if guard ∈ g.alive then ⟨g.levels.release, g.alive.erase guard, g.taken⟩ else g
  | .select target level => { g with levels := (g.levels.select target level).2 }
  | .settle target => { g with levels := (g.levels.settle target).2 }
  | .report levels monitorApi =>
    { g with levels := (g.levels.applyReported monitorApi levels.entries).2 }

/-- Levels and guards after a run. -/
def run (steps : List VerbosityState.Step) : Guarded := steps.foldl step start

theorem run_concat (steps : List VerbosityState.Step) (e : VerbosityState.Step) :
    run (steps ++ [e]) = (run steps).step e := List.foldl_append

/-- The guards that are alive are counted, and the next guard is none of them. -/
structure IsCounted (g : Guarded) : Prop where
  guards : g.levels.guards = g.alive.card
  fresh : ∀ guard ∈ g.alive, guard < g.taken

theorem IsCounted.step {g : Guarded} (h : g.IsCounted) (e : VerbosityState.Step) :
    (g.step e).IsCounted := by
  cases e with
  | hold =>
    have hnew : g.taken ∉ g.alive := fun hmem => Nat.lt_irrefl _ (h.fresh _ hmem)
    refine ⟨?_, fun guard hguard => ?_⟩
    · show g.levels.guards + 1 = (insert g.taken g.alive).card
      rw [Finset.card_insert_of_notMem hnew, h.guards]
    · rcases Finset.mem_insert.1 hguard with rfl | hguard
      · exact Nat.lt_succ_self _
      · exact Nat.lt_succ_of_lt (h.fresh guard hguard)
  | drop guard =>
    rw [Guarded.step]
    split
    · rename_i hguard
      refine ⟨?_, fun other hother => h.fresh other (Finset.mem_of_mem_erase hother)⟩
      show g.levels.guards - 1 = (g.alive.erase guard).card
      rw [Finset.card_erase_of_mem hguard, h.guards]
    · exact h
  | select target level =>
    refine ⟨?_, h.fresh⟩
    show (g.levels.select target level).2.guards = _
    rw [VerbosityState.select]
    split <;> exact h.guards
  | settle target => exact ⟨h.guards, h.fresh⟩
  | report levels monitorApi =>
    refine ⟨?_, h.fresh⟩
    show (g.levels.applyReported monitorApi levels.entries).2.guards = _
    rw [VerbosityState.snd_applyReported]
    exact h.guards

theorem isCounted_run (steps : List VerbosityState.Step) : (run steps).IsCounted := by
  induction steps using List.reverseRecOn with
  | nil => exact ⟨rfl, nofun⟩
  | append_singleton steps e ih =>
    rw [run_concat]
    exact ih.step e

theorem IsCounted.isHeld_iff {g : Guarded} (h : g.IsCounted) :
    g.levels.isHeld = true ↔ g.alive.Nonempty := by
  rw [VerbosityState.isHeld, h.guards, decide_eq_true_eq, Finset.card_pos]

/-- **Levels are applied under guards.** After any run the guards that are alive are counted, and
levels are held exactly if some guard is alive. A selection gives a request and makes its level
pending if none is; otherwise it is displayed and nothing else. And reported levels, whatever they
are and whatever the monitoring API is called, are confirmed and displayed for exactly the targets
they are reported for, while other targets, pending levels and guards stay as they are; the
selections that this takes give no request, and the count is that of the targets. -/
theorem levels_applied_under_guards (steps : List VerbosityState.Step) :
    let g := run steps
    g.levels.guards = g.alive.card ∧
      (g.levels.isHeld = true ↔ g.alive.Nonempty) ∧
      (∀ target level, g.levels.select target level =
        if g.alive.Nonempty then
          (none, { g.levels with displayed := g.levels.displayed.insert target level })
        else
          (some ⟨target, level⟩,
            { g.levels with pending := g.levels.pending.insert target level })) ∧
      ∀ (levels : Table String Json) (monitorApi : String),
        let applied := g.levels.applyReported monitorApi levels.entries
        let selections := g.levels.hold.applyAll (reported monitorApi levels.entries)
        (∀ target level, Reports levels monitorApi target level →
            applied.2.confirmed.get? target = some level ∧
              applied.2.displayed.get? target = some level) ∧
          (∀ target, (∀ level, ¬Reports levels monitorApi target level) →
            applied.2.confirmed.get? target = g.levels.confirmed.get? target ∧
              applied.2.displayed.get? target = g.levels.displayed.get? target) ∧
          applied.2.pending = g.levels.pending ∧
          applied.2.guards = g.levels.guards ∧
          applied.2 = selections.2.release ∧
          selections.1 = [] ∧
          applied.1 = {target | ∃ level, Reports levels monitorApi target level}.ncard := by
  intro g
  have hcounted : g.IsCounted := isCounted_run steps
  refine ⟨hcounted.guards, hcounted.isHeld_iff, fun target level => ?_,
    fun levels monitorApi => ?_⟩
  · simp only [VerbosityState.select, hcounted.isHeld_iff]
  · intro applied selections
    have happlied : applied.2 =
        { g.levels with
          confirmed := putAll g.levels.confirmed (reported monitorApi levels.entries)
          displayed := putAll g.levels.displayed (reported monitorApi levels.entries) } :=
      g.levels.snd_applyReported monitorApi levels.entries
    have hselections : applied.2 = selections.2.release :=
      congrArg VerbosityState.release (g.levels.hold.snd_applyAll _).symm
    obtain ⟨hconfirmed, hconfirmed'⟩ :=
      VerbosityState.get?_putAll_of_reports g.levels.confirmed levels monitorApi
    obtain ⟨hdisplayed, hdisplayed'⟩ :=
      VerbosityState.get?_putAll_of_reports g.levels.displayed levels monitorApi
    refine ⟨fun target level h => ?_, fun target h => ?_, ?_, ?_, hselections, ?_, ?_⟩
    · rw [happlied]
      exact ⟨hconfirmed target level h, hdisplayed target level h⟩
    · rw [happlied]
      exact ⟨hconfirmed' target h, hdisplayed' target h⟩
    · rw [happlied]
    · rw [happlied]
    · exact VerbosityState.fst_applyAll_of_isHeld g.levels.isHeld_hold _
    · exact VerbosityState.length_reported levels monitorApi

/-- Two guards of which the first is dropped first, a level that is pending since before them and one
that is displayed under the other, and a report with every kind of name. -/
theorem levels_applied_under_guards_nested :
    let g := run [.select (.api "calc") .notice, .hold, .hold, .drop 0,
      .select (.api "odd") .debug]
    let levels : Table String Json := .ofList [("", .string "info"), ("*", .int 7),
      ("calc", .string "Warning"), ("monitor", .string "debug"), ("odd", .null)]
    let applied := g.levels.applyReported "monitor" levels.entries
    g.alive = {1} ∧ g.levels.isHeld = true ∧
      g.levels.select .global .error =
        (none, { g.levels with displayed := g.levels.displayed.insert .global .error }) ∧
      Reports levels "monitor" .all (.raw 7) ∧
      applied.2.confirmed.get? .all = some (.raw 7) ∧
      applied.2.displayed.get? .all = some (.raw 7) ∧
      (∀ level, ¬Reports levels "monitor" (.api "odd") level) ∧
      applied.2.confirmed.get? (.api "odd") = none ∧
      applied.2.displayed.get? (.api "odd") = some .debug ∧
      applied.2.pending.get? (.api "calc") = some .notice ∧
      applied.2.guards = 1 ∧
      {target | ∃ level, Reports levels "monitor" target level}.ncard = 3 := by
  intro g levels applied
  obtain ⟨hguards, hheld, hselect, happlied⟩ := levels_applied_under_guards
    [.select (.api "calc") .notice, .hold, .hold, .drop 0, .select (.api "odd") .debug]
  obtain ⟨hreports, hothers, hpending, hguards', -, -, hcount⟩ := happlied levels "monitor"
  have halive : g.alive = {1} := by decide +kernel
  have hnonempty : g.alive.Nonempty := halive ▸ Finset.singleton_nonempty 1
  have hall : Reports levels "monitor" .all (.raw 7) :=
    ⟨"*", .int 7, rfl, by decide +kernel, by decide +kernel, by decide +kernel⟩
  have hodd : ∀ level, ¬Reports levels "monitor" (.api "odd") level := by
    intro level h
    have hmem := VerbosityState.mem_reported.2 h
    revert hmem
    have hreported : reported "monitor" levels.entries =
        [(.global, .info), (.all, .raw 7), (.api "calc", .warning)] := by decide +kernel
    rw [hreported]
    simp
  refine ⟨halive, hheld.2 hnonempty, (hselect .global .error).trans (if_pos hnonempty), hall,
    (hreports _ _ hall).1, (hreports _ _ hall).2, hodd, (hothers _ hodd).1.trans ?_,
    (hothers _ hodd).2.trans ?_, ?_, ?_, hcount.symm.trans ?_⟩
  · decide +kernel
  · decide +kernel
  · rw [hpending]
    decide +kernel
  · rw [hguards', hguards, halive]
    rfl
  · decide +kernel

end Guarded

end LiveTrace
