import LiveTrace.Proofs.Daemon.Consistency
import LiveTrace.Proofs.Daemon.Trace
import LiveTrace.Proofs.Verbosity.Reported
/-!
# LiveTrace.Proofs.Daemon.Levels

**How a daemon takes levels and tells them.** A daemon and its clients write levels in different
ways: a client sends a name or a number, the daemon stores a number from 0 to 3 and tells a name
for it. Whatever a client sends is stored in range (`Daemon.decodeLevel?_toJson`), under the names
that the request covers and no others (`Daemon.level?_set`); and what the daemon tells is read as
the level of the stored number (`Daemon.level?_levelsAnswer`). The latter needs a daemon whose APIs
have proper names and whose levels are in range (`Daemon.Sound`), as every call keeps them
(`Daemon.Sound.handle`).
-/

namespace LiveTrace

/-- A number that a request can carry. -/
def VerbosityLevel.Fits : VerbosityLevel → Prop
  | raw n => -0x8000000000000000 ≤ n ∧ n < 0x8000000000000000
  | _ => True

namespace VerbosityTarget

/-- Whether setting a target sets the level that a daemon has under a name. -/
def Covers : VerbosityTarget → String → Prop
  | global, name => name = ""
  | all, _ => True
  | api a, name => name = a

instance (target : VerbosityTarget) (name : String) : Decidable (target.Covers name) := by
  cases target <;> unfold Covers <;> infer_instance

/-- The name of an API means the API: the daemon takes the empty name for itself and `*` for every
API. -/
def IsPlain : VerbosityTarget → Prop
  | api name => name ≠ "" ∧ name ≠ "*"
  | _ => True

theorem ofWireName_api {name : String} (h : name ≠ "" ∧ name ≠ "*") :
    ofWireName name = api name := by
  rw [ofWireName, if_neg h.1, if_neg h.2]

end VerbosityTarget

/-- The level that a document reports under a name is the one listed there, if it is understood. -/
theorem Snapshot.level?_ofWireName {fields : List (String × Json)}
    (h : Entries.Ascending fields) (apis : Option (List (String × ApiDocument))) (name : String) :
    level? (.ofWireName name) ⟨apis, some fields⟩ =
      (Entries.lookup? name fields).bind VerbosityLevel.ofJson? := by
  show fields.reverse.findSome? _ = _
  induction fields with
  | nil => rfl
  | cons e rest ih =>
    obtain ⟨hhead, htail⟩ := List.pairwise_cons.1 h
    rw [List.reverse_cons, List.findSome?_append, ih htail, List.findSome?_singleton]
    by_cases hname : name = e.1
    · -- the name is listed once only
      have hrest : Entries.lookup? name rest = none :=
        Table.lookup?_eq_none_of_lt htail fun f hf => hname ▸ hhead f (List.mem_of_mem_head? hf)
      rw [hrest]
      simp [Entries.lookup?, hname]
    · have hother : ¬VerbosityTarget.ofWireName e.1 = VerbosityTarget.ofWireName name :=
        fun heq => hname (VerbosityTarget.ofWireName_injective heq).symm
      simp [Entries.lookup?, hname, hother]

namespace Daemon

/-! ### Numbers and names -/

/-- Every level is understood as its number, which is brought into range. -/
theorem decodeLevel?_toJson {level : VerbosityLevel} (h : level.Fits) :
    decodeLevel? level.toJson = some (VerbosityLevel.clamp level.number) := by
  cases level with
  | raw n =>
    have hn : (Json.int n).asInt64? = some n := if_pos h
    show (Json.int n).asInt64?.map _ = _
    rw [hn]
    rfl
  | error | warning | notice | info | debug => decide +kernel

/-! ### Setting levels -/

theorem level?_setLevel (d : Daemon) (name : String) (level : Int) (other : String) :
    (d.setLevel name level).level? other =
      if other = name ∨ name = "*" ∧ other ≠ "" then (d.level? other).map fun _ => level
      else d.level? other := by
  by_cases hglobal : name = ""
  · subst hglobal
    by_cases hother : other = "" <;> simp [setLevel, level?, hother]
  by_cases hall : name = "*"
  · subst hall
    by_cases hother : other = "" <;> simp [setLevel, level?, hother]
  rw [setLevel, if_neg hglobal, if_neg hall]
  by_cases hother : other = name
  · subst hother
    cases hlevel : d.levels.get? other <;> simp [level?, Table.contains, hlevel, hglobal]
  · -- another API, or the daemon itself
    have hget : (if d.levels.contains name then { d with levels := d.levels.insert name level }
        else d).level? other = d.level? other := by
      split
      · simp [level?, Table.get?_insert, hother]
      · rfl
    simp [hget, hother, hall]

/-- **A request sets the levels that it covers**, in range, and no others. -/
theorem level?_set (d : Daemon) {c : VerbosityCommand} (hc : c.target.IsPlain)
    (hlevel : c.level.Fits) (name : String) :
    (d.set c.args).level? name =
      if c.target.Covers name then
        (d.level? name).map fun _ => VerbosityLevel.clamp c.level.number
      else d.level? name := by
  obtain ⟨target, level⟩ := c
  have hdecode := decodeLevel?_toJson hlevel
  -- a request for one name sets the level of that name
  have hone (wireName : String) :
      d.set (.object [("verbosity", .object [(wireName, level.toJson)])]) =
        d.setLevel wireName (VerbosityLevel.clamp level.number) := by
    show d.setLevels (.object [(wireName, level.toJson)]) = _
    simp only [setLevels, List.foldl_cons, List.foldl_nil, hdecode]
  cases target with
  | global =>
    show (d.set (.object [("verbosity", .object [("", level.toJson)])])).level? name = _
    rw [hone, level?_setLevel]
    simp [VerbosityTarget.Covers]
  | api a =>
    show (d.set (.object [("verbosity", .object [(a, level.toJson)])])).level? name = _
    rw [hone, level?_setLevel]
    simp [VerbosityTarget.Covers, hc.2]
  | all =>
    have hboth : d.set (.object [("verbosity", level.toJson)]) =
        (d.setLevel "" (VerbosityLevel.clamp level.number)).setLevel "*"
          (VerbosityLevel.clamp level.number) := by
      show d.setLevels level.toJson = _
      unfold setLevels
      split
      · rename_i levels heq
        rw [heq] at hdecode
        contradiction
      · rw [hdecode]
    show (d.set (.object [("verbosity", level.toJson)])).level? name = _
    rw [hboth, level?_setLevel, level?_setLevel]
    by_cases hname : name = "" <;> simp [VerbosityTarget.Covers, hname]

/-! ### Calls about levels -/

theorem handle_get (d : Daemon) (h : d.failing.contains "monitor/get" = false) (args : Json) :
    d.handle "monitor/get" args = (.success (some (d.get args)), d) := by
  have hverb : verb? "monitor/get" = some "get" := verb?_eq_some.2 rfl
  rw [handle, if_neg (by rw [h]; decide), hverb]
  rfl

theorem handle_set (d : Daemon) (h : d.failing.contains "monitor/set" = false) (args : Json) :
    d.handle "monitor/set" args = (.success none, d.set args) := by
  have hverb : verb? "monitor/set" = some "set" := verb?_eq_some.2 rfl
  rw [handle, if_neg (by rw [h]; decide), hverb]
  rfl

/-! ### Daemons with proper names and levels -/

/-- What holds of the APIs and levels of every daemon. -/
structure Sound (d : Daemon) : Prop where
  /-- No API is called by a name that means something else. -/
  named : ∀ name, d.apis.contains name = true → name ≠ "" ∧ name ≠ "*"
  /-- The APIs have levels, and nothing else has. -/
  keyed : ∀ name, d.levels.contains name = d.apis.contains name
  /-- Levels are in range. -/
  inRange : ∀ name level, d.level? name = some level → 0 ≤ level ∧ level ≤ 3

theorem Sound.congr {d d' : Daemon} (h : Sound d) (hapis : d'.apis = d.apis)
    (hlevels : d'.levels = d.levels) (hglobal : d'.globalLevel = d.globalLevel) : Sound d' where
  named := hapis ▸ h.named
  keyed := hapis ▸ hlevels ▸ h.keyed
  inRange name level hlevel := h.inRange name level (by
    rw [← hlevel, level?, level?, hlevels, hglobal])

theorem Sound.exists_level? {d : Daemon} (h : Sound d) {name : String}
    (hname : d.apis.contains name = true) : ∃ n, d.level? name = some n := by
  have hlevel : (d.levels.get? name).isSome = true := (h.keyed name).trans hname
  rw [level?, if_neg (h.named name hname).1]
  exact Option.isSome_iff_exists.1 hlevel

/-- A sound daemon is a consistent one whose APIs have proper names. -/
theorem sound_iff {d : Daemon} :
    d.Sound ↔ d.Consistent ∧ ∀ name, d.apis.contains name = true → name ≠ "" ∧ name ≠ "*" := by
  constructor
  · intro h
    refine ⟨⟨h.keyed, fun name level hlevel => h.inRange name level ?_,
      h.inRange "" d.globalLevel rfl⟩, h.named⟩
    have hname : d.apis.contains name = true := by rw [← h.keyed, Table.contains, hlevel]; rfl
    rw [level?, if_neg (h.named name hname).1, hlevel]
  · rintro ⟨h, hnamed⟩
    refine ⟨hnamed, h.keyed, fun name level hlevel => ?_⟩
    rw [level?] at hlevel
    split at hlevel
    · cases hlevel
      exact h.globalInRange
    · exact h.inRange name level hlevel

theorem Sound.withApi {d : Daemon} (h : Sound d) {name : String} (hname : name ≠ "" ∧ name ≠ "*")
    (description : Json) : Sound (d.withApi name description) := by
  refine sound_iff.2 ⟨(sound_iff.1 h).1.withApi name description, fun other hother => ?_⟩
  rw [Daemon.withApi, Table.contains_insert, Bool.or_eq_true, beq_iff_eq] at hother
  rcases hother with rfl | hother
  · exact hname
  · exact h.named other hother

/-- A daemon with more APIs. -/
def withApis (d : Daemon) (apis : List (String × Json)) : Daemon :=
  apis.foldl (fun d api => d.withApi api.1 api.2) d

theorem Sound.withApis {d : Daemon} (h : Sound d) {apis : List (String × Json)}
    (hapis : ∀ api ∈ apis, api.1 ≠ "" ∧ api.1 ≠ "*") : Sound (d.withApis apis) := by
  induction apis generalizing d with
  | nil => exact h
  | cons api apis ih =>
    refine ih (h.withApi (hapis api List.mem_cons_self) api.2) fun api' hapi' => ?_
    exact hapis api' (List.mem_cons_of_mem _ hapi')

theorem sound_new : Sound new := by
  refine sound_iff.2 ⟨consistent_new, fun name hname => ?_⟩
  have hmonitor : name ∈ new.apis.keys := (new.apis.contains_iff_mem_keys name).1 hname
  have hkeys : new.apis.keys = ["monitor"] := by decide +kernel
  rw [hkeys, List.mem_singleton] at hmonitor
  subst hmonitor
  decide

/-- **Every call keeps names and levels proper.** -/
theorem Sound.handle {d : Daemon} (h : Sound d) (apiVerb : String) (args : Json) :
    Sound (d.handle apiVerb args).2 := by
  have hcall := d.isCall apiVerb args
  refine sound_iff.2 ⟨(sound_iff.1 h).1.call hcall, fun name hname => h.named name ?_⟩
  rwa [← hcall.apis]

/-! ### Telling levels -/

/-- What a daemon tells of its levels. -/
theorem level?_levelsAnswer {d : Daemon} (h : Sound d) :
    ∃ fields, d.levelsAnswer = .object fields ∧ ∀ apis name,
      Snapshot.level? (.ofWireName name) ⟨apis, some fields⟩ =
        (d.level? name).map VerbosityLevel.ofNumber := by
  let told := d.levels.mapValues encodeLevel
  let answer := Table.ofList (("", encodeLevel d.globalLevel) :: told.entries)
  refine ⟨answer.entries, Json.ofFields_eq_ofList _, fun apis name => ?_⟩
  -- under each name there is what is told of its level
  have hget : Entries.lookup? name answer.entries = (d.level? name).map encodeLevel := by
    refine (Table.get?_foldl_insert .empty _ name).trans ?_
    rw [List.reverse_cons, Entries.lookup?_append, Table.lookup?_reverse told.ascending]
    have htold : Entries.lookup? name told.entries = (d.levels.get? name).map encodeLevel :=
      Table.get?_mapValues ..
    rw [htold, level?]
    by_cases hname : name = ""
    · -- no API has the empty name
      have hnone : d.levels.get? name = none := by
        cases hsome : d.levels.get? name with
        | none => rfl
        | some n =>
          have hkeyed := h.keyed name
          rw [Table.contains, hsome] at hkeyed
          exact absurd hname (h.named name hkeyed.symm).1
      simp [Entries.lookup?, hname, hname ▸ hnone]
    · cases d.levels.get? name <;> simp [Entries.lookup?, hname]
  rw [Snapshot.level?_ofWireName answer.ascending, hget]
  cases hlevel : d.level? name with
  | none => rfl
  | some n => exact ofJson?_encodeLevel (h.inRange name n hlevel)

end Daemon

end LiveTrace
