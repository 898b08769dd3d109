import LiveTrace.Proofs.Daemon.Levels
import LiveTrace.Proofs.Session.Levels
import LiveTrace.Proofs.Session.Subscriptions
/-!
# LiveTrace.Proofs.Session.ReadBack

**A level that is set reads back as stored.** Setting a level is two calls: one writes it and the
other reads every level back. Over an open line to a daemon that serves both, the daemon has the
number of the level afterwards, brought into range, wherever the request applies, and the session
shows for the daemon and for each API the level of the number that the daemon has
(`Session.setVerbosity_reads_back`). That this is not always the level that was set is the point:
a number without a name is stored as the nearest one that has a name, and `notice` shares its number
with `warning`.
-/

namespace LiveTrace

/-- A level is confirmed and on display. -/
def VerbosityState.Reads (v : VerbosityState) (target : VerbosityTarget) (level : VerbosityLevel) :
    Prop :=
  v.displayed.get? target = some level ∧ v.confirmed.get? target = some level

namespace Session

/-- The line is open and leads to a daemon that serves a verb. -/
structure Serves (s : Session (Line Daemon)) (verb : String) : Prop where
  named : s.options.monitorApi = "monitor"
  connected : s.channel.closed = false
  working : s.channel.peer.failing.contains ("monitor/" ++ verb) = false

variable {s : Session (Line Daemon)}

theorem Serves.apiVerb {verb : String} (h : s.Serves verb) :
    s.apiVerb verb = "monitor/" ++ verb := apiVerb_of_named h.named verb

/-! ### The daemon of a run -/

theorem keeps_sound : Keeps fun c : Line Daemon => c.peer.Sound where
  call c apiVerb args h := by
    cases hclosed : c.closed with
    | true =>
      rw [Daemon.call_of_closed hclosed]
      exact h
    | false =>
      rw [Daemon.call_of_open hclosed]
      exact h.handle apiVerb args
  receive c h := by
    show c.receive.2.peer.Sound
    unfold Line.receive
    split <;> exact h
  close c h := h

/-- The daemon at the other end of a session stays sound, whatever happens to the line. -/
theorem sound_run {line : Line Daemon} (h : line.peer.Sound) (config : SessionConfig)
    (steps : List (Step Incident)) : ((new line config).run steps).channel.peer.Sound := by
  have hnew : (new line config).channel.peer.Sound := h
  refine keeps_sound.run (fun c i hc => ?_) hnew steps
  cases i with
  | push p =>
    show (if _ then (true, { c with queue := c.queue ++ [p] }) else (false, c)).2.peer.Sound
    split <;> exact hc
  | sever => exact hc
  | fail apiVerb | recover apiVerb => exact hc.congr rfl rfl rfl

/-! ### Reading levels back -/

/-- The call that reads levels back gives a document that reports every level as stored. -/
theorem Serves.snapshot? (h : s.Serves "get") (hsound : s.channel.peer.Sound) :
    ∃ snapshot, (s.settledCall "get" levelsArgs).snapshot? s.options.monitorApi = some snapshot ∧
      ∀ name, snapshot.level? (.ofWireName name) =
        (s.channel.peer.level? name).map VerbosityLevel.ofNumber := by
  obtain ⟨fields, hanswer, hfields⟩ := Daemon.level?_levelsAnswer hsound
  refine ⟨⟨none, some fields⟩, ?_, hfields none⟩
  have hget : s.channel.peer.get levelsArgs = .object [("verbosity", .object fields)] := by
    rw [← hanswer]
    rfl
  have hcall : s.settledCall "get" levelsArgs = ⟨"monitor/get", levelsArgs,
      .ok (.success (some (.object [("verbosity", .object fields)])))⟩ := by
    rw [settledCall, Daemon.call_of_open h.connected, h.apiVerb, ← hget]
    rw [show "monitor/" ++ "get" = "monitor/get" from rfl, Daemon.handle_get _ h.working]
  rw [hcall, h.named]
  rfl

/-- Reading levels back succeeds, and what is read is what the daemon has. -/
theorem Serves.refreshVerbosity (h : s.Serves "get") (hsound : s.channel.peer.Sound) :
    (s.refreshVerbosity.1.map fun _ => ()) = .ok () ∧
      s.refreshVerbosity.2.channel.peer = s.channel.peer ∧
      ∀ name n, name ≠ "monitor" → s.channel.peer.level? name = some n →
        s.refreshVerbosity.2.verbosity.Reads (.ofWireName name) (.ofNumber n) := by
  obtain ⟨snapshot, hsnapshot, hlevels⟩ := h.snapshot? hsound
  refine ⟨?_, ?_, fun name n hname hn => ?_⟩
  · have hquery := s.querySnapshot_toOption levelsArgs
    rw [hsnapshot] at hquery
    unfold Session.refreshVerbosity
    revert hquery
    rcases s.querySnapshot levelsArgs with ⟨e | _, s'⟩
    · intro hquery
      contradiction
    · intro _
      rfl
  · rw [channel_refreshVerbosity, Daemon.call_of_open h.connected, h.apiVerb]
    exact congrArg Prod.snd (s.channel.peer.handle_get h.working levelsArgs)
  · rw [verbosity_refreshVerbosity, VerbosityState.heed_of_some hsnapshot]
    have hread (table : Levels) : (VerbosityState.putAll table (VerbosityState.reported
        s.options.monitorApi (snapshot.verbosity.getD []))).get? (.ofWireName name) =
          some (.ofNumber n) := by
      rw [VerbosityState.get?_putAll_reported, VerbosityTarget.wireName_ofWireName, h.named,
        if_neg hname, hlevels, hn]
      rfl
    exact ⟨hread _, hread _⟩

/-! ### Setting a level -/

/-- The write succeeds, and the daemon serves the verb that reads back as before. -/
theorem Serves.call_set (h : s.Serves "set") (hget : s.Serves "get") (c : VerbosityCommand) :
    (s.call "set" c.args).1 = .ok (.success none) ∧
      (s.call "set" c.args).2.channel.peer = s.channel.peer.set c.args ∧
      (s.call "set" c.args).2.Serves "get" := by
  have hcall : Channel.call s.channel (s.apiVerb "set") c.args =
      (.ok (.success none), { s.channel with
        peer := s.channel.peer.set c.args
        calls := s.channel.calls ++ [("monitor/set", c.args)] }) := by
    rw [Daemon.call_of_open h.connected, h.apiVerb]
    rw [show "monitor/" ++ "set" = "monitor/set" from rfl, Daemon.handle_set _ h.working]
  have hchannel := s.channel_call "set" c.args
  rw [hcall] at hchannel
  refine ⟨?_, by rw [hchannel], ?_, ?_, ?_⟩
  · rw [fst_call, hcall]
    rfl
  · rw [options_call, h.named]
  · rw [hchannel]
    exact h.connected
  · obtain ⟨levels, globalLevel, hframe⟩ := s.channel.peer.set_frame c.args
    rw [hchannel, hframe]
    exact hget.working

/-- **A level that is set reads back as stored.** Take a daemon with any APIs whose names do not
mean another kind of target, and any run of a session with it, up to a point at which the daemon
serves the verbs `set` and `get` and no guard is held. Setting a level then succeeds: the daemon has
the number of the level, brought into range, under the names that the target covers, and what it had
under the others; and for itself and each API but the monitoring API, the level that is confirmed
and on display is the one of the number that the daemon has. -/
theorem setVerbosity_reads_back {apis : List (String × Json)}
    (hapis : ∀ api ∈ apis, api.1 ≠ "" ∧ api.1 ≠ "*") (line : Line Daemon)
    (hline : line.peer = Daemon.new.withApis apis) (config : SessionConfig)
    (steps : List (Step Incident)) (hset : ((new line config).run steps).Serves "set")
    (hget : ((new line config).run steps).Serves "get")
    (hguard : ((new line config).run steps).verbosity.isHeld = false) (target : VerbosityTarget)
    (htarget : target.IsPlain) (level : VerbosityLevel) (hlevel : level.Fits) :
    let s := (new line config).run steps
    let s' := (s.setVerbosity target level).2
    let daemon := s.channel.peer
    let daemon' := s'.channel.peer
    (s.setVerbosity target level).1 = .ok () ∧
      (∀ name, daemon'.level? name =
        if target.Covers name then
          (daemon.level? name).map fun _ => VerbosityLevel.clamp level.number
        else daemon.level? name) ∧
      s'.verbosity.Reads .global (.ofNumber daemon'.globalLevel) ∧
      ∀ name, daemon'.apis.contains name = true → name ≠ "monitor" →
        ∃ n, daemon'.level? name = some n ∧ s'.verbosity.Reads (.api name) (.ofNumber n) := by
  intro s s' daemon daemon'
  have hsound : s.channel.peer.Sound := by
    refine sound_run ?_ config steps
    rw [hline]
    exact Daemon.sound_new.withApis hapis
  have hheld : ¬ s.verbosity.isHeld = true := by simp [s, hguard]
  -- the request is written ...
  let c : VerbosityCommand := ⟨target, level⟩
  let written := (s.asking target level).call "set" c.args
  have hasking : (s.asking target level).Serves "set" := ⟨hset.named, hset.connected, hset.working⟩
  have hasking' : (s.asking target level).Serves "get" := ⟨hget.named, hget.connected, hget.working⟩
  obtain ⟨hok, hpeer, hserves⟩ := hasking.call_set hasking' c
  have hstill : written.2.channel.peer.Sound := by
    rw [channel_call]
    exact keeps_sound.call _ _ _ hsound
  -- ... and the levels are read back
  obtain ⟨hread, hsame, hreads⟩ := hserves.refreshVerbosity hstill
  have hs' : s' = _ := s.setVerbosity_of_not_isHeld hheld target level
  have hback : daemon' = written.2.channel.peer := by
    show s'.channel.peer = _
    rw [hs']
    exact hsame
  have hshown (name : String) (n : Int) (hname : name ≠ "monitor")
      (hn : daemon'.level? name = some n) :
      s'.verbosity.Reads (.ofWireName name) (.ofNumber n) := by
    rw [hs']
    exact hreads name n hname (hback ▸ hn)
  refine ⟨?_, ?_, ?_, ?_⟩
  · rw [fst_setVerbosity_of_not_isHeld _ hheld]
    show written.1.bind _ = _
    rw [hok]
    exact hread
  · intro name
    rw [hback, hpeer]
    exact daemon.level?_set htarget hlevel name
  · exact hshown "" daemon'.globalLevel (by decide) rfl
  · intro name hname hother
    have hsound' : daemon'.Sound := hback ▸ hstill
    obtain ⟨n, hn⟩ := hsound'.exists_level? hname
    rw [← VerbosityTarget.ofWireName_api (hsound'.named name hname)]
    exact ⟨n, hn, hshown name n hother hn⟩

/-- `notice` shares its number with `warning`, and reads back as that. -/
theorem setVerbosity_reads_back_notice :
    let steps : List (Step Incident) := [.act .discover, .act (.setVerbosity .all .debug)]
    let s := (new (Daemon.new.withApis [("calc", .null)]).line SessionConfig.default).run steps
    let s' := (s.setVerbosity (.api "calc") .notice).2
    s.Serves "set" ∧ s.Serves "get" ∧ s.verbosity.isHeld = false ∧
      s'.verbosity.Reads .global .debug ∧ s'.verbosity.Reads (.api "calc") .warning := by
  intro steps s s'
  have hset : s.Serves "set" := ⟨by decide +kernel, by decide +kernel, by decide +kernel⟩
  have hget : s.Serves "get" := ⟨by decide +kernel, by decide +kernel, by decide +kernel⟩
  have hguard : s.verbosity.isHeld = false := by decide +kernel
  have hapis : ∀ api ∈ [("calc", Json.null)], api.1 ≠ "" ∧ api.1 ≠ "*" := by
    intro api hapi
    rw [List.mem_singleton.1 hapi]
    decide +kernel
  obtain ⟨-, hlevels, hglobal, hothers⟩ := setVerbosity_reads_back hapis
    (Daemon.new.withApis [("calc", .null)]).line rfl SessionConfig.default steps hset hget hguard
    (.api "calc") ⟨by decide +kernel, by decide +kernel⟩ .notice trivial
  refine ⟨hset, hget, hguard, ?_, ?_⟩
  · have hlevel : s'.channel.peer.globalLevel = 3 := by decide +kernel
    rw [hlevel] at hglobal
    exact hglobal
  · obtain ⟨n, hn, hreads⟩ := hothers "calc" (by decide +kernel) (by decide +kernel)
    have hbefore : s.channel.peer.level? "calc" = some 3 := by decide +kernel
    rw [hlevels, hbefore] at hn
    cases hn
    exact hreads

end Session

end LiveTrace
