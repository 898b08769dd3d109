import LiveTrace.Proofs.Trace.Reading
import LiveTrace.Verbosity.Target
/-!
# LiveTrace.Proofs.Program.Operands

**Operands are read exactly and print back.** The program is given tags, modes, selections, targets
and levels as texts, and prints them as texts. `operands_read_exactly` says which texts are read as
tags, modes and selections, and what is reported for the others, and that the text of whatever was
read reads as the same (`RoundTrips`). Levels are read in letters of either case and as numbers
brought into range, so that their own text is often not the one that was read.
-/

namespace LiveTrace

/-- Whether the text of anything that was read is read as the same thing again. -/
def RoundTrips {α : Type} (parse : String → Except MonitorError α) (text : α → String) : Prop :=
  ∀ s a, parse s = .ok a → parse (text a) = .ok a

/-! ## Targets -/

namespace VerbosityTarget

variable {s : String} {t : VerbosityTarget}

theorem text_of_parse (h : parse s = .ok t) : t.text = Text.trim s := by
  unfold parse at h
  by_cases hall : Text.trim s = "*"
  · simp only [hall, if_pos, Except.ok.injEq] at h
    rw [← h, hall, text]
  · by_cases hglobal : Text.trim s = "-"
    · simp only [hglobal, if_pos, String.reduceEq, if_neg, Except.ok.injEq, not_false_eq_true] at h
      rw [← h, hglobal, text]
    · by_cases hempty : Text.trim s = ""
      · simp [hempty] at h
      · simp only [hall, hglobal, hempty, if_false, Except.ok.injEq] at h
        rw [← h, text]

/-- What is read depends on the text without the white space around it only. -/
theorem parse_trim (h : parse s = .ok t) : parse (Text.trim s) = .ok t := by
  unfold parse at h ⊢
  rw [Text.trim_trim]
  by_cases hempty : Text.trim s = "" <;> simp_all

theorem roundTrips : RoundTrips parse text := by
  intro s t h
  rw [text_of_parse h]
  exact parse_trim h

end VerbosityTarget

/-! ## Levels -/

namespace VerbosityLevel

variable {s : String} {l : VerbosityLevel}

theorem ofNumber_mem_named (n : Int) : ofNumber n ∈ named := by
  unfold ofNumber
  repeat' split
  all_goals simp [named]

/-- Only levels with a name are read. -/
theorem mem_named_of_parse (h : parse s = .ok l) : l ∈ named := by
  unfold parse at h
  cases hname : ofName? (Text.trim s) with
  | some m =>
    simp only [hname, Except.ok.injEq] at h
    rw [← h]
    exact List.mem_of_find?_eq_some hname
  | none =>
    cases hnumber : integer? (Text.trim s).toList with
    | some n =>
      simp only [hname, hnumber, Except.ok.injEq] at h
      rw [← h]
      exact ofNumber_mem_named n
    | none => simp [hname, hnumber] at h

theorem parse_of_ofName? (h : ofName? (Text.trim s) = some l) : parse s = .ok l := by
  simp only [parse, h]

theorem ofName?_trim_text : ∀ l ∈ named, ofName? (Text.trim l.text) = some l := by
  decide +kernel

theorem roundTrips : RoundTrips parse text := by
  intro s l h
  exact parse_of_ofName? (ofName?_trim_text l (mem_named_of_parse h))

end VerbosityLevel

/-! ## All operands -/

/-- **Operands are read exactly and print back.** A text is read as a tag if it spells one, and the
text of the tag is then the text that was read, without the white space around it; no two tags that
were read share a text. A text is read as a selection if its parts are read as a tag and as a mode,
and what is wrong with the tag is reported before what is wrong with the mode. And whatever was
read, be it a tag, a mode, a selection, a target or a level, has a text that is read as the same. -/
theorem operands_read_exactly :
    ((∀ s t, TraceTag.parse s = .ok t ↔ t.IsSpelledBy s) ∧
      (∀ s t, TraceTag.parse s = .ok t → t.text = Text.trim s) ∧
      ∀ s t s' t', TraceTag.parse s = .ok t → TraceTag.parse s' = .ok t' → t.text = t'.text →
        t = t') ∧
    ((∀ s, ∃ tag mode, TraceSelection.HasParts s tag mode) ∧
      ∀ s tag mode, TraceSelection.HasParts s tag mode →
        ((∃ x, TraceSelection.parse s = .ok x) ↔
          (∃ t : TraceTag, t.IsSpelledBy tag) ∧ TraceMode.IsName (Text.trim mode)) ∧
        (∀ x, TraceSelection.parse s = .ok x ↔
          x.tag.IsSpelledBy tag ∧ x.mode.name = Text.trim mode) ∧
        ∀ e, TraceSelection.parse s = .error e ↔
          ((¬ ∃ t : TraceTag, t.IsSpelledBy tag) ∧ e = .invalidTag tag) ∨
            ((∃ t : TraceTag, t.IsSpelledBy tag) ∧ ¬ TraceMode.IsName (Text.trim mode) ∧
              e = .invalidMode (Text.trim mode))) ∧
    RoundTrips TraceTag.parse TraceTag.text ∧
    RoundTrips TraceMode.parse TraceMode.name ∧
    RoundTrips TraceSelection.parse TraceSelection.text ∧
    RoundTrips VerbosityTarget.parse VerbosityTarget.text ∧
    RoundTrips VerbosityLevel.parse VerbosityLevel.text := by
  refine ⟨⟨fun s t => TraceTag.parse_eq_ok_iff, ?_, ?_⟩, ⟨TraceSelection.exists_hasParts, ?_⟩,
    fun s t => TraceTag.parse_text, fun s m => TraceMode.parse_name,
    fun s x => TraceSelection.parse_text, VerbosityTarget.roundTrips, VerbosityLevel.roundTrips⟩
  · intro s t h
    exact (TraceTag.parse_eq_ok_iff.1 h).text_eq
  · intro s t s' t' h h' htext
    exact TraceTag.IsParsed.text_injective ⟨s, h⟩ ⟨s', h'⟩ htext
  · intro s tag mode hparts
    have hread : ∀ x, TraceSelection.parse s = .ok x ↔
        x.tag.IsSpelledBy tag ∧ x.mode.name = Text.trim mode := by
      intro x
      rw [TraceSelection.parse_eq_ok_iff hparts, TraceTag.parse_eq_ok_iff,
        TraceMode.parse_eq_ok_iff]
    refine ⟨?_, hread, ?_⟩
    · rw [← TraceMode.exists_parse_eq_ok_iff]
      simp only [hread, TraceMode.parse_eq_ok_iff]
      exact ⟨fun ⟨x, htag, hmode⟩ => ⟨⟨x.tag, htag⟩, x.mode, hmode⟩,
        fun ⟨⟨t, htag⟩, m, hmode⟩ => ⟨⟨t, m⟩, htag, hmode⟩⟩
    · intro e
      rw [TraceSelection.parse_eq_error_iff hparts, TraceTag.parse_eq_error_iff,
        TraceMode.parse_eq_error_iff]
      simp only [TraceTag.parse_eq_ok_iff]

/-- The name of an API may hold slashes and stars, and white space may stand around every part. -/
theorem operands_read_exactly_slash :
    TraceSelection.HasParts " a/*/event=  all" " a/*/event" "  all" ∧
      (∃ x, TraceSelection.parse " a/*/event=  all" = .ok x ∧
        TraceTag.parse " a/*/event" = .ok x.tag ∧ x.tag.text = "a/*/event" ∧
        x.text = "a/*/event=all" ∧ TraceSelection.parse "a/*/event=all" = .ok x) ∧
      VerbosityTarget.parse " -" = .ok .global ∧
      VerbosityTarget.parse VerbosityTarget.global.text = .ok .global ∧
      VerbosityLevel.parse " Debug" = .ok .debug ∧
      VerbosityLevel.parse VerbosityLevel.debug.text = .ok .debug := by
  have hparts : TraceSelection.HasParts " a/*/event=  all" " a/*/event" "  all" :=
    ⟨by decide +kernel, .inl (by decide +kernel)⟩
  let x : TraceSelection := ⟨⟨some "a/*", .event⟩, ⟨"all", by decide +kernel⟩⟩
  have hspelled : x.tag.IsSpelledBy " a/*/event" :=
    ⟨"a/*", by decide +kernel, by decide +kernel, by decide +kernel⟩
  have hmode : x.mode.name = Text.trim "  all" := by decide +kernel
  have htext : x.text = "a/*/event=all" := by decide +kernel
  obtain ⟨⟨htags, htexts, -⟩, ⟨-, hselections⟩, -, -, hagain, htargets, hlevels⟩ :=
    operands_read_exactly
  have htag : TraceTag.parse " a/*/event" = .ok x.tag := (htags _ _).2 hspelled
  have htagText : x.tag.text = "a/*/event" := (htexts _ _ htag).trans (by decide +kernel)
  have hread : TraceSelection.parse " a/*/event=  all" = .ok x :=
    ((hselections _ _ _ hparts).2.1 x).2 ⟨hspelled, hmode⟩
  have hreadAgain := hagain _ x hread
  rw [htext] at hreadAgain
  have htarget : VerbosityTarget.parse " -" = .ok .global := by
    have htrim : Text.trim " -" = "-" := by decide +kernel
    simp [VerbosityTarget.parse, htrim]
  have hlevel : VerbosityLevel.parse " Debug" = .ok .debug :=
    VerbosityLevel.parse_of_ofName? (by decide +kernel)
  exact ⟨hparts, ⟨x, hread, htag, htagText, htext, hreadAgain⟩, htarget, htargets _ _ htarget,
    hlevel, hlevels _ _ hlevel⟩

end LiveTrace
