import LiveTrace.Proofs.Trace.Agreement
/-!
# LiveTrace.Proofs.Trace.Plan

**What a plan does when all of it is accepted.** A plan drops a subscription only if the tag has an
active mode on display. Where displayed and confirmed modes are the same and the daemon agrees with
the latter, a daemon accepts each command of a plan in turn (`Agrees.plan_accepted`), and after they
are confirmed the tag has the wanted mode on both sides and no other tag has changed
(`TraceSubscriptions.slot_confirm_plan`).
-/

namespace LiveTrace

/-- Whether a daemon accepts commands that are sent one after the other. -/
def TraceCommand.AreAccepted (held : Table String Unit) : List TraceCommand → Prop
  | [] => True
  | c :: rest => c.isAccepted held = true ∧ AreAccepted (c.effect held) rest

namespace TraceSubscriptions

variable {s : TraceSubscriptions} {held : Table String Unit}

/-! ### Tables of slots -/

theorem slot_of_mem {t : TraceTag} {slot : TraceSlot} (h : (t, slot) ∈ s.slots.entries) :
    s.slot t = slot := by
  rw [TraceSubscriptions.slot, Table.get?_eq_some_iff.2 h]
  rfl

theorem mem_of_slot_ne {t : TraceTag} (h : s.slot t ≠ .off) : (t, s.slot t) ∈ s.slots.entries := by
  rw [← Table.get?_eq_some_iff]
  unfold TraceSubscriptions.slot at h ⊢
  cases hget : s.slots.get? t with
  | none => rw [hget] at h; contradiction
  | some slot => rfl

theorem mem_active {t : TraceTag} {wanted : TraceMode} :
    (t, wanted) ∈ s.active ↔ s.mode t = wanted ∧ wanted ≠ .off := by
  simp only [active, List.mem_map, List.mem_filter, Bool.not_eq_true', Prod.mk.injEq]
  constructor
  · rintro ⟨⟨t, slot⟩, ⟨hmem, hactive⟩, rfl, rfl⟩
    refine ⟨congrArg TraceSlot.displayed (slot_of_mem hmem), fun hoff => ?_⟩
    rw [TraceMode.isOff_iff.2 hoff] at hactive
    contradiction
  · rintro ⟨rfl, hactive⟩
    refine ⟨(t, s.slot t), ⟨mem_of_slot_ne fun hoff => hactive ?_, ?_⟩, rfl, rfl⟩
    · rw [mode, hoff]
      rfl
    · exact eq_false_of_ne_true fun hoff => hactive (TraceMode.isOff_iff.1 hoff)

/-- No tag has drifted if and only if displayed and confirmed modes are the same. -/
theorem drifted_eq_nil_iff : s.drifted = [] ↔ ∀ t, s.mode t = s.confirmedMode t := by
  rw [drifted, List.map_eq_nil_iff, List.filter_eq_nil_iff]
  simp only [bne_iff_ne, ne_eq, Decidable.not_not]
  constructor
  · intro h t
    by_cases hslot : s.slot t = .off
    · rw [mode, confirmedMode, hslot]
      rfl
    · exact h _ (mem_of_slot_ne hslot)
  · rintro h ⟨t, slot⟩ hmem
    have hsame := h t
    rwa [mode, confirmedMode, slot_of_mem hmem] at hsame

/-! ### Plans -/

/-- A plan is a drop if the mode on display is active, and then an add if the wanted one is. -/
theorem plan_eq (s : TraceSubscriptions) (tag : TraceTag) (wanted : TraceMode) :
    s.plan tag wanted =
      if wanted = s.mode tag then []
      else (if s.mode tag = .off then [] else [.drop tag]) ++
        (if wanted = .off then [] else [.add tag wanted]) := by
  unfold plan commands
  simp only [TraceMode.isOff_iff]
  by_cases h : s.mode tag = wanted
  · rw [if_pos h, if_pos h.symm]
  · rw [if_neg h, if_neg (Ne.symm h)]

theorem plan_of_mode_eq {tag : TraceTag} {wanted : TraceMode} (h : s.mode tag = wanted) :
    s.plan tag wanted = [] := if_pos h

/-- A plan is empty only for the mode on display. -/
theorem plan_eq_nil_iff {tag : TraceTag} {wanted : TraceMode} :
    s.plan tag wanted = [] ↔ s.mode tag = wanted := by
  refine ⟨fun h => ?_, plan_of_mode_eq⟩
  rw [plan_eq] at h
  by_cases hmode : wanted = s.mode tag
  · exact hmode.symm
  · -- neither a drop nor an add means that both modes are off
    rw [if_neg hmode] at h
    obtain ⟨hdrop, hadd⟩ := List.append_eq_nil_iff.1 h
    have hshown : s.mode tag = .off := by simpa using hdrop
    have hwanted : wanted = .off := by simpa using hadd
    rw [hshown, hwanted]

theorem Agrees.plan_accepted (h : s.Agrees held) {tag : TraceTag} (htag : tag.IsParsed)
    (hsame : s.mode tag = s.confirmedMode tag) (wanted : TraceMode) :
    TraceCommand.AreAccepted held (s.plan tag wanted) := by
  have hadd (held : Table String Unit) : TraceCommand.AreAccepted held
      (if wanted = .off then [] else [.add tag wanted]) := by
    split
    · exact trivial
    · exact ⟨rfl, trivial⟩
  rw [plan_eq]
  by_cases heq : wanted = s.mode tag
  · rw [if_pos heq]
    exact trivial
  · rw [if_neg heq]
    by_cases hoff : s.mode tag = .off
    · rw [if_pos hoff]
      exact hadd held
    · rw [if_neg hoff]
      -- the mode on display is the confirmed one, so the daemon holds the tag
      have hheld : held.contains tag.text = true := by
        rw [h.text_held_iff htag, ← hsame]
        exact hoff
      exact ⟨hheld, hadd _⟩

/-- Commands that are confirmed leave a tag in the mode of the last one that is about it. -/
theorem slot_foldl_confirm (l : List TraceCommand) (s : TraceSubscriptions) (t : TraceTag) :
    (l.foldl confirm s).slot t =
      { s.slot t with
        confirmed := (l.reverse.findSome? (·.outcome? t)).getD (s.slot t).confirmed } := by
  induction l generalizing s with
  | nil => rfl
  | cons c rest ih =>
    rw [List.foldl_cons, ih, slot_confirm, List.reverse_cons, List.findSome?_append]
    cases rest.reverse.findSome? (·.outcome? t) with
    | none => cases hc : c.outcome? t <;> simp [hc]
    | some mode => rfl

/-- The last command of a plan about its tag is for the wanted mode. -/
theorem outcome?_plan {tag : TraceTag} {wanted : TraceMode} (h : s.mode tag ≠ wanted)
    (t : TraceTag) :
    (s.plan tag wanted).reverse.findSome? (·.outcome? t) =
      if t = tag then some wanted else none := by
  rw [plan_eq, if_neg (Ne.symm h)]
  by_cases hwanted : wanted = .off
  · -- the modes differ, so the one on display is active and the plan is a drop
    subst hwanted
    rw [if_neg h, if_pos rfl]
    by_cases ht : t = tag <;> simp [TraceCommand.outcome?, ht]
  · rw [if_neg hwanted, List.reverse_append, List.reverse_singleton, List.singleton_append,
      List.findSome?_cons]
    by_cases ht : t = tag
    · rw [TraceCommand.outcome?, if_pos ht]
    · by_cases hoff : s.mode tag = .off <;> simp [TraceCommand.outcome?, ht, hoff]

theorem slot_confirm_plan {tag : TraceTag} (hsame : s.mode tag = s.confirmedMode tag)
    (wanted : TraceMode) (t : TraceTag) :
    ((s.plan tag wanted).foldl confirm (s.select tag wanted).2).slot t =
      if t = tag then ⟨wanted, wanted⟩ else s.slot t := by
  rw [slot_foldl_confirm, slot_select]
  by_cases heq : s.mode tag = wanted
  · have hslot : s.slot tag = ⟨wanted, wanted⟩ := by
      calc s.slot tag = ⟨s.mode tag, s.confirmedMode tag⟩ := rfl
        _ = ⟨wanted, wanted⟩ := by rw [← hsame, heq]
    rw [plan_of_mode_eq heq, hslot]
    split <;> rfl
  · rw [outcome?_plan heq]
    split <;> rfl

end TraceSubscriptions

end LiveTrace
