import LiveTrace.Proofs.Trace.Tag
import LiveTrace.Trace.Subscriptions
/-!
# LiveTrace.Proofs.Trace.Agreement

**Subscriptions as a session confirms them and as a daemon holds them.** A daemon holds texts of
tags. Its side of a command is a condition on what it holds (`TraceCommand.isAccepted`) and a change
of it (`TraceCommand.effect`); the session's side is `TraceSubscriptions.confirm`. The two agree
(`TraceSubscriptions.Agrees`) if the texts held are those of the tags with an active confirmed mode.
An accepted command keeps the agreement when both sides take part (`Agrees.confirm`), and anything
that moves displayed modes only keeps it too (`Agrees.congr`).
-/

namespace LiveTrace

namespace TraceCommand

/-- Whether a daemon that holds subscriptions accepts a command. -/
def isAccepted (held : Table String Unit) : TraceCommand → Bool
  | drop tag => held.contains tag.text
  | add .. | dropAll => true

/-- What a daemon holds after it accepts a command. -/
def effect (held : Table String Unit) : TraceCommand → Table String Unit
  | drop tag => held.erase tag.text
  | add tag _ => held.insert tag.text ()
  | dropAll => .empty

/-- The mode in which a command leaves a tag, if it is about the tag. -/
def outcome? (t : TraceTag) : TraceCommand → Option TraceMode
  | drop tag => if t = tag then some .off else none
  | add tag mode => if t = tag then some mode else none
  | dropAll => some .off

/-- A command about a tag that can be read, and in an active mode if it adds one. -/
def IsProper : TraceCommand → Prop
  | drop tag => tag.IsParsed
  | add tag mode => tag.IsParsed ∧ mode ≠ .off
  | dropAll => True

end TraceCommand

namespace TraceSubscriptions

/-! ### Modes after each operation -/

theorem confirmedMode_select (s : TraceSubscriptions) (tag : TraceTag) (wanted : TraceMode)
    (t : TraceTag) : (s.select tag wanted).2.confirmedMode t = s.confirmedMode t := by
  rw [confirmedMode, slot_select]
  split
  · rename_i ht
    rw [ht, confirmedMode]
  · rfl

theorem confirmedMode_resetAll (s : TraceSubscriptions) (t : TraceTag) :
    s.resetAll.confirmedMode t = s.confirmedMode t := by
  rw [confirmedMode, slot_resetAll, confirmedMode]

/-- The modes of a tag after a command. -/
theorem slot_confirm (s : TraceSubscriptions) (c : TraceCommand) (t : TraceTag) :
    (s.confirm c).slot t =
      { s.slot t with confirmed := (c.outcome? t).getD (s.slot t).confirmed } := by
  cases c with
  | drop tag | add tag wanted =>
    rw [confirm, slot_setSlot, TraceCommand.outcome?]
    by_cases ht : t = tag
    · rw [if_pos ht, if_pos ht, ht]
      rfl
    · rw [if_neg ht, if_neg ht]
      rfl
  | dropAll =>
    simp only [confirm, slot, Table.get?_mapValues]
    cases s.slots.get? t <;> rfl

theorem confirmedMode_confirm (s : TraceSubscriptions) (c : TraceCommand) (t : TraceTag) :
    (s.confirm c).confirmedMode t = (c.outcome? t).getD (s.confirmedMode t) := by
  rw [confirmedMode, slot_confirm, confirmedMode]

theorem commands_proper {tag : TraceTag} (htag : tag.IsParsed) (current wanted : TraceMode) :
    ∀ c ∈ commands tag current wanted, c.IsProper := by
  intro c hc
  unfold commands at hc
  split at hc
  · contradiction
  · rcases List.mem_append.1 hc with hc | hc
    · split at hc
      · contradiction
      · obtain rfl := List.mem_singleton.1 hc
        exact htag
    · split at hc
      · contradiction
      · rename_i hwanted
        obtain rfl := List.mem_singleton.1 hc
        exact ⟨htag, fun h => hwanted (by rw [h]; rfl)⟩

/-! ### Agreement -/

/-- The texts that a daemon holds are those of the tags with an active confirmed mode, and all of
these can be read. -/
structure Agrees (s : TraceSubscriptions) (held : Table String Unit) : Prop where
  parsed : ∀ t, s.confirmedMode t ≠ .off → t.IsParsed
  held_iff : ∀ x, held.contains x = true ↔ ∃ t, s.confirmedMode t ≠ .off ∧ t.text = x

theorem agrees_empty : empty.Agrees .empty where
  parsed _ h := absurd rfl h
  held_iff _ := ⟨nofun, fun ⟨_, h, _⟩ => absurd rfl h⟩

variable {s s' : TraceSubscriptions} {held : Table String Unit}

/-- Agreement is about confirmed modes only. -/
theorem Agrees.congr (h : s.Agrees held) (hs : ∀ t, s'.confirmedMode t = s.confirmedMode t) :
    s'.Agrees held where
  parsed t ht := h.parsed t (hs t ▸ ht)
  held_iff x := by simp only [hs, h.held_iff]

/-- The text of a tag that can be read is held if and only if the tag has an active confirmed
mode. -/
theorem Agrees.text_held_iff (h : s.Agrees held) {t : TraceTag} (ht : t.IsParsed) :
    held.contains t.text = true ↔ s.confirmedMode t ≠ .off := by
  rw [h.held_iff]
  constructor
  · rintro ⟨t', hmode, htext⟩
    -- the tag that the text is held for is this one, because both can be read
    obtain rfl := (h.parsed t' hmode).text_injective ht htext
    exact hmode
  · exact fun hmode => ⟨t, hmode, rfl⟩

theorem Agrees.confirm_drop (h : s.Agrees held) {tag : TraceTag} (htag : tag.IsParsed) :
    (s.confirm (.drop tag)).Agrees (held.erase tag.text) := by
  have hmode (t : TraceTag) : (s.confirm (.drop tag)).confirmedMode t ≠ .off ↔
      t ≠ tag ∧ s.confirmedMode t ≠ .off := by
    rw [confirmedMode_confirm, TraceCommand.outcome?]
    by_cases ht : t = tag <;> simp [ht]
  refine ⟨fun t ht => h.parsed t ((hmode t).1 ht).2, fun x => ?_⟩
  rw [Table.contains_erase, Bool.and_eq_true, Bool.not_eq_true', beq_eq_false_iff_ne, h.held_iff]
  simp only [hmode]
  constructor
  · rintro ⟨hx, t, ht, rfl⟩
    exact ⟨t, ⟨fun heq => hx (congrArg TraceTag.text heq), ht⟩, rfl⟩
  · rintro ⟨t, ⟨hne, ht⟩, rfl⟩
    -- the texts differ because both tags can be read
    exact ⟨fun htext => hne ((h.parsed t ht).text_injective htag htext), t, ht, rfl⟩

theorem Agrees.confirm_add (h : s.Agrees held) {tag : TraceTag} (htag : tag.IsParsed)
    {wanted : TraceMode} (hwanted : wanted ≠ .off) :
    (s.confirm (.add tag wanted)).Agrees (held.insert tag.text ()) := by
  have hmode (t : TraceTag) : (s.confirm (.add tag wanted)).confirmedMode t ≠ .off ↔
      t = tag ∨ s.confirmedMode t ≠ .off := by
    rw [confirmedMode_confirm, TraceCommand.outcome?]
    by_cases ht : t = tag <;> simp [ht, hwanted]
  refine ⟨fun t ht => ?_, fun x => ?_⟩
  · rcases (hmode t).1 ht with rfl | ht
    · exact htag
    · exact h.parsed t ht
  · rw [Table.contains_insert, Bool.or_eq_true, beq_iff_eq, h.held_iff]
    simp only [hmode]
    constructor
    · rintro (rfl | ⟨t, ht, rfl⟩)
      · exact ⟨tag, .inl rfl, rfl⟩
      · exact ⟨t, .inr ht, rfl⟩
    · rintro ⟨t, rfl | ht, rfl⟩
      · exact .inl rfl
      · exact .inr ⟨t, ht, rfl⟩

theorem agrees_confirm_dropAll (s : TraceSubscriptions) : (s.confirm .dropAll).Agrees .empty where
  parsed t ht := absurd (s.confirmedMode_confirm .dropAll t) ht
  held_iff _ := ⟨nofun, fun ⟨t, ht, _⟩ => absurd (s.confirmedMode_confirm .dropAll t) ht⟩

/-- **An accepted command keeps the agreement.** -/
theorem Agrees.confirm (h : s.Agrees held) {c : TraceCommand} (hc : c.IsProper) :
    (s.confirm c).Agrees (c.effect held) := by
  cases c with
  | drop tag => exact h.confirm_drop hc
  | add tag mode => exact h.confirm_add hc.1 hc.2
  | dropAll => exact s.agrees_confirm_dropAll

end TraceSubscriptions

end LiveTrace
