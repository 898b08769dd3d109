import Mathlib.Data.List.DropRight
import LiveTrace.Text.Basic
/-!
# LiveTrace.Proofs.Text.Trim

**What is left of a text without the white space around it.** The characters that are left neither
begin nor end with white space (`Text.IsTrimmed`), and what was taken away from either end of them
was white space only (`Text.trimChars_eq_iff`). So nothing more is taken away the second time
(`Text.trim_trim`).
-/

namespace LiveTrace.Text

/-- Whether characters neither begin nor end with white space. -/
def IsTrimmed (cs : List Char) : Prop :=
  (∀ c, cs.head? = some c → isBlank c = false) ∧ ∀ c, cs.getLast? = some c → isBlank c = false

variable {p : Char → Bool} {cs front back : List Char}

/-! ## One end -/

theorem dropWhile_of_head (h : ∀ c, cs.head? = some c → p c = false) : cs.dropWhile p = cs := by
  cases cs with
  | nil => rfl
  | cons c cs => simp [h c rfl]

theorem head_dropWhile (p : Char → Bool) (cs : List Char) :
    ∀ c, (cs.dropWhile p).head? = some c → p c = false := by
  intro c hc
  have h := List.head?_dropWhile_not p cs
  rw [hc] at h
  simpa using h

theorem exists_append_dropWhile (p : Char → Bool) (cs : List Char) :
    ∃ front, (∀ c ∈ front, p c = true) ∧ cs = front ++ cs.dropWhile p := by
  refine ⟨cs.takeWhile p, ?_, List.takeWhile_append_dropWhile.symm⟩
  intro c hc
  exact List.mem_takeWhile_imp hc

theorem exists_dropWhileEnd_append (p : Char → Bool) (cs : List Char) :
    ∃ back, (∀ c ∈ back, p c = true) ∧ cs = dropWhileEnd p cs ++ back := by
  refine ⟨cs.rtakeWhile p, ?_, List.rdropWhile_append_rtakeWhile.symm⟩
  intro c hc
  exact List.mem_rtakeWhile_imp hc

theorem dropWhileEnd_append (h : ∀ c ∈ back, p c = true) :
    dropWhileEnd p (cs ++ back) = dropWhileEnd p cs := by
  have h' : ∀ c ∈ back.reverse, p c = true := by simpa using h
  simp only [dropWhileEnd, List.reverse_append, List.dropWhile_append_of_pos h']

theorem dropWhileEnd_of_getLast (h : ∀ c, cs.getLast? = some c → p c = false) :
    dropWhileEnd p cs = cs := by
  have h' : ∀ c, cs.reverse.head? = some c → p c = false := by simpa using h
  rw [dropWhileEnd, dropWhile_of_head h', List.reverse_reverse]

/-! ## Both ends -/

theorem isTrimmed_trimChars (cs : List Char) : IsTrimmed (trimChars cs) := by
  constructor
  · intro c hc
    -- the front of what is left is the front of the text without its leading white space
    obtain ⟨back, -, hback⟩ := exists_dropWhileEnd_append isBlank (cs.dropWhile isBlank)
    refine head_dropWhile isBlank cs c ?_
    rw [hback, List.head?_append]
    rw [trimChars] at hc
    simp [hc]
  · intro c hc
    refine head_dropWhile isBlank (cs.dropWhile isBlank).reverse c ?_
    simpa [trimChars, dropWhileEnd] using hc

theorem trimChars_append (hfront : ∀ c ∈ front, isBlank c = true)
    (hback : ∀ c ∈ back, isBlank c = true) (hcs : IsTrimmed cs) :
    trimChars (front ++ cs ++ back) = cs := by
  rw [trimChars, List.append_assoc, List.dropWhile_append_of_pos hfront]
  cases cs with
  | nil =>
    rw [List.nil_append, List.dropWhile_eq_nil_iff.2 hback]
    rfl
  | cons c cs =>
    rw [dropWhile_of_head (by simpa using hcs.1), dropWhileEnd_append hback,
      dropWhileEnd_of_getLast hcs.2]

/-- **What is left of a text** are the characters in it that neither begin nor end with white space
and have nothing but white space on either side. -/
theorem trimChars_eq_iff {mid : List Char} :
    trimChars cs = mid ↔ IsTrimmed mid ∧ ∃ front back,
      (∀ c ∈ front, isBlank c = true) ∧ (∀ c ∈ back, isBlank c = true) ∧
        cs = front ++ mid ++ back := by
  constructor
  · rintro rfl
    refine ⟨isTrimmed_trimChars cs, ?_⟩
    obtain ⟨front, hfront, hcs⟩ := exists_append_dropWhile isBlank cs
    obtain ⟨back, hback, hmid⟩ := exists_dropWhileEnd_append isBlank (cs.dropWhile isBlank)
    refine ⟨front, back, hfront, hback, ?_⟩
    rw [trimChars, List.append_assoc, ← hmid]
    exact hcs
  · rintro ⟨hmid, front, back, hfront, hback, rfl⟩
    exact trimChars_append hfront hback hmid

theorem trimChars_trimChars (cs : List Char) : trimChars (trimChars cs) = trimChars cs := by
  have hnil : ∀ c ∈ ([] : List Char), isBlank c = true := by simp
  simpa using trimChars_append hnil hnil (isTrimmed_trimChars cs)

theorem mem_of_mem_trimChars {c : Char} (h : c ∈ trimChars cs) : c ∈ cs := by
  obtain ⟨-, front, back, -, -, hcs⟩ := trimChars_eq_iff.1 (Eq.refl (trimChars cs))
  rw [hcs]
  simp [h]

theorem toList_trim (s : String) : (trim s).toList = trimChars s.toList := by
  rw [trim, String.toList_ofList]

@[simp] theorem trim_trim (s : String) : trim (trim s) = trim s := by
  rw [trim, toList_trim, trimChars_trimChars, trim]

end LiveTrace.Text
