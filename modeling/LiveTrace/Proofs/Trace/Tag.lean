import LiveTrace.Trace.Tag
/-!
# LiveTrace.Proofs.Trace.Tag

**The text of a tag tells the tag.** A daemon knows subscriptions by text, a session by tag. Two
tags may share a text: `*` stands for every API, and an API could have it as its name. No such tag
can be read, though, so among tags that can be read (`TraceTag.IsParsed`) texts are different for
different tags (`TraceTag.IsParsed.text_injective`).
-/

namespace LiveTrace

theorem TraceCategory.name_injective {c d : TraceCategory} (h : c.name = d.name) : c = d := by
  have hofName := congrArg ofName? h
  rw [ofName?_name, ofName?_name] at hofName
  exact Option.some.inj hofName

theorem TraceCategory.slash_notMem_name (c : TraceCategory) : '/' ∉ c.name.toList := by
  cases c <;> decide +kernel

namespace TraceTag

/-- Whether a tag is one that can be read. -/
def IsParsed (t : TraceTag) : Prop := ∃ s, parse s = .ok t

theorem api_of_ofParts? {api category : List Char} {t : TraceTag}
    (h : ofParts? api category = some t) : t.api ≠ some "*" := by
  unfold ofParts? at h
  split at h
  · contradiction
  · by_cases hempty : api = []
    · rw [if_pos hempty] at h
      contradiction
    · rw [if_neg hempty] at h
      by_cases hall : api = ['*']
      · rw [if_pos hall] at h
        cases h
        exact nofun
      · rw [if_neg hall] at h
        cases h
        intro hstar
        have hlist := congrArg String.toList (Option.some.inj hstar)
        rw [String.toList_ofList] at hlist
        exact hall hlist

/-- A tag for the API `*`, which is not a tag for every API, cannot be read. -/
theorem IsParsed.api_ne {t : TraceTag} (h : t.IsParsed) : t.api ≠ some "*" := by
  obtain ⟨s, hs⟩ := h
  unfold parse at hs
  cases hsplit : Text.splitLast? '/' (Text.trimChars s.toList) with
  | none => rw [hsplit] at hs; contradiction
  | some parts =>
    obtain ⟨api, category⟩ := parts
    rw [hsplit] at hs
    cases hparts : ofParts? api category with
    | none => simp [hparts] at hs
    | some t' =>
      obtain rfl : t' = t := by simpa [hparts] using hs
      exact api_of_ofParts? hparts

theorem toList_text (t : TraceTag) :
    t.text.toList = (t.api.getD "*").toList ++ '/' :: t.category.name.toList := by
  simp [text]

/-- **Tags that can be read are told by their texts.** The category is what follows the last slash,
so that slashes in the name of an API do no harm. -/
theorem IsParsed.text_injective {s t : TraceTag} (hs : s.IsParsed) (ht : t.IsParsed)
    (h : s.text = t.text) : s = t := by
  have hlist := congrArg String.toList h
  rw [toList_text, toList_text] at hlist
  obtain ⟨hapi, hcategory⟩ := Text.append_cons_inj s.category.slash_notMem_name
    t.category.slash_notMem_name hlist
  have hc : s.category = t.category := TraceCategory.name_injective (String.toList_inj.1 hcategory)
  have ha : s.api = t.api := by
    -- the name `*` stands for every API, and neither tag has an API of that name
    have hstar : s.api.getD "*" = t.api.getD "*" := String.toList_inj.1 hapi
    have hs' := hs.api_ne
    have ht' := ht.api_ne
    cases hsa : s.api with
    | none => cases hta : t.api <;> simp_all
    | some a => cases hta : t.api <;> simp_all
  cases s
  cases t
  simp_all

end TraceTag

end LiveTrace
