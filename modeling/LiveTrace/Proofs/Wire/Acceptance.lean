import LiveTrace.Proofs.Json.Acceptance
import LiveTrace.Wire.Frame
/-!
# LiveTrace.Proofs.Wire.Acceptance

**Which texts are messages.** A message is read from a text that is a JSON array with the elements
of a message (`Frame.IsMessage`), be there more of them or not; of other arrays it is reported what
they lack (`Frame.Lacks`). `Frame.decode_accepts_protocol` says so of all texts, with the arrays of
the grammar and not those of the reader.

Nothing is read from a text with a number beyond the range of a double or with half of a surrogate
pair, even where such an element does not belong to the message (`Frame.decode_half_pair`).
-/

namespace LiveTrace.Frame

open Json.Grammar

/-! ## Messages by their elements -/

/-- The identifier that an element is: a string, or a number, which counts by its text. -/
inductive Identifies : Option Json → String → Prop
  | string (s : String) : Identifies (some (.string s)) s
  | number (n : Json.Number) : Identifies (some (.number n)) (String.ofList n.text)

/-- The first of the elements, `null` if there is none. -/
def next (elements : List (Option Json)) : Option Json := elements.headD (some .null)

/-- An array that begins with a code and an identifier, and the rest of its elements. -/
def Opens (elements : List (Option Json)) (code : Nat) (id : String) (rest : List (Option Json)) :
    Prop :=
  ∃ second, elements = some (.int code) :: second :: rest ∧ Identifies second id

/-- The message that the elements of an array are. What comes after its last part is ignored. -/
inductive IsMessage (elements : List (Option Json)) : Frame → Prop
  | call {id apiVerb : String} {rest : List (Option Json)} {args : Json}
    (h : Opens elements 2 id (some (.string apiVerb) :: rest)) (hargs : next rest = some args) :
    IsMessage elements (.call id apiVerb args)
  | success {id : String} {rest : List (Option Json)} {reply : Json}
    (h : Opens elements 3 id rest) (hreply : next rest = some reply) :
    IsMessage elements (.success id reply)
  | failure {id : String} {rest : List (Option Json)} {reply : Json}
    (h : Opens elements 4 id rest) (hreply : next rest = some reply) :
    IsMessage elements (.failure id reply)
  | event {name : String} {rest : List (Option Json)} {message : Json}
    (h : Opens elements 5 name rest) (hmessage : next rest = some message) :
    IsMessage elements (.event name message)

/-- What is reported of an array that is no message: the first part of it that is missing. -/
inductive Lacks (text : String) (elements : List (Option Json)) : String → Prop
  | code (h : ∀ n : Nat, elements.head? ≠ some (some (.int n))) :
    Lacks text elements ("missing message code: " ++ text)
  | identifier {n : Nat} (hcode : elements.head? = some (some (.int n)))
    (h : ∀ n id rest, ¬ Opens elements n id rest) :
    Lacks text elements ("missing message identifier: " ++ text)
  | known {n : Nat} {id : String} {rest : List (Option Json)} (h : Opens elements n id rest)
    (hn : n ∉ [2, 3, 4, 5]) : Lacks text elements ("unknown message code " ++ toString n)
  | apiVerb {id : String} {rest : List (Option Json)} {found : Json}
    (h : Opens elements 2 id rest) (hfound : next rest = some found)
    (hverb : ∀ s, found ≠ .string s) :
    Lacks text elements ("call without api/verb: " ++ found.compact)

/-! ## Elements that stand for values -/

section Items

variable {items rest : List Json} {n : Nat} {id text : String}

theorem identifier?_eq_some_iff {v : Json} : identifier? v = some id ↔ Identifies (some v) id := by
  constructor
  · intro h
    cases v with
    | string s =>
      cases h
      exact .string id
    | number m =>
      cases h
      exact .number m
    | null | bool | array | object => contradiction
  · intro h
    cases h <;> rfl

theorem next_map_some (items : List Json) : next (items.map some) = some (payload items) := by
  cases items <;> rfl

/-- A code is an integer that is not negative. -/
theorem asNat64?_eq_some_iff {v : Json} (hv : v.Canonical) : v.asNat64? = some n ↔ v = .int n := by
  constructor
  · intro h
    cases v with
    | number m =>
      cases m with
      | integer m =>
        simp only [Json.asNat64?] at h
        split at h
        · rename_i hrange
          cases h
          rw [Int.toNat_of_nonneg hrange.1]
          rfl
        · contradiction
      | double d => contradiction
    | null | bool | string | array | object => contradiction
  · rintro rfl
    have hrange : (0 : Int) ≤ n ∧ (n : Int) < 0x10000000000000000 := ⟨Int.natCast_nonneg n, hv.2⟩
    simp [Json.int, Json.asNat64?, hrange]

/-! ### What follows the identifier -/

theorem isMessage_of_ofParts {elements : List (Option Json)} {f : Frame}
    (hopens : Opens elements n id (rest.map some)) (h : ofParts n id rest = .ok f) :
    IsMessage elements f := by
  unfold ofParts at h
  split at h
  · split at h
    · rename_i apiVerb hverb
      cases h
      -- a text is not what stands for a missing part, so that there is one
      cases rest with
      | nil => contradiction
      | cons v rest =>
        obtain rfl : v = .string apiVerb := hverb
        exact .call hopens (next_map_some rest)
    · contradiction
  · cases h
    exact .success hopens (next_map_some rest)
  · cases h
    exact .failure hopens (next_map_some rest)
  · cases h
    exact .event hopens (next_map_some rest)
  · contradiction

theorem lacks_of_ofParts {elements : List (Option Json)} {e : FrameError}
    (hopens : Opens elements n id (rest.map some)) (h : ofParts n id rest = .error e) :
    ∃ m, e.message? = some m ∧ Lacks text elements m := by
  unfold ofParts at h
  split at h
  · split at h
    · contradiction
    · rename_i hverb
      cases h
      exact ⟨_, rfl, .apiVerb hopens (next_map_some rest) hverb⟩
  · contradiction
  · contradiction
  · contradiction
  · rename_i h2 h3 h4 h5
    cases h
    have hn : n ∉ [2, 3, 4, 5] := by
      simpa using ⟨h2, h3, h4, h5⟩
    exact ⟨_, rfl, .known hopens hn⟩

theorem ofParts_of_notMem (h : n ∉ [2, 3, 4, 5]) :
    ofParts n id rest = .error (.unknownCode n) := by
  simp only [List.mem_cons, List.not_mem_nil, or_false, not_or] at h
  obtain ⟨h2, h3, h4, h5⟩ := h
  unfold ofParts
  split <;> first | contradiction | rfl

theorem ofParts_of_payload {found : Json} (h : payload rest = found)
    (hverb : ∀ s, found ≠ .string s) : ofParts 2 id rest = .error (.callWithoutVerb found) := by
  simp only [ofParts, h]

/-! ### Whole arrays -/

variable (hitems : ∀ v ∈ items, v.Canonical)

include hitems

theorem code_eq_some_iff :
    (items.head?).bind Json.asNat64? = some n ↔ (items.map some).head? = some (some (.int n)) := by
  cases items with
  | nil => simp
  | cons v items => simp [asNat64?_eq_some_iff (hitems v List.mem_cons_self)]

theorem opens_iff {others : List (Option Json)} :
    Opens (items.map some) n id others ↔
      (items.head?).bind Json.asNat64? = some n ∧ (items.tail.head?).bind identifier? = some id ∧
        items.tail.tail.map some = others := by
  rw [code_eq_some_iff hitems]
  match items with
  | [] => simp [Opens]
  | [v] => simp [Opens]
  | v :: w :: items =>
    simp only [Opens, List.map_cons, List.head?_cons, List.tail_cons, List.cons.injEq,
      Option.some.injEq, Option.bind_some, identifier?_eq_some_iff]
    constructor
    · rintro ⟨_, ⟨hv, rfl, hothers⟩, hid⟩
      exact ⟨hv, hid, hothers⟩
    · rintro ⟨hv, hid, hothers⟩
      exact ⟨_, ⟨hv, rfl, hothers⟩, hid⟩

theorem ofItems_of_opens {others : List (Option Json)} (text : String)
    (h : Opens (items.map some) n id others) :
    ∃ rest, rest.map some = others ∧ ofItems text items = ofParts n id rest := by
  obtain ⟨hcode, hid, hothers⟩ := (opens_iff hitems).1 h
  exact ⟨items.tail.tail, hothers, by simp only [ofItems, hcode, hid]⟩

/-- What is made of the items of an array: either a part before the others is missing, or it goes by
what follows them. -/
theorem ofItems_cases (text : String) :
    ((∀ n : Nat, (items.map some).head? ≠ some (some (.int n))) ∧
        ofItems text items = .error (.missingCode text)) ∨
      ((∃ n : Nat, (items.map some).head? = some (some (.int n))) ∧
        (∀ n id rest, ¬ Opens (items.map some) n id rest) ∧
          ofItems text items = .error (.missingIdentifier text)) ∨
      ∃ n id rest, Opens (items.map some) n id (rest.map some) ∧
        ofItems text items = ofParts n id rest := by
  cases hcode : (items.head?).bind Json.asNat64? with
  | none =>
    left
    refine ⟨?_, by simp only [ofItems, hcode]⟩
    intro n h
    rw [(code_eq_some_iff hitems).2 h] at hcode
    contradiction
  | some n =>
    right
    cases hid : (items.tail.head?).bind identifier? with
    | none =>
      left
      refine ⟨⟨n, (code_eq_some_iff hitems).1 hcode⟩, ?_, by simp only [ofItems, hcode, hid]⟩
      intro n' id rest h
      rw [((opens_iff hitems).1 h).2.1] at hid
      contradiction
    | some id =>
      right
      exact ⟨n, id, items.tail.tail, (opens_iff hitems).2 ⟨hcode, hid, rfl⟩,
        by simp only [ofItems, hcode, hid]⟩

/-- **An array is read as the message** that its elements are. -/
theorem ofItems_eq_ok_iff {f : Frame} :
    ofItems text items = .ok f ↔ IsMessage (items.map some) f := by
  constructor
  · intro h
    rcases ofItems_cases hitems text with
      ⟨-, herror⟩ | ⟨-, -, herror⟩ | ⟨n, id, rest, hopens, hparts⟩
    · rw [herror] at h
      contradiction
    · rw [herror] at h
      contradiction
    · exact isMessage_of_ofParts hopens (hparts ▸ h)
  · intro h
    cases h with
    | call h hargs =>
      obtain ⟨rest, hrest, hparts⟩ := ofItems_of_opens hitems text h
      obtain ⟨v, others, rfl, hv, rfl⟩ := List.map_eq_cons_iff.1 hrest
      cases hv
      rw [next_map_some, Option.some.injEq] at hargs
      rw [hparts, ← hargs]
      rfl
    | success h hnext | failure h hnext | event h hnext =>
      obtain ⟨rest, rfl, hparts⟩ := ofItems_of_opens hitems text h
      rw [next_map_some, Option.some.injEq] at hnext
      rw [hparts, ← hnext]
      rfl

theorem lacks_of_ofItems {e : FrameError} (h : ofItems text items = .error e) :
    ∃ m, e.message? = some m ∧ Lacks text (items.map some) m := by
  rcases ofItems_cases hitems text with
    ⟨hcode, herror⟩ | ⟨⟨n, hcode⟩, hid, herror⟩ | ⟨n, id, rest, hopens, hparts⟩
  · rw [herror] at h
    cases h
    exact ⟨_, rfl, .code hcode⟩
  · rw [herror] at h
    cases h
    exact ⟨_, rfl, .identifier hcode hid⟩
  · exact lacks_of_ofParts hopens (hparts ▸ h)

/-- **Of any other array it is reported what it lacks.** -/
theorem ofItems_error_iff {m : String} :
    (∃ e, ofItems text items = .error e ∧ e.message? = some m) ↔
      Lacks text (items.map some) m := by
  constructor
  · rintro ⟨e, h, hm⟩
    obtain ⟨m', hm', hlacks⟩ := lacks_of_ofItems hitems h
    rw [hm'] at hm
    cases hm
    exact hlacks
  · intro h
    cases h with
    | code h =>
      have hcode : (items.head?).bind Json.asNat64? = none :=
        Option.eq_none_iff_forall_ne_some.2 fun n hn => h n ((code_eq_some_iff hitems).1 hn)
      exact ⟨.missingCode text, by simp only [ofItems, hcode], rfl⟩
    | @identifier n hcode h =>
      have hcode' := (code_eq_some_iff hitems).2 hcode
      have hid : (items.tail.head?).bind identifier? = none :=
        Option.eq_none_iff_forall_ne_some.2 fun id hid =>
          h n id _ ((opens_iff hitems).2 ⟨hcode', hid, rfl⟩)
      exact ⟨.missingIdentifier text, by simp only [ofItems, hcode', hid], rfl⟩
    | known h hn =>
      obtain ⟨rest, -, hparts⟩ := ofItems_of_opens hitems text h
      exact ⟨.unknownCode _, by rw [hparts, ofParts_of_notMem hn], rfl⟩
    | apiVerb h hfound hverb =>
      obtain ⟨rest, rfl, hparts⟩ := ofItems_of_opens hitems text h
      rw [next_map_some, Option.some.injEq] at hfound
      exact ⟨.callWithoutVerb _, by rw [hparts, ofParts_of_payload hfound hverb], rfl⟩

end Items

/-! ## Texts -/

theorem notMem_none_iff {α : Type} {l : List (Option α)} :
    none ∉ l ↔ ∃ l' : List α, l = l'.map some := by
  constructor
  · intro h
    induction l with
    | nil => exact ⟨[], rfl⟩
    | cons a l ih =>
      simp only [List.mem_cons, not_or] at h
      obtain ⟨l', rfl⟩ := ih h.2
      obtain ⟨b, rfl⟩ := Option.ne_none_iff_exists'.1 (Ne.symm h.1)
      exact ⟨b :: l', rfl⟩
  · rintro ⟨l', rfl⟩
    simp

/-- The arrays that are read, and what is made of them. -/
theorem decode_cases (text : String) :
    (∃ items : List Json, IsArray 127 text (items.map some) ∧ (∀ v ∈ items, v.Canonical) ∧
        (∀ elements, IsArray 127 text elements → none ∉ elements → elements = items.map some) ∧
        decode text = ofItems text items) ∨
      (¬ ∃ elements, IsArray 127 text elements ∧ none ∉ elements) ∧
        decode text = .error .notAnArray := by
  have hread {items : List Json} :
      Json.read? text = some (.array items) ↔ IsArray 127 text (items.map some) :=
    Json.readWithin?_eq_array_iff
  by_cases harray : ∃ items, Json.read? text = some (.array items)
  · left
    obtain ⟨items, hitems⟩ := harray
    refine ⟨items, hread.1 hitems, ?_, ?_, by rw [decode, hitems]⟩
    · exact Json.canonical_array_iff.1 (Json.readWithin?_canonical hitems).1
    · intro elements h hall
      obtain ⟨items', rfl⟩ := notMem_none_iff.1 hall
      have hitems' := hread.2 h
      rw [hitems] at hitems'
      cases hitems'
      rfl
  · right
    refine ⟨?_, ?_⟩
    · rintro ⟨elements, h, hall⟩
      obtain ⟨items, rfl⟩ := notMem_none_iff.1 hall
      exact harray ⟨items, hread.2 h⟩
    · unfold decode
      split
      · rename_i items hitems
        exact absurd ⟨items, hitems⟩ harray
      · rfl

/-- **Messages are accepted exactly.** A text is read as a message if it is an array in which every
element stands for a value and the first ones are those of the message. Of an array that is no
message it is reported which part is the first to be missing; of any other text, only that it is no
array. -/
theorem decode_accepts_protocol (text : String) :
    (∀ f, decode text = .ok f ↔
      ∃ elements, IsArray 127 text elements ∧ none ∉ elements ∧ IsMessage elements f) ∧
    (∀ m, (∃ e, decode text = .error e ∧ e.message? = some m) ↔
      ∃ elements, IsArray 127 text elements ∧ none ∉ elements ∧ Lacks text elements m) ∧
    (decode text = .error .notAnArray ↔
      ¬ ∃ elements, IsArray 127 text elements ∧ none ∉ elements) := by
  rcases decode_cases text with ⟨items, harray, hitems, hunique, hdecode⟩ | ⟨harray, hdecode⟩
  · have hsome : none ∉ items.map some := notMem_none_iff.2 ⟨items, rfl⟩
    -- there are no other elements than the items
    have hexists {P : List (Option Json) → Prop} :
        (∃ elements, IsArray 127 text elements ∧ none ∉ elements ∧ P elements) ↔
          P (items.map some) := by
      constructor
      · rintro ⟨elements, h, hall, hP⟩
        rw [hunique elements h hall] at hP
        exact hP
      · intro hP
        exact ⟨_, harray, hsome, hP⟩
    rw [hdecode]
    refine ⟨fun f => ?_, fun m => ?_, ?_⟩
    · rw [hexists, ofItems_eq_ok_iff hitems]
    · rw [hexists, ofItems_error_iff hitems]
    · refine ⟨fun h => ?_, fun h => absurd ⟨_, harray, hsome⟩ h⟩
      obtain ⟨m, hm, -⟩ := lacks_of_ofItems hitems h
      contradiction
  · rw [hdecode]
    refine ⟨fun f => ?_, fun m => ?_, by simp [harray]⟩
    · simp only [reduceCtorEq, false_iff]
      rintro ⟨elements, h, hall, -⟩
      exact harray ⟨elements, h, hall⟩
    · simp only [Except.error.injEq, exists_eq_left', FrameError.message?, reduceCtorEq, false_iff]
      rintro ⟨elements, h, hall, -⟩
      exact harray ⟨elements, h, hall⟩

/-- **Half of a surrogate pair spoils a message**, be it in an element that is none of its parts. -/
theorem decode_half_pair :
    IsArray 127 "[5,\"e\",null,\"\\ud800\"]"
        [some (.int 5), some (.string "e"), some .null, none] ∧
      IsMessage [some (.int 5), some (.string "e"), some .null, none] (.event "e" .null) ∧
      ¬ ∃ f, decode "[5,\"e\",null,\"\\ud800\"]" = .ok f := by
  have hwhole : Whole ['5'] := ⟨⟨by simp, List.forall_mem_singleton.2 rfl⟩, by simp⟩
  have hcode : Value 126 ['5'] (some (.int 5)) := .inl (.number (.mk .none hwhole .none .none))
  have hname : Value 126 ['"', 'e', '"'] (some (.string "e")) :=
    .inl (.string (.plain (by decide) (by decide) (by decide) .nil))
  have hnull : Value 126 ['n', 'u', 'l', 'l'] (some .null) := .inl .null
  have hhex : Json.hex4? ['d', '8', '0', '0'] = some (0xD800, []) := rfl
  have hhalf : Value 126 ['"', '\\', 'u', 'd', '8', '0', '0', '"'] none :=
    .inl (.string (.unit hhex .nil))
  have harray := Array.elements (.next (.bare hcode) (.next (.bare hname) (.next (.bare hnull)
    (.last (.bare hhalf)))))
  have htext : "[5,\"e\",null,\"\\ud800\"]".toList = '[' :: (['5'] ++ ',' :: (['"', 'e', '"'] ++
      ',' :: (['n', 'u', 'l', 'l'] ++ ',' :: ['"', '\\', 'u', 'd', '8', '0', '0', '"'])) ++
        [']']) := by decide +kernel
  refine ⟨?_, ?_, ?_⟩
  · rw [IsArray, htext]
    exact .bare harray
  · exact .event ⟨_, rfl, .string "e"⟩ rfl
  · have hread : (Json.read? "[5,\"e\",null,\"\\ud800\"]").isNone = true := by decide +kernel
    rw [decode, Option.isNone_iff_eq_none.1 hread]
    simp

end LiveTrace.Frame
