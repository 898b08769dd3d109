import Mathlib
import LiveTrace.Proofs.Json.RoundTrip
import LiveTrace.Proofs.Wire.Frame
/-!
# LiveTrace.Proofs.Wire.RoundTrip

**Reading a message undoes writing it** (`Frame.decode_encode`), and whatever a text was read as is
read again from what is written for it (`Frame.messages_read_back`), although one message can be
written in many ways: with white space, with escapes, with a number for its identifier, without its
last part or with elements to spare.
-/

namespace LiveTrace

namespace Frame

/-- The last part of a message, which can be any value. -/
def body : Frame → Json
  | .call _ _ args => args
  | .success _ reply => reply
  | .failure _ reply => reply
  | .event _ message => message

/-- The message with its last part replaced. -/
def withBody (body : Json) : Frame → Frame
  | .call id apiVerb _ => .call id apiVerb body
  | .success id _ => .success id body
  | .failure id _ => .failure id body
  | .event name _ => .event name body

theorem withBody_body (f : Frame) : f.withBody f.body = f := by cases f <;> rfl

/-! ### Writing and then reading -/

/-- The elements of a message but for its last part are strings and integers. -/
theorem forall_mem_items {P : Json → Prop} (hint : ∀ n : Int, 0 ≤ n → n < 10 → P (.int n))
    (hstring : ∀ s, P (.string s)) {f : Frame} (hbody : P f.body) : ∀ v ∈ f.items, P v := by
  cases f <;> simp_all [items, body]

theorem integral_items {f : Frame} (h : f.body.Integral) : (Json.array f.items).Integral := by
  refine .array (forall_mem_items (fun n hlow hhigh => .number ?_) .string h)
  simp only [Json.Number.InRange]
  omega

theorem depth_items_le {f : Frame} {n : Nat} :
    (Json.array f.items).depth ≤ n + 1 ↔ f.body.depth ≤ n := by
  rw [Json.depth_array_le_iff]
  constructor
  · intro h
    cases f <;> exact h _ (by simp [items, body])
  · exact forall_mem_items (P := fun v => v.depth ≤ n) (fun _ _ _ => Nat.zero_le n)
      fun _ => Nat.zero_le n

/-- **Reading a message undoes writing it**, except that the fields of every object are sorted. -/
theorem decode_encode {f : Frame} (h : f.body.Integral)
    (hdepth : (Json.array f.items).depth ≤ Json.maxDepth) :
    decode f.encode = .ok (f.withBody f.body.sorted) := by
  have hread : Json.read? f.encode = some (.array (f.items.map Json.sorted)) := by
    rw [Json.read?, encode, Json.readWithin?_compact (integral_items h) hdepth, Json.sorted_array]
  rw [decode, hread]
  cases f <;> rfl

/-! ### Messages that were read -/

theorem payload_of_forall {P : Json → Prop} (hnull : P .null) {l : List Json}
    (h : ∀ v ∈ l, P v) : P (payload l) := by
  cases l with
  | nil => exact hnull
  | cons v rest => exact h v List.mem_cons_self

/-- The last part of a message is an element of it, or missing and then `null`. -/
theorem body_of_ofParts {P : Json → Prop} (hnull : P .null) {code : Nat} {id : String}
    {rest : List Json} {f : Frame} (h : ofParts code id rest = .ok f) (hrest : ∀ v ∈ rest, P v) :
    P f.body := by
  unfold ofParts at h
  split at h
  · split at h
    · cases h
      exact payload_of_forall hnull fun v hv => hrest v (List.mem_of_mem_tail hv)
    · contradiction
  · cases h
    exact payload_of_forall hnull hrest
  · cases h
    exact payload_of_forall hnull hrest
  · cases h
    exact payload_of_forall hnull hrest
  · contradiction

/-- The last part of a message that is read is canonical, and the message can be written. -/
theorem body_of_decode {text : String} {f : Frame} (h : decode text = .ok f) :
    f.body.Canonical ∧ (Json.array f.items).depth ≤ Json.maxDepth := by
  obtain ⟨code, identifier, rest, n, id, hread, -, -, hparts⟩ := decode_eq_ok_iff.1 h
  obtain ⟨hcanonical, hdepth⟩ := Json.readWithin?_canonical hread
  rw [Json.canonical_array_iff] at hcanonical
  have hdepth := Json.depth_array_le_iff.1 (show _ ≤ 126 + 1 from hdepth)
  have hrest {v : Json} (hv : v ∈ rest) : v ∈ code :: identifier :: rest :=
    List.mem_cons_of_mem _ (List.mem_cons_of_mem _ hv)
  refine ⟨body_of_ofParts trivial hparts fun v hv => hcanonical v (hrest hv), ?_⟩
  have hbody : f.body.depth ≤ 126 :=
    body_of_ofParts (P := fun v => v.depth ≤ 126) (Nat.zero_le _) hparts
      fun v hv => hdepth v (hrest hv)
  exact depth_items_le.2 hbody

/-- **Reading a message undoes writing it.** A message whose last part holds no doubles, and which
nests no more than 127 containers, is read back from what is written for it, whatever its strings
and keys are. And a text that is read as a message without doubles in its last part may have been
written in any way: what is written for the message is read as the same message. -/
theorem messages_read_back :
    (∀ f : Frame, f.body.Canonical → f.body.WithoutDoubles →
        (Json.array f.items).depth ≤ 127 → decode f.encode = .ok f) ∧
      ∀ (text : String) (f : Frame), decode text = .ok f → f.body.WithoutDoubles →
        decode f.encode = .ok f := by
  have hencode (f : Frame) (hcanonical : f.body.Canonical) (hdoubles : f.body.WithoutDoubles)
      (hdepth : (Json.array f.items).depth ≤ 127) : decode f.encode = .ok f := by
    rw [decode_encode (hcanonical.integral hdoubles) hdepth, hcanonical.sorted_eq, withBody_body]
  refine ⟨hencode, fun text f hread hdoubles => ?_⟩
  obtain ⟨hcanonical, hdepth⟩ := body_of_decode hread
  exact hencode f hcanonical hdoubles hdepth

/-- A call whose strings need escapes and whose integers are at the ends of their range, and a reply
with a number for its identifier and an element to spare. -/
theorem messages_read_back_escaped :
    let call : Frame := .call "7" "a\"b\\\u0001/\u00e9" (.object [("", .int (-0x8000000000000000)),
      ("\n", .array [.int 0xFFFFFFFFFFFFFFFF, .object [], .bool true])])
    let text := " [4, -12, \x7b\"b\": [], \"a\": null\x7d, \"more\"]"
    let reply : Frame := .failure "-12" (.object [("a", .null), ("b", .array [])])
    decode call.encode = .ok call ∧ decode text = .ok reply ∧ decode reply.encode = .ok reply := by
  intro call text reply
  have htext : decode text = .ok reply := by cbv
  refine ⟨messages_read_back.1 call ?_ ?_ ?_, htext, messages_read_back.2 text reply htext ?_⟩
  · simp [call, body, Json.Canonical, Json.FieldsCanonical, Json.ItemsCanonical, Json.int,
      Json.Number.InRange, Entries.Ascending]
    decide +kernel
  · simp [call, body, Json.WithoutDoubles, Json.FieldsWithoutDoubles, Json.ItemsWithoutDoubles,
      Json.int]
  · decide +kernel
  · simp [reply, body, Json.WithoutDoubles, Json.FieldsWithoutDoubles, Json.ItemsWithoutDoubles]

end Frame

end LiveTrace
