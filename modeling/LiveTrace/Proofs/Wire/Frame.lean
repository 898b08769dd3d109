import LiveTrace.Wire.Frame
/-!
# LiveTrace.Proofs.Wire.Frame

**What a text needs to be a message.** Reading a message is reading a JSON array and looking at its
parts one after the other; `Frame.decode_eq_ok_iff` says which parts there must be, so that no later
proof opens the reader. For replies it comes to `Frame.Carries`.
-/

namespace LiveTrace

namespace Frame

/-! ### Texts that are messages -/

/-- What a message needs: an array of a code, an identifier and the parts that the code asks for. -/
theorem decode_eq_ok_iff {text : String} {f : Frame} :
    decode text = .ok f ↔
      ∃ code identifier rest n id, Json.read? text = some (.array (code :: identifier :: rest)) ∧
        code.asNat64? = some n ∧ identifier? identifier = some id ∧
        ofParts n id rest = .ok f := by
  constructor
  · intro h
    unfold decode at h
    split at h
    · rename_i items hread
      match items with
      | [] => simp [ofItems] at h
      | [code] => cases hn : code.asNat64? <;> simp [ofItems, hn] at h
      | code :: identifier :: rest =>
        cases hn : code.asNat64? with
        | none => simp [ofItems, hn] at h
        | some n =>
          cases hid : identifier? identifier with
          | none => simp [ofItems, hn, hid] at h
          | some id =>
            have hparts : ofParts n id rest = .ok f := by simpa [ofItems, hn, hid] using h
            exact ⟨code, identifier, rest, n, id, hread, hn, hid, hparts⟩
    · contradiction
  · rintro ⟨code, identifier, rest, n, id, hread, hn, hid, h⟩
    rw [decode, hread]
    simp [ofItems, hn, hid, h]

/-! ### Replies -/

/-- A reply as a message. -/
def ofReply (id : String) (reply : Json) (rejected : Bool) : Frame :=
  if rejected then failure id reply else success id reply

theorem ofParts_eq_ofReply {n : Nat} {id id' : String} {rest : List Json} {reply : Json}
    {rejected : Bool} :
    ofParts n id rest = .ok (ofReply id' reply rejected) ↔
      n = (if rejected then 4 else 3) ∧ id = id' ∧ payload rest = reply := by
  unfold ofParts ofReply
  cases rejected <;> split <;> simp_all <;> split <;> simp

/-- A text that carries a reply to the call of an identifier: an array of a code, which is 3, or 4
for a reply that came as a failure, of the identifier as a string or a number, and of the reply,
`null` if it is missing. -/
def Carries (text id : String) (reply : Json) (rejected : Bool) : Prop :=
  ∃ code identifier rest, Json.read? text = some (.array (code :: identifier :: rest)) ∧
    code.asNat64? = some (if rejected then 4 else 3) ∧ identifier? identifier = some id ∧
    payload rest = reply

theorem decode_eq_ofReply_iff {text id : String} {reply : Json} {rejected : Bool} :
    decode text = .ok (ofReply id reply rejected) ↔ Carries text id reply rejected := by
  rw [decode_eq_ok_iff]
  simp only [ofParts_eq_ofReply]
  constructor
  · rintro ⟨code, identifier, rest, n, _, hread, hn, hid, rfl, rfl, hreply⟩
    exact ⟨code, identifier, rest, hread, hn, hid, hreply⟩
  · rintro ⟨code, identifier, rest, hread, hn, hid, hreply⟩
    exact ⟨code, identifier, rest, _, id, hread, hn, hid, rfl, rfl, hreply⟩

/-- A text that is a pushed event. -/
def IsEvent (text : String) : Prop := ∃ name message, decode text = .ok (event name message)

end Frame

end LiveTrace
