import LiveTrace.Proofs.Json.Record
import LiveTrace.Proofs.Socket.Reader
import LiveTrace.Proofs.Wire.RoundTrip
/-!
# LiveTrace.Proofs.Wire.Reply

**Replies survive the wire.** A reply is written without the parts that it does not have, and read
back from what was written, whatever the order of the fields (`Reply.ofJson_sorted_toJson`). Only a
`null` body is lost, which counts as none anyway. Whether a reply was rejected is not written at
all; the code of its message tells, and a reply that goes out under the code of success if and only
if it is a success comes in as one if and only if it was (`Reply.survives_wire`).
-/

namespace LiveTrace

/-! ### Status blocks -/

namespace ReplyRequest

theorem lookup?_optionalField (k name : String) (s : Option String) :
    Entries.lookup? k (optionalField name s) = if k = name then s.map .string else none := by
  cases s <;> by_cases h : k = name <;> simp [optionalField, Entries.lookup?, h]

theorem keys_optionalField (name : String) (s : Option String) :
    ((optionalField name s).map Prod.fst).Sublist [name] := by
  cases s <;> simp [optionalField]

/-- **A status block is read back**, whatever the order of its fields. -/
theorem ofJson_sorted_toJson (r : ReplyRequest) : ofJson r.toJson.sorted = .ok r := by
  let written := ("status", Json.string r.status) :: (optionalField "info" r.info ++
    optionalField "token" r.token ++ optionalField "uuid" r.uuid)
  have hkeys : (written.map Prod.fst).Nodup := by
    have hsublist : (written.map Prod.fst).Sublist ["status", "info", "token", "uuid"] := by
      simp only [written, List.map_cons, List.map_append]
      exact (((keys_optionalField ..).append (keys_optionalField ..)).append
        (keys_optionalField ..)).cons_cons _
    exact List.Nodup.sublist hsublist (by decide)
  obtain ⟨l, hl, hnodup, hlookup⟩ := Json.exists_sorted_object hkeys
  have hfound {name : String} {s : Option String}
      (h : Entries.lookup? name written = s.map .string) :
      Entries.lookup? name l = s.map .string := by
    rw [hlookup, h, Option.map_map]
    rfl
  have hstatus : Entries.lookup? "status" l = (some r.status).map .string := hfound rfl
  have hinfo : Entries.lookup? "info" l = r.info.map .string := hfound <| by
    simp [written, Entries.lookup?, Entries.lookup?_append, lookup?_optionalField]
  have htoken : Entries.lookup? "token" l = r.token.map .string := hfound <| by
    simp [written, Entries.lookup?, Entries.lookup?_append, lookup?_optionalField]
  have huuid : Entries.lookup? "uuid" l = r.uuid.map .string := hfound <| by
    simp [written, Entries.lookup?, Entries.lookup?_append, lookup?_optionalField]
  have hform : Record.fields? "ReplyRequest" rules (.object l) = .ok l := by
    refine (Record.fields?_object_iff_isMet hnodup (by decide)).2 ⟨rfl, ?_⟩
    simp only [rules, List.forall_mem_cons]
    exact ⟨.string hstatus, .optionalString hinfo, .optionalString htoken,
      .optionalString huuid, by simp⟩
  have hwritten : r.toJson.sorted = .object l := hl
  have hfields : ofFields l = r := by
    rw [ofFields, Record.string, Record.string?_eq hstatus, Record.string?_eq hinfo,
      Record.string?_eq htoken, Record.string?_eq huuid]
    rfl
  rw [hwritten, ofJson, hform, Except.map, hfields]

theorem integral_optionalField {name : String} {s : Option String} {e : String × Json}
    (h : e ∈ optionalField name s) : e.2.Integral := by
  cases s with
  | none => contradiction
  | some s =>
    rw [List.mem_singleton.1 h]
    exact .string s

/-- A status block has no numbers. -/
theorem integral_toJson (r : ReplyRequest) : r.toJson.Integral := by
  refine .object fun e he => ?_
  simp only [List.mem_cons, List.mem_append] at he
  rcases he with rfl | (he | he) | he
  · exact .string r.status
  · exact integral_optionalField he
  · exact integral_optionalField he
  · exact integral_optionalField he

end ReplyRequest

/-! ### Replies -/

namespace Reply

open ReplyRequest

/-- The body of a reply, unless it is `null`. -/
def content? (r : Reply) : Option Json :=
  match r.response with
  | some .null => none
  | v => v

theorem content?_eq_some_iff {r : Reply} {v : Json} :
    r.content? = some v ↔ r.response = some v ∧ v ≠ .null := by
  unfold content?
  split
  · rename_i h
    simp only [reduceCtorEq, h, Option.some.injEq, false_iff, not_and, not_not]
    exact Eq.symm
  · rename_i hother
    exact ⟨fun h => ⟨h, fun hv => hother (hv ▸ h)⟩, And.left⟩

theorem getD_content? (r : Reply) : r.content?.getD .null = r.body := by
  unfold content? body
  split
  · rename_i h
    rw [h]
    rfl
  · rfl

theorem integral_toJson {r : Reply} (h : ∀ v ∈ r.response, v.Integral) : r.toJson.Integral := by
  refine .object fun e he => ?_
  simp only [List.mem_cons, List.mem_append] at he
  rcases he with he | rfl | he
  · exact integral_optionalField he
  · exact r.request.integral_toJson
  · obtain ⟨v, hv, rfl⟩ := Option.map_eq_some_iff.1 (Option.mem_toList.1 he)
    exact h v hv

/-- **A reply is read back**, whatever the order of its fields: a `null` body counts as none, and
whether the reply is rejected is not told by its fields. -/
theorem ofJson_sorted_toJson {r : Reply} (h : ∀ v ∈ r.response, v.Canonical) (rejected : Bool) :
    ofJson r.toJson.sorted rejected = .ok { r with response := r.content?, rejected } := by
  let written := optionalField "jtype" r.jtype ++
    ("request", r.request.toJson) :: (r.response.map fun v => ("response", v)).toList
  have hkeys : (written.map Prod.fst).Nodup := by
    have hresponse : ((r.response.map fun v => ("response", v)).toList.map Prod.fst).Sublist
        ["response"] := by
      cases r.response <;> simp
    have hsublist : (written.map Prod.fst).Sublist ["jtype", "request", "response"] := by
      simp only [written, List.map_cons, List.map_append]
      exact (keys_optionalField ..).append (hresponse.cons_cons _)
    exact List.Nodup.sublist hsublist (by decide)
  obtain ⟨l, hl, hnodup, hlookup⟩ := Json.exists_sorted_object hkeys
  have hjtype : Entries.lookup? "jtype" l = r.jtype.map .string := by
    have hfirst : Entries.lookup? "jtype" written = r.jtype.map .string := by
      cases hresponse : r.response <;>
        simp [written, hresponse, Entries.lookup?, Entries.lookup?_append, lookup?_optionalField]
    rw [hlookup, hfirst, Option.map_map]
    rfl
  have hrequest : Entries.lookup? "request" l = some r.request.toJson.sorted := by
    simp [hlookup, written, Entries.lookup?, Entries.lookup?_append, lookup?_optionalField]
  have hresponse : Entries.lookup? "response" l = r.response := by
    have hlast : Entries.lookup? "response" written = r.response := by
      cases hresponse : r.response <;>
        simp [written, hresponse, Entries.lookup?, Entries.lookup?_append, lookup?_optionalField]
    rw [hlookup, hlast]
    cases hv : r.response with
    | none => rfl
    | some v => exact congrArg some (h v hv).sorted_eq
  have hform : Record.fields? "Reply" rules (.object l) = .ok l := by
    refine (Record.fields?_object_iff_isMet hnodup (by decide)).2 ⟨rfl, ?_⟩
    simp only [rules, List.forall_mem_cons]
    refine ⟨.optionalString hjtype, ?_, .any, by simp⟩
    rw [FieldRule.IsMet, hrequest]
    show (ReplyRequest.ofJson r.request.toJson.sorted).map (fun _ => ()) = _
    rw [ReplyRequest.ofJson_sorted_toJson]
    rfl
  have hwritten : r.toJson.sorted = .object l := hl
  have hfields : ofFields l rejected = { r with response := r.content?, rejected } := by
    rw [ofFields, Record.string?_eq hjtype, requestOf, hrequest, Record.value?, hresponse]
    simp only [ReplyRequest.ofJson_sorted_toJson]
    rfl
  rw [hwritten, ofJson, hform, Except.map, hfields]

/-! ### Over the wire -/

/-- A reply that arrives under the code of success, if and only if it was sent as a success, is a
success if and only if it was. -/
theorem isSuccess_received (r : Reply) (response : Option Json) :
    isSuccess { r with response, rejected := !r.isSuccess } = r.isSuccess := by
  obtain ⟨jtype, request, response', rejected⟩ := r
  cases rejected <;> cases h : request.status == statusSuccess <;> simp [isSuccess, h]

end Reply

namespace Frame

theorem body_ofReply (id : String) (reply : Json) (rejected : Bool) :
    (ofReply id reply rejected).body = reply := by cases rejected <;> rfl

theorem withBody_ofReply (id : String) (reply reply' : Json) (rejected : Bool) :
    (ofReply id reply rejected).withBody reply' = ofReply id reply' rejected := by
  cases rejected <;> rfl

end Frame

theorem Socket.receive_of_decode {s : Socket} (hs : s.reading = true) {text id : String}
    {reply : Json} {rejected : Bool} (h : Frame.decode text = .ok (.ofReply id reply rejected)) :
    s.receive text = s.receiveReply id reply rejected := by
  rw [receive, if_pos hs, h]
  cases rejected <;> rfl

/-- **Replies survive the wire.** Take any reply whose body, if it has one, holds no doubles, sent
to the call of an identifier under the code of success if the reply is a success and under that of
failure otherwise, its fields in the order of their names or not. If the message nests no more than
127 containers, it is read as a message of the same kind to the same call, and the reply in it has
the same kind, status block and body and is a success if and only if the reply that was sent is. Its
response is the one that was sent, unless that is `null`. A socket that still reads settles the
call by this reply, and takes its token if it has one. -/
theorem Reply.survives_wire (id : String) (r : Reply) (hcanonical : ∀ v ∈ r.response, v.Canonical)
    (hdoubles : ∀ v ∈ r.response, v.WithoutDoubles) (message : Json)
    (hmessage : message = r.toJson ∨ message = r.toJson.sorted)
    (hdepth : (Json.array (Frame.ofReply id message (!r.isSuccess)).items).depth ≤ 127) :
    let text := (Frame.ofReply id message (!r.isSuccess)).encode
    ∃ reply r', Frame.decode text = .ok (.ofReply id reply (!r.isSuccess)) ∧
      ofJson reply (!r.isSuccess) = .ok r' ∧
      r'.jtype = r.jtype ∧ r'.request = r.request ∧ r'.body = r.body ∧
      r'.isSuccess = r.isSuccess ∧
      (∀ v, r'.response = some v ↔ r.response = some v ∧ v ≠ .null) ∧
      ∀ s : Socket, s.reading = true →
        s.receive text = { s with token := r.request.token.or s.token }.settle id (.ok r') ∧
          (s.receive text).token = r.request.token.or s.token := by
  intro text
  have hintegral : r.toJson.Integral :=
    integral_toJson fun v hv => (hcanonical v hv).integral (hdoubles v hv)
  have hsent : message.Integral ∧ message.sorted = r.toJson.sorted := by
    rcases hmessage with rfl | rfl
    · exact ⟨hintegral, rfl⟩
    · exact ⟨hintegral.sorted, hintegral.canonical_sorted.sorted_eq⟩
  have hdecode : Frame.decode text = .ok (.ofReply id r.toJson.sorted (!r.isSuccess)) := by
    have hbody : (Frame.ofReply id message (!r.isSuccess)).body.Integral := by
      rw [Frame.body_ofReply]
      exact hsent.1
    rw [Frame.decode_encode hbody hdepth, Frame.body_ofReply, Frame.withBody_ofReply, hsent.2]
  have hread := ofJson_sorted_toJson hcanonical (!r.isSuccess)
  refine ⟨_, _, hdecode, hread, rfl, rfl, r.getD_content?, r.isSuccess_received _,
    fun _ => content?_eq_some_iff, fun s hs => ?_⟩
  have hreceive := Socket.receive_of_decode hs hdecode
  constructor
  · have htoken : (r.request.token <|> s.token) = r.request.token.or s.token :=
      Option.orElse_eq_or
    rw [hreceive, Socket.receiveReply, hread]
    exact congrArg (fun token => Socket.settle { s with token } _ _) htoken
  · have htoken := (s.takes_receiveReply id r.toJson.sorted (!r.isSuccess)).token
    rwa [← hreceive, Socket.replyToken?, hread] at htoken

/-- A rejected reply whose status does not say so, with a `null` body, texts that need escapes, and
a token that replaces that of the connection. -/
theorem Reply.survives_wire_null :
    let r : Reply := ⟨none, ⟨statusSuccess, some "\"a\"\n", some "new", none⟩, some .null, true⟩
    let text := (Frame.failure "7" r.toJson).encode
    ∃ reply r', Frame.decode text = .ok (.failure "7" reply) ∧ ofJson reply true = .ok r' ∧
      r'.request = r.request ∧ r'.response = none ∧ r'.isSuccess = false ∧
      ((Socket.opened ⟨"localhost", some "old"⟩).receive text).token = some "new" := by
  intro r text
  obtain ⟨reply, r', hdecode, hread, -, hrequest, -, hsuccess, hresponse, hreceive⟩ :=
    survives_wire "7" r (by simp [r, Json.Canonical]) (by simp [r, Json.WithoutDoubles]) r.toJson
      (.inl rfl) (by decide +kernel)
  have hnone : r'.response = none := Option.eq_none_iff_forall_ne_some.2 fun v hv => by
    obtain ⟨h, hnull⟩ := (hresponse v).1 hv
    exact hnull (Option.some.inj h).symm
  exact ⟨reply, r', hdecode, hread, hrequest, hnone, hsuccess, (hreceive _ rfl).2⟩

end LiveTrace
