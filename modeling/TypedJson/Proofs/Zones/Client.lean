import TypedJson.Proofs.Codec
import TypedJson.Proofs.Echo
import TypedJson.Proofs.Engine.Gap
import TypedJson.Proofs.Typed.Record
import TypedJson.Proofs.Zones.History

/-!
The zone server and a codec that knows zones. What the codec encodes for a zone the server reads as
that zone, and what the server answers the codec decodes as the zones that are kept.
-/

namespace TypedJson.Zones

-----------------------------------------------------------------------------------------
-- Zones as values
-----------------------------------------------------------------------------------------

/-- What a codec knows of zones. -/
def zoneSchema : Schema where
  name := "Zone"
  fields := [("name", .string), ("id", .string)]

/-- The fields are those of the zone: its name, its identifier if it has one, and no others but
those that are null. -/
structure Zone.HasFields (zone : Zone) (fields : List (String × Value)) : Prop where
  distinct : Members.Distinct fields
  name : Value.present? fields "name" = some (.string zone.name)
  id : Value.present? fields "id" = zone.id.map .string
  others : ∀ name, name ≠ "name" → name ≠ "id" → Value.present? fields name = none

/-- The fields of a zone in the order of its schema. -/
def Zone.fields (zone : Zone) : List (String × Value) :=
  ("name", .string zone.name) :: (zone.id.map fun id => ("id", Value.string id)).toList

theorem Zone.hasFields_fields (zone : Zone) : zone.HasFields zone.fields := by
  have distinct : Members.Distinct zone.fields := by
    obtain ⟨name, id⟩ := zone
    cases id <;> simp [Zone.fields, Members.Distinct]
  refine ⟨distinct, rfl, ?_, fun name hname hid => ?_⟩
  · obtain ⟨name, id⟩ := zone
    cases id <;> rfl
  · obtain ⟨_, id⟩ := zone
    cases id <;> simp [Zone.fields, Value.present?, Members.lookup_cons_ite, hname, hid]

variable {zone : Zone} {fields others : List (String × Value)}

/-- Of one zone there are no two objects that differ. -/
theorem Zone.HasFields.same (first : zone.HasFields fields) (second : zone.HasFields others)
    : (Value.object "Zone" fields).same (.object "Zone" others) = true := by
  rw [Value.same_object_iff first.distinct second.distinct]
  refine ⟨rfl, fun name => ?_⟩
  have refl : ∀ text : Option String, Option.Rel (fun a b => Value.same a b = true)
      (text.map .string) (text.map .string) := by
    intro text
    cases text with
    | none => exact .none
    | some s => exact .some (by simp [Value.same])
  by_cases hname : name = "name"
  · rw [hname, first.name, second.name]
    exact refl (some zone.name)
  · by_cases hid : name = "id"
    · rw [hid, first.id, second.id]
      exact refl zone.id
    · rw [first.others name hname hid, second.others name hname hid]
      exact refl none

/-- An object of a zone that is given an identifier is one of the zone with it. -/
theorem Zone.HasFields.put (has : zone.HasFields fields) (id : String)
    : { zone with id := some id }.HasFields (Members.put "id" (.string id) fields) := by
  have present : ∀ name, Value.present? (Members.put "id" (.string id) fields) name
      = if name = "id" then some (.string id) else Value.present? fields name := by
    intro name
    rw [Value.present?, Members.lookup_put]
    split <;> rfl
  refine ⟨Members.distinct_put _ _ has.distinct, ?_, ?_, fun name hname hid => ?_⟩
  · exact (present "name").trans has.name
  · exact present "id"
  · rw [present, if_neg hid, has.others name hname hid]

-----------------------------------------------------------------------------------------
-- Zones as trees
-----------------------------------------------------------------------------------------

section Engine

variable {engine : Engine} (registered : engine.registry.lookup "Zone" = some (.object zoneSchema))

include registered

theorem form?_zone : engine.form? (.named "Zone") [] = some (.record "Zone" zoneSchema []) := by
  have form : engine.formOfName? "Zone" [] = some (.record "Zone" zoneSchema []) := by
    rw [Engine.formOfName?, registered]
    rfl
  exact form

/-- An object of a zone is written as the tree of the zone, whatever order its fields have. -/
theorem write_zone (has : zone.HasFields fields)
    : engine.write (.object "Zone" fields) (.named "Zone") = .ok zone.toJson := by
  have parts : zoneSchema.parts Value.isNull fields
      = ⟨"name", .string, .string zone.name⟩
        :: (zone.id.map fun id => ⟨"id", .string, Value.string id⟩).toList := by
    have name := has.name
    have id := has.id
    simp only [Value.present?] at name id
    simp only [Schema.parts, zoneSchema, Part.pick_cons, name, id, Option.map_map]
    exact congrArg (_ :: ·) (List.append_nil _)
  have string : ∀ s, engine.writeNode (.string s) .string [] = .ok (.string s) := fun _ => rfl
  rw [Engine.write, engine.writeNode_of_form rfl (form?_zone registered)]
  simp only [Form.writeWith, Value.members?, parts, Zone.toJson]
  cases zone.id with
  | none => simp [Walker.fields, Walker.member, string]; rfl
  | some id => simp [Walker.fields, Walker.member, string]; rfl

/-- The tree of a zone is read as the object of the zone, by strict engines too. -/
theorem read_zone (zone : Zone)
    : engine.readNode zone.toJson (.named "Zone") [] = .ok (.object "Zone" zone.fields) := by
  rw [engine.readNode_of_form rfl (form?_zone registered)]
  obtain ⟨name, id⟩ := zone
  cases id with
  | none =>
      have declared : Engine.undeclared? zoneSchema [("name", Json.string name)] = none := rfl
      simp only [Form.readWith, Zone.toJson, declared, ite_self]
      rfl
  | some id =>
      have declared : Engine.undeclared? zoneSchema
          [("name", Json.string name), ("id", Json.string id)] = none := rfl
      simp only [Form.readWith, Zone.toJson, declared, ite_self]
      rfl

/-- The list of the trees of zones is read as the list of their objects. -/
theorem read_zones (zones : List Zone)
    : engine.read (.array (zones.map Zone.toJson)) (.list (.named "Zone"))
        = .ok (.array (zones.map fun zone => .object "Zone" zone.fields)) := by
  have form : engine.form? (.list (.named "Zone")) [] = some (.list (.named "Zone") []) := rfl
  refine (engine.readNode_eq_ok_iff rfl _ _ _).mpr ⟨_, form, _, _, rfl, rfl, ?_⟩
  rw [List.forall₂_map_left_iff, List.forall₂_map_right_iff, List.forall₂_same]
  exact fun zone _ => read_zone registered zone

end Engine

-----------------------------------------------------------------------------------------
-- Zones as bodies
-----------------------------------------------------------------------------------------

/-- The members of a zone's tree are read into the zone, each by the field of its name; there is
nothing that bars any of them. -/
theorem collects_zone (zone : Zone) (layout : Json.Layout) (depth : Nat)
    : ∃ seen members, zone.toJson = .object members ∧ Zone.layout.missing? seen = none
        ∧ Json.Reader.Collects (Zone.layout.member depth) layout (fun _ => False) members False
            ([], Zone.layout.empty) (seen, zone) := by
  obtain ⟨name, id⟩ := zone
  have first : ∀ {others : List (String × Json)} {final : List String × Zone},
      Json.Reader.Collects (Zone.layout.member depth) layout (fun _ => False) others False
        (["name"], ⟨name, none⟩) final →
      Json.Reader.Collects (Zone.layout.member depth) layout (fun _ => False)
        (("name", .string name) :: others) False ([], Zone.layout.empty) final := fun tail =>
    (Typed.Layout.collects_cons rfl List.not_mem_nil
      (Typed.skipsBlanks_of (Typed.skipsBlanks_atValue _))
      (fun _ => Typed.yields_of (.of_takes (Typed.takes_string depth name) not_false)) tail).congr
        or_self_iff.symm
  cases id with
  | none => exact ⟨["name"], _, rfl, rfl, first (.nil _)⟩
  | some id =>
      refine ⟨["id", "name"], _, rfl, rfl, first (.congr ?_ or_self_iff.symm)⟩
      exact Typed.Layout.collects_cons rfl (by simp)
        (Typed.skipsBlanks_of (Typed.skipsBlanks_option _ _))
        (fun _ => Typed.yields_of (.of_takes (Typed.takes_option_string depth id) not_false))
        (.nil _)

/-- The server reads a zone from what a client writes for it, on one line or on many. -/
theorem zoneOfBody_bytesOf (engine : Engine) (zone : Zone)
    : zoneOfBody (engine.bytesOf zone.toJson) = .ok zone := by
  let layout : Json.Layout := if engine.pretty then .indented 0 else .compact
  obtain ⟨seen, members, tree, complete, collects⟩ := collects_zone zone layout.deeper 126
  have yields : Json.Reader.Yields (Zone.layout.read Json.greatestDepth)
      (Json.write layout zone.toJson) False (fun _ => False) zone [] :=
    tree ▸ Typed.Layout.yields_read layout collects complete
  have document := (Json.Reader.document_of_yields yields).1 id
  rw [zoneOfBody, Engine.bytesOf, Text.Utf8.symbols_encode, Json.text, String.toList_ofList]
  exact document

-----------------------------------------------------------------------------------------
-- Requests and answers
-----------------------------------------------------------------------------------------

/-- The request by which a client posts what it has encoded. -/
def post (target : String) (sent : Http.Request) : Request where
  method := "POST"
  target
  headers := sent.headers
  body := sent.body.getD []

/-- The client receives the answer as the response. -/
structure Answer.ReceivedAs (answer : Answer) (response : Http.Response) : Prop where
  status : response.status = answer.status
  contentType : Http.header? response.headers "content-type" = answer.contentType
  body : response.body.getD [] = answer.body

/-- The answer as a client may receive it. -/
def Answer.toResponse (answer : Answer) : Http.Response where
  status := answer.status
  headers := (answer.contentType.map fun value => ("content-type", value)).toList
  body := some answer.body

theorem Answer.receivedAs_toResponse (answer : Answer) : answer.ReceivedAs answer.toResponse := by
  refine ⟨rfl, ?_, rfl⟩
  have own : Http.sameName "content-type" "content-type" = true := by decide
  obtain ⟨_, contentType, _, _⟩ := answer
  cases contentType with
  | none => rfl
  | some value => simp [toResponse, Http.header?, own]

section Serve

variable {identifiers : Nat → String} {sent : Http.Request}

/-- A zone is created from a body that is declared as a document, is not too large and is one of
the zone. -/
theorem serve_post (declared : Http.header? sent.headers "content-type" = some Http.jsonMediaType)
    (small : (sent.body.getD []).length ≤ greatestBody)
    (body : zoneOfBody (sent.body.getD []) = .ok zone) (store : Store)
    : serve identifiers (post "/zones" sent) store
        = (.document 201 (store.create identifiers zone).1.toJson,
            (store.create identifiers zone).2) := by
  have json : declaresJson sent.headers = true := by
    rw [declaresJson, declared]
    decide +kernel
  have route : Route.ofPath (pathOf "/zones") = .zones := by decide +kernel
  have large : ¬ greatestBody < (sent.body.getD []).length := Nat.not_lt.mpr small
  have other : ¬ (post "/zones" sent).method = "HEAD" := by simp [post]
  rw [serve, if_neg other]
  simp only [respond, post, route, createZone, json, Bool.not_true, Bool.false_eq_true, if_false,
    large, body]

theorem serve_echo (declared : Http.header? sent.headers "content-type" = some Http.jsonMediaType)
    (small : (sent.body.getD []).length ≤ greatestBody) (store : Store)
    : serve identifiers (post "/echo" sent) store
        = ({ status := 200
             contentType := some Http.jsonMediaType
             body := sent.body.getD [] }, store) := by
  have route : Route.ofPath (pathOf "/echo") = .echo := by decide +kernel
  have large : ¬ greatestBody < (sent.body.getD []).length := Nat.not_lt.mpr small
  have other : ¬ (post "/echo" sent).method = "HEAD" := by simp [post]
  rw [serve, if_neg other]
  simp only [respond, post, route, echo, declared, large, if_false, Option.getD_some]

end Serve

-----------------------------------------------------------------------------------------
-- Decoding answers
-----------------------------------------------------------------------------------------

section Decode

variable {config : Config} {engine : Engine} {multiByte : Charset.MultiByte} {answer : Answer}
  {response : Http.Response}

/-- An answer with a document is decoded in the charset of the configuration, as it declares no
other one. -/
theorem carries_of_receivedAs (charset : config.charset = .utf8)
    (received : answer.ReceivedAs response) (status : answer.status = 200 ∨ answer.status = 201)
    (declared : answer.contentType = some Http.jsonMediaType) (nonempty : answer.body ≠ [])
    : Codec.Carries config answer.body response := by
  refine ⟨?_, ?_, fun h => ?_, ?_⟩
  · cases hb : response.body with
    | none => exact absurd (received.body.symm.trans (congrArg (Option.getD · []) hb)) nonempty
    | some body => exact congrArg some ((congrArg (Option.getD · []) hb).symm.trans received.body)
  · rw [received.status]
    rcases status with h | h <;> rw [h] <;> decide
  · rw [received.status] at h
    rcases status with h' | h' <;> rw [h'] at h <;> cases h
  · rw [Http.charsetOf, received.contentType, declared, Option.bind_some,
      Http.ofContentType?_jsonMediaType, Option.getD_none, charset]

theorem decode_document (charset : config.charset = .utf8) {status : Nat}
    (ok : status = 200 ∨ status = 201) {json : Json} (distinct : json.Distinct)
    (shallow : json.depth ≤ Json.greatestDepth)
    (received : (Answer.document status json).ReceivedAs response) {type : Descriptor}
    (typed : type.isBytes = false) {value : Value} (read : engine.read json type = .ok value)
    : (Codec.ofEngine config engine multiByte).decoder.decode response type
        = .ok (.value value) := by
  have opens : Json.Opens (json.text false).toList := Engine.opens_text {} json
  have carries : Codec.Carries config (Text.Utf8.encode (json.text false).toList) response :=
    carries_of_receivedAs charset received ok rfl (Engine.bytesOf_ne_nil {} json)
  rw [Codec.decode_eq_readText opens carries typed, Engine.readText,
    (Json.ofText_text distinct false).1 shallow]
  simp only [Except.mapError, bind, Except.bind, read, Except.map]

theorem depthOfItems_le (zones : List Zone) : Json.depthOfItems (zones.map Zone.toJson) ≤ 1 := by
  induction zones with
  | nil => exact Nat.zero_le 1
  | cons zone rest ih => exact max_le zone.depth_toJson.le ih

/-- An answer with a zone is decoded as the object of the zone. -/
theorem decode_zone (registered : engine.registry.lookup "Zone" = some (.object zoneSchema))
    (charset : config.charset = .utf8) (zone : Zone)
    (received : (Answer.document 201 zone.toJson).ReceivedAs response)
    : (Codec.ofEngine config engine multiByte).decoder.decode response (.named "Zone")
        = .ok (.value (.object "Zone" zone.fields)) :=
  decode_document charset (.inr rfl) zone.distinct_toJson zone.depth_toJson_le received rfl
    (read_zone registered zone)

/-- An answer with the list of zones is decoded as the list of their objects. -/
theorem decode_zones (registered : engine.registry.lookup "Zone" = some (.object zoneSchema))
    (charset : config.charset = .utf8) (zones : List Zone)
    (received : (Answer.document 200 (.array (zones.map Zone.toJson))).ReceivedAs response)
    : (Codec.ofEngine config engine multiByte).decoder.decode response (.list (.named "Zone"))
        = .ok (.value (.array (zones.map fun zone => .object "Zone" zone.fields))) := by
  have distinct : (Json.array (zones.map Zone.toJson)).Distinct := by
    rw [Json.Distinct]
    intro item hm
    obtain ⟨zone, _, rfl⟩ := List.mem_map.mp hm
    exact zone.distinct_toJson
  have shallow : (Json.array (zones.map Zone.toJson)).depth ≤ Json.greatestDepth :=
    (Nat.succ_le_succ (depthOfItems_le zones)).trans (by decide)
  exact decode_document charset (.inl rfl) distinct shallow received rfl
    (read_zones registered zones)

/-- What has been encoded decodes from its echo as it does by itself. -/
theorem decode_of_echo (charset : config.charset = .utf8) {identifiers : Nat → String}
    {call : Encoder.Call} {start sent : Http.Request} (encode : call.encode start = .ok sent)
    (small : (sent.body.getD []).length ≤ greatestBody) (store : Store)
    (received : (serve identifiers (post "/echo" sent) store).1.ReceivedAs response)
    (type : Descriptor)
    : (Codec.ofEngine config engine multiByte).decoder.decode response type
        = (Codec.ofEngine config engine multiByte).decoder.decode ⟨200, [], sent.body⟩ type := by
  obtain ⟨text, _, opens, _, rfl⟩ := Encoder.Call.exists_text_of_encode encode
  rw [serve_echo (Http.header?_setBody _ _ _ _) small] at received
  have echoed : Codec.Carries config (Text.Utf8.encode text) response :=
    carries_of_receivedAs charset received (.inl rfl) rfl opens.encode_ne_nil
  have undeclared : ∀ default, Http.charsetOf [] default = default := fun _ => rfl
  have direct : Codec.Carries config (Text.Utf8.encode text)
      ⟨200, [], some (Text.Utf8.encode text)⟩ :=
    ⟨rfl, show 200 ≠ 204 by decide, fun h => absurd h (show 200 ≠ 404 by decide),
      (undeclared _).trans charset⟩
  exact Codec.decode_eq_of_carries echoed direct opens.encode_ne_nil type

end Decode

-----------------------------------------------------------------------------------------
-- Zones in turn
-----------------------------------------------------------------------------------------

/-- The zones as they are kept, each with an identifier. -/
def keptAs (identifiers : Nat → String) (store : Store) : List Zone → List Zone
  | [] => []
  | zone :: rest =>
      let created := store.create identifiers zone
      created.1 :: keptAs identifiers created.2 rest

/-- A zone is created with its identifier, or with one that is made for it, behind all others. -/
theorem create_eq (identifiers : Nat → String) (zone : Zone) (store : Store)
    : (store.create identifiers zone).1
          = { zone with id := some (zone.id.getD (identifiers store.generated)) }
        ∧ (store.create identifiers zone).2.zones
          = store.zones ++ [(store.create identifiers zone).1] := by
  obtain ⟨name, id⟩ := zone
  cases id <;> exact ⟨rfl, rfl⟩

/-- Each posted zone is answered as it is kept, and all of them are kept in turn, by induction on
what is posted. -/
theorem exchanges_post {identifiers : Nat → String} {sents : List Http.Request} {zones : List Zone}
    (creates : List.Forall₂ (fun sent zone => ∀ store,
      serve identifiers (post "/zones" sent) store
        = (.document 201 (store.create identifiers zone).1.toJson,
            (store.create identifiers zone).2)) sents zones)
    (store : Store)
    : (exchanges identifiers store (sents.map (post "/zones"))).map Exchange.answer
          = (keptAs identifiers store zones).map (fun zone => .document 201 zone.toJson)
        ∧ (afterwards identifiers store (sents.map (post "/zones"))).zones
          = store.zones ++ keptAs identifiers store zones := by
  induction creates generalizing store with
  | nil => exact ⟨rfl, (List.append_nil _).symm⟩
  | @cons sent zone sents zones head _ ih =>
      obtain ⟨answers, kept⟩ := ih (store.create identifiers zone).2
      refine ⟨?_, ?_⟩
      · simp only [List.map_cons, exchanges, keptAs, head, answers]
      · simp only [List.map_cons, afterwards, keptAs, head, kept, (create_eq _ zone store).2,
          List.append_assoc, List.singleton_append]

theorem forall₂_keptAs (identifiers : Nat → String) (store : Store) (zones : List Zone)
    : List.Forall₂ (fun zone kept => ∃ id, kept = { zone with id := some (zone.id.getD id) }) zones
        (keptAs identifiers store zones) := by
  induction zones generalizing store with
  | nil => exact .nil
  | cons zone rest ih => exact .cons ⟨_, (create_eq identifiers zone store).1⟩ (ih _)

-----------------------------------------------------------------------------------------
-- Posting and decoding
-----------------------------------------------------------------------------------------

/-- An object of a zone, and the request that it is encoded into. -/
structure Posting where
  zone : Zone
  fields : List (String × Value)
  has : zone.HasFields fields
  start : Http.Request

namespace Posting

/-- The object that is posted. -/
def value (posting : Posting) : Value :=
  .object "Zone" posting.fields

/-- The request into which the object has been encoded. -/
def sent (engine : Engine) (posting : Posting) : Http.Request :=
  posting.start.setBody (engine.bytesOf posting.zone.toJson) .utf8 Http.jsonMediaType

/-- The request by which the object is posted to the server. -/
def request (engine : Engine) (posting : Posting) : Request :=
  post "/zones" (posting.sent engine)

theorem body_sent (engine : Engine) (posting : Posting)
    : (posting.sent engine).body = some (engine.bytesOf posting.zone.toJson) :=
  rfl

theorem body_request (engine : Engine) (posting : Posting)
    : (posting.request engine).body = engine.bytesOf posting.zone.toJson := by
  rw [request, post, body_sent, Option.getD_some]

/-- What comes back for the object: an equal one if it has an identifier, and otherwise one that
is equal to it with an identifier added. -/
def Returns (posting : Posting) (back : Value) : Prop :=
  match Value.present? posting.fields "id" with
  | some _ => posting.value.same back = true
  | none => ∃ id, (Value.object "Zone" (Members.put "id" (.string id) posting.fields)).same back
      = true

theorem returns_of_kept (posting : Posting) (id : String)
    : posting.Returns
        (.object "Zone" (Zone.fields { posting.zone with
          id := some (posting.zone.id.getD id) })) := by
  obtain ⟨⟨name, given⟩, fields, has, start⟩ := posting
  simp only [Returns, value, has.id]
  cases given with
  | none => exact ⟨id, (has.put id).same (Zone.hasFields_fields _)⟩
  | some given => exact has.same (Zone.hasFields_fields _)

end Posting

/-- Posted one after the other, all objects are answered as their zones are kept. -/
theorem exchanges_postings {engine : Engine} (identifiers : Nat → String) {postings : List Posting}
    (small : ∀ posting ∈ postings, (posting.request engine).body.length ≤ greatestBody)
    (store : Store)
    : (exchanges identifiers store (postings.map (Posting.request engine))).map Exchange.answer
          = (keptAs identifiers store (postings.map Posting.zone)).map
              (fun zone => .document 201 zone.toJson)
        ∧ (afterwards identifiers store (postings.map (Posting.request engine))).zones
          = store.zones ++ keptAs identifiers store (postings.map Posting.zone) := by
  have creates : List.Forall₂ (fun sent zone => ∀ store,
      serve identifiers (post "/zones" sent) store
        = (.document 201 (store.create identifiers zone).1.toJson,
            (store.create identifiers zone).2))
      (postings.map (Posting.sent engine)) (postings.map Posting.zone) := by
    rw [List.forall₂_map_left_iff, List.forall₂_map_right_iff, List.forall₂_same]
    intro posting hm
    have declared : Http.header? (posting.sent engine).headers "content-type"
        = some Http.jsonMediaType := Http.header?_setBody _ _ _ _
    have hsmall := small posting hm
    rw [Posting.body_request] at hsmall
    refine serve_post declared ?_ ?_
    · rw [Posting.body_sent, Option.getD_some]
      exact hsmall
    · rw [Posting.body_sent, Option.getD_some]
      exact zoneOfBody_bytesOf engine posting.zone
  have requests : postings.map (Posting.request engine)
      = (postings.map (Posting.sent engine)).map (post "/zones") := by
    rw [List.map_map]
    rfl
  rw [requests]
  exact exchanges_post creates store

/-- A client that knows zones encodes every object of one. Posted to a new server one after the
other, all of them are created; each answer decodes to the posted object, with an identifier if
it had none; and the list of all zones decodes to these objects in the order in which they were
posted. Whatever has been encoded decodes from its echo as it does by itself. -/
theorem decode_of_posts (config : Config) (charset : config.charset = .utf8) (engine : Engine)
    (registered : engine.registry.lookup "Zone" = some (.object zoneSchema))
    (multiByte : Charset.MultiByte) (identifiers : Nat → String) (postings : List Posting)
    : let codec := Codec.ofEngine config engine multiByte
      let requests := postings.map (Posting.request engine)
      (∀ posting ∈ postings, codec.encoder.encode posting.value (.named "Zone") posting.start
          = .ok (posting.sent engine))
        ∧ ((∀ posting ∈ postings, (posting.request engine).body.length ≤ greatestBody) →
          (∀ exchange ∈ exchanges identifiers {} requests, exchange.answer.status = 201)
            ∧ ∀ responses,
              List.Forall₂ (fun exchange response => exchange.answer.ReceivedAs response)
                (exchanges identifiers {} requests) responses →
              ∃ backs,
                List.Forall₂ (fun response back =>
                  codec.decoder.decode response (.named "Zone") = .ok (.value back))
                  responses backs
                ∧ List.Forall₂ (fun posting back => posting.Returns back) postings backs
                ∧ ∀ request response, request.method = "GET" →
                    pathOf request.target = "/zones".toList →
                    (serve identifiers request
                      (afterwards identifiers {} requests)).1.ReceivedAs response →
                    codec.decoder.decode response (.list (.named "Zone"))
                      = .ok (.value (.array backs)))
        ∧ ∀ (call : Encoder.Call) start sent, call.encode start = .ok sent →
            (sent.body.getD []).length ≤ greatestBody →
            ∀ store response,
              (serve identifiers (post "/echo" sent) store).1.ReceivedAs response →
              ∀ type, codec.decoder.decode response type
                = codec.decoder.decode ⟨200, [], sent.body⟩ type := by
  intro codec requests
  have encodes : ∀ posting ∈ postings,
      codec.encoder.encode posting.value (.named "Zone") posting.start
        = .ok (posting.sent engine) := fun posting _ =>
    Codec.encode_of_write (write_zone registered posting.has) posting.start
  refine ⟨encodes, fun small => ?_, fun _ _ _ encode small store _ received type =>
    decode_of_echo charset encode small store received type⟩
  obtain ⟨answers, kept⟩ := exchanges_postings identifiers small {}
  refine ⟨fun exchange hm => ?_, fun responses received => ?_⟩
  · have hanswer : exchange.answer ∈ (exchanges identifiers {} requests).map Exchange.answer :=
      List.mem_map_of_mem hm
    rw [answers] at hanswer
    obtain ⟨zone, _, hzone⟩ := List.mem_map.mp hanswer
    rw [← hzone]
    rfl
  · have zones := forall₂_keptAs identifiers {} (postings.map Posting.zone)
    rw [List.forall₂_map_left_iff] at zones
    generalize keptAs identifiers {} (postings.map Posting.zone) = all at answers kept zones
    have received : List.Forall₂ (fun (zone : Zone) response =>
        (Answer.document 201 zone.toJson).ReceivedAs response) all responses := by
      rw [← List.forall₂_map_left_iff, ← answers, List.forall₂_map_left_iff]
      exact received
    refine ⟨all.map fun zone => .object "Zone" zone.fields, ?_, ?_, ?_⟩
    · rw [List.forall₂_map_right_iff]
      exact received.flip.imp fun response zone received =>
        decode_zone registered charset zone received
    · rw [List.forall₂_map_right_iff]
      refine zones.imp fun posting zone given => ?_
      obtain ⟨id, rfl⟩ := given
      exact posting.returns_of_kept id
    · intro request response method path received
      rw [serve_list method path, kept] at received
      exact decode_zones registered charset all received

-----------------------------------------------------------------------------------------
-- Two zones
-----------------------------------------------------------------------------------------

/-- A strict engine that knows zones and writes them on many lines. -/
def zoneEngine : Engine where
  registry := [("Zone", .object zoneSchema)]
  strict := true
  pretty := true

/-- An object of a zone without an identifier, which is null. -/
def anonymous : Posting where
  zone := ⟨"é\n", none⟩
  fields := [("id", .null), ("name", .string "é\n")]
  has := by
    refine ⟨by simp [Members.Distinct], rfl, rfl, fun name hname hid => ?_⟩
    simp [Value.present?, Members.lookup_cons_ite, hname, hid]
  start := { Codec.bareRequest with headers := [("Content-Type", "text/plain")] }

/-- An object of a zone with an identifier, in another order than the schema has. -/
def identified : Posting where
  zone := ⟨"b.", some "\\"⟩
  fields := [("id", .string "\\"), ("name", .string "b.")]
  has := by
    refine ⟨by simp [Members.Distinct], rfl, rfl, fun name hname hid => ?_⟩
    simp [Value.present?, Members.lookup_cons_ite, hname, hid]
  start := Codec.bareRequest

/-- Both zones are created and come back, by themselves and in the list of all. -/
theorem decode_of_posts_two
    : ({} : Config).charset = .utf8
        ∧ zoneEngine.registry.lookup "Zone" = some (.object zoneSchema)
        ∧ (∀ posting ∈ [anonymous, identified],
          (posting.request zoneEngine).body.length ≤ greatestBody)
        ∧ ∃ first second, anonymous.Returns first ∧ identified.Returns second
          ∧ (Codec.ofEngine {} zoneEngine).decoder.decode
              (serve (fun _ => "x") ⟨"GET", "/zones", [], []⟩
                (afterwards (fun _ => "x") {}
                  ([anonymous, identified].map (Posting.request zoneEngine)))).1.toResponse
              (.list (.named "Zone"))
            = .ok (.value (.array [first, second])) := by
  have charset : ({} : Config).charset = .utf8 := by decide +kernel
  have registered : zoneEngine.registry.lookup "Zone" = some (.object zoneSchema) := rfl
  have small : ∀ posting ∈ [anonymous, identified],
      (posting.request zoneEngine).body.length ≤ greatestBody := by decide +kernel
  obtain ⟨_, posts, _⟩ := decode_of_posts {} charset zoneEngine registered .ascii
    (fun _ => "x") [anonymous, identified]
  obtain ⟨_, decodes⟩ := posts small
  have received : ∀ history : List Exchange, List.Forall₂ (fun (exchange : Exchange) response =>
      exchange.answer.ReceivedAs response) history
      (history.map fun exchange => exchange.answer.toResponse) := by
    intro history
    rw [List.forall₂_map_right_iff, List.forall₂_same]
    exact fun exchange _ => exchange.answer.receivedAs_toResponse
  obtain ⟨backs, _, returns, list⟩ := decodes _ (received _)
  obtain _ | ⟨first, _ | ⟨second, _ | _⟩⟩ := returns
  exact ⟨charset, registered, small, _, _, first, second,
    list _ _ rfl rfl (Answer.receivedAs_toResponse _)⟩

end TypedJson.Zones
