import Mathlib.Tactic.SplitIfs
import TypedJson.Proofs.Json.Document
import TypedJson.Proofs.Text.Utf8
import TypedJson.Zones.Server

/-!
The zone server by its own answers. Which zones are kept can be told from the exchanges so far:
they are the zones of the answers that created one, in turn, but for those that a later request
deleted. All other exchanges may be forgotten.
-/

namespace TypedJson.Zones

-----------------------------------------------------------------------------------------
-- Requests about one identifier
-----------------------------------------------------------------------------------------

/-- A path leads to a zone by one segment behind that of all zones, which is not empty. -/
theorem Route.ofPath_eq_zone_iff {path segment : List Char}
    : ofPath path = .zone segment ↔
        path = "/zones/".toList ++ segment ∧ segment ≠ [] ∧ '/' ∉ segment := by
  constructor
  · intro h
    simp only [ofPath] at h
    split_ifs at h with _ _ _ _ given
    obtain rfl := Route.zone.inj h
    simp only [Bool.and_eq_true, decide_eq_true_eq, Bool.not_eq_true', List.isEmpty_eq_false_iff,
      List.contains_eq_mem, decide_eq_false_iff_not] at given
    obtain ⟨⟨front, nonempty⟩, single⟩ := given
    have whole := List.take_append_drop "/zones/".toList.length path
    rw [front] at whole
    exact ⟨whole.symm, nonempty, single⟩
  · rintro ⟨rfl, nonempty, single⟩
    obtain ⟨c, rest, rfl⟩ := List.exists_cons_of_ne_nil nonempty
    simp only [List.mem_cons, not_or] at single
    simpa [ofPath] using single

/-- The request is about the identifier: its path is that of all zones and one more segment, which
is not empty and stands for the identifier. -/
def Request.Names (request : Request) (id : String) : Prop :=
  ∃ segment, pathOf request.target = "/zones/".toList ++ segment ∧ segment ≠ [] ∧ '/' ∉ segment
    ∧ Text.Utf8.decode? (percentDecode segment) = some id.toList

/-- The identifier that a request is about. -/
def Request.identifier? (request : Request) : Option String :=
  match Route.ofPath (pathOf request.target) with
  | .zone segment => (Text.Utf8.decode? (percentDecode segment)).map String.ofList
  | _ => none

theorem Request.names_iff {request : Request} {id : String}
    : request.Names id ↔ request.identifier? = some id := by
  constructor
  · rintro ⟨segment, hpath, nonempty, single, hid⟩
    have hroute : Route.ofPath (pathOf request.target) = .zone segment :=
      Route.ofPath_eq_zone_iff.mpr ⟨hpath, nonempty, single⟩
    simp [identifier?, hroute, hid]
  · intro h
    simp only [identifier?] at h
    split at h
    · next segment hroute =>
        obtain ⟨hpath, nonempty, single⟩ := Route.ofPath_eq_zone_iff.mp hroute
        obtain ⟨text, hid, rfl⟩ := Option.map_eq_some_iff.mp h
        exact ⟨segment, hpath, nonempty, single, by rw [hid, String.toList_ofList]⟩
    · cases h

/-- The request deletes the zone if it is kept. -/
def Request.Deletes (request : Request) (zone : Zone) : Prop :=
  request.method = "DELETE" ∧ ∃ id, zone.id = some id ∧ request.Names id

theorem Request.deletes_iff {request : Request} {id : String} (method : request.method = "DELETE")
    (names : request.Names id) {zone : Zone}
    : request.Deletes zone ↔ zone.id = some id := by
  constructor
  · rintro ⟨_, other, hzone, hother⟩
    rw [hzone, ← names_iff.mp hother, names_iff.mp names]
  · exact fun hzone => ⟨method, id, hzone, names⟩

theorem Request.not_deletes_of_method {request : Request}
    (method : request.method ≠ "DELETE") (zone : Zone)
    : ¬ request.Deletes zone :=
  fun deletes => method deletes.1

theorem Request.not_deletes_of_identifier? {request : Request}
    (unnamed : request.identifier? = none) (zone : Zone)
    : ¬ request.Deletes zone := by
  rintro ⟨_, id, _, names⟩
  cases unnamed.symm.trans (names_iff.mp names)

instance (request : Request) (zone : Zone) : Decidable (request.Deletes zone) :=
  decidable_of_iff (request.method = "DELETE" ∧ zone.id.isSome ∧ zone.id = request.identifier?) (by
    simp only [Request.Deletes, Request.names_iff]
    cases zone.id <;> simp [eq_comm])

-----------------------------------------------------------------------------------------
-- Histories
-----------------------------------------------------------------------------------------

/-- A request with the answer to it. -/
structure Exchange where
  request : Request
  answer : Answer
  deriving DecidableEq, Repr

variable (identifiers : Nat → String)

/-- The exchanges that come of requests in turn. -/
def exchanges (store : Store) : List Request → List Exchange
  | [] => []
  | request :: rest =>
      let served := serve identifiers request store
      ⟨request, served.1⟩ :: exchanges served.2 rest

/-- The store after requests in turn. -/
def afterwards (store : Store) : List Request → Store
  | [] => store
  | request :: rest => afterwards (serve identifiers request store).2 rest

/-- The zone of a tree. -/
def Zone.ofJson? : Json → Option Zone
  | .object [("name", .string name), ("id", .string id)] => some ⟨name, some id⟩
  | .object [("name", .string name)] => some ⟨name, none⟩
  | _ => none

/-- The zone in the body of an answer. -/
def Answer.zone? (answer : Answer) : Option Zone :=
  (Json.ofText (Text.Utf8.decodeLossy answer.body)).toOption.bind Zone.ofJson?

/-- The zone that was created, as the answer has it. -/
def Exchange.created? (exchange : Exchange) : Option Zone :=
  if exchange.answer.status = 201 then exchange.answer.zone? else none

/-- The zones that were created, in turn, but for those that were deleted later. -/
def survivors : List Exchange → List Zone
  | [] => []
  | exchange :: later =>
      (exchange.created?.toList.filter fun zone =>
        ∀ next ∈ later, ¬ next.request.Deletes zone) ++ survivors later

theorem Zone.ofJson?_toJson (zone : Zone) : ofJson? zone.toJson = some zone := by
  obtain ⟨name, id⟩ := zone
  cases id <;> rfl

theorem Zone.distinct_toJson (zone : Zone) : zone.toJson.Distinct := by
  obtain ⟨name, id⟩ := zone
  cases id <;> simp [Zone.toJson, Json.Distinct, Members.Distinct]

theorem Zone.depth_toJson (zone : Zone) : zone.toJson.depth = 1 := by
  obtain ⟨name, id⟩ := zone
  cases id <;> rfl

theorem Zone.depth_toJson_le (zone : Zone) : zone.toJson.depth ≤ Json.greatestDepth := by
  rw [zone.depth_toJson]
  decide

/-- The zone of an answer with a zone's document is that zone. -/
theorem Answer.zone?_document (status : Nat) (zone : Zone)
    : (document status zone.toJson).zone? = some zone := by
  rw [zone?, document, Text.Utf8.decodeLossy_encode,
    (Json.ofText_text zone.distinct_toJson false).1 zone.depth_toJson_le]
  exact zone.ofJson?_toJson

-----------------------------------------------------------------------------------------
-- One request
-----------------------------------------------------------------------------------------

/-- What may come of a request: a zone is created, all zones with an identifier are deleted, or
nothing changes. -/
inductive Step (request : Request) (store : Store) : Answer → Store → Prop where
  | created {zone : Zone} {id : String} {next : Store} (method : request.method = "POST")
    (identified : zone.id = some id) (zones : next.zones = store.zones ++ [zone])
    : Step request store (.document 201 zone.toJson) next
  | deleted {id : String} {next : Store} (method : request.method = "DELETE")
    (names : request.Names id) (delete : store.delete? id = some next)
    : Step request store (.ofStatus 204) next
  | unchanged {answer : Answer} (notCreated : answer.status ≠ 201)
    (notDeleted : answer.status ≠ 204) (spared : ∀ zone ∈ store.zones, ¬ request.Deletes zone)
    : Step request store answer store

variable {identifiers : Nat → String} {request : Request} {store : Store}

theorem Step.of_status {answer : Answer} {code : Nat} (status : answer.status = code)
    (notCreated : code ≠ 201) (notDeleted : code ≠ 204)
    (spared : ∀ zone ∈ store.zones, ¬ request.Deletes zone)
    : Step request store answer store :=
  .unchanged (status ▸ notCreated) (status ▸ notDeleted) spared

theorem Step.of_createZone (method : request.method = "POST")
    : Step request store (createZone identifiers request store).1
        (createZone identifiers request store).2 := by
  have spared : ∀ zone ∈ store.zones, ¬ request.Deletes zone := fun zone _ =>
    Request.not_deletes_of_method (by rw [method]; decide) zone
  have refused : ∀ failure, (refuse failure).status = 400 ∨ (refuse failure).status = 422 := by
    intro failure
    simp only [refuse]
    split
    · exact .inl rfl
    · exact .inr rfl
  simp only [createZone]
  split
  · exact .of_status (show _ = 415 from rfl) (by decide) (by decide) spared
  · split
    · exact .of_status (show _ = 413 from rfl) (by decide) (by decide) spared
    · split
      · next failure _ =>
          rcases refused failure with h | h <;> exact .of_status h (by decide) (by decide) spared
      · next zone _ =>
          cases hid : zone.id with
          | some id =>
              simp only [Store.create, hid]
              exact .created method hid rfl
          | none =>
              simp only [Store.create, hid]
              exact .created method rfl rfl

/-- Deleting succeeds when some zone has the identifier, and then no zone with it is left. -/
theorem Store.delete?_eq (id : String) (store : Store)
    : store.delete? id =
        if ∃ zone ∈ store.zones, zone.id = some id then
          some { store with zones := store.zones.filter fun zone => zone.id ≠ some id }
        else none := by
  have differs : (fun zone : Zone => zone.id != some id)
      = fun zone : Zone => decide (zone.id ≠ some id) := by
    funext zone
    rw [Bool.eq_iff_iff, bne_iff_ne, decide_eq_true_iff]
  simp only [delete?, differs, List.length_filter_lt_length_iff_exists, decide_eq_true_iff, not_not]

theorem Step.of_deleteZone (method : request.method = "DELETE") {id : String}
    (names : request.Names id)
    : Step request store (deleteZone id store).1 (deleteZone id store).2 := by
  simp only [deleteZone, Store.delete?_eq]
  split
  · next kept delete => exact .deleted method names (store.delete?_eq id ▸ delete)
  · next none =>
      refine .of_status (show _ = 404 from rfl) (by decide) (by decide) fun zone hm deletes => ?_
      have found : ∃ zone ∈ store.zones, zone.id = some id :=
        ⟨zone, hm, (Request.deletes_iff method names).mp deletes⟩
      rw [if_pos found] at none
      cases none

/-- By route and method: a zone is created, the zones with an identifier are deleted, or there is
only an answer, and the request does not delete by any identifier. -/
theorem respond_cases (identifiers : Nat → String) (method : String) (request : Request)
    (store : Store)
    : (method = "POST"
          ∧ respond identifiers method request store = createZone identifiers request store)
        ∨ (∃ id, method = "DELETE" ∧ request.identifier? = some id
            ∧ respond identifiers method request store = deleteZone id store)
        ∨ ∃ answer, respond identifiers method request store = (answer, store)
            ∧ answer.status ≠ 201 ∧ answer.status ≠ 204
            ∧ (method = "DELETE" → request.identifier? = none) := by
  have unnamed : (∀ segment, Route.ofPath (pathOf request.target) ≠ .zone segment) →
      request.identifier? = none := by
    intro h
    simp only [Request.identifier?]
  have only : ∀ (answer : Answer) (code : Nat), answer.status = code → code ≠ 201 → code ≠ 204 →
      (method = "DELETE" → request.identifier? = none) →
      ∃ only, (answer, store) = (only, store) ∧ only.status ≠ 201 ∧ only.status ≠ 204
        ∧ (method = "DELETE" → request.identifier? = none) := by
    rintro answer code rfl notCreated notDeleted h
    exact ⟨answer, rfl, notCreated, notDeleted, h⟩
  simp only [respond]
  split
  · next hroute =>
      refine .inr (.inr (only _ 404 rfl (by decide) (by decide) fun _ => unnamed ?_))
      exact fun _ h => nomatch hroute.symm.trans h
  · exact .inr (.inr (only _ 200 rfl (by decide) (by decide) fun h => absurd h (by decide)))
  · exact .inl ⟨rfl, rfl⟩
  · next segment _ =>
      refine .inr (.inr ?_)
      rw [withIdentifier]
      split
      · exact only _ 400 rfl (by decide) (by decide) fun h => absurd h (by decide)
      · rw [getZone]
        split
        · exact only _ 200 rfl (by decide) (by decide) fun h => absurd h (by decide)
        · exact only _ 404 rfl (by decide) (by decide) fun h => absurd h (by decide)
  · next segment hroute =>
      rw [withIdentifier]
      split
      · next hdecode =>
          refine .inr (.inr (only _ 400 rfl (by decide) (by decide) fun _ => ?_))
          simp only [Request.identifier?, hroute, hdecode, Option.map_none]
      · next id hdecode =>
          refine .inr (.inl ⟨String.ofList id, rfl, ?_, rfl⟩)
          simp only [Request.identifier?, hroute, hdecode, Option.map_some]
  · exact .inr (.inr (only _ 200 rfl (by decide) (by decide) fun h => absurd h (by decide)))
  · exact .inr (.inr (only _ 200 rfl (by decide) (by decide) fun h => absurd h (by decide)))
  · refine .inr (.inr ?_)
    rw [echo]
    split
    · exact only _ 413 rfl (by decide) (by decide) fun h => absurd h (by decide)
    · exact only _ 200 rfl (by decide) (by decide) fun h => absurd h (by decide)
  · next notDeleted _ _ _ =>
      refine .inr (.inr (only _ 405 rfl (by decide) (by decide) fun h => unnamed ?_))
      exact fun segment hroute => notDeleted segment hroute h

/-- Whatever is asked for, one of these comes of it. -/
theorem step_serve (identifiers : Nat → String) (request : Request) (store : Store)
    : Step request store (serve identifiers request store).1
        (serve identifiers request store).2 := by
  simp only [serve]
  split
  · next head =>
      have spared : ∀ zone ∈ store.zones, ¬ request.Deletes zone := fun zone _ =>
        Request.not_deletes_of_method (by rw [head]; decide) zone
      rcases respond_cases identifiers "GET" request store with
        ⟨h, _⟩ | ⟨_, h, _⟩ | ⟨answer, h, notCreated, notDeleted, _⟩
      · exact absurd h (by decide)
      · exact absurd h (by decide)
      · rw [h]
        exact .unchanged notCreated notDeleted spared
  · rcases respond_cases identifiers request.method request store with
      ⟨method, h⟩ | ⟨id, method, names, h⟩ | ⟨answer, h, notCreated, notDeleted, unnamed⟩
    · rw [h]
      exact .of_createZone method
    · rw [h]
      exact .of_deleteZone method (Request.names_iff.mpr names)
    · rw [h]
      refine .unchanged notCreated notDeleted fun zone _ deletes => ?_
      exact Request.not_deletes_of_identifier? (unnamed deletes.1) zone deletes

-----------------------------------------------------------------------------------------
-- One exchange
-----------------------------------------------------------------------------------------

variable {answer : Answer} {next : Store}

theorem filter_of_spared (spared : ∀ zone ∈ store.zones, ¬ request.Deletes zone)
    : store.zones.filter (fun zone => ¬ request.Deletes zone) = store.zones :=
  List.filter_eq_self.mpr fun zone hm => decide_eq_true (spared zone hm)

/-- One request keeps the zones that it does not delete, and adds the one that its answer says it
created. -/
theorem Step.zones (step : Step request store answer next)
    : next.zones = store.zones.filter (fun zone => ¬ request.Deletes zone)
        ++ (Exchange.created? ⟨request, answer⟩).toList := by
  cases step with
  | @created zone id next method identified zones =>
      have spared : ∀ zone ∈ store.zones, ¬ request.Deletes zone := fun zone _ =>
        Request.not_deletes_of_method (by rw [method]; decide) zone
      have created : Exchange.created? ⟨request, .document 201 zone.toJson⟩ = some zone :=
        (if_pos rfl).trans (Answer.zone?_document 201 zone)
      rw [filter_of_spared spared, zones, created, Option.toList_some]
  | @deleted id next method names delete =>
      have created : Exchange.created? ⟨request, .ofStatus 204⟩ = none :=
        if_neg (show ¬ 204 = 201 by decide)
      rw [Store.delete?_eq] at delete
      split at delete
      · obtain rfl := Option.some.inj delete
        rw [created, Option.toList_none, List.append_nil]
        refine List.filter_congr fun zone _ => ?_
        simp only [Request.deletes_iff method names, ne_eq]
      · cases delete
  | unchanged notCreated _ spared =>
      have created : Exchange.created? ⟨request, answer⟩ = none := if_neg notCreated
      rw [filter_of_spared spared, created, Option.toList_none, List.append_nil]

/-- A created zone has an identifier, and the answer is its document. -/
theorem Step.created? (step : Step request store answer next) (status : answer.status = 201)
    : ∃ zone, Exchange.created? ⟨request, answer⟩ = some zone ∧ zone.id.isSome = true
        ∧ answer = .document 201 zone.toJson := by
  cases step with
  | @created zone id next method identified zones =>
      refine ⟨zone, (if_pos rfl).trans (Answer.zone?_document 201 zone), ?_, rfl⟩
      rw [identified]
      rfl
  | deleted => cases status
  | unchanged notCreated _ _ => exact absurd status notCreated

/-- A request that neither creates nor deletes leaves everything as it was. -/
theorem Step.next_eq (step : Step request store answer next) (notCreated : answer.status ≠ 201)
    (notDeleted : answer.status ≠ 204)
    : next = store := by
  cases step with
  | created => exact absurd rfl notCreated
  | deleted => exact absurd rfl notDeleted
  | unchanged => rfl

-----------------------------------------------------------------------------------------
-- Whole histories
-----------------------------------------------------------------------------------------

variable (identifiers store)

theorem requests_exchanges (requests : List Request)
    : (exchanges identifiers store requests).map Exchange.request = requests := by
  induction requests generalizing store with
  | nil => rfl
  | cons request rest ih => rw [exchanges, List.map_cons, ih]

theorem exchanges_append (first later : List Request)
    : exchanges identifiers store (first ++ later)
        = exchanges identifiers store first
          ++ exchanges identifiers (afterwards identifiers store first) later := by
  induction first generalizing store with
  | nil => rfl
  | cons request rest ih =>
      rw [List.cons_append, exchanges, exchanges, afterwards, ih, List.cons_append]

/-- The zones that are kept after some requests are those that were kept before and were not
deleted, and then those that were created and not deleted, by induction on the requests. -/
theorem zones_afterwards (requests : List Request)
    : (afterwards identifiers store requests).zones
        = store.zones.filter (fun zone =>
            ∀ exchange ∈ exchanges identifiers store requests, ¬ exchange.request.Deletes zone)
          ++ survivors (exchanges identifiers store requests) := by
  induction requests generalizing store with
  | nil => simp [afterwards, exchanges, survivors]
  | cons request rest ih =>
      have step := step_serve identifiers request store
      rw [afterwards, ih, step.zones, List.filter_append, List.filter_filter, List.append_assoc]
      refine congrArg (· ++ _) ?_
      refine List.filter_congr fun zone _ => ?_
      rw [Bool.eq_iff_iff, Bool.and_eq_true, decide_eq_true_iff, decide_eq_true_iff,
        decide_eq_true_iff, exchanges, List.forall_mem_cons]
      exact and_comm

theorem afterwards_append (first later : List Request)
    : afterwards identifiers store (first ++ later)
        = afterwards identifiers (afterwards identifiers store first) later := by
  induction first generalizing store with
  | nil => rfl
  | cons request rest ih => rw [List.cons_append, afterwards, afterwards, ih]

/-- On a new server the zones that are kept are the survivors of the history. -/
theorem zones_afterwards_empty (requests : List Request)
    : (afterwards identifiers {} requests).zones = survivors (exchanges identifiers {} requests) :=
  zones_afterwards identifiers {} requests

/-- Whatever was created has an identifier, and the answer has it, by induction on the requests. -/
theorem exists_created? {requests : List Request} {exchange : Exchange}
    (mem : exchange ∈ exchanges identifiers store requests)
    (status : exchange.answer.status = 201)
    : ∃ zone, exchange.created? = some zone ∧ zone.id.isSome = true
        ∧ exchange.answer = .document 201 zone.toJson := by
  induction requests generalizing store with
  | nil => cases mem
  | cons request rest ih =>
      rcases List.mem_cons.mp mem with rfl | mem
      · exact (step_serve identifiers request store).created? status
      · exact ih _ mem

variable {identifiers store}

theorem exists_of_mem_survivors {history : List Exchange} {zone : Zone}
    (mem : zone ∈ survivors history)
    : ∃ exchange ∈ history, exchange.created? = some zone := by
  induction history with
  | nil => cases mem
  | cons exchange later ih =>
      rcases List.mem_append.mp mem with mem | mem
      · exact ⟨exchange, by simp, Option.mem_toList.mp (List.mem_of_mem_filter mem)⟩
      · obtain ⟨found, hm, hcreated⟩ := ih mem
        exact ⟨found, by simp [hm], hcreated⟩

theorem isSome_id_of_mem_survivors {requests : List Request} {zone : Zone}
    (mem : zone ∈ survivors (exchanges identifiers store requests))
    : zone.id.isSome = true := by
  obtain ⟨exchange, hm, hcreated⟩ := exists_of_mem_survivors mem
  have status : exchange.answer.status = 201 := by
    by_contra h
    rw [Exchange.created?, if_neg h] at hcreated
    cases hcreated
  obtain ⟨found, hfound, identified, _⟩ := exists_created? identifiers store hm status
  obtain rfl := Option.some.inj (hcreated.symm.trans hfound)
  exact identified

/-- An exchange that neither created nor deleted can be left out, and all others stay. -/
theorem exchanges_without {before after : List Exchange} {exchange : Exchange}
    {requests : List Request}
    (history : exchanges identifiers store requests = before ++ exchange :: after)
    (notCreated : exchange.answer.status ≠ 201) (notDeleted : exchange.answer.status ≠ 204)
    : exchanges identifiers store ((before ++ after).map Exchange.request) = before ++ after := by
  have hrequests : requests
      = before.map Exchange.request ++ exchange.request :: after.map Exchange.request := by
    rw [← requests_exchanges identifiers store requests, history, List.map_append, List.map_cons]
  have hlength : (exchanges identifiers store (before.map Exchange.request)).length
      = before.length := by
    rw [← List.length_map Exchange.request, requests_exchanges, List.length_map]
  rw [hrequests, exchanges_append, exchanges] at history
  obtain ⟨hbefore, hrest⟩ := List.append_inj history hlength
  obtain ⟨hexchange, hafter⟩ := List.cons.inj hrest
  have step := step_serve identifiers exchange.request
    (afterwards identifiers store (before.map Exchange.request))
  rw [← hexchange] at notCreated notDeleted
  rw [← hexchange, step.next_eq notCreated notDeleted] at hafter
  rw [List.map_append, exchanges_append, hbefore, hafter]

-----------------------------------------------------------------------------------------
-- Answers
-----------------------------------------------------------------------------------------

theorem serve_list (method : request.method = "GET")
    (path : pathOf request.target = "/zones".toList)
    : serve identifiers request store
        = (.document 200 (.array (store.zones.map Zone.toJson)), store) := by
  have route : Route.ofPath (pathOf request.target) = .zones := by
    rw [path]
    rfl
  rw [serve, method, if_neg (by decide)]
  simp only [respond, route]

/-- What a request about an identifier leads to is done with that identifier. -/
theorem Request.Names.exists_route {id : String} (names : request.Names id) (store : Store)
    : ∃ segment, Route.ofPath (pathOf request.target) = .zone segment
        ∧ ∀ act, withIdentifier segment store act = act id := by
  obtain ⟨segment, hpath, nonempty, single, hid⟩ := names
  refine ⟨segment, Route.ofPath_eq_zone_iff.mpr ⟨hpath, nonempty, single⟩, fun act => ?_⟩
  simp only [withIdentifier, hid, String.ofList_toList]

theorem serve_get (method : request.method = "GET") {id : String} (names : request.Names id)
    : serve identifiers request store = (getZone id store, store) := by
  obtain ⟨segment, route, acts⟩ := names.exists_route store
  rw [serve, method, if_neg (by decide)]
  simp only [respond, route, acts]

theorem serve_delete (method : request.method = "DELETE") {id : String} (names : request.Names id)
    : serve identifiers request store = deleteZone id store := by
  obtain ⟨segment, route, acts⟩ := names.exists_route store
  rw [serve, method, if_neg (by decide)]
  simp only [respond, route, acts]

theorem getZone_eq (id : String) (store : Store)
    : getZone id store =
        match store.zones.find? fun zone => zone.id = some id with
        | some zone => .document 200 zone.toJson
        | none => .ofStatus 404 := by
  have equals : (fun zone : Zone => zone.id == some id)
      = fun zone : Zone => decide (zone.id = some id) := by
    funext zone
    rw [Bool.eq_iff_iff, beq_iff_eq, decide_eq_true_iff]
  have found : store.find? id = store.zones.find? fun zone => zone.id = some id := by
    rw [Store.find?, equals]
  cases h : store.zones.find? fun zone => zone.id = some id with
  | none => simp only [getZone, found, h]
  | some zone => simp only [getZone, found, h]

/-- Deleting leaves the zones without the identifier, and tells whether there were others. -/
theorem deleteZone_eq (id : String) (store : Store)
    : deleteZone id store =
        (.ofStatus (if ∃ zone ∈ store.zones, zone.id = some id then 204 else 404),
          { store with zones := store.zones.filter fun zone => zone.id ≠ some id }) := by
  rw [deleteZone, Store.delete?_eq]
  by_cases found : ∃ zone ∈ store.zones, zone.id = some id
  · simp only [if_pos found]
  · have all : store.zones.filter (fun zone => zone.id ≠ some id) = store.zones :=
      List.filter_eq_self.mpr fun zone hm => decide_eq_true fun h => found ⟨zone, hm, h⟩
    simp only [if_neg found, all]

/-- What a new server answers after some requests depends on the zones that were created and not
deleted since. All of them are listed, in the order of their creation and with identifiers; the
first one with an identifier is given; deleting takes all those with an identifier away; and an
exchange that neither created nor deleted could be left out. -/
theorem serve_afterwards (identifiers : Nat → String) (requests : List Request)
    : let history := exchanges identifiers {} requests
      let answer request := (serve identifiers request (afterwards identifiers {} requests)).1
      (∀ exchange ∈ history, exchange.answer.status = 201 →
          ∃ zone, exchange.created? = some zone ∧ exchange.answer = .document 201 zone.toJson)
        ∧ (∀ zone ∈ survivors history, zone.id.isSome = true)
        ∧ (∀ request, request.method = "GET" → pathOf request.target = "/zones".toList →
            answer request = .document 200 (.array ((survivors history).map Zone.toJson)))
        ∧ (∀ request id, request.method = "GET" → request.Names id →
            answer request =
              match (survivors history).find? fun zone => zone.id = some id with
              | some zone => .document 200 zone.toJson
              | none => .ofStatus 404)
        ∧ (∀ request id, request.method = "DELETE" → request.Names id →
            answer request
                = .ofStatus (if ∃ zone ∈ survivors history, zone.id = some id then 204 else 404)
              ∧ survivors (exchanges identifiers {} (requests ++ [request]))
                = (survivors history).filter fun zone => zone.id ≠ some id)
        ∧ ∀ before exchange after, history = before ++ exchange :: after →
            exchange.answer.status ≠ 201 → exchange.answer.status ≠ 204 →
            exchanges identifiers {} ((before ++ after).map Exchange.request)
              = before ++ after := by
  intro history answer
  have kept : (afterwards identifiers {} requests).zones = survivors history :=
    zones_afterwards_empty identifiers requests
  refine ⟨fun exchange mem status => ?_, fun zone mem => isSome_id_of_mem_survivors mem,
    fun request method path => ?_, fun request id method names => ?_,
    fun request id method names => ⟨?_, ?_⟩,
    fun before exchange after split notCreated notDeleted =>
      exchanges_without split notCreated notDeleted⟩
  · obtain ⟨zone, created, _, document⟩ := exists_created? identifiers {} mem status
    exact ⟨zone, created, document⟩
  · show (serve _ _ _).1 = _
    rw [serve_list method path, kept]
  · show (serve _ _ _).1 = _
    rw [serve_get method names, getZone_eq, kept]
  · show (serve _ _ _).1 = _
    rw [serve_delete method names, deleteZone_eq, kept]
  · rw [← zones_afterwards_empty, afterwards_append, ← kept]
    show (serve _ _ _).2.zones = _
    rw [serve_delete method names, deleteZone_eq]

-----------------------------------------------------------------------------------------
-- Zones with one identifier
-----------------------------------------------------------------------------------------

/-- A request to create a zone. -/
def creation (text : String) : Request where
  method := "POST"
  target := "/zones"
  headers := [("content-type", "application/json")]
  body := Text.Utf8.encode text.toList

/-- Two zones get the same identifier, one from the server and one by itself, then the first of
them is asked for, and then a third zone is created. -/
def twins : List Request :=
  [creation "\x7b\"name\":\"a.\"\x7d", creation "\x7b\"name\":\"b.\",\"id\":\"x\"\x7d",
    ⟨"GET", "/zones/x", [], []⟩, creation "\x7b\"name\":\"c.\",\"id\":\"y\"\x7d"]

/-- How the first of the twins is created. -/
def firstTwin : Exchange :=
  ⟨creation "\x7b\"name\":\"a.\"\x7d", .document 201 (Zone.toJson ⟨"a.", some "x"⟩)⟩

theorem survivors_twins
    : survivors (exchanges (fun _ => "x") {} twins)
        = [⟨"a.", some "x"⟩, ⟨"b.", some "x"⟩, ⟨"c.", some "y"⟩] := by
  decide +kernel

/-- The twins are created and listed, the first of them is found, both are deleted together, and
asking for one of them changed nothing. -/
theorem serve_afterwards_twins
    : (firstTwin ∈ exchanges (fun _ => "x") {} twins
          ∧ ∃ zone, firstTwin.created? = some zone ∧ firstTwin.answer = .document 201 zone.toJson)
        ∧ (∀ zone ∈ survivors (exchanges (fun _ => "x") {} twins), zone.id.isSome = true)
        ∧ (serve (fun _ => "x") ⟨"GET", "/zones", [], []⟩ (afterwards (fun _ => "x") {} twins)).1
          = .document 200 (.array
              ([⟨"a.", some "x"⟩, ⟨"b.", some "x"⟩, ⟨"c.", some "y"⟩].map Zone.toJson))
        ∧ (serve (fun _ => "x") ⟨"GET", "/zones/x", [], []⟩
            (afterwards (fun _ => "x") {} twins)).1
          = .document 200 (Zone.toJson ⟨"a.", some "x"⟩)
        ∧ (serve (fun _ => "x") ⟨"DELETE", "/zones/%78", [], []⟩
            (afterwards (fun _ => "x") {} twins)).1
          = .ofStatus 204
        ∧ survivors (exchanges (fun _ => "x") {} (twins ++ [⟨"DELETE", "/zones/%78", [], []⟩]))
          = [⟨"c.", some "y"⟩]
        ∧ exchanges (fun _ => "x") {} (twins.eraseIdx 2)
          = (exchanges (fun _ => "x") {} twins).eraseIdx 2 := by
  obtain ⟨created, identified, list, get, delete, without⟩ :=
    serve_afterwards (fun _ => "x") twins
  rw [survivors_twins] at list get delete
  have names : Request.Names ⟨"GET", "/zones/x", [], []⟩ "x" :=
    Request.names_iff.mpr (by decide +kernel)
  have encoded : Request.Names ⟨"DELETE", "/zones/%78", [], []⟩ "x" :=
    Request.names_iff.mpr (by decide +kernel)
  obtain ⟨status, left⟩ := delete _ "x" rfl encoded
  have first : firstTwin ∈ exchanges (fun _ => "x") {} twins := by decide +kernel
  refine ⟨⟨first, created _ first rfl⟩, identified, list _ rfl (by decide), get _ "x" rfl names,
    status, left, ?_⟩
  exact without ((exchanges (fun _ => "x") {} twins).take 2)
    ⟨⟨"GET", "/zones/x", [], []⟩, .document 200 (Zone.toJson ⟨"a.", some "x"⟩)⟩
    ((exchanges (fun _ => "x") {} twins).drop 3) (by decide +kernel) (by decide +kernel)
    (by decide +kernel)

end TypedJson.Zones
