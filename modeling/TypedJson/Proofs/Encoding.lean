import TypedJson.Codec
import TypedJson.Proofs.Outcome

/-!
Encoding into a request that is at hand all the while. A call writes the body first and then puts
it into the request part by part, so one that fails has not touched the request, and of a run of
calls the last one that succeeds decides what the request carries.
-/

namespace TypedJson.Encoder

/-- What is done to a request, which is kept where an error ends it. -/
abbrev Putting := ExceptT EncodeError (StateM Http.Request)

/-- Puts a body into the request: drops the headers that declare a media type, declares the body's
own behind the others, and sets the body and its charset. -/
def putBody (body : List UInt8) (charset : Charset) (mediaType : String) : Putting Unit := do
  modify fun request =>
    { request with
      headers := request.headers.filter fun header => !Http.sameName header.1 "content-type" }
  modify fun request =>
    { request with headers := request.headers ++ [("content-type", mediaType)] }
  modify fun request => { request with body := some body }
  modify fun request => { request with charset := some charset }

/-- A call of an encoder: of a value with its type, or of what a statically typed value writes. -/
inductive Call where
  | value (encoder : Encoder) (value : Value) (type : Descriptor)
  | typed (encoder : Encoder) (document : Except Json.Fault Json)

namespace Call

/-- The body that a call writes. -/
def written : Call → Except EncodeError (List UInt8)
  | value encoder v type => (encoder.engine.writeBytes v type).mapError .shape
  | typed encoder document =>
      (document.mapError .document).map fun json =>
        Text.Utf8.encode (json.text encoder.engine.pretty).toList

/-- A call on a request. -/
def put (call : Call) : Putting Unit := do
  let body ← call.written
  putBody body .utf8 Http.jsonMediaType

/-- The request that a call makes of another one. -/
def encode (call : Call) (request : Http.Request) : Except EncodeError Http.Request :=
  match call with
  | value encoder v type => encoder.encode v type request
  | typed encoder document => encoder.encodeTyped document request

/-- The outcomes of calls that are made one after the other on one request, and what the request is
then. -/
def putAll (calls : List Call) (request : Http.Request)
    : List (Except EncodeError Unit) × Http.Request :=
  (calls.mapM fun call => (put call).run).run request

variable {request : Http.Request} {call : Call} {body : List UInt8} {e : EncodeError}

-----------------------------------------------------------------------------------------
-- One call
-----------------------------------------------------------------------------------------

theorem encode_eq (call : Call) (request : Http.Request)
    : call.encode request
        = call.written.map fun body => request.setBody body .utf8 Http.jsonMediaType := by
  cases call with
  | value encoder v type =>
      simp only [encode, written, Encoder.encode]
      cases encoder.engine.writeBytes v type <;> rfl
  | typed encoder document =>
      simp only [encode, written, Encoder.encodeTyped]
      cases document <;> rfl

theorem put_of_ok (ok : call.written = .ok body) (request : Http.Request)
    : (put call).run.run request = (.ok (), request.setBody body .utf8 Http.jsonMediaType) := by
  rw [put, ok]
  rfl

theorem put_of_error (error : call.written = .error e) (request : Http.Request)
    : (put call).run.run request = (.error e, request) := by
  rw [put, error]
  rfl

/-- A call does to the request at hand what it makes of it; where it makes nothing, the request at
hand stays as it is. -/
theorem put_eq (call : Call) (request : Http.Request)
    : (put call).run.run request
        = match call.encode request with
          | .ok sent => (.ok (), sent)
          | .error e => (.error e, request) := by
  rw [encode_eq]
  cases h : call.written with
  | ok body => exact put_of_ok h request
  | error e => exact put_of_error h request

-----------------------------------------------------------------------------------------
-- Runs of calls
-----------------------------------------------------------------------------------------

/-- The body that the last call that succeeds writes. -/
def lastWritten? (calls : List Call) : Option (List UInt8) :=
  (calls.filterMap fun call => call.written.toOption).getLast?

theorem putAll_cons (call : Call) (rest : List Call) (request : Http.Request)
    : putAll (call :: rest) request
        = let first := (put call).run.run request
          let others := putAll rest first.2
          (first.1 :: others.1, others.2) := by
  rw [putAll, List.mapM_cons]
  rfl

theorem putAll_append (before later : List Call) (request : Http.Request)
    : putAll (before ++ later) request
        = let first := putAll before request
          let others := putAll later first.2
          (first.1 ++ others.1, others.2) := by
  induction before generalizing request with
  | nil => rfl
  | cons call rest ih => simp only [List.cons_append, putAll_cons, ih]

theorem outcomes_putAll (calls : List Call) (request : Http.Request)
    : (putAll calls request).1 = calls.map fun call => call.written.map fun _ => () := by
  induction calls generalizing request with
  | nil => rfl
  | cons call rest ih =>
      rw [putAll_cons, List.map_cons]
      cases h : call.written with
      | ok body => simp only [put_of_ok h, ih, Except.map]
      | error e => simp only [put_of_error h, ih, Except.map]

/-- A body that is put into a request leaves nothing of the one put into it before. -/
theorem setBody_setBody (request : Http.Request) (body other : List UInt8)
    : (request.setBody body .utf8 Http.jsonMediaType).setBody other .utf8 Http.jsonMediaType
        = request.setBody other .utf8 Http.jsonMediaType := by
  have own : Http.sameName "content-type" "content-type" = true := by decide
  simp only [Http.Request.setBody, List.filter_append, List.filter_filter, Bool.and_self,
    List.filter_cons, own, Bool.not_true, Bool.false_eq_true, if_false, List.filter_nil,
    List.append_nil]

theorem lastWritten?_cons_of_ok (ok : call.written = .ok body) (rest : List Call)
    : lastWritten? (call :: rest) = some ((lastWritten? rest).getD body) := by
  simp only [lastWritten?, List.filterMap_cons, ok, Except.toOption, List.getLast?_cons]

theorem lastWritten?_cons_of_error (error : call.written = .error e) (rest : List Call)
    : lastWritten? (call :: rest) = lastWritten? rest := by
  simp only [lastWritten?, List.filterMap_cons, error, Except.toOption]

/-- After a run of calls the request is the one they began with, with the body that the last
success wrote, by induction on the calls. -/
theorem request_putAll (calls : List Call) (request : Http.Request)
    : (putAll calls request).2
        = (lastWritten? calls).elim request fun body =>
            request.setBody body .utf8 Http.jsonMediaType := by
  induction calls generalizing request with
  | nil => rfl
  | cons call rest ih =>
      rw [putAll_cons]
      cases h : call.written with
      | ok body =>
          simp only [put_of_ok h, ih, lastWritten?_cons_of_ok h]
          cases lastWritten? rest with
          | none => rfl
          | some other => exact setBody_setBody request body other
      | error e => simp only [put_of_error h, ih, lastWritten?_cons_of_error h]

theorem lastWritten?_eq_none {calls : List Call}
    (failing : ∀ call ∈ calls, ∀ body, call.written ≠ .ok body)
    : lastWritten? calls = none := by
  induction calls with
  | nil => rfl
  | cons call rest ih =>
      cases h : call.written with
      | ok body => exact absurd h (failing call (by simp) body)
      | error e =>
          rw [lastWritten?_cons_of_error h]
          exact ih fun other hm => failing other (by simp [hm])

theorem lastWritten?_append (before : List Call) {later : List Call} {body : List UInt8}
    (last : lastWritten? later = some body)
    : lastWritten? (before ++ later) = some body := by
  rw [lastWritten?, List.filterMap_append, List.getLast?_append]
  exact congrArg (Option.or · _) last

/-- Calls on one request never change its method and path. Each of them either does to the request
what it makes of it or fails and leaves it as it is. The last one that succeeds has its body, in
UTF-8, in the request in the end, and its media type declared behind the headers of the beginning
that declare none; if none succeeds, the request is the one of the beginning. -/
theorem putAll_touches (calls : List Call) (start : Http.Request)
    : (putAll calls start).1 = calls.map (fun call => call.written.map fun _ => ())
        ∧ (putAll calls start).2.method = start.method
        ∧ (putAll calls start).2.path = start.path
        ∧ (∀ before call later, calls = before ++ call :: later →
            (putAll (before ++ [call]) start).2
              = match call.encode (putAll before start).2 with
                | .ok sent => sent
                | .error _ => (putAll before start).2)
        ∧ (∀ before call later body, calls = before ++ call :: later →
            call.written = .ok body → (∀ other ∈ later, ∀ b, other.written ≠ .ok b) →
            (putAll calls start).2.body = some body
              ∧ (putAll calls start).2.charset = some .utf8
              ∧ (putAll calls start).2.headers
                = (start.headers.filter fun header => !Http.sameName header.1 "content-type")
                  ++ [("content-type", "application/json")])
        ∧ ((∀ call ∈ calls, ∀ body, call.written ≠ .ok body) → (putAll calls start).2 = start) := by
  refine ⟨outcomes_putAll calls start, ?_, ?_, ?_, ?_, ?_⟩
  · rw [request_putAll]
    cases lastWritten? calls <;> rfl
  · rw [request_putAll]
    cases lastWritten? calls <;> rfl
  · intro before call later _
    rw [putAll_append]
    simp only [putAll_cons, put_eq]
    cases call.encode (putAll before start).2 <;> rfl
  · intro before call later body hcalls ok failing
    have last : lastWritten? calls = some body := by
      rw [hcalls]
      refine lastWritten?_append before ?_
      rw [lastWritten?_cons_of_ok ok, lastWritten?_eq_none failing]
      rfl
    rw [request_putAll, last]
    exact ⟨rfl, rfl, rfl⟩
  · intro failing
    rw [request_putAll, lastWritten?_eq_none failing]
    rfl

/-- A request that declares two media types. -/
def form : Http.Request where
  method := "PUT"
  path := "/switch"
  headers := [("Content-Type", "text/plain"), ("Accept", "*/*"), ("CONTENT-TYPE", "text/html")]

/-- Two calls that succeed, each with one behind it that fails. -/
def switches : List Call :=
  [.typed ⟨{}⟩ (.ok .null), .value ⟨{}⟩ (.bool true) .string, .value ⟨{}⟩ (.bool true) .bool,
    .typed ⟨{}⟩ (.error .keyNotString)]

/-- The third of the four calls has its body in the request. -/
theorem putAll_touches_switches
    : (putAll switches form).2
        = ⟨"PUT", "/switch", [("Accept", "*/*"), ("content-type", "application/json")],
            some [0x74, 0x72, 0x75, 0x65], some .utf8⟩ := by
  obtain ⟨_, method, path, _, last, _⟩ := putAll_touches switches form
  have failing : ∀ other ∈ [Call.typed ⟨{}⟩ (.error .keyNotString)],
      ∀ b, other.written ≠ .ok b := by
    intro other hm b h
    rw [List.mem_singleton.mp hm] at h
    cases h
  obtain ⟨body, charset, headers⟩ :=
    last [.typed ⟨{}⟩ (.ok .null), .value ⟨{}⟩ (.bool true) .string]
      (.value ⟨{}⟩ (.bool true) .bool) [.typed ⟨{}⟩ (.error .keyNotString)]
      [0x74, 0x72, 0x75, 0x65] rfl (by decide +kernel) failing
  generalize (putAll switches form).2 = sent at *
  obtain ⟨_, _, _, _, _⟩ := sent
  obtain rfl := method
  obtain rfl := path
  obtain rfl := body
  obtain rfl := charset
  obtain rfl := headers
  decide

end Call

end TypedJson.Encoder
