import TypedJson.Codec

/-!
What a decoder looks at. Of a response without payload it sees no more than that; of any other one
it sees the body and what the first `Content-Type` declares, and the body alone when the bytes are
wanted. Responses that look the same decode to the same.
-/

namespace TypedJson

-----------------------------------------------------------------------------------------
-- The first header of a name
-----------------------------------------------------------------------------------------

namespace Http

variable {before after : Headers} {name other value : String}

/-- Names are compared letter by letter, capitals as small letters. -/
theorem sameName_iff {a b : String}
    : sameName a b = true ↔ a.toList.map Charset.foldCase = b.toList.map Charset.foldCase := by
  simp only [sameName, MediaType.sameWord, beq_iff_eq]

/-- The value of a name is that of the first header that has it. -/
theorem header?_append_cons (none : ∀ header ∈ before, sameName header.1 name = false)
    (here : sameName other name = true)
    : header? (before ++ (other, value) :: after) name = some value := by
  have unmatched : before.find? (fun header => sameName header.1 name) = Option.none :=
    List.find?_eq_none.mpr fun header hm => Bool.eq_false_iff.mp (none header hm)
  simp only [header?, List.find?_append, unmatched, Option.none_or, List.find?_cons, here,
    Option.map_some]

theorem charsetOf_congr {headers others : Headers}
    (same : header? headers "content-type" = header? others "content-type") (default : Charset)
    : charsetOf headers default = charsetOf others default := by
  rw [charsetOf, charsetOf, same]

/-- A first `Content-Type` that declares no charset counts as none, whatever follows it. -/
theorem charsetOf_of_unusable {headers : Headers}
    (unusable : (header? headers "content-type").bind Charset.ofContentType? = none)
    (default : Charset)
    : charsetOf headers default = default := by
  rw [charsetOf, unusable, Option.getD_none]

end Http

-----------------------------------------------------------------------------------------
-- Payloads
-----------------------------------------------------------------------------------------

namespace Decoder

variable {decoder : Decoder} {first second response : Http.Response}

/-- The response has no payload: its status says so, or it has no body, or an empty one. -/
inductive Bare (decoder : Decoder) (response : Http.Response) : Prop where
  | noContent (status : response.status = 204)
  | dismissed (status : response.status = 404) (dismisses : decoder.dismissNotFound = true)
  | missing (body : response.body = none)
  | empty (body : response.body = some [])

theorem payload?_of_bare (bare : decoder.Bare response) : decoder.payload? response = none := by
  unfold payload?
  cases bare with
  | noContent status => simp [status]
  | dismissed status dismisses => simp [status, dismisses]
  | missing body => simp [body]
  | empty body => simp [body]

/-- Unless its status says that there is no payload, a response has its body for one. -/
theorem payload?_eq_some {body : List UInt8} (content : response.status ≠ 204)
    (found : response.status = 404 → decoder.dismissNotFound = false)
    (hbody : response.body = some body) (nonempty : body ≠ [])
    : decoder.payload? response = some body := by
  have hstatus : ¬ (response.status = 204 || response.status = 404 && decoder.dismissNotFound)
      = true := by
    simp only [Bool.or_eq_true, Bool.and_eq_true, decide_eq_true_eq]
    intro given
    rcases given with h | ⟨h, dismissed⟩
    · exact content h
    · exact Bool.false_ne_true ((found h).symm.trans dismissed)
  have hempty : body.isEmpty = false := List.isEmpty_eq_false_iff.mpr nonempty
  rw [payload?]
  exact (if_neg hstatus).trans (by simp [hbody, hempty])

theorem exists_payload?_of_not_bare (carries : ¬ decoder.Bare response)
    : ∃ body, response.body = some body ∧ decoder.payload? response = some body := by
  cases hb : response.body with
  | none => exact absurd (.missing hb) carries
  | some body =>
      refine ⟨body, rfl, payload?_eq_some ?_ (fun status => ?_) hb ?_⟩
      · exact fun status => carries (.noContent status)
      · exact Bool.eq_false_iff.mpr fun dismisses => carries (.dismissed status dismisses)
      · rintro rfl
        exact carries (.empty hb)

theorem decode_of_bare (bare : decoder.Bare response) (type : Descriptor)
    : decoder.decode response type = .ok (.empty type) := by
  rw [decode, payload?_of_bare bare]

theorem decodeTyped_of_bare (bare : decoder.Bare response) {α : Type}
    (reader : Typed.TextReader α)
    : decoder.decodeTyped reader response = .ok none := by
  rw [decodeTyped, payload?_of_bare bare]

/-- A payload is read as its text, as a type by the engine. -/
theorem decode_of_text {body : List UInt8} {chars : List Char}
    (payload : decoder.payload? response = some body)
    (htext : decoder.text response.headers body = chars) {type : Descriptor}
    (typed : type.isBytes = false)
    : decoder.decode response type = (decoder.engine.readText chars type).map .value := by
  rw [decode, payload]
  simp only [typed, htext]
  rfl

/-- A payload is read as its text, by a reader of its own. -/
theorem decodeTyped_of_text {body : List UInt8} {chars : List Char}
    (payload : decoder.payload? response = some body)
    (htext : decoder.text response.headers body = chars) {α : Type} (reader : Typed.TextReader α)
    : decoder.decodeTyped reader response
        = ((Typed.ofText reader chars).map some).mapError .document := by
  rw [decodeTyped, payload]
  simp only [htext]
  cases Typed.ofText reader chars with
  | ok value => rfl
  | error problem => rfl

/-- Where bytes are wanted the payload is given back as it is, whatever the engine and the
charset. -/
theorem decode_bytes_of_not_bare {body : List UInt8} (carries : ¬ decoder.Bare response)
    (hbody : response.body = some body) (engine : Engine) (charset : Charset)
    : { decoder with engine, defaultCharset := charset }.decode response .bytes
        = .ok (.bytes body) := by
  obtain ⟨found, hfound, hpayload⟩ := exists_payload?_of_not_bare carries
  obtain rfl := Option.some.inj (hbody.symm.trans hfound)
  have hsame : { decoder with engine, defaultCharset := charset }.payload? response = some body :=
    hpayload
  rw [decode, hsame]
  rfl

-----------------------------------------------------------------------------------------
-- Two responses
-----------------------------------------------------------------------------------------

/-- The decoder makes the same of both responses, whatever they are decoded as. -/
def Alike (decoder : Decoder) (first second : Http.Response) : Prop :=
  (∀ type, decoder.decode first type = decoder.decode second type)
    ∧ ∀ (α : Type) (reader : Typed.TextReader α),
        decoder.decodeTyped reader first = decoder.decodeTyped reader second

theorem alike_of_bare (hfirst : decoder.Bare first) (hsecond : decoder.Bare second)
    : decoder.Alike first second := by
  refine ⟨fun type => ?_, fun _ reader => ?_⟩
  · rw [decode_of_bare hfirst, decode_of_bare hsecond]
  · rw [decodeTyped_of_bare hfirst, decodeTyped_of_bare hsecond]

/-- The payload and the charset are all that decoding takes from a response. -/
theorem alike_of_payload? (payload : decoder.payload? first = decoder.payload? second)
    (charset : Http.charsetOf first.headers decoder.defaultCharset
      = Http.charsetOf second.headers decoder.defaultCharset)
    : decoder.Alike first second := by
  refine ⟨fun type => ?_, fun _ reader => ?_⟩
  · simp only [decode, payload, text, charset]
  · simp only [decodeTyped, payload, text, charset]

theorem payload?_congr (hfirst : ¬ decoder.Bare first) (hsecond : ¬ decoder.Bare second)
    (same : first.body = second.body)
    : decoder.payload? first = decoder.payload? second := by
  obtain ⟨body, hbody, hpayload⟩ := exists_payload?_of_not_bare hfirst
  obtain ⟨other, hother, hpayload'⟩ := exists_payload?_of_not_bare hsecond
  rw [hpayload, hpayload', ← hbody, ← hother, same]

/-- Headers other than the first `Content-Type` are not looked at, nor is that one when it declares
no charset. -/
theorem alike_of_headers (response : Http.Response) {headers : Http.Headers}
    (charset : Http.charsetOf response.headers decoder.defaultCharset
      = Http.charsetOf headers decoder.defaultCharset)
    : decoder.Alike response { response with headers } :=
  alike_of_payload? rfl charset

/-- What is decoded depends on what the decoder may look at. Without payload responses are all
alike. With one and the same body they give this body where bytes are wanted, by every engine and
with every charset to fall back on, and are alike if their first `Content-Type` is the same, or
neither has one. So the other headers do not matter, and a first `Content-Type` that declares no
charset leaves the one of the configuration, as if there were no header. -/
theorem alike_of_visible (decoder : Decoder) (first second : Http.Response)
    : (decoder.Bare first → decoder.Bare second →
          decoder.Alike first second ∧ ∀ type, decoder.decode first type = .ok (.empty type))
        ∧ (¬ decoder.Bare first → ¬ decoder.Bare second → first.body = second.body →
          (∃ body, first.body = some body ∧ ∀ engine charset,
            { decoder with engine, defaultCharset := charset }.decode first .bytes
                = .ok (.bytes body)
              ∧ { decoder with engine, defaultCharset := charset }.decode second .bytes
                = .ok (.bytes body))
          ∧ (Http.header? first.headers "content-type"
              = Http.header? second.headers "content-type" →
            decoder.Alike first second))
        ∧ ∀ before name value after, first.headers = before ++ (name, value) :: after →
          (∀ header ∈ before, Http.sameName header.1 "content-type" = false) →
          Http.sameName name "content-type" = true →
          decoder.Alike first { first with headers := [("content-type", value)] }
            ∧ (Charset.ofContentType? value = none →
              Http.charsetOf first.headers decoder.defaultCharset = decoder.defaultCharset
                ∧ decoder.Alike first { first with headers := [] }) := by
  refine ⟨fun hfirst hsecond => ?_, fun hfirst hsecond same => ⟨?_, fun declared => ?_⟩, ?_⟩
  · exact ⟨alike_of_bare hfirst hsecond, decode_of_bare hfirst⟩
  · obtain ⟨body, hbody, _⟩ := exists_payload?_of_not_bare hfirst
    exact ⟨body, hbody, fun engine charset =>
      ⟨decode_bytes_of_not_bare hfirst hbody engine charset,
        decode_bytes_of_not_bare hsecond (same.symm.trans hbody) engine charset⟩⟩
  · exact alike_of_payload? (payload?_congr hfirst hsecond same) (Http.charsetOf_congr declared _)
  · intro before name value after hheaders hbefore hname
    have declared : Http.header? first.headers "content-type" = some value :=
      hheaders ▸ Http.header?_append_cons hbefore hname
    refine ⟨alike_of_headers first (Http.charsetOf_congr ?_ _), fun unusable => ?_⟩
    · have own : Http.sameName "content-type" "content-type" = true := Http.sameName_iff.mpr rfl
      have alone : Http.header? ([] ++ [("content-type", value)]) "content-type" = some value :=
        Http.header?_append_cons nofun own
      exact declared.trans alone.symm
    · have default : Http.charsetOf first.headers decoder.defaultCharset
          = decoder.defaultCharset :=
        Http.charsetOf_of_unusable (by rw [declared, Option.bind_some, unusable]) _
      exact ⟨default, alike_of_headers first default⟩

/-- An umlaut in quotes in UTF-8, under an unknown charset that is followed by a known one. -/
def umlaut : Http.Response where
  status := 200
  headers := [("Vary", "*"), ("Content-TYPE", "text/plain; charset=klingon"),
    ("content-type", "text/plain; charset=latin1")]
  body := some [0x22, 0xC3, 0xBC, 0x22]

/-- The same umlaut with the status of an error, under the unknown charset alone. -/
def failedUmlaut : Http.Response where
  status := 500
  headers := [("CONTENT-TYPE", "text/plain; charset=klingon")]
  body := some [0x22, 0xC3, 0xBC, 0x22]

/-- A decoder that leaves out what is missing. -/
def dismisser : Decoder := ⟨{}, true, .utf8, .ascii⟩

/-- Both umlauts are decoded in the charset of the decoder. -/
theorem alike_of_visible_umlauts
    : ¬ dismisser.Bare umlaut ∧ ¬ dismisser.Bare failedUmlaut
        ∧ dismisser.Alike umlaut failedUmlaut
        ∧ Http.charsetOf umlaut.headers .utf8 = .utf8
        ∧ dismisser.Alike umlaut { umlaut with headers := [] } := by
  obtain ⟨_, same, unusable⟩ := alike_of_visible dismisser umlaut failedUmlaut
  have first : ¬ dismisser.Bare umlaut := by
    rintro (h | ⟨h, _⟩ | h | h) <;> exact absurd h (by decide)
  have second : ¬ dismisser.Bare failedUmlaut := by
    rintro (h | ⟨h, _⟩ | h | h) <;> exact absurd h (by decide)
  obtain ⟨default, plain⟩ :=
    (unusable [("Vary", "*")] _ _ _ rfl (by decide) (by decide)).2 (by decide +kernel)
  exact ⟨first, second, (same first second rfl).2 (by decide), default, plain⟩

end Decoder

end TypedJson
