import TypedJson.Proofs.Zones.History

/-!
Addresses of zones. An identifier is any text that a client sent or the server made, and it is
named by a segment that has each of its bytes percent-encoded, whatever the bytes are: no such
segment is cut or taken apart on the way. Only the empty identifier has no segment, and a zone that
has it is kept but cannot be asked for.
-/

namespace TypedJson.Zones

variable {bytes : List UInt8} {segment : List Char}

-----------------------------------------------------------------------------------------
-- Percent-encoded bytes
-----------------------------------------------------------------------------------------

/-- The segment has each of the bytes as a percent sign and two hexadecimal digits, in either letter
case. -/
inductive PercentEncodes : List UInt8 → List Char → Prop where
  | nil : PercentEncodes [] []
  | cons {byte : UInt8} {bytes : List UInt8} {high low : Char} {segment : List Char}
    (high_eq : Text.hexValue? high = some (byte.toNat / 16))
    (low_eq : Text.hexValue? low = some (byte.toNat % 16))
    (rest : PercentEncodes bytes segment)
    : PercentEncodes (byte :: bytes) ('%' :: high :: low :: segment)

/-- The bytes with a percent sign and two digits in lower case for each. -/
def percentEncode (bytes : List UInt8) : List Char :=
  bytes.flatMap fun byte =>
    ['%', Text.hexDigit (byte.toNat / 16), Text.hexDigit (byte.toNat % 16)]

theorem percentEncodes_percentEncode (bytes : List UInt8)
    : PercentEncodes bytes (percentEncode bytes) := by
  induction bytes with
  | nil => exact .nil
  | cons byte rest ih =>
      have hbyte : byte.toNat < 256 := byte.toNat_lt
      exact .cons (Text.hexValue?_hexDigit (by omega)) (Text.hexValue?_hexDigit (by omega)) ih

/-- Percent-encoded bytes are decoded as these bytes, by induction on the segment. -/
theorem PercentEncodes.percentDecode_eq (encodes : PercentEncodes bytes segment)
    : percentDecode segment = bytes := by
  induction encodes with
  | nil => rfl
  | @cons byte bytes high low segment high_eq low_eq _ ih =>
      have hbyte : byte.toNat / 16 * 16 + byte.toNat % 16 = byte.toNat := by omega
      simp only [percentDecode, high_eq, low_eq, hbyte, UInt8.ofNat_toNat, ih]

/-- A segment of percent-encoded bytes has no character that ends a segment or a path. -/
theorem PercentEncodes.not_mem (encodes : PercentEncodes bytes segment) {c : Char}
    (hc : c ∈ segment)
    : c ≠ '/' ∧ c ≠ '?' ∧ c ≠ '#' := by
  have digit {c : Char} {n : Nat} (h : Text.hexValue? c = some n)
      : c ≠ '/' ∧ c ≠ '?' ∧ c ≠ '#' := by
    refine ⟨?_, ?_, ?_⟩ <;> rintro rfl <;> cases h
  induction encodes with
  | nil => cases hc
  | cons high_eq low_eq _ ih =>
      simp only [List.mem_cons] at hc
      rcases hc with rfl | rfl | rfl | hc
      · decide
      · exact digit high_eq
      · exact digit low_eq
      · exact ih hc

theorem PercentEncodes.eq_nil_iff (encodes : PercentEncodes bytes segment)
    : segment = [] ↔ bytes = [] := by
  cases encodes <;> simp

/-- So the path of a target behind which such a segment stands is the whole target. -/
theorem PercentEncodes.pathOf_eq (encodes : PercentEncodes bytes segment)
    : pathOf (String.ofList ("/zones/".toList ++ segment)) = "/zones/".toList ++ segment := by
  have before : "/zones/".toList.all (fun c => c != '?' && c != '#') = true := by decide
  rw [pathOf, String.toList_ofList, List.takeWhile_eq_self_iff]
  intro c hc
  rcases List.mem_append.mp hc with hc | hc
  · exact List.all_eq_true.mp before c hc
  · obtain ⟨_, query, fragment⟩ := encodes.not_mem hc
    simp [query, fragment]

/-- The segment of an identifier other than the empty one names it. -/
theorem PercentEncodes.names {id : String} (nonempty : id ≠ "")
    (encodes : PercentEncodes (Text.Utf8.encode id.toList) segment) {request : Request}
    (target : request.target = String.ofList ("/zones/".toList ++ segment))
    : request.Names id := by
  refine ⟨segment, target ▸ encodes.pathOf_eq, fun h => ?_, fun h => (encodes.not_mem h).1 rfl, ?_⟩
  · have hid : id.toList ≠ [] := fun hnil => nonempty (String.toList_eq_nil_iff.mp hnil)
    exact Text.Utf8.encode_ne_nil hid (encodes.eq_nil_iff.mp h)
  · rw [encodes.percentDecode_eq, Text.Utf8.decode?_encode]

-----------------------------------------------------------------------------------------
-- Kept zones
-----------------------------------------------------------------------------------------

theorem serve_unknown {request : Request} (route : Route.ofPath (pathOf request.target) = .unknown)
    (identifiers : Nat → String) (store : Store)
    : serve identifiers request store = (.ofStatus 404, store) := by
  rw [serve]
  split
  · simp only [respond, route]
    rfl
  · simp only [respond, route]

/-- Each zone that is kept has an identifier, which can be percent-encoded. Unless it is empty, a
zone with the identifier is given at each address that has its bytes percent-encoded, and deleting
there succeeds and leaves the zones without the identifier. The address of the empty identifier is
a path that leads nowhere. -/
theorem addressed_of_kept {identifiers : Nat → String} {requests : List Request} {zone : Zone}
    (kept : zone ∈ (afterwards identifiers {} requests).zones)
    : let store := afterwards identifiers {} requests
      ∃ id, zone.id = some id
        ∧ (∃ segment, PercentEncodes (Text.Utf8.encode id.toList) segment)
        ∧ ∀ segment, PercentEncodes (Text.Utf8.encode id.toList) segment →
            ∀ request : Request, request.target = String.ofList ("/zones/".toList ++ segment) →
              let served := serve identifiers request store
              (id ≠ "" → request.method = "GET" →
                ∃ found ∈ store.zones, found.id = some id
                  ∧ served = (.document 200 found.toJson, store))
              ∧ (id ≠ "" → request.method = "DELETE" →
                served.1 = .ofStatus 204
                  ∧ ∀ other, other ∈ served.2.zones ↔ other ∈ store.zones ∧ other.id ≠ some id)
              ∧ (id = "" → served = (.ofStatus 404, store)) := by
  intro store
  have identified : zone.id.isSome = true := by
    rw [zones_afterwards_empty] at kept
    exact isSome_id_of_mem_survivors kept
  obtain ⟨id, hid⟩ := Option.isSome_iff_exists.mp identified
  refine ⟨id, hid, ⟨_, percentEncodes_percentEncode _⟩, fun segment encodes request target =>
    ⟨fun nonempty method => ?_, fun nonempty method => ?_, fun empty => ?_⟩⟩
  · rw [serve_get method (encodes.names nonempty target), getZone_eq]
    cases hfind : store.zones.find? fun zone => zone.id = some id with
    | none => exact absurd (decide_eq_true hid) (List.find?_eq_none.mp hfind zone kept)
    | some found =>
        have matching := List.find?_some hfind
        exact ⟨found, List.mem_of_find?_eq_some hfind, of_decide_eq_true matching, rfl⟩
  · rw [serve_delete method (encodes.names nonempty target), deleteZone_eq,
      if_pos ⟨zone, kept, hid⟩]
    exact ⟨rfl, fun other => by simp⟩
  · subst empty
    obtain rfl : segment = [] := encodes.eq_nil_iff.mpr rfl
    have route : Route.ofPath (pathOf request.target) = .unknown := by
      rw [target]
      decide +kernel
    exact serve_unknown route identifiers store

/-- A zone whose identifier has a slash, a letter with an accent and a percent sign, by digits in
either letter case. -/
theorem addressed_of_kept_slash
    : let store := afterwards (fun _ => "x") {}
        [creation "\x7b\"name\":\"a.\",\"id\":\"/é%\"\x7d"]
      let ask method := serve (fun _ => "x") ⟨method, "/zones/%2F%c3%A9%25", [], []⟩ store
      Zone.mk "a." (some "/é%") ∈ store.zones
        ∧ (∃ found ∈ store.zones, found.id = some "/é%"
          ∧ ask "GET" = (.document 200 found.toJson, store))
        ∧ (ask "DELETE").1 = .ofStatus 204
        ∧ ∀ other, other ∈ (ask "DELETE").2.zones ↔
            other ∈ store.zones ∧ other.id ≠ some "/é%" := by
  intro store ask
  have kept : Zone.mk "a." (some "/é%") ∈ store.zones := by decide +kernel
  have bytes : Text.Utf8.encode "/é%".toList = [0x2F, 0xC3, 0xA9, 0x25] := by decide +kernel
  have encodes : PercentEncodes (Text.Utf8.encode "/é%".toList) "%2F%c3%A9%25".toList := by
    rw [bytes]
    exact .cons rfl rfl (.cons rfl rfl (.cons rfl rfl (.cons rfl rfl .nil)))
  obtain ⟨id, hid, _, addressed⟩ := addressed_of_kept kept
  obtain rfl : "/é%" = id := Option.some.inj hid
  obtain ⟨get, _, _⟩ := addressed _ encodes ⟨"GET", "/zones/%2F%c3%A9%25", [], []⟩ rfl
  obtain ⟨_, delete, _⟩ := addressed _ encodes ⟨"DELETE", "/zones/%2F%c3%A9%25", [], []⟩ rfl
  exact ⟨kept, get (by decide) rfl, delete (by decide) rfl⟩

/-- A zone with the empty identifier is kept, but asking for it or deleting it fails. -/
theorem not_addressed_empty
    : let store := afterwards (fun _ => "x") {} [creation "\x7b\"name\":\"a.\",\"id\":\"\"\x7d"]
      Zone.mk "a." (some "") ∈ store.zones
        ∧ percentEncode (Text.Utf8.encode "".toList) = []
        ∧ serve (fun _ => "x") ⟨"GET", "/zones/", [], []⟩ store = (.ofStatus 404, store)
        ∧ serve (fun _ => "x") ⟨"DELETE", "/zones/", [], []⟩ store = (.ofStatus 404, store) := by
  decide +kernel

end TypedJson.Zones
