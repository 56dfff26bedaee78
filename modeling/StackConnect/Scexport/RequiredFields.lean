import StackConnect.Scexport.Container
import StackConnect.Serde.Updates

set_option autoImplicit false

namespace StackConnect.Scexport

open Interaction Rust Serde

def Authenticates (crates : CryptoCrates) (bytes : List UInt8) (password : String) (plaintext : List UInt8) : Prop :=
  magic <+: bytes ∧ Container.headerLength bytes + 44 ≤ bytes.length ∧
    ∃ key, Container.keyOf crates bytes password = some key ∧
      crates.decrypt key (slice bytes (Container.headerLength bytes + 16) 12)
        (bytes.drop (Container.headerLength bytes + 28)) = some plaintext

-- What an export object says: any member may be absent, those present are well typed.
structure ScexportObject where
  id : Option String
  name : Option String
  providerType : Option String
  createdAt : Option String
  role : Option String
  expirationDate : Option String
  rules : Option (HashMap String (List String))
  appsBundles : Option (List String)
  credentials : Option (HashMap String String)

def present {α : Type} (decode : Decoder α) : Decoder (Option α) := fun json => (decode json).map some

def ScexportObject.read (members : List (String × Json)) : Option ScexportObject := do
  let id ← memberOr "id" (option string) none members
  let name ← memberOr "name" (present string) none members
  let providerType ← memberOr "providerType" (present string) none members
  let createdAt ← memberOr "createdAt" (option string) none members
  let role ← memberOr "role" (option string) none members
  let expirationDate ← memberOr "expirationDate" (option string) none members
  let rules ← memberOr "rules" (option (hashMap (vec string))) none members
  let appsBundles ← memberOr "appsBundles" (option (vec string)) none members
  let credentials ← memberOr "credentials" (present (hashMap string)) none members
  pure ⟨id, name, providerType, createdAt, role, expirationDate, rules, appsBundles, credentials⟩

def requiredKeys : List String := ["name", "providerType", "credentials"]

def ScexportObject.missing (object : ScexportObject) : Option String :=
  if object.name.getD "" = "" then some "name"
  else if object.providerType.getD "" = "" then some "providerType"
  else if object.credentials.getD ∅ = ∅ then some "credentials"
  else none

def ScexportObject.payload (object : ScexportObject) : ScexportPayload where
  id := object.id
  name := object.name.getD ""
  providerType := object.providerType.getD ""
  createdAt := object.createdAt
  role := object.role
  expirationDate := object.expirationDate
  rules := object.rules
  appsBundles := object.appsBundles
  credentials := object.credentials.getD ∅

-- What the documentation of `decrypt` promises for the object.
def ScexportObject.documented (object : ScexportObject) : Except CryptoError ScexportPayload :=
  match object.missing with
  | some field => .error (.missingField field)
  | none => .ok object.payload

theorem member_or_present {α : Type} (key : String) (decode : Decoder α) (members : List (String × Json)) (value : Option α)
    (read : memberOr key (present decode) none members = some value) :
    memberOf key decode members = value ∧ (value = none ↔ key ∉ members.map Prod.fst) := by
  rw [memberOr] at read
  rw [memberOf, ← occurrences_eq_nil]
  generalize occurrences key members = found at read ⊢
  rcases found with _ | ⟨json, _ | ⟨other, rest⟩⟩
  · cases read
    exact ⟨rfl, fun _ => rfl, fun _ => rfl⟩
  · obtain ⟨held, decoded, rfl⟩ := Option.map_eq_some_iff.mp read
    refine ⟨decoded, ?_⟩
    constructor <;> intro impossible <;> cases impossible
  · cases read

theorem decode_read (members : List (String × Json)) (object : ScexportObject) (read : ScexportObject.read members = some object) :
    ScexportPayload.decode (.obj members) = object.name.bind (fun name => object.providerType.bind fun providerType =>
        object.credentials.bind fun credentials =>
          some ⟨object.id, name, providerType, object.createdAt, object.role, object.expirationDate, object.rules,
            object.appsBundles, credentials⟩) ∧
      (object.name = none ↔ "name" ∉ members.map Prod.fst) ∧
      (object.providerType = none ↔ "providerType" ∉ members.map Prod.fst) ∧
      (object.credentials = none ↔ "credentials" ∉ members.map Prod.fst) := by
  simp only [ScexportObject.read, Option.bind_eq_bind, Option.bind_eq_some_iff] at read
  obtain ⟨id, idRead, name, nameRead, providerType, providerTypeRead, createdAt, createdAtRead, role, roleRead,
    expirationDate, expirationDateRead, rules, rulesRead, appsBundles, appsBundlesRead, credentials, credentialsRead, whole⟩ := read
  cases whole
  have named := member_or_present _ _ _ _ nameRead
  have typed := member_or_present _ _ _ _ providerTypeRead
  have held := member_or_present _ _ _ _ credentialsRead
  refine ⟨?_, named.2, typed.2, held.2⟩
  unfold ScexportPayload.decode Serde.optional
  simp only [struct_obj, defaulted_bind_members, required_bind_members, pure_fields, named.1, typed.1, held.1, idRead,
    createdAtRead, roleRead, expirationDateRead, rulesRead, appsBundlesRead, Option.bind_some]
  cases name with
  | none => rfl
  | some name =>
      cases providerType with
      | none => rfl
      | some providerType => cases credentials <;> rfl

variable (crates : CryptoCrates) (serde : SerdeJson)

theorem decrypt_authentic (bytes : List UInt8) (password : String) (plaintext : List UInt8)
    (opens : Authenticates crates bytes password plaintext) :
    decrypt crates serde bytes password = readPayload serde plaintext := by
  obtain ⟨marked, whole, key, held, opened⟩ := opens
  have plain := Container.decrypt_unchecked crates serde bytes password
  rw [Container.decrypt_header crates serde bytes password marked (by omega)] at plain
  rw [Container.decrypt_from_whole _ _ _ _ _ _ _ whole, show 16 = saltLen from rfl, Container.derive_key, held] at plain
  have result : some (Container.judged serde (crates.decrypt key (slice bytes (Container.headerLength bytes + 16) 12)
      (bytes.drop (Container.headerLength bytes + 28)))) = some (decrypt crates serde bytes password) := plain
  rw [opened] at result
  exact (Option.some.inj result).symm

theorem validated_documented (object : ScexportObject) :
    (validate object.payload >>= fun _ => .ok object.payload) = object.documented := by
  unfold ScexportObject.documented ScexportObject.missing validate
  change ((if object.name.getD "" = "" then _ else if object.providerType.getD "" = "" then _
    else if object.credentials.getD ∅ = ∅ then _ else _) >>= fun _ => _) = _
  by_cases unnamed : object.name.getD "" = ""
  · rw [if_pos unnamed, if_pos unnamed]
    rfl
  · by_cases untyped : object.providerType.getD "" = ""
    · rw [if_neg unnamed, if_neg unnamed, if_pos untyped, if_pos untyped]
      rfl
    · by_cases empty : object.credentials.getD ∅ = ∅
      · rw [if_neg unnamed, if_neg unnamed, if_neg untyped, if_neg untyped, if_pos empty, if_pos empty]
        rfl
      · rw [if_neg unnamed, if_neg unnamed, if_neg untyped, if_neg untyped, if_neg empty, if_neg empty]
        rfl

theorem missing_absent (object : ScexportObject)
    (absent : object.name = none ∨ object.providerType = none ∨ object.credentials = none) :
    ∃ field, object.documented = .error (.missingField field) := by
  unfold ScexportObject.documented ScexportObject.missing
  by_cases unnamed : object.name.getD "" = ""
  · exact ⟨"name", by rw [if_pos unnamed]⟩
  · by_cases untyped : object.providerType.getD "" = ""
    · exact ⟨"providerType", by rw [if_neg unnamed, if_pos untyped]⟩
    · have named : object.name ≠ none := by
        intro gone
        rw [gone] at unnamed
        exact unnamed rfl
      have typed : object.providerType ≠ none := by
        intro gone
        rw [gone] at untyped
        exact untyped rfl
      have empty : object.credentials.getD ∅ = ∅ := by
        rw [(absent.resolve_left named).resolve_left typed]
        rfl
      exact ⟨"credentials", by rw [if_neg unnamed, if_neg untyped, if_pos empty]⟩

theorem read_payload_object (plaintext : List UInt8) (json : String) (members : List (String × Json)) (object : ScexportObject)
    (text : fromUtf8 plaintext = .ok json) (parsed : serde.parse json = some (.obj members))
    (read : ScexportObject.read members = some object) :
    ((∀ key ∈ requiredKeys, key ∈ members.map Prod.fst) → readPayload serde plaintext = object.documented) ∧
      ((∃ key ∈ requiredKeys, key ∉ members.map Prod.fst) →
        readPayload serde plaintext = .error (.invalidJson (serde.errorText "ScexportPayload" json)) ∧
          ∃ field, object.documented = .error (.missingField field)) := by
  obtain ⟨decoded, unnamed, untyped, unheld⟩ := decode_read members object read
  have payload : readPayload serde plaintext =
      ((serde.fromStr "ScexportPayload" ScexportPayload.decode json).mapError .invalidJson >>= fun payload =>
        validate payload >>= fun _ => .ok payload) := by
    rw [readPayload, text]
    rfl
  rw [payload, SerdeJson.fromStr, parsed, Option.bind_some, decoded]
  constructor
  · intro whole
    have named : object.name ≠ none := fun gone => unnamed.mp gone (whole "name" (by decide))
    have typed : object.providerType ≠ none := fun gone => untyped.mp gone (whole "providerType" (by decide))
    have held : object.credentials ≠ none := fun gone => unheld.mp gone (whole "credentials" (by decide))
    rw [← validated_documented, ScexportObject.payload]
    cases name : object.name with
    | none => exact absurd name named
    | some name =>
        cases providerType : object.providerType with
        | none => exact absurd providerType typed
        | some providerType =>
            cases credentials : object.credentials with
            | none => exact absurd credentials held
            | some credentials => rfl
  · rintro ⟨key, required, gone⟩
    have absent : object.name = none ∨ object.providerType = none ∨ object.credentials = none := by
      simp only [requiredKeys, List.mem_cons, List.not_mem_nil, or_false] at required
      rcases required with rfl | rfl | rfl
      · exact .inl (unnamed.mpr gone)
      · exact .inr (.inl (untyped.mpr gone))
      · exact .inr (.inr (unheld.mpr gone))
    refine ⟨?_, missing_absent object absent⟩
    cases name : object.name with
    | none => rfl
    | some name =>
        cases providerType : object.providerType with
        | none => rfl
        | some providerType =>
            cases credentials : object.credentials with
            | none => rfl
            | some credentials =>
                rw [name, providerType, credentials] at absent
                rcases absent with impossible | impossible | impossible <;> cases impossible

theorem missing_field_reported_iff (bytes : List UInt8) (password : String) (plaintext : List UInt8) (json : String)
    (members : List (String × Json)) (object : ScexportObject) (opens : Authenticates crates bytes password plaintext)
    (text : fromUtf8 plaintext = .ok json) (parsed : serde.parse json = some (.obj members))
    (read : ScexportObject.read members = some object) :
    decrypt crates serde bytes password = object.documented ↔ ∀ key ∈ requiredKeys, key ∈ members.map Prod.fst := by
  have reads := read_payload_object serde plaintext json members object text parsed read
  rw [decrypt_authentic crates serde bytes password plaintext opens]
  constructor
  · intro reported key required
    by_contra gone
    obtain ⟨invalid, field, missing⟩ := reads.2 ⟨key, required, gone⟩
    rw [invalid, missing] at reported
    cases reported
  · exact reads.1

def clearFile (plaintext : List UInt8) : List UInt8 := header appleEncryption.drawn ++ (plaintext ++ List.replicate tagLen 0)

theorem clear_file_opens (plaintext : List UInt8) (password : String) :
    Authenticates clearCrates (clearFile plaintext) password plaintext := by
  have length : (clearFile plaintext).length = 37 + (plaintext.length + 16) := by
    rw [clearFile, List.length_append, header_length, List.length_append, List.length_replicate]
    rfl
  have nine : Container.headerLength (clearFile plaintext) = 9 := rfl
  have marked : magic <+: clearFile plaintext := (List.prefix_append magic _).trans (List.prefix_append _ _)
  refine ⟨marked, by rw [length, nine]; omega, _, rfl, ?_⟩
  have sealed : (clearFile plaintext).drop (9 + 28) = plaintext ++ List.replicate tagLen 0 :=
    List.drop_left' (header_length appleEncryption.drawn)
  rw [nine, sealed]
  change some ((plaintext ++ List.replicate tagLen 0).take ((plaintext ++ List.replicate tagLen 0).length - tagLen)) = _
  rw [List.length_append, List.length_replicate, Nat.add_sub_cancel, List.take_left]

theorem reading_parses (value : Json) : (SerdeJson.reading [value]).parse value.compact = some value := by
  simp [SerdeJson.reading]

def issuerMembers : List (String × Json) := [("issuerID", .str "69a6de70")]

def untitledMembers : List (String × Json) :=
  [("credentials", .obj issuerMembers), ("theme", .null), ("name", .str ""), ("providerType", .str "apple")]

def untitled : ScexportObject :=
  ⟨none, some "", some "apple", none, none, none, none, none, some (HashMap.collect [("issuerID", "69a6de70")])⟩

theorem untitled_account_reported :
    decrypt clearCrates (.reading [.obj untitledMembers]) (clearFile (asBytes (Json.obj untitledMembers).compact)) "secret" =
      untitled.documented :=
  (missing_field_reported_iff clearCrates (.reading [.obj untitledMembers]) _ "secret" _ (Json.obj untitledMembers).compact
    untitledMembers untitled (clear_file_opens _ _) (from_utf8_as_bytes _) (reading_parses _) rfl).mpr (by decide)

def namelessMembers : List (String × Json) := [("credentials", .obj issuerMembers), ("providerType", .str "apple")]

def nameless : ScexportObject := { untitled with name := none }

theorem absent_name_is_invalid_json :
    Authenticates clearCrates (clearFile (asBytes (Json.obj namelessMembers).compact)) "secret"
        (asBytes (Json.obj namelessMembers).compact) ∧
      ScexportObject.read namelessMembers = some nameless ∧ nameless.documented = .error (.missingField "name") ∧
      decrypt clearCrates (.reading [.obj namelessMembers]) (clearFile (asBytes (Json.obj namelessMembers).compact)) "secret" =
        .error (.invalidJson "invalid ScexportPayload") := by
  refine ⟨clear_file_opens _ _, rfl, rfl, ?_⟩
  rw [decrypt_authentic clearCrates _ _ "secret" _ (clear_file_opens _ _)]
  exact ((read_payload_object (.reading [.obj namelessMembers]) _ (Json.obj namelessMembers).compact namelessMembers nameless
    (from_utf8_as_bytes _) (reading_parses _) rfl).2 ⟨"name", by decide, by decide⟩).1

end StackConnect.Scexport
