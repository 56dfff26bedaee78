import StackConnect.Scexport.AccountExport

set_option autoImplicit false

namespace StackConnect.Scexport

open Rust Serde

variable (crates : CryptoCrates) (serde : SerdeJson)

theorem vec_strings (values : List String) : vec string (stringsJson values) = some values := by
  rw [stringsJson]
  apply vec_arr
  rw [List.map_map]
  rfl

theorem hash_map_json {ν : Type} (order : HashOrder ν) (encode : ν → Json) (decode : Decoder ν)
    (back : ∀ value, decode (encode value) = some value) (map : HashMap String ν) :
    hashMap decode (mapJson order encode map) = some map := by
  unfold hashMap mapJson
  have read : ((order.entries map).map fun entry => (entry.1, encode entry.2)).mapM
      (fun member => (decode member.2).map (member.1, ·)) = some (order.entries map) := by
    generalize order.entries map = entries
    induction entries with
    | nil => rfl
    | cons entry rest ih =>
        rw [List.map_cons, List.mapM_cons, back, ih]
        rfl
  dsimp only
  rw [read, Option.map_some, collect_entries]

theorem slice_middle (before middle after : List UInt8) (offset length : Nat) (starts : offset = before.length)
    (ends : length = middle.length) : slice (before ++ (middle ++ after)) offset length = middle := by
  subst starts ends
  rw [slice]
  rw [List.drop_left, List.take_left]

theorem payload_decoded (rulesOrder : HashOrder (List String)) (order : HashOrder String) (payload : ScexportPayload) :
    ScexportPayload.decode (payload.toJson rulesOrder order) = some payload := by
  have text : ∀ value, option string (Json.str value) = some (some value) := fun _ => rfl
  have list : ∀ values, option (vec string) (stringsJson values) = some (some values) := by
    intro values
    have read := vec_strings values
    rw [stringsJson] at read ⊢
    rw [option, read]
    · rfl
    · nofun
  have rules : ∀ map, option (hashMap (vec string)) (mapJson rulesOrder stringsJson map) = some (some map) := by
    intro map
    have read := hash_map_json rulesOrder stringsJson (vec string) vec_strings map
    rw [mapJson] at read ⊢
    rw [option, read]
    · rfl
    · nofun
  unfold ScexportPayload.decode ScexportPayload.toJson Serde.optional
  simp only [struct_obj, defaulted_bind_members, required_bind_members, pure_fields]
  rw [member_or_printed "id" string .str _ payload.id text (by simp [occurrences_append])]
  rw [member_of_single "name" string _ (.str payload.name) (by simp [occurrences_append])]
  rw [member_of_single "providerType" string _ (.str payload.providerType) (by simp [occurrences_append])]
  rw [member_or_printed "createdAt" string .str _ payload.createdAt text (by simp [occurrences_append])]
  rw [member_or_printed "role" string .str _ payload.role text (by simp [occurrences_append])]
  rw [member_or_printed "expirationDate" string .str _ payload.expirationDate text (by simp [occurrences_append])]
  rw [member_or_printed "rules" (hashMap (vec string)) _ _ payload.rules rules (by simp [occurrences_append])]
  rw [member_or_printed "appsBundles" (vec string) _ _ payload.appsBundles list (by simp [occurrences_append])]
  rw [member_of_single "credentials" (hashMap string) _ (mapJson order .str payload.credentials) (by simp [occurrences_append])]
  rw [hash_map_json order .str string (fun _ => rfl)]
  rfl

theorem header_length (drawn : Drawn) : (header drawn).length = 37 := by
  have salt := drawn.saltLength
  have nonce := drawn.nonceLength
  simp only [header, List.length_append, salt, nonce]
  rfl

theorem decrypt_written (drawn : Drawn) (sealed : List UInt8) (password : String) (tagged : tagLen ≤ sealed.length) :
    decrypt crates serde (header drawn ++ sealed) password =
      match crates.decrypt (deriveKeyPbkdf2 crates password drawn.salt pbkdf2Iterations) drawn.nonce sealed with
      | none => .error .decryptAuthFailure
      | some plaintext => readPayload serde plaintext := by
  have total : (header drawn ++ sealed).length = 37 + sealed.length := by rw [List.length_append, header_length]
  have begins : slice (header drawn ++ sealed) 0 4 = magic :=
    slice_middle [] magic ([versionV3] ++ (toBeBytes pbkdf2Iterations ++ (drawn.salt ++ drawn.nonce)) ++ sealed) 0 4 rfl rfl
  have version : (header drawn ++ sealed).getD 4 0 = versionV3 := rfl
  have count : slice (header drawn ++ sealed) 5 4 = toBeBytes pbkdf2Iterations := by
    have middle := slice_middle (magic ++ [versionV3]) (toBeBytes pbkdf2Iterations) (drawn.salt ++ drawn.nonce ++ sealed) 5 4 rfl rfl
    simpa only [header, List.append_assoc] using middle
  have salt : slice (header drawn ++ sealed) 9 saltLen = drawn.salt := by
    have middle := slice_middle (magic ++ [versionV3] ++ toBeBytes pbkdf2Iterations) drawn.salt (drawn.nonce ++ sealed) 9 saltLen
      rfl drawn.saltLength.symm
    simpa only [header, List.append_assoc] using middle
  have nonce : slice (header drawn ++ sealed) (9 + saltLen) nonceLen = drawn.nonce := by
    have middle := slice_middle (magic ++ [versionV3] ++ toBeBytes pbkdf2Iterations ++ drawn.salt) drawn.nonce sealed
      (9 + saltLen) nonceLen (by rw [List.length_append, drawn.saltLength]; rfl) drawn.nonceLength.symm
    simpa only [header, List.append_assoc] using middle
  have rest : (header drawn ++ sealed).drop (9 + saltLen + nonceLen) = sealed :=
    List.drop_left' (header_length drawn)
  have iterations : readIterations (header drawn ++ sealed) versionV3 = .ok (pbkdf2Iterations, 9) := by
    rw [readIterations]
    rw [if_pos rfl, if_neg (by rw [total]; omega), count, from_be_bytes_to_be_bytes]
  have whole : ¬ (header drawn ++ sealed).length < 9 + saltLen + nonceLen + tagLen := by
    rw [total]
    rw [saltLen, nonceLen]
    omega
  rw [decrypt]
  rw [if_neg (by rw [total]; omega), if_neg (by rw [begins]; exact not_not_intro rfl), version]
  dsimp only
  rw [iterations]
  change (if (header drawn ++ sealed).length < 9 + saltLen + nonceLen + tagLen then _ else _) = _
  rw [if_neg whole, salt, nonce, rest]
  rfl

theorem validate_ok (payload : ScexportPayload) (named : payload.name ≠ "") (typed : payload.providerType ≠ "")
    (held : payload.credentials ≠ ∅) : validate payload = .ok () := by
  rw [validate]
  rw [if_neg named, if_neg typed, if_neg held]

theorem decrypt_encrypt (rulesOrder : HashOrder (List String)) (order : HashOrder String) (drawn : Drawn)
    (payload : ScexportPayload) (password : String) (valid : validate payload = .ok ())
    (reads : serde.parse (serde.print (payload.toJson rulesOrder order)) = some (payload.toJson rulesOrder order)) :
    ∃ bytes, encrypt crates serde rulesOrder order drawn payload password = .ok bytes ∧
      decrypt crates serde bytes password = .ok payload := by
  obtain ⟨sealed, encrypted, opened, length⟩ := crates.opens (deriveKeyPbkdf2 crates password drawn.salt pbkdf2Iterations)
    drawn.nonce (asBytes (serde.print (payload.toJson rulesOrder order)))
  refine ⟨header drawn ++ sealed, ?_, ?_⟩
  · rw [encrypt]
    rw [valid]
    dsimp only
    rw [encrypted]
    rfl
  · rw [decrypt_written crates serde drawn sealed password (by omega), opened]
    have parsed := (serde.from_str_ok "ScexportPayload" ScexportPayload.decode _ payload).mpr
      (by rw [reads]; exact payload_decoded rulesOrder order payload)
    dsimp only
    rw [readPayload]
    rw [from_utf8_as_bytes]
    simp only [Except.mapError, bind, Except.bind, parsed, valid]
    rfl

theorem validate_missing (payload : ScexportPayload)
    (missing : payload.name = "" ∨ payload.providerType = "" ∨ payload.credentials = ∅) :
    ∃ field, validate payload = .error (.missingField field) := by
  rw [validate]
  by_cases named : payload.name = ""
  · exact ⟨"name", by rw [if_pos named]⟩
  · by_cases typed : payload.providerType = ""
    · exact ⟨"providerType", by rw [if_neg named, if_pos typed]⟩
    · have empty : payload.credentials = ∅ := by tauto
      exact ⟨"credentials", by rw [if_neg named, if_neg typed, if_pos empty]⟩

theorem scexport_round_trip (encryption : Encryption) (order : HashOrder String) (account : AccountExport) (password : String) :
    (account.name ≠ "" → account.providerType ≠ "" → account.credentials ≠ ∅ →
        (account.providerType = providerApple → ∀ key ∈ account.credentials,
          key ∉ [iosKeyIssuerId, iosKeyPrivateKeyId, iosKeyPrivateKey]) →
        serde.parse (serde.print ((scexportPayload encryption account).toJson encryption.orders.rules encryption.orders.printed)) =
          some ((scexportPayload encryption account).toJson encryption.orders.rules encryption.orders.printed) →
        ∃ bytes, encryptScexport crates serde encryption account password = .ok bytes ∧
          decryptScexport crates serde order bytes password = .ok account) ∧
      (account.name = "" ∨ account.providerType = "" ∨ account.credentials = ∅ →
        ∃ message, encryptScexport crates serde encryption account password = .error (.decode message)) := by
  refine ⟨?_, ?_⟩
  · intro named typed held schema reads
    have stored : (scexportPayload encryption account).credentials ≠ ∅ := by
      rw [scexportPayload]
      dsimp only
      by_cases apple : account.providerType = providerApple
      · rw [if_pos apple]
        exact remap_not_empty _ _ (schema apple) held
      · rwa [if_neg apple]
    obtain ⟨bytes, encrypted, decrypted⟩ := decrypt_encrypt crates serde encryption.orders.rules encryption.orders.printed
      encryption.drawn (scexportPayload encryption account) password (validate_ok _ named typed stored) reads
    refine ⟨bytes, by rw [encryptScexport, encrypted]; rfl, ?_⟩
    rw [decryptScexport]
    rw [decrypted]
    change Except.ok (⟨account.name, account.providerType, account.appsBundles, _⟩ : AccountExport) = _
    congr 2
    rw [scexportPayload]
    dsimp only
    by_cases apple : account.providerType = providerApple
    · rw [if_pos apple, if_pos apple]
      exact remap_back _ _ _ (schema apple)
    · rw [if_neg apple, if_neg apple]
  · intro missing
    have absent : (scexportPayload encryption account).name = "" ∨ (scexportPayload encryption account).providerType = "" ∨
        (scexportPayload encryption account).credentials = ∅ := by
      rcases missing with unnamed | untyped | empty
      · exact .inl unnamed
      · exact .inr (.inl untyped)
      · refine .inr (.inr ?_)
        rw [scexportPayload]
        dsimp only
        rw [empty]
        split
        · exact remap_empty _
        · rfl
    obtain ⟨field, refused⟩ := validate_missing _ absent
    refine ⟨(CryptoError.missingField field).toString, ?_⟩
    rw [encryptScexport, encrypt]
    rw [refused]
    rfl

def clearCrates : CryptoCrates where
  pbkdf2Hmac _ _ _ length := List.replicate length 0
  sha256 _ := List.replicate 32 0
  hkdf _ _ _ length := List.replicate length 0
  encrypt _ _ message := .ok (message ++ List.replicate tagLen 0)
  decrypt _ _ sealed := some (sealed.take (sealed.length - tagLen))
  opens := by
    intro key nonce message
    refine ⟨_, rfl, ?_, by simp⟩
    simp

def appleCredentials : List (String × String) :=
  [("issuerId", "69a6de70"), ("keyId", "2X9R4HXF34"), ("privateKeyP8", "MIGT"), ("note", "team")]

def appleAccount : AccountExport := ⟨"Acme", "apple", some [], HashMap.collect appleCredentials⟩

def appleEncryption : Encryption :=
  ⟨⟨.byKey, .byKey, .byKey⟩, ⟨List.replicate 16 7, List.replicate 12 9, rfl, rfl⟩, "7d0c", 0⟩

def applePayload : Json := (scexportPayload appleEncryption appleAccount).toJson .byKey .byKey

theorem apple_account_round_trip :
    ∃ bytes, encryptScexport clearCrates (.reading [applePayload]) appleEncryption appleAccount "secret" = .ok bytes ∧
      decryptScexport clearCrates (.reading [applePayload]) .byKey bytes "secret" = .ok appleAccount := by
  have held : ∀ key value, appleAccount.credentials.get key = some value ↔ (key, value) ∈ appleCredentials :=
    collect_get appleCredentials (by decide)
  refine (scexport_round_trip clearCrates (.reading [applePayload]) appleEncryption .byKey appleAccount "secret").1
    (by decide) (by decide) ?_ ?_ ?_
  · intro empty
    have issuer := (held "issuerId" "69a6de70").mpr (by decide)
    rw [empty] at issuer
    cases issuer
  · intro _ key inside
    obtain ⟨value, found⟩ := (mem_get _ key).mp inside
    have apart : ∀ key ∈ appleCredentials.map Prod.fst, key ∉ [iosKeyIssuerId, iosKeyPrivateKeyId, iosKeyPrivateKey] := by
      decide
    exact apart key (List.mem_map.mpr ⟨(key, value), (held key value).mp found, rfl⟩)
  · change (SerdeJson.reading [applePayload]).parse applePayload.compact = some applePayload
    simp [SerdeJson.reading]

end StackConnect.Scexport
