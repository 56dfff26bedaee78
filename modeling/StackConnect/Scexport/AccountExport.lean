import StackConnect.Error
import StackConnect.Scexport.Crypto

set_option autoImplicit false

namespace StackConnect.Scexport

open Rust Serde

structure AccountExport where
  name : String
  providerType : String
  appsBundles : Option (List String)
  credentials : HashMap String String

def providerApple : String := "apple"

def iosKeyIssuerId : String := "issuerID"
def iosKeyPrivateKeyId : String := "privateKeyID"
def iosKeyPrivateKey : String := "privateKey"

def keyIssuerId : String := "issuerId"
def keyKeyId : String := "keyId"
def keyPrivateKeyP8 : String := "privateKeyP8"

def schemaToIos : List (String × String) :=
  [(keyIssuerId, iosKeyIssuerId), (keyKeyId, iosKeyPrivateKeyId), (keyPrivateKeyP8, iosKeyPrivateKey)]

def iosToSchema : List (String × String) :=
  [(iosKeyIssuerId, keyIssuerId), (iosKeyPrivateKeyId, keyKeyId), (iosKeyPrivateKey, keyPrivateKeyP8)]

def rename (mapping : List (String × String)) (key : String) : String :=
  match mapping.find? fun pair => pair.1 = key with
  | some pair => pair.2
  | none => key

def remap (order : HashOrder String) (source : HashMap String String) (mapping : List (String × String)) : HashMap String String :=
  HashMap.collect ((order.entries source).map fun entry => (rename mapping entry.1, entry.2))

def remapIosToSchema (order : HashOrder String) (ios : HashMap String String) : HashMap String String :=
  remap order ios iosToSchema

def remapSchemaToIos (order : HashOrder String) (schema : HashMap String String) : HashMap String String :=
  remap order schema schemaToIos

def mapCryptoError (error : CryptoError) : StackError :=
  match error with
  | .decryptAuthFailure => .auth error.toString
  | _ => .decode error.toString

def padded (width : Nat) (value : Int) : String :=
  let digits := (toString value).toList
  String.ofList (List.replicate (width - digits.length) '0' ++ digits)

def nowIso8601 (secs : Nat) : String :=
  let days : Int := secs / 86400
  let rem := secs % 86400
  let z := days + 719468
  let era := z / 146097
  let doe := z - era * 146097
  let yoe := (doe - doe / 1460 + doe / 36524 - doe / 146096) / 365
  let doy := doe - (365 * yoe + yoe / 4 - yoe / 100)
  let mp := (5 * doy + 2) / 153
  let day := doy - (153 * mp + 2) / 5 + 1
  let month := if mp < 10 then mp + 3 else mp - 9
  let year := if month ≤ 2 then yoe + era * 400 + 1 else yoe + era * 400
  padded 4 year ++ "-" ++ padded 2 month ++ "-" ++ padded 2 day ++ "T" ++ padded 2 (rem / 3600 : Nat) ++ ":" ++
    padded 2 ((rem % 3600) / 60 : Nat) ++ ":" ++ padded 2 (rem % 60 : Nat) ++ "Z"

example : nowIso8601 1709164799 = "2024-02-28T23:59:59Z" := by decide

-- The orders in which the maps of one call are iterated, and what it draws.
structure Orders where
  remapped : HashOrder String
  printed : HashOrder String
  rules : HashOrder (List String)

structure Encryption where
  orders : Orders
  drawn : Drawn
  uuid : String
  now : Nat

def scexportPayload (encryption : Encryption) (account : AccountExport) : ScexportPayload where
  id := some encryption.uuid
  name := account.name
  providerType := account.providerType
  createdAt := some (nowIso8601 encryption.now)
  role := none
  expirationDate := none
  rules := none
  appsBundles := account.appsBundles
  credentials :=
    if account.providerType = providerApple then remapSchemaToIos encryption.orders.remapped account.credentials
    else account.credentials

variable (crates : CryptoCrates) (serde : SerdeJson)

def encryptScexport (encryption : Encryption) (account : AccountExport) (password : String) : Except StackError (List UInt8) :=
  (encrypt crates serde encryption.orders.rules encryption.orders.printed encryption.drawn
    (scexportPayload encryption account) password).mapError mapCryptoError

def decryptScexport (order : HashOrder String) (bytes : List UInt8) (password : String) : Except StackError AccountExport := do
  let payload ← (decrypt crates serde bytes password).mapError mapCryptoError
  let credentials :=
    if payload.providerType = providerApple then remapIosToSchema order payload.credentials else payload.credentials
  pure ⟨payload.name, payload.providerType, payload.appsBundles, credentials⟩

theorem rename_back (key : String) (other : key ∉ schemaToIos.map Prod.snd) :
    rename iosToSchema (rename schemaToIos key) = key := by
  have issuer : key ≠ iosKeyIssuerId := fun same => other (by simp [schemaToIos, same])
  have privateKeyId : key ≠ iosKeyPrivateKeyId := fun same => other (by simp [schemaToIos, same])
  have privateKey : key ≠ iosKeyPrivateKey := fun same => other (by simp [schemaToIos, same])
  by_cases first : key = keyIssuerId
  · subst first
    decide
  · by_cases second : key = keyKeyId
    · subst second
      decide
    · by_cases third : key = keyPrivateKeyP8
      · subst third
        decide
      · have kept : rename schemaToIos key = key := by
          simp [rename, schemaToIos, Ne.symm first, Ne.symm second, Ne.symm third]
        rw [kept]
        simp [rename, iosToSchema, Ne.symm issuer, Ne.symm privateKeyId, Ne.symm privateKey]

theorem remap_get (order : HashOrder String) (source : HashMap String String) (mapping : List (String × String))
    (injective : ∀ first second, first ∈ source → second ∈ source → rename mapping first = rename mapping second → first = second)
    (key value : String) :
    (remap order source mapping).get key = some value ↔ ∃ from_, rename mapping from_ = key ∧ source.get from_ = some value := by
  have distinct : (((order.entries source).map fun entry => (rename mapping entry.1, entry.2)).map Prod.fst).Nodup := by
    have keys := order.distinct source
    rw [List.map_map]
    rw [List.nodup_map_iff_inj_on (List.Nodup.of_map _ keys)]
    rintro ⟨first, firstValue⟩ here ⟨second, secondValue⟩ there same
    have firstHeld := (order.complete source first firstValue).mp here
    have secondHeld := (order.complete source second secondValue).mp there
    have equal := injective first second ((mem_get source first).mpr ⟨_, firstHeld⟩) ((mem_get source second).mpr ⟨_, secondHeld⟩) same
    subst equal
    rw [Option.some.inj (firstHeld.symm.trans secondHeld)]
  rw [remap]
  rw [collect_get _ distinct]
  simp only [List.mem_map, Prod.mk.injEq, Prod.exists, order.complete]
  constructor
  · rintro ⟨from_, _, held, rfl, rfl⟩
    exact ⟨from_, rfl, held⟩
  · rintro ⟨from_, rfl, held⟩
    exact ⟨from_, value, held, rfl, rfl⟩

theorem remap_back (there back : HashOrder String) (schema : HashMap String String)
    (other : ∀ key ∈ schema, key ∉ schemaToIos.map Prod.snd) :
    remapIosToSchema back (remapSchemaToIos there schema) = schema := by
  have forth : ∀ first second, first ∈ schema → second ∈ schema →
      rename schemaToIos first = rename schemaToIos second → first = second := by
    intro first second here there same
    have renamed := congrArg (rename iosToSchema) same
    rwa [rename_back first (other first here), rename_back second (other second there)] at renamed
  have ios := remap_get there schema schemaToIos forth
  have source : ∀ key, key ∈ remapSchemaToIos there schema → ∃ from_ ∈ schema, rename schemaToIos from_ = key := by
    intro key inside
    obtain ⟨value, held⟩ := (mem_get _ key).mp inside
    obtain ⟨from_, same, original⟩ := (ios key value).mp held
    exact ⟨from_, (mem_get schema from_).mpr ⟨value, original⟩, same⟩
  have home : ∀ first second, first ∈ remapSchemaToIos there schema → second ∈ remapSchemaToIos there schema →
      rename iosToSchema first = rename iosToSchema second → first = second := by
    intro first second here inside same
    obtain ⟨a, aHeld, rfl⟩ := source first here
    obtain ⟨b, bHeld, rfl⟩ := source second inside
    rw [rename_back a (other a aHeld), rename_back b (other b bHeld)] at same
    rw [same]
  apply Finmap.ext_lookup
  intro key
  apply Option.ext
  intro value
  change (remapIosToSchema back (remapSchemaToIos there schema)).get key = some value ↔ schema.get key = some value
  rw [remapIosToSchema]
  rw [remap_get back _ iosToSchema home]
  constructor
  · rintro ⟨renamed, rfl, held⟩
    obtain ⟨original, rfl, found⟩ := (ios renamed value).mp held
    rwa [rename_back original (other original ((mem_get schema original).mpr ⟨value, found⟩))]
  · intro held
    exact ⟨rename schemaToIos key, rename_back key (other key ((mem_get schema key).mpr ⟨value, held⟩)),
      (ios _ value).mpr ⟨key, rfl, held⟩⟩

theorem remap_not_empty (order : HashOrder String) (schema : HashMap String String)
    (other : ∀ key ∈ schema, key ∉ schemaToIos.map Prod.snd) (held : schema ≠ ∅) : remapSchemaToIos order schema ≠ ∅ := by
  intro empty
  have back := remap_back order order schema other
  rw [empty] at back
  apply held
  rw [← back]
  rw [remapIosToSchema, remap]
  rw [entries_empty]
  rfl

theorem remap_empty (order : HashOrder String) : remapSchemaToIos order ∅ = ∅ := by
  rw [remapSchemaToIos, remap]
  rw [entries_empty]
  rfl

end StackConnect.Scexport
