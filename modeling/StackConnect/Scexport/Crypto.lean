import StackConnect.Rust.Text
import StackConnect.Serde.Json

set_option autoImplicit false

namespace StackConnect.Scexport

open Rust Serde

def appSalt : List UInt8 :=
  [0x4A, 0xC7, 0x1E, 0x93, 0xD2, 0x58, 0xBF, 0x06, 0x7D, 0xA4, 0x3B, 0xE1, 0x90, 0xF5, 0x2C, 0x68,
    0x15, 0x87, 0xDA, 0x4F, 0xC3, 0x72, 0xAE, 0x09, 0x5B, 0xE6, 0x31, 0x8C, 0xF0, 0x64, 0xA9, 0x2D]

def magic : List UInt8 := asBytes "SCEX"
def versionV3 : UInt8 := 0x03
def versionV2 : UInt8 := 0x02
def versionV1 : UInt8 := 0x01
def legacyHkdfInfo : List UInt8 := asBytes "StackConnect.Export.v1"
def pbkdf2Iterations : UInt32 := 600000
def saltLen : Nat := 16
def nonceLen : Nat := 12
def tagLen : Nat := 16
def keyLen : Nat := 32

inductive CryptoError where
  | invalidFormat (reason : String)
  | unsupportedVersion (version : UInt8)
  | decryptAuthFailure
  | invalidJson (reason : String)
  | missingField (field : String)

def hexDigit (value : Nat) : Char := if value < 10 then Char.ofNat (48 + value) else Char.ofNat (87 + value)

def CryptoError.toString : CryptoError → String
  | .invalidFormat reason => "invalid .scexport file format: " ++ reason
  | .unsupportedVersion version => "unsupported .scexport version: 0x" ++
      String.ofList [hexDigit (version.toNat / 16), hexDigit (version.toNat % 16)]
  | .decryptAuthFailure => "decryption failed: invalid password or corrupted file"
  | .invalidJson reason => "invalid export JSON: " ++ reason
  | .missingField field => "missing required field: " ++ field

-- The cryptography the format is built on. Key derivation is a function of its
-- inputs; AES-256-GCM opens what it sealed under the same key and nonce, and its
-- tag is part of the sealed bytes.
structure CryptoCrates where
  pbkdf2Hmac : (password salt : List UInt8) → (iterations : UInt32) → (length : Nat) → List UInt8
  sha256 : List UInt8 → List UInt8
  hkdf : (salt ikm info : List UInt8) → (length : Nat) → List UInt8
  encrypt : (key nonce message : List UInt8) → Except String (List UInt8)
  decrypt : (key nonce sealed : List UInt8) → Option (List UInt8)
  opens : ∀ key nonce message, ∃ sealed, encrypt key nonce message = .ok sealed ∧
    decrypt key nonce sealed = some message ∧ sealed.length = message.length + tagLen

structure ScexportPayload where
  id : Option String
  name : String
  providerType : String
  createdAt : Option String
  role : Option String
  expirationDate : Option String
  rules : Option (HashMap String (List String))
  appsBundles : Option (List String)
  credentials : HashMap String String

def ScexportPayload.decode : Decoder ScexportPayload := struct do
  let id ← optional "id" string
  let name ← required "name" string
  let providerType ← required "providerType" string
  let createdAt ← optional "createdAt" string
  let role ← optional "role" string
  let expirationDate ← optional "expirationDate" string
  let rules ← optional "rules" (hashMap (vec string))
  let appsBundles ← optional "appsBundles" (vec string)
  let credentials ← required "credentials" (hashMap string)
  pure ⟨id, name, providerType, createdAt, role, expirationDate, rules, appsBundles, credentials⟩

def stringsJson (values : List String) : Json := .arr (values.map .str)

def mapJson {ν : Type} (order : HashOrder ν) (encode : ν → Json) (map : HashMap String ν) : Json :=
  .obj ((order.entries map).map fun entry => (entry.1, encode entry.2))

-- What serde_json prints for a payload: fields in order, those that are None left out.
def ScexportPayload.toJson (rulesOrder : HashOrder (List String)) (order : HashOrder String) (payload : ScexportPayload) : Json :=
  .obj (insertSome "id" .str payload.id ++
    ([("name", .str payload.name), ("providerType", .str payload.providerType)] ++
    (insertSome "createdAt" .str payload.createdAt ++ (insertSome "role" .str payload.role ++
    (insertSome "expirationDate" .str payload.expirationDate ++
    (insertSome "rules" (mapJson rulesOrder stringsJson) payload.rules ++
    (insertSome "appsBundles" stringsJson payload.appsBundles ++
    [("credentials", mapJson order .str payload.credentials)])))))))

def validate (payload : ScexportPayload) : Except CryptoError Unit :=
  if payload.name = "" then .error (.missingField "name")
  else if payload.providerType = "" then .error (.missingField "providerType")
  else if payload.credentials = ∅ then .error (.missingField "credentials")
  else .ok ()

variable (crates : CryptoCrates) (serde : SerdeJson)

def deriveKeyPbkdf2 (password : String) (randomSalt : List UInt8) (iterations : UInt32) : List UInt8 :=
  crates.pbkdf2Hmac (asBytes password) (appSalt ++ randomSalt) iterations keyLen

def deriveKeyV1 (password : String) (randomSalt : List UInt8) : List UInt8 :=
  crates.hkdf randomSalt (crates.sha256 (appSalt ++ asBytes password)) legacyHkdfInfo keyLen

def deriveKey (version : UInt8) (password : String) (salt : List UInt8) (iterations : UInt32) :
    Except CryptoError (List UInt8) :=
  if version = versionV1 then .ok (deriveKeyV1 crates password salt)
  else if version = versionV2 then .ok (deriveKeyPbkdf2 crates password salt pbkdf2Iterations)
  else if version = versionV3 then .ok (deriveKeyPbkdf2 crates password salt iterations)
  else .error (.unsupportedVersion version)

-- `&bytes[offset..offset + length]`, within bounds at every use below.
def slice (bytes : List UInt8) (offset length : Nat) : List UInt8 := (bytes.drop offset).take length

def readIterations (bytes : List UInt8) (version : UInt8) : Except CryptoError (UInt32 × Nat) :=
  if version = versionV3 then
    if bytes.length < 5 + 4 then .error (.invalidFormat "truncated v3 iterations field")
    else .ok (fromBeBytes (slice bytes 5 4), 9)
  else .ok (pbkdf2Iterations, 5)

def readPayload (plaintext : List UInt8) : Except CryptoError ScexportPayload := do
  let json ← (fromUtf8 plaintext).mapError fun reason => .invalidJson ("not valid UTF-8: " ++ reason)
  let payload ← (serde.fromStr "ScexportPayload" ScexportPayload.decode json).mapError .invalidJson
  validate payload
  pure payload

def decrypt (bytes : List UInt8) (password : String) : Except CryptoError ScexportPayload :=
  if bytes.length < 5 then .error (.invalidFormat "buffer shorter than header")
  else if slice bytes 0 4 ≠ magic then .error (.invalidFormat "missing SCEX magic")
  else do
    let version := bytes.getD 4 0
    let (iterations, offset) ← readIterations bytes version
    if bytes.length < offset + saltLen + nonceLen + tagLen then
      .error (.invalidFormat "truncated salt/nonce/ciphertext")
    else
      let salt := slice bytes offset saltLen
      let nonce := slice bytes (offset + saltLen) nonceLen
      let sealed := bytes.drop (offset + saltLen + nonceLen)
      let key ← deriveKey crates version password salt iterations
      match crates.decrypt key nonce sealed with
      | none => .error .decryptAuthFailure
      | some plaintext => readPayload serde plaintext

structure Drawn where
  salt : List UInt8
  nonce : List UInt8
  saltLength : salt.length = saltLen
  nonceLength : nonce.length = nonceLen

def header (drawn : Drawn) : List UInt8 :=
  magic ++ ([versionV3] ++ (toBeBytes pbkdf2Iterations ++ (drawn.salt ++ drawn.nonce)))

def encrypt (rulesOrder : HashOrder (List String)) (order : HashOrder String) (drawn : Drawn) (payload : ScexportPayload)
    (password : String) : Except CryptoError (List UInt8) := do
  validate payload
  let json := serde.print (payload.toJson rulesOrder order)
  let key := deriveKeyPbkdf2 crates password drawn.salt pbkdf2Iterations
  let sealed ← (crates.encrypt key drawn.nonce (asBytes json)).mapError fun reason =>
    .invalidJson ("encryption failed: " ++ reason)
  pure (header drawn ++ sealed)

end StackConnect.Scexport
