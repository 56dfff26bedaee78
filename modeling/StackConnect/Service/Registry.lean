import StackConnect.AppStore.Transport
import StackConnect.Auth.Es256
import StackConnect.Scexport.AccountExport

set_option autoImplicit false

namespace StackConnect

open Interaction Rust Scexport

inductive ServiceKind where
  | appStoreConnect
deriving DecidableEq

structure CredentialField where
  key : String
  label : String
  secret : Bool
  multiline : Bool

def credentialSchema : ServiceKind → List CredentialField
  | .appStoreConnect =>
      [⟨keyIssuerId, "Issuer ID", true, false⟩, ⟨keyKeyId, "Key ID", true, false⟩,
        ⟨keyPrivateKeyP8, "Private Key (.p8)", true, true⟩]

-- `CredentialStore::secret`, the one question the registry asks of the store.
structure SecretQuery where
  accountId : String
  key : String

abbrev Secret (_ : SecretQuery) : Type := Option String

abbrev WithCredentials (α : Type) := Prog SecretQuery Secret StackError α

-- The provider: the client it is built around and what the authenticator of that
-- client signs with.
structure AppStoreProvider (Logger : Type) where
  issuerId : String
  keyId : String
  privateKeyP8 : List UInt8
  client : AppStoreClient
  debugLogger : Option Logger

variable {Logger S : Type}

namespace AppStoreProvider

def new (crates : Crates) (issuerId keyId : String) (privateKeyP8 : List UInt8) (debugLogger : Option Logger) :
    AppStoreProvider Logger :=
  ⟨issuerId, keyId, privateKeyP8, .withBaseUrl defaultBaseUrl crates, debugLogger⟩

def auth (jwt : JsonWebToken) (provider : AppStoreProvider Logger) : AppStoreAuthenticator :=
  ⟨jwt, provider.issuerId, provider.keyId, provider.privateKeyP8⟩

end AppStoreProvider

def require (accountId key : String) : WithCredentials String :=
  .ask ⟨accountId, key⟩ fun
    | some secret => .done (.ok secret)
    | none => .done (.error (.invalidCredentials ("missing credential: " ++ key)))

def build (crates : Crates) (kind : ServiceKind) (accountId : String) (debugLogger : Option Logger) :
    WithCredentials (AppStoreProvider Logger) :=
  match kind with
  | .appStoreConnect => do
      let issuerId ← require accountId keyIssuerId
      let keyId ← require accountId keyKeyId
      let privateKeyP8 ← require accountId keyPrivateKeyP8
      pure (.new crates issuerId keyId (asBytes privateKeyP8) debugLogger)

-- The connect of the facade: the registry's build against the store of the host.
def connect (crates : Crates) (kind : ServiceKind) (accountId : String) (store : Handler Secret S)
    (debugLogger : Option Logger) (state : S) : Run Secret StackError (AppStoreProvider Logger) S :=
  exec store (build crates kind accountId debugLogger) state

def schemaKeys (kind : ServiceKind) : List String := (credentialSchema kind).map CredentialField.key

def Holds (store : Handler Secret S) (kind : ServiceKind) (accountId : String) (secrets : HashMap String String) : Prop :=
  ∀ key ∈ schemaKeys kind, ∀ state, (store.answer ⟨accountId, key⟩ state).1 = secrets.get key

def keysRead (secrets : HashMap String String) : List String → List String
  | [] => []
  | key :: rest => key :: if (secrets.get key).isSome then keysRead secrets rest else []

def firstMissing (secrets : HashMap String String) (keys : List String) : Option String :=
  keys.find? fun key => (secrets.get key).isNone

def Connected (crates : Crates) (kind : ServiceKind) (secrets : HashMap String String) (debugLogger : Option Logger)
    (result : Except StackError (AppStoreProvider Logger)) : Prop :=
  match firstMissing secrets (schemaKeys kind) with
  | some key => result = .error (.invalidCredentials ("missing credential: " ++ key))
  | none => ∃ issuerId keyId privateKeyP8, secrets.get keyIssuerId = some issuerId ∧ secrets.get keyKeyId = some keyId ∧
      secrets.get keyPrivateKeyP8 = some privateKeyP8 ∧
      result = .ok (.new crates issuerId keyId (asBytes privateKeyP8) debugLogger)

variable (store : Handler Secret S)

theorem exec_require (accountId key : String) (secrets : HashMap String String)
    (answers : ∀ state, (store.answer ⟨accountId, key⟩ state).1 = secrets.get key) (state : S) :
    (∃ secret left, secrets.get key = some secret ∧
        exec store (require accountId key) state = ⟨some (.ok secret), left, [⟨⟨accountId, key⟩, some secret⟩]⟩) ∨
      ∃ left, secrets.get key = none ∧ exec store (require accountId key) state =
        ⟨some (.error (.invalidCredentials ("missing credential: " ++ key))), left, [⟨⟨accountId, key⟩, none⟩]⟩ := by
  rw [require, exec_ask, answers]
  cases found : secrets.get key with
  | some secret => exact .inl ⟨secret, _, rfl, rfl⟩
  | none => exact .inr ⟨_, rfl, rfl⟩

def queriesFor (accountId : String) (keys : List String) : List SecretQuery := keys.map (⟨accountId, ·⟩)

theorem exec_build (crates : Crates) (kind : ServiceKind) (accountId : String) (secrets : HashMap String String)
    (holds : Holds store kind accountId secrets) (debugLogger : Option Logger) (state : S) :
    ∃ result, (connect crates kind accountId store debugLogger state).outcome = some result ∧
      Connected crates kind secrets debugLogger result ∧
      (connect crates kind accountId store debugLogger state).trace.map Sigma.fst =
        queriesFor accountId (keysRead secrets (schemaKeys kind)) := by
  cases kind
  have answers : ∀ key ∈ [keyIssuerId, keyKeyId, keyPrivateKeyP8], ∀ state, _ := holds
  simp only [connect, build, exec_bind]
  rcases exec_require store accountId keyIssuerId secrets (answers _ (by simp)) state with
    ⟨issuerId, first, issuer, ran⟩ | ⟨left, missing, ran⟩
  · rw [ran, Run.and_then_ok]
    rcases exec_require store accountId keyKeyId secrets (answers _ (by simp)) first with
      ⟨keyId, second, key, ran⟩ | ⟨left, missing, ran⟩
    · rw [ran, Run.and_then_ok]
      rcases exec_require store accountId keyPrivateKeyP8 secrets (answers _ (by simp)) second with
        ⟨privateKeyP8, third, private_, ran⟩ | ⟨left, missing, ran⟩
      · rw [ran, Run.and_then_ok]
        refine ⟨_, rfl, ?_, ?_⟩
        · simp [Connected, firstMissing, schemaKeys, credentialSchema, issuer, key, private_]
        · simp [queriesFor, keysRead, schemaKeys, credentialSchema, issuer, key, private_, Run.prepend]
      · rw [ran, Run.and_then_error]
        refine ⟨_, rfl, ?_, ?_⟩
        · simp [Connected, firstMissing, schemaKeys, credentialSchema, issuer, key, missing]
        · simp [queriesFor, keysRead, schemaKeys, credentialSchema, issuer, key, missing, Run.prepend]
    · rw [ran, Run.and_then_error]
      refine ⟨_, rfl, ?_, ?_⟩
      · simp [Connected, firstMissing, schemaKeys, credentialSchema, issuer, missing]
      · simp [queriesFor, keysRead, schemaKeys, credentialSchema, issuer, missing, Run.prepend]
  · rw [ran, Run.and_then_error]
    refine ⟨_, rfl, ?_, ?_⟩
    · simp [Connected, firstMissing, schemaKeys, credentialSchema, missing]
    · simp [queriesFor, keysRead, schemaKeys, credentialSchema, missing]

theorem connected_alike {Other : Type} (crates : Crates) (kind : ServiceKind) (secrets : HashMap String String)
    (debugLogger : Option Logger) (other : Option Other) (first : Except StackError (AppStoreProvider Logger))
    (second : Except StackError (AppStoreProvider Other)) (one : Connected crates kind secrets debugLogger first)
    (two : Connected crates kind secrets other second) (jwt : JsonWebToken) :
    first.map (AppStoreProvider.auth jwt) = second.map (AppStoreProvider.auth jwt) := by
  rw [Connected] at one two
  cases missing : firstMissing secrets (schemaKeys kind) with
  | some key =>
      rw [missing] at one two
      rw [one, two]
      rfl
  | none =>
      rw [missing] at one two
      obtain ⟨issuerId, keyId, privateKeyP8, issuer, key, private_, rfl⟩ := one
      obtain ⟨otherIssuer, otherKey, otherPrivate, sameIssuer, sameKey, samePrivate, rfl⟩ := two
      cases issuer.symm.trans sameIssuer
      cases key.symm.trans sameKey
      cases private_.symm.trans samePrivate
      rfl

end StackConnect
