import StackConnect.Scexport.RoundTrip
import StackConnect.Service.Registry

set_option autoImplicit false

namespace StackConnect

open Interaction Rust Serde Scexport

structure FrbCredential where
  key : String
  value : String

def FrbCredential.pair (credential : FrbCredential) : String × String := (credential.key, credential.value)

structure MapCredentialStore where
  accountId : String
  secrets : HashMap String String

namespace MapCredentialStore

def new (accountId : String) (credentials : List FrbCredential) : MapCredentialStore :=
  ⟨accountId, HashMap.collect (credentials.map FrbCredential.pair)⟩

-- It is only read, and only for the account it was made for.
def secret (store : MapCredentialStore) : Handler Secret Unit where
  answer query state := (if query.accountId = store.accountId then store.secrets.get query.key else none, state)

theorem new_holds (kind : ServiceKind) (accountId : String) (credentials : List FrbCredential) :
    Holds (new accountId credentials).secret kind accountId (HashMap.collect (credentials.map FrbCredential.pair)) :=
  fun _ _ _ => if_pos rfl

end MapCredentialStore

variable {Logger S Sink : Type}

-- A log buffer as connect makes it: nothing pending, and the callback it is flushed to.
structure LineBuffer (Sink : Type) where
  pending : List String
  sink : Sink

structure FrbProvider (Sink : Type) where
  inner : AppStoreProvider (LineBuffer Sink)
  logBuffer : Option (LineBuffer Sink)

namespace FrbProvider

-- The connect of the binding: the same build, against the credentials it was handed.
def connect (crates : Crates) (kind : ServiceKind) (accountId : String) (credentials : List FrbCredential)
    (debugLogging : Bool) (debugLogger : Sink) : Run Secret StackError (FrbProvider Sink) Unit :=
  let store := MapCredentialStore.new accountId credentials
  let logBuffer := if debugLogging then some ⟨[], debugLogger⟩ else none
  exec store.secret (do
    let inner ← build crates kind accountId logBuffer
    pure ⟨inner, logBuffer⟩) ()

end FrbProvider

structure Lists (credentials : List FrbCredential) (map : HashMap String String) : Prop where
  distinct : ((credentials.map FrbCredential.pair).map Prod.fst).Nodup
  entries : ∀ key value, (key, value) ∈ credentials.map FrbCredential.pair ↔ map.get key = some value

theorem lists_collect (credentials : List FrbCredential) (map : HashMap String String) (listed : Lists credentials map) :
    HashMap.collect (credentials.map FrbCredential.pair) = map :=
  collect_eq _ listed.distinct map listed.entries

theorem exec_frb_connect (crates : Crates) (kind : ServiceKind) (accountId : String) (credentials : List FrbCredential)
    (debugLogging : Bool) (debugLogger : Sink) :
    let logBuffer : Option (LineBuffer Sink) := if debugLogging then some ⟨[], debugLogger⟩ else none
    let secrets := HashMap.collect (credentials.map FrbCredential.pair)
    let run := FrbProvider.connect crates kind accountId credentials debugLogging debugLogger
    ∃ result, run.outcome = some (result.map fun inner => ⟨inner, logBuffer⟩) ∧
      Connected crates kind secrets logBuffer result ∧
      run.trace.map Sigma.fst = queriesFor accountId (keysRead secrets (schemaKeys kind)) := by
  intro logBuffer secrets run
  obtain ⟨result, ended, connected, asked⟩ := exec_build (MapCredentialStore.new accountId credentials).secret crates kind
    accountId secrets (MapCredentialStore.new_holds kind accountId credentials) logBuffer ()
  have steps : run = (connect crates kind accountId (MapCredentialStore.new accountId credentials).secret logBuffer ()).andThen
      fun inner reached => ⟨some (.ok ⟨inner, logBuffer⟩), reached, []⟩ := exec_bind ..
  rcases ran : connect crates kind accountId (MapCredentialStore.new accountId credentials).secret logBuffer () with
    ⟨outcome, state, trace⟩
  rw [ran] at ended asked steps
  dsimp only at ended
  subst ended
  refine ⟨result, ?_, connected, ?_⟩
  · rw [steps]
    cases result <;> rfl
  · rw [steps, ← asked]
    cases result with
    | error failure => rfl
    | ok inner => simp [Run.andThen, Run.prepend]

theorem exported_imported (crypto : CryptoCrates) (serde : SerdeJson) (encryption : Encryption) (order : HashOrder String)
    (account : AccountExport) (password : String) (apple : account.providerType = providerApple) (named : account.name ≠ "")
    (held : account.credentials ≠ ∅) (schema : ∀ key ∈ account.credentials, key ∉ schemaToIos.map Prod.snd)
    (reads : serde.parse (serde.print ((scexportPayload encryption account).toJson encryption.orders.rules encryption.orders.printed)) =
      some ((scexportPayload encryption account).toJson encryption.orders.rules encryption.orders.printed)) :
    ∃ bytes imported, encryptScexport crypto serde encryption account password = .ok bytes ∧
      decryptScexport crypto serde order bytes password = .ok imported ∧ imported.credentials = account.credentials := by
  have remapped : (scexportPayload encryption account).credentials = remapSchemaToIos encryption.orders.remapped account.credentials :=
    if_pos apple
  have stored : (scexportPayload encryption account).credentials ≠ ∅ := by
    rw [remapped]
    exact remap_not_empty _ _ schema held
  have typed : (scexportPayload encryption account).providerType = providerApple := apple
  obtain ⟨bytes, encrypted, decrypted⟩ := decrypt_encrypt crypto serde encryption.orders.rules encryption.orders.printed
    encryption.drawn (scexportPayload encryption account) password
    (validate_ok _ named (by rw [typed]; decide) stored) reads
  refine ⟨bytes, _, by rw [encryptScexport, encrypted]; rfl, by rw [decryptScexport, decrypted]; rfl, ?_⟩
  dsimp only
  rw [if_pos typed, remapped]
  exact remap_back _ _ _ schema

theorem exported_account_connects (crypto : CryptoCrates) (serde : SerdeJson) (crates : Crates) (encryption : Encryption)
    (order : HashOrder String) (account : AccountExport) (password : String) (apple : account.providerType = providerApple)
    (named : account.name ≠ "") (held : account.credentials ≠ ∅)
    (schema : ∀ key ∈ account.credentials, key ∉ [iosKeyIssuerId, iosKeyPrivateKeyId, iosKeyPrivateKey])
    (reads : serde.parse (serde.print ((scexportPayload encryption account).toJson encryption.orders.rules encryption.orders.printed)) =
      some ((scexportPayload encryption account).toJson encryption.orders.rules encryption.orders.printed))
    (kind : ServiceKind) (accountId : String) (store : Handler Secret S) (holds : Holds store kind accountId account.credentials)
    (debugLogger : Option Logger) (state : S) :
    ∃ bytes imported, encryptScexport crypto serde encryption account password = .ok bytes ∧
      decryptScexport crypto serde order bytes password = .ok imported ∧ imported.credentials = account.credentials ∧
      ∀ credentials, Lists credentials imported.credentials → ∀ newAccountId debugLogging (sink : Sink),
        let host := connect crates kind accountId store debugLogger state
        let moved := FrbProvider.connect crates kind newAccountId credentials debugLogging sink
        ∃ here there, host.outcome = some here ∧ moved.outcome = some there ∧
          Connected crates kind account.credentials debugLogger here ∧
          (∀ jwt, there.map (fun provider => provider.inner.auth jwt) = here.map (AppStoreProvider.auth jwt)) ∧
          host.trace.map Sigma.fst = queriesFor accountId (keysRead account.credentials (schemaKeys kind)) ∧
          moved.trace.map Sigma.fst = queriesFor newAccountId (keysRead account.credentials (schemaKeys kind)) := by
  obtain ⟨bytes, imported, encrypted, decrypted, same⟩ :=
    exported_imported crypto serde encryption order account password apple named held schema reads
  refine ⟨bytes, imported, encrypted, decrypted, same, ?_⟩
  intro credentials listed newAccountId debugLogging sink host moved
  have secrets := (lists_collect credentials imported.credentials listed).trans same
  obtain ⟨here, ended, connected, asked⟩ := exec_build store crates kind accountId account.credentials holds debugLogger state
  obtain ⟨result, bound, alike, read⟩ := exec_frb_connect crates kind newAccountId credentials debugLogging sink
  rw [secrets] at alike read
  refine ⟨here, _, ended, bound, connected, ?_, asked, read⟩
  intro jwt
  rw [connected_alike crates kind account.credentials debugLogger _ here result connected alike jwt]
  cases result <;> rfl

def appleKeychain : Handler Secret Unit where
  answer query state := (if query.accountId = "acct-1" then appleCredentials.lookup query.key else none, state)

def appleFrbCredentials : List FrbCredential :=
  [⟨"note", "team"⟩, ⟨"privateKeyP8", "MIGT"⟩, ⟨"keyId", "2X9R4HXF34"⟩, ⟨"issuerId", "69a6de70"⟩]

theorem apple_account_moved :
    ∃ bytes imported provider,
      encryptScexport clearCrates (.reading [applePayload]) appleEncryption appleAccount "secret" = .ok bytes ∧
      decryptScexport clearCrates (.reading [applePayload]) .byKey bytes "secret" = .ok imported ∧
      Lists appleFrbCredentials imported.credentials ∧
      (FrbProvider.connect (.reading []) .appStoreConnect "acct-2" appleFrbCredentials true ()).outcome = some (.ok provider) ∧
      ∀ jwt, provider.inner.auth jwt = ⟨jwt, "69a6de70", "2X9R4HXF34", asBytes "MIGT"⟩ := by
  have entries : ∀ key value, appleAccount.credentials.get key = some value ↔ (key, value) ∈ appleCredentials :=
    collect_get appleCredentials (by decide)
  have issuer := (entries "issuerId" "69a6de70").mpr (by decide)
  have keyId := (entries "keyId" "2X9R4HXF34").mpr (by decide)
  have privateKey := (entries "privateKeyP8" "MIGT").mpr (by decide)
  have holds : Holds appleKeychain .appStoreConnect "acct-1" appleAccount.credentials := by
    have each : ∀ key ∈ ["issuerId", "keyId", "privateKeyP8"], appleCredentials.lookup key = appleAccount.credentials.get key := by
      simp only [List.forall_mem_cons, issuer, keyId, privateKey]
      exact ⟨rfl, rfl, rfl, List.forall_mem_nil _⟩
    intro key inside state
    exact each key inside
  have apart : ∀ key ∈ appleCredentials.map Prod.fst, key ∉ [iosKeyIssuerId, iosKeyPrivateKeyId, iosKeyPrivateKey] := by
    decide
  have schema : ∀ key ∈ appleAccount.credentials, key ∉ [iosKeyIssuerId, iosKeyPrivateKeyId, iosKeyPrivateKey] := by
    intro key inside
    obtain ⟨value, found⟩ := (mem_get _ key).mp inside
    exact apart key (List.mem_map.mpr ⟨(key, value), (entries key value).mp found, rfl⟩)
  have held : appleAccount.credentials ≠ ∅ := by
    intro empty
    rw [empty] at issuer
    cases issuer
  have reads : (SerdeJson.reading [applePayload]).parse applePayload.compact = some applePayload := by
    simp [SerdeJson.reading]
  obtain ⟨bytes, imported, encrypted, decrypted, same, moves⟩ := @exported_account_connects Unit Unit Unit
    clearCrates (.reading [applePayload]) (.reading []) appleEncryption .byKey appleAccount "secret" rfl (by decide) held schema
    reads .appStoreConnect "acct-1" appleKeychain holds none ()
  have listed : Lists appleFrbCredentials imported.credentials := by
    refine ⟨by decide, ?_⟩
    have reversed : appleFrbCredentials.map FrbCredential.pair = appleCredentials.reverse := rfl
    intro key value
    rw [same, entries, reversed, List.mem_reverse]
  obtain ⟨here, there, _, ended, connected, alike, _⟩ := moves appleFrbCredentials listed "acct-2" true ()
  have present : firstMissing appleAccount.credentials (schemaKeys .appStoreConnect) = none := by
    have held : ∀ key ∈ ["issuerId", "keyId", "privateKeyP8"], (appleAccount.credentials.get key).isNone = false := by
      simp only [List.forall_mem_cons, issuer, keyId, privateKey]
      exact ⟨rfl, rfl, rfl, List.forall_mem_nil _⟩
    exact List.find?_eq_none.mpr fun key inside => by rw [held key inside]; decide
  rw [Connected, present] at connected
  obtain ⟨_, _, _, sameIssuer, sameKey, samePrivate, rfl⟩ := connected
  cases issuer.symm.trans sameIssuer
  cases keyId.symm.trans sameKey
  cases privateKey.symm.trans samePrivate
  rcases there with failure | provider
  · have refused := alike ⟨Unit, fun _ => .error "", fun _ _ _ _ => .error "", fun _ => none, fun _ _ _ _ _ made => by cases made⟩
    cases refused
  · exact ⟨bytes, imported, provider, encrypted, decrypted, listed, ended, fun jwt => Except.ok.inj (alike jwt)⟩

end StackConnect
