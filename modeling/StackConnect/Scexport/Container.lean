import StackConnect.Interaction.Results
import StackConnect.Scexport.RoundTrip

set_option autoImplicit false

namespace StackConnect.Scexport

open Interaction Rust Serde

namespace Container

inductive Cipher where
  | decrypt (key nonce message : List UInt8)

abbrev Plaintext : Cipher → Type
  | .decrypt _ _ _ => Option (List UInt8)

abbrev Opening (α : Type) := Prog Cipher Plaintext CryptoError α

-- `bytes[index]`, `&bytes[start..stop]` and `from_slice`: each panics when it
-- does not fit, and a program that panics has no result.
def byteAt (bytes : List UInt8) (index : Nat) : Opening UInt8 :=
  match bytes[index]? with
  | some byte => pure byte
  | none => .cut

def range (bytes : List UInt8) (start stop : Nat) : Opening (List UInt8) :=
  if start ≤ stop ∧ stop ≤ bytes.length then pure (slice bytes start (stop - start)) else .cut

def fromSlice (length : Nat) (bytes : List UInt8) : Opening (List UInt8) :=
  if bytes.length = length then pure bytes else .cut

variable (crates : CryptoCrates) (serde : SerdeJson)

def readIterations (bytes : List UInt8) (version : UInt8) (offset : Nat) : Opening (UInt32 × Nat) :=
  if version = versionV3 then
    if bytes.length < offset + 4 then .fail (.invalidFormat "truncated v3 iterations field")
    else do
      let first ← byteAt bytes offset
      let second ← byteAt bytes (offset + 1)
      let third ← byteAt bytes (offset + 2)
      let fourth ← byteAt bytes (offset + 3)
      pure (fromBeBytes [first, second, third, fourth], offset + 4)
  else pure (pbkdf2Iterations, offset)

def decryptFrom (bytes : List UInt8) (password : String) (version : UInt8) (iterations : UInt32) (offset : Nat) :
    Opening ScexportPayload :=
  if bytes.length < offset + saltLen + nonceLen + tagLen then
    .fail (.invalidFormat "truncated salt/nonce/ciphertext")
  else do
    let salt ← range bytes offset (offset + saltLen)
    let offset := offset + saltLen
    let nonceBytes ← range bytes offset (offset + nonceLen)
    let offset := offset + nonceLen
    let ciphertextAndTag ← range bytes offset bytes.length
    let keyBytes ← .ofExcept (deriveKey crates version password salt iterations)
    let nonce ← fromSlice nonceLen nonceBytes
    let opened ← Prog.query (.decrypt keyBytes nonce ciphertextAndTag)
    match opened with
    | none => .fail .decryptAuthFailure
    | some plaintext => .ofExcept (readPayload serde plaintext)

-- `decrypt` with every read of the buffer checked against its bounds.
def decrypt (bytes : List UInt8) (password : String) : Opening ScexportPayload :=
  if bytes.length < 5 then .fail (.invalidFormat "buffer shorter than header")
  else do
    let offset := 0
    let start ← range bytes offset (offset + 4)
    if start ≠ magic then .fail (.invalidFormat "missing SCEX magic")
    else do
      let offset := offset + 4
      let version ← byteAt bytes offset
      let offset := offset + 1
      let (iterations, offset) ← readIterations bytes version offset
      decryptFrom crates serde bytes password version iterations offset

theorem byte_at_inside (bytes : List UInt8) (index : Nat) (inside : index < bytes.length) :
    byteAt bytes index = .done (.ok (bytes.getD index 0)) := by
  rw [byteAt, List.getD_eq_getElem?_getD]
  rw [List.getElem?_eq_getElem inside]
  rfl

theorem range_inside (bytes : List UInt8) (start length : Nat) (inside : start + length ≤ bytes.length) :
    range bytes start (start + length) = .done (.ok (slice bytes start length)) := by
  rw [range]
  rw [if_pos ⟨Nat.le_add_right _ _, inside⟩, Nat.add_sub_cancel_left]
  rfl

theorem range_rest (bytes : List UInt8) (start : Nat) (inside : start ≤ bytes.length) :
    range bytes start bytes.length = .done (.ok (bytes.drop start)) := by
  rw [range]
  rw [if_pos ⟨inside, Nat.le_refl _⟩, slice]
  rw [List.take_of_length_le (by rw [List.length_drop])]
  rfl

theorem slice_length (bytes : List UInt8) (start length : Nat) (inside : start + length ≤ bytes.length) :
    (slice bytes start length).length = length := by
  rw [slice]
  rw [List.length_take, List.length_drop]
  omega

theorem slice_four (bytes : List UInt8) (start : Nat) (inside : start + 4 ≤ bytes.length) :
    slice bytes start 4 =
      [bytes.getD start 0, bytes.getD (start + 1) 0, bytes.getD (start + 2) 0, bytes.getD (start + 3) 0] := by
  apply List.ext_getElem
  · rw [slice_length bytes start 4 inside]
    rfl
  · intro index here _
    have bound : index < 4 := by rwa [slice_length bytes start 4 inside] at here
    have read : (slice bytes start 4)[index] = bytes.getD (start + index) 0 := by
      have within : start + index < bytes.length := by omega
      simp only [slice, List.getElem_take, List.getElem_drop]
      rw [List.getD_eq_getElem?_getD, List.getElem?_eq_getElem within]
      rfl
    rw [read]
    have cases : index = 0 ∨ index = 1 ∨ index = 2 ∨ index = 3 := by omega
    rcases cases with rfl | rfl | rfl | rfl <;> rfl

def versionOf (bytes : List UInt8) : UInt8 := bytes.getD 4 0

def headerLength (bytes : List UInt8) : Nat := if versionOf bytes = versionV3 then 9 else 5

def iterationsOf (bytes : List UInt8) : UInt32 :=
  if versionOf bytes = versionV3 then fromBeBytes (slice bytes 5 4) else pbkdf2Iterations

def keyOf (bytes : List UInt8) (password : String) : Option (List UInt8) :=
  let salt := slice bytes (headerLength bytes) 16
  if versionOf bytes = 1 then some (deriveKeyV1 crates password salt)
  else if versionOf bytes = 2 then some (deriveKeyPbkdf2 crates password salt 600000)
  else if versionOf bytes = 3 then some (deriveKeyPbkdf2 crates password salt (fromBeBytes (slice bytes 5 4)))
  else none

def judged (serde : SerdeJson) (opened : Option (List UInt8)) : Except CryptoError ScexportPayload :=
  match opened with
  | none => .error .decryptAuthFailure
  | some plaintext => readPayload serde plaintext

theorem read_iterations_header (bytes : List UInt8) (header : headerLength bytes ≤ bytes.length) :
    readIterations bytes (versionOf bytes) 5 = .done (.ok (iterationsOf bytes, headerLength bytes)) := by
  rw [readIterations, iterationsOf]
  rw [headerLength] at header ⊢
  by_cases counted : versionOf bytes = versionV3
  · rw [if_pos counted] at header
    rw [if_pos counted, if_pos counted, if_pos counted, if_neg (by omega), slice_four bytes 5 header]
    rw [byte_at_inside bytes 5 (by omega), byte_at_inside bytes (5 + 1) (by omega),
      byte_at_inside bytes (5 + 2) (by omega), byte_at_inside bytes (5 + 3) (by omega)]
    rfl
  · rw [if_neg counted, if_neg counted, if_neg counted]
    rfl

theorem read_iterations_truncated (bytes : List UInt8) (long : 5 ≤ bytes.length) (short : bytes.length < headerLength bytes) :
    readIterations bytes (versionOf bytes) 5 = .done (.error (.invalidFormat "truncated v3 iterations field")) := by
  rw [readIterations]
  rw [headerLength] at short
  by_cases counted : versionOf bytes = versionV3
  · rw [if_pos counted] at short
    rw [if_pos counted, if_pos short]
    rfl
  · rw [if_neg counted] at short
    omega

theorem derive_key (bytes : List UInt8) (password : String) :
    deriveKey crates (versionOf bytes) password (slice bytes (headerLength bytes) saltLen) (iterationsOf bytes) =
      (keyOf crates bytes password).elim (.error (.unsupportedVersion (versionOf bytes))) .ok := by
  rw [deriveKey, keyOf, iterationsOf]
  by_cases first : versionOf bytes = 1
  · rw [if_pos first, if_pos (by exact first)]
    rfl
  · by_cases second : versionOf bytes = 2
    · rw [if_neg first, if_neg (by exact first), if_pos second, if_pos (by exact second)]
      rfl
    · by_cases third : versionOf bytes = 3
      · rw [if_neg first, if_neg (by exact first), if_neg second, if_neg (by exact second), if_pos third,
          if_pos (by exact third), if_pos (by exact third)]
        rfl
      · rw [if_neg first, if_neg (by exact first), if_neg second, if_neg (by exact second), if_neg third,
          if_neg (by exact third)]
        rfl

theorem decrypt_from_short (bytes : List UInt8) (password : String) (version : UInt8) (iterations : UInt32) (offset : Nat)
    (short : bytes.length < offset + 44) :
    decryptFrom crates serde bytes password version iterations offset =
      .done (.error (.invalidFormat "truncated salt/nonce/ciphertext")) := by
  rw [decryptFrom]
  rw [if_pos (by rw [saltLen, nonceLen, tagLen]; omega)]
  rfl

theorem decrypt_from_whole (bytes : List UInt8) (password : String) (version : UInt8) (iterations : UInt32) (offset : Nat)
    (whole : offset + 44 ≤ bytes.length) :
    decryptFrom crates serde bytes password version iterations offset =
      (.ofExcept (deriveKey crates version password (slice bytes offset 16) iterations) >>= fun key =>
        .ask (.decrypt key (slice bytes (offset + 16) 12) (bytes.drop (offset + 28))) fun opened =>
          .done (judged serde opened)) := by
  have nonce := slice_length bytes (offset + 16) 12 (by omega)
  rw [decryptFrom]
  rw [if_neg (by rw [saltLen, nonceLen, tagLen]; omega), range_inside bytes _ saltLen (by rw [saltLen]; omega)]
  simp only [Prog.bind_ok]
  rw [range_inside bytes _ nonceLen (by rw [saltLen, nonceLen]; omega)]
  simp only [Prog.bind_ok]
  rw [range_rest bytes _ (by rw [saltLen, nonceLen]; omega)]
  simp only [Prog.bind_ok, Prog.of_except]
  congr 1
  funext key
  rw [fromSlice, if_pos (by exact nonce)]
  simp only [Prog.pure_eq, Prog.bind_ok, Prog.bind_query]
  congr 1
  funext opened
  cases opened <;> rfl

theorem header_length_bounds (bytes : List UInt8) : 5 ≤ headerLength bytes ∧ headerLength bytes ≤ 9 := by
  rw [headerLength]
  by_cases counted : versionOf bytes = versionV3
  · rw [if_pos counted]
    omega
  · rw [if_neg counted]
    omega

theorem slice_magic (bytes : List UInt8) : slice bytes 0 4 = magic ↔ magic <+: bytes := by
  rw [List.prefix_iff_eq_take, slice]
  exact eq_comm

theorem decrypt_headless (bytes : List UInt8) (password : String) (short : bytes.length < 5) :
    decrypt crates serde bytes password = .done (.error (.invalidFormat "buffer shorter than header")) := by
  rw [decrypt]
  exact if_pos short

theorem decrypt_unmarked (bytes : List UInt8) (password : String) (long : ¬bytes.length < 5) (unmarked : ¬ magic <+: bytes) :
    decrypt crates serde bytes password = .done (.error (.invalidFormat "missing SCEX magic")) := by
  have other := mt (slice_magic bytes).mp unmarked
  rw [decrypt]
  rw [if_neg long]
  dsimp only
  rw [range_inside bytes 0 4 (by omega)]
  simp only [Prog.bind_ok, ne_eq]
  rw [if_pos other]
  rfl

theorem decrypt_marked (bytes : List UInt8) (password : String) (marked : magic <+: bytes) (long : 5 ≤ bytes.length) :
    decrypt crates serde bytes password = readIterations bytes (versionOf bytes) 5 >>= fun read =>
      decryptFrom crates serde bytes password (versionOf bytes) read.1 read.2 := by
  have begins := (slice_magic bytes).mpr marked
  rw [decrypt]
  rw [if_neg (by omega)]
  dsimp only
  rw [range_inside bytes 0 4 (by omega)]
  simp only [Prog.bind_ok, ne_eq]
  rw [if_neg (not_not_intro begins), byte_at_inside bytes (0 + 4) (by omega)]
  rfl

theorem decrypt_header (bytes : List UInt8) (password : String) (marked : magic <+: bytes)
    (header : headerLength bytes ≤ bytes.length) :
    decrypt crates serde bytes password =
      decryptFrom crates serde bytes password (versionOf bytes) (iterationsOf bytes) (headerLength bytes) := by
  have bounds := header_length_bounds bytes
  rw [decrypt_marked crates serde bytes password marked (by omega), read_iterations_header bytes header]
  rfl

theorem decrypt_short (bytes : List UInt8) (password : String)
    (short : bytes.length < 5 ∨ ¬ magic <+: bytes ∨ bytes.length < headerLength bytes + 44) :
    ∃ reason, decrypt crates serde bytes password = .done (.error (.invalidFormat reason)) := by
  by_cases header : bytes.length < 5
  · exact ⟨_, decrypt_headless crates serde bytes password header⟩
  · by_cases marked : magic <+: bytes
    · have truncated := (short.resolve_left header).resolve_left (not_not_intro marked)
      by_cases counted : bytes.length < headerLength bytes
      · rw [decrypt_marked crates serde bytes password marked (by omega)]
        rw [read_iterations_truncated bytes (by omega) counted]
        exact ⟨_, rfl⟩
      · rw [decrypt_header crates serde bytes password marked (by omega)]
        exact ⟨_, decrypt_from_short crates serde bytes password _ _ _ truncated⟩
    · exact ⟨_, decrypt_unmarked crates serde bytes password header marked⟩

theorem slice_after (before rest : List UInt8) (offset length : Nat) :
    slice (before ++ rest) (before.length + offset) length = slice rest offset length := by
  rw [slice, slice]
  rw [← List.drop_drop, List.drop_left]

theorem bind_error {ε α β : Type} (first : Except ε α) (next : α → Except ε β) (failure : ε)
    (failed : (first >>= next) = .error failure) :
    first = .error failure ∨ ∃ value, first = .ok value ∧ next value = .error failure := by
  cases first with
  | error found =>
      cases failed
      exact .inl rfl
  | ok value => exact .inr ⟨value, rfl, failed⟩

theorem map_error_error {ε δ α : Type} (result : Except ε α) (rename : ε → δ) (failure : δ)
    (failed : result.mapError rename = .error failure) : ∃ reason, failure = rename reason := by
  cases result with
  | error reason =>
      cases failed
      exact ⟨reason, rfl⟩
  | ok value => cases failed

theorem validate_error (payload : ScexportPayload) (failure : CryptoError) (failed : validate payload = .error failure) :
    ∃ field, failure = .missingField field := by
  rw [validate] at failed
  by_cases unnamed : payload.name = ""
  · rw [if_pos unnamed] at failed
    cases failed
    exact ⟨_, rfl⟩
  · by_cases untyped : payload.providerType = ""
    · rw [if_neg unnamed, if_pos untyped] at failed
      cases failed
      exact ⟨_, rfl⟩
    · by_cases empty : payload.credentials = ∅
      · rw [if_neg unnamed, if_neg untyped, if_pos empty] at failed
        cases failed
        exact ⟨_, rfl⟩
      · rw [if_neg unnamed, if_neg untyped, if_neg empty] at failed
        cases failed

theorem read_payload_error (plaintext : List UInt8) (failure : CryptoError)
    (failed : readPayload serde plaintext = .error failure) :
    (∃ reason, failure = .invalidJson reason) ∨ ∃ field, failure = .missingField field := by
  rw [readPayload] at failed
  rcases bind_error _ _ _ failed with text | ⟨json, _, later⟩
  · obtain ⟨reason, same⟩ := map_error_error _ _ _ text
    exact .inl ⟨_, same⟩
  · rcases bind_error _ _ _ later with shape | ⟨payload, _, last⟩
    · obtain ⟨reason, same⟩ := map_error_error _ _ _ shape
      exact .inl ⟨_, same⟩
    · rcases bind_error _ _ _ last with invalid | ⟨_, _, impossible⟩
      · exact .inr (validate_error payload failure invalid)
      · cases impossible

theorem judged_version (opened : Option (List UInt8)) (version : UInt8) :
    judged serde opened ≠ .error (.unsupportedVersion version) := by
  intro failed
  cases opened with
  | none => cases failed
  | some plaintext =>
      rcases read_payload_error serde plaintext _ failed with ⟨reason, impossible⟩ | ⟨field, impossible⟩
      · cases impossible
      · cases impossible

theorem key_of_none (bytes : List UInt8) (password : String) :
    keyOf crates bytes password = none ↔ versionOf bytes ∉ [1, 2, 3] := by
  rw [keyOf]
  by_cases first : versionOf bytes = 1
  · simp [first]
  · by_cases second : versionOf bytes = 2
    · simp [second]
    · by_cases third : versionOf bytes = 3 <;> simp [first, second, third]

def aesGcm : Handler Plaintext Unit where
  answer
    | .decrypt key nonce message, state => (crates.decrypt key nonce message, state)

theorem read_iterations_unchecked (bytes : List UInt8) (version : UInt8) :
    readIterations bytes version 5 = .done (Scexport.readIterations bytes version) := by
  rw [readIterations, Scexport.readIterations]
  by_cases counted : version = versionV3
  · by_cases short : bytes.length < 5 + 4
    · rw [if_pos counted, if_pos counted, if_pos short, if_pos short]
      rfl
    · rw [if_pos counted, if_pos counted, if_neg short, if_neg short, slice_four bytes 5 (by omega)]
      rw [byte_at_inside bytes 5 (by omega), byte_at_inside bytes (5 + 1) (by omega),
        byte_at_inside bytes (5 + 2) (by omega), byte_at_inside bytes (5 + 3) (by omega)]
      rfl
  · rw [if_neg counted, if_neg counted]
    rfl

theorem decrypt_from_unchecked (bytes : List UInt8) (password : String) (version : UInt8) (iterations : UInt32) (offset : Nat) :
    (exec (aesGcm crates) (decryptFrom crates serde bytes password version iterations offset) ()).outcome = some
      (if bytes.length < offset + saltLen + nonceLen + tagLen then .error (.invalidFormat "truncated salt/nonce/ciphertext")
      else deriveKey crates version password (slice bytes offset saltLen) iterations >>= fun key =>
        judged serde (crates.decrypt key (slice bytes (offset + saltLen) nonceLen) (bytes.drop (offset + saltLen + nonceLen)))) := by
  by_cases short : bytes.length < offset + 44
  · rw [decrypt_from_short crates serde bytes password version iterations offset short]
    rw [if_pos (by rw [saltLen, nonceLen, tagLen]; omega)]
    rfl
  · rw [decrypt_from_whole crates serde bytes password version iterations offset (by omega)]
    rw [if_neg (by rw [saltLen, nonceLen, tagLen]; omega), saltLen]
    cases deriveKey crates version password (slice bytes offset 16) iterations <;> rfl

-- The checked reading, with the cipher of the crates behind it, is the plain one.
theorem decrypt_unchecked (bytes : List UInt8) (password : String) :
    (exec (aesGcm crates) (decrypt crates serde bytes password) ()).outcome =
      some (Scexport.decrypt crates serde bytes password) := by
  by_cases header : bytes.length < 5
  · rw [decrypt_headless crates serde bytes password header, Scexport.decrypt]
    rw [if_pos header]
    rfl
  · by_cases marked : magic <+: bytes
    · have plain : Scexport.decrypt crates serde bytes password = Scexport.readIterations bytes (versionOf bytes) >>= fun read =>
          if bytes.length < read.2 + saltLen + nonceLen + tagLen then .error (.invalidFormat "truncated salt/nonce/ciphertext")
          else deriveKey crates (versionOf bytes) password (slice bytes read.2 saltLen) read.1 >>= fun key =>
            judged serde (crates.decrypt key (slice bytes (read.2 + saltLen) nonceLen)
              (bytes.drop (read.2 + saltLen + nonceLen))) := by
        rw [Scexport.decrypt]
        rw [if_neg header, if_neg (not_not_intro ((slice_magic bytes).mpr marked))]
        rfl
      rw [plain, decrypt_marked crates serde bytes password marked (by omega), read_iterations_unchecked]
      cases Scexport.readIterations bytes (versionOf bytes) with
      | error failure => rfl
      | ok read =>
          rw [Prog.bind_ok]
          exact decrypt_from_unchecked crates serde bytes password (versionOf bytes) read.1 read.2
    · rw [decrypt_unmarked crates serde bytes password header marked, Scexport.decrypt]
      rw [if_neg header, if_pos (mt (slice_magic bytes).mp marked)]
      rfl

theorem decrypt_second_version (rest : List UInt8) (password : String) :
    decrypt crates serde (magic ++ ([2] ++ rest)) password =
      decrypt crates serde (magic ++ ([3, 0x00, 0x09, 0x27, 0xC0] ++ rest)) password := by
  have implied := decrypt_header crates serde (magic ++ [2] ++ rest) password
    (by rw [List.append_assoc]; exact List.prefix_append _ _) (by rw [List.length_append]; exact Nat.le_add_right _ _)
  have counted := decrypt_header crates serde (magic ++ [3, 0x00, 0x09, 0x27, 0xC0] ++ rest) password
    (by rw [List.append_assoc]; exact List.prefix_append _ _) (by rw [List.length_append]; exact Nat.le_add_right _ _)
  have first : headerLength (magic ++ [2] ++ rest) = 5 := rfl
  have second : headerLength (magic ++ [3, 0x00, 0x09, 0x27, 0xC0] ++ rest) = 9 := rfl
  rw [← List.append_assoc, ← List.append_assoc, implied, counted, first, second]
  have five : (magic ++ [2] ++ rest).length = 5 + rest.length := List.length_append
  have nine : (magic ++ [3, 0x00, 0x09, 0x27, 0xC0] ++ rest).length = 9 + rest.length := List.length_append
  by_cases short : rest.length < 44
  · rw [decrypt_from_short crates serde _ password _ _ 5 (by omega), decrypt_from_short crates serde _ password _ _ 9 (by omega)]
  · rw [decrypt_from_whole crates serde _ password _ _ 5 (by omega), decrypt_from_whole crates serde _ password _ _ 9 (by omega)]
    have shorter : ∀ offset length, slice (magic ++ [2] ++ rest) (5 + offset) length = slice rest offset length :=
      slice_after (magic ++ [2]) rest
    have longer : ∀ offset length, slice (magic ++ [3, 0x00, 0x09, 0x27, 0xC0] ++ rest) (9 + offset) length =
        slice rest offset length := slice_after (magic ++ [3, 0x00, 0x09, 0x27, 0xC0]) rest
    have salts := (shorter 0 16).trans (longer 0 16).symm
    have nonces := (shorter 16 12).trans (longer 16 12).symm
    have tails : (magic ++ [2] ++ rest).drop (5 + 28) = (magic ++ [3, 0x00, 0x09, 0x27, 0xC0] ++ rest).drop (9 + 28) := by
      have left : (magic ++ [2] ++ rest).drop 5 = rest := List.drop_left' rfl
      have right : (magic ++ [3, 0x00, 0x09, 0x27, 0xC0] ++ rest).drop 9 = rest := List.drop_left' rfl
      rw [← List.drop_drop, ← List.drop_drop, left, right]
    rw [salts, nonces, tails]
    rfl

theorem decrypt_container_exact (bytes : List UInt8) (password : String) :
    Ends (decrypt crates serde bytes password) (fun trace result =>
      (bytes.length < 5 ∨ ¬ magic <+: bytes ∨ bytes.length < headerLength bytes + 44 →
        trace = [] ∧ ∃ reason, result = .error (.invalidFormat reason)) ∧
      (magic <+: bytes → headerLength bytes + 44 ≤ bytes.length →
        ((∃ version, result = .error (.unsupportedVersion version)) ↔ versionOf bytes ∉ [1, 2, 3]) ∧
        (versionOf bytes ∉ [1, 2, 3] → trace = [] ∧ result = .error (.unsupportedVersion (versionOf bytes))) ∧
        (versionOf bytes ∈ [1, 2, 3] → ∃ key opened, keyOf crates bytes password = some key ∧
          trace = [⟨.decrypt key (slice bytes (headerLength bytes + 16) 12) (bytes.drop (headerLength bytes + 28)), opened⟩] ∧
          result = judged serde opened))) ∧
    ∀ rest, decrypt crates serde (magic ++ ([2] ++ rest)) password =
      decrypt crates serde (magic ++ ([3, 0x00, 0x09, 0x27, 0xC0] ++ rest)) password := by
  refine ⟨?_, fun rest => decrypt_second_version crates serde rest password⟩
  by_cases short : bytes.length < 5 ∨ ¬ magic <+: bytes ∨ bytes.length < headerLength bytes + 44
  · obtain ⟨reason, refused⟩ := decrypt_short crates serde bytes password short
    rw [refused]
    apply ends_done
    refine ⟨fun _ => ⟨rfl, reason, rfl⟩, ?_⟩
    intro marked whole
    have bounds := header_length_bounds bytes
    rcases short with header | unmarked | truncated
    · omega
    · exact absurd marked unmarked
    · omega
  · have marked : magic <+: bytes := by tauto
    have whole : headerLength bytes + 44 ≤ bytes.length := by
      by_contra truncated
      exact short (.inr (.inr (by omega)))
    have unkeyed := key_of_none crates bytes password
    rw [decrypt_header crates serde bytes password marked (by omega), decrypt_from_whole _ _ _ _ _ _ _ whole]
    rw [show 16 = saltLen from rfl, derive_key crates bytes password]
    cases held : keyOf crates bytes password with
    | none =>
        have unknown := unkeyed.mp held
        apply ends_done
        refine ⟨fun impossible => absurd impossible short, ?_⟩
        intro _ _
        exact ⟨⟨fun _ => unknown, fun _ => ⟨_, rfl⟩⟩, fun _ => ⟨rfl, rfl⟩, fun known => absurd known unknown⟩
    | some key =>
        have known : versionOf bytes ∈ [1, 2, 3] := by
          by_contra unknown
          rw [unkeyed.mpr unknown] at held
          cases held
        apply ends_ask
        intro opened
        apply ends_done
        refine ⟨fun impossible => absurd impossible short, ?_⟩
        intro _ _
        refine ⟨⟨?_, fun unknown => absurd known unknown⟩, fun unknown => absurd known unknown, fun _ => ⟨key, opened, rfl, rfl, rfl⟩⟩
        rintro ⟨version, same⟩
        exact absurd same (judged_version serde opened version)

end Container

end StackConnect.Scexport
