/-
Module: AosServiceManager.Fcrypt.Decrypt
Layer: Core and Proofs
Purpose: The symmetric half of package `fcrypt`: `decrypt` for image files
  (src/fcrypt/fcrypt.go:123-165), `decryptMessage` and `DecryptMessage` for CMS enveloped data
  (src/fcrypt/cms.go:134-219), and `removePkcs7Padding` (fcrypt.go:277-295), with the run-time
  panics of `cipher.NewCBCDecrypter`, `CryptBlocks` and slice indexing as outcomes. AES itself,
  RSA and the ASN.1 decoder are external: AES is any cipher on 16-byte blocks, RSA any function,
  and `unmarshallCMS` starts from what the decoder returns. `DecryptMessage` takes the first
  recipient whose serial number is the certificate's, whatever its issuer.
Imports: AosServiceManager.Go.Basic
Trusted boundary: crypto/aes, crypto/rsa and encoding/asn1, beyond the length checks modelled.
Main exports: BlockCipher, removePkcs7Padding, decrypt, decryptMessage, unmarshallCMS,
  DecryptMessage, decrypt_panics_iff, decryptMessage_panics_iff,
  decryptMessage_panics_on_empty_content, removePkcs7Padding_contract,
  DecryptMessage_matches_serial_only
-/
import AosServiceManager.Go.Basic

namespace AosServiceManager.Fcrypt

/-- `aes.BlockSize`. -/
def blockSize : Nat := 16

/-- The AES block decryption for one key, as `aes.NewCipher` returns it: 16-byte blocks. -/
structure BlockCipher where
  decrypt : List UInt8 → List UInt8
  decrypt_length : ∀ block, block.length = blockSize → (decrypt block).length = blockSize

/-- `aes.NewCipher(key)`: AES-128, -192 or -256. -/
def newCipher (aes : List UInt8 → BlockCipher) (key : List UInt8) : Except String BlockCipher :=
  if key.length = 16 ∨ key.length = 24 ∨ key.length = 32 then .ok (aes key)
  else .error ("crypto/aes: invalid key size " ++ toString key.length)

/-- Bytewise exclusive or. -/
def xorBytes (a b : List UInt8) : List UInt8 := List.zipWith (· ^^^ ·) a b

/-- CBC decryption of whole blocks: each plaintext block is the cipher's decryption of its
ciphertext block xored with the previous ciphertext block, the IV first. -/
def cbcBlocks (cipher : BlockCipher) : List UInt8 → Nat → List UInt8 → List UInt8
  | _, 0, _ => []
  | previous, n + 1, data =>
    xorBytes (cipher.decrypt (data.take blockSize)) previous ++
      cbcBlocks cipher (data.take blockSize) n (data.drop blockSize)

/-- `NewCBCDecrypter(block, iv)` then `CryptBlocks(outdata, indata)` (crypto/cipher): a panic for
an IV that is not one block, or for input that is not whole blocks. -/
def cbcDecrypt (cipher : BlockCipher) (iv data : List UInt8) : GoOutcome (List UInt8) :=
  if iv.length ≠ blockSize then .panic "cipher.NewCBCDecrypter: IV length must equal block size"
  else if data.length % blockSize ≠ 0 then .panic "crypto/cipher: input not full blocks"
  else .ok (cbcBlocks cipher iv (data.length / blockSize) data)

/-- `removePkcs7Padding` (fcrypt.go:277-295). `l % blocklen` divides by zero for a zero block
length, and `in[l-1]` indexes `-1` for empty input. -/
def removePkcs7Padding (input : List UInt8) (blocklen : Nat) : GoOutcome (List UInt8) :=
  let l := input.length
  if blocklen = 0 then .panic "runtime error: integer divide by zero"
  else if l % blocklen ≠ 0 then .error "Padding error"
  else
    match input.getLast? with
    | none => .panic "runtime error: index out of range [-1]"
    | some last =>
      let pl := last.toNat
      if pl < 1 ∨ pl > blocklen then .error "Padding error"
      else if (input.drop (l - pl)).all (· = last) then .ok (input.take (l - pl))
      else .error "Padding error"

/-- `decrypt` (fcrypt.go:123-165): the bytes it writes to `fout`. `readAll` is what
`ioutil.ReadAll(fin)` returns. -/
def decrypt (aes : List UInt8 → BlockCipher) (readAll : Except String (List UInt8))
    (key iv : List UInt8) (cryptoAlg cryptoMode : String) : GoOutcome (List UInt8) :=
  if cryptoAlg = "AES128" ∨ cryptoAlg = "AES192" ∨ cryptoAlg = "AES256" then
    match newCipher aes key with
    | .error err => .error err
    | .ok block =>
      if cryptoMode = "CBC" then
        if iv.length ≠ blockSize then
          .panic "cipher.NewCBCDecrypter: IV length must equal block size"
        else
          match readAll with
          | .error err => .error err
          | .ok indata =>
            (cbcDecrypt block iv indata).andThen fun outdata =>
              removePkcs7Padding outdata blockSize
      else .error ("Unknown encryption mode: " ++ cryptoMode)
  else .error ("Unknown cryptographic algorithm: " ++ cryptoAlg)

/-- `EncryptedContentInfo` (cms.go:35-39) with its algorithm identifier's parameters. -/
structure EncryptedContentInfo where
  algorithm : List Nat
  parametersTag : Nat
  parametersBytes : List UInt8
  encryptedContent : List UInt8
deriving Repr, DecidableEq

/-- The object identifier `2.16.840.1.101.3.4.1.42` (AES-256-CBC). -/
def aes256CbcOid : List Nat := [2, 16, 840, 1, 101, 3, 4, 1, 42]

/-- The object identifier `1.2.840.113549.1.1.1` (RSA encryption). -/
def rsaEncryptionOid : List Nat := [1, 2, 840, 113549, 1, 1, 1]

/-- `asn1.TagOctetString`. -/
def tagOctetString : Nat := 4

/-- `asn1.TagNull`. -/
def tagNull : Nat := 5

/-- `decryptMessage` (cms.go:155-182). -/
def decryptMessage (aes : List UInt8 → BlockCipher) (eci : EncryptedContentInfo)
    (key : List UInt8) : GoOutcome (List UInt8) :=
  if eci.algorithm = aes256CbcOid then
    if eci.parametersTag ≠ tagOctetString then .error "can't find IV in extended params"
    else
      let iv := eci.parametersBytes
      if iv.length ≠ 16 then .error "invalid IV length"
      else
        match newCipher aes key with
        | .error err => .error err
        | .ok block =>
          (cbcDecrypt block iv eci.encryptedContent).andThen fun outdata =>
            removePkcs7Padding outdata 16
  else .error "unknown symmetric algorithm OID"

/-- `keyTransRecipientInfo` (cms.go:64-69), with the issuer of its `issuerAndSerialNumber`. -/
structure KeyTransRecipientInfo where
  issuer : String
  serialNumber : Int
  keyEncryptionAlgorithm : List Nat
  parametersTag : Nat
  encryptedKey : List UInt8
deriving Repr, DecidableEq

/-- The decoded `envelopedData` (cms.go:51-57) that `unmarshallCMS` returns. -/
structure EnvelopedData where
  recipientInfos : List KeyTransRecipientInfo
  encryptedContentInfo : EncryptedContentInfo
deriving Repr, DecidableEq

/-- A `RecipientInfo` as `asn1.RawValue` (cms.go:24): its tag, and what `asn1.Unmarshal` of its
bytes into a `keyTransRecipientInfo` returns. -/
structure RawRecipientInfo where
  tag : Nat
  unmarshal : Except String KeyTransRecipientInfo

/-- `asnContentInfo` (cms.go:16-19) with its `asnEnvelopedData` (cms.go:21-27), as the ASN.1
decoder fills them. -/
structure AsnContentInfo where
  oid : List Nat
  recipientInfos : List RawRecipientInfo
  encryptedContentInfo : EncryptedContentInfo

/-- The object identifier `1.2.840.113549.1.7.3` (enveloped data). -/
def envelopedDataOid : List Nat := [1, 2, 840, 113549, 1, 7, 3]

/-- `getRecipientInfo` (cms.go:77-90): only a key-transport recipient, a `SEQUENCE` (tag 16). -/
def getRecipientInfo (raw : RawRecipientInfo) : Except String KeyTransRecipientInfo :=
  if raw.tag = 16 then raw.unmarshal else .error "getRecipientInfo: unknown tag"

/-- `unmarshallCMS` (cms.go:184-198) after `asn1.Unmarshal`, whose result is `decoded`: the object
identifier check, then `getContentInfo` and `getEnvelopedData` (cms.go:98-132), which stop at the
first recipient `getRecipientInfo` refuses. -/
def unmarshallCMS (decoded : Except String AsnContentInfo) : Except String EnvelopedData :=
  match decoded with
  | .error err => .error err
  | .ok ci =>
    if ci.oid ≠ envelopedDataOid then .error "unknown object identifier in ContentInfo"
    else (ci.recipientInfos.mapM getRecipientInfo).map fun recipients =>
      ⟨recipients, ci.encryptedContentInfo⟩

/-- `decryptCMSKey` (cms.go:134-153); `rsaDecrypt` is `privKey.Decrypt`. -/
def decryptCMSKey (rsaDecrypt : List UInt8 → Except String (List UInt8))
    (ktri : KeyTransRecipientInfo) : Except String (List UInt8) :=
  if ktri.keyEncryptionAlgorithm = rsaEncryptionOid then
    if ktri.parametersTag ≠ tagNull then .error "extra paramaters for RSA algorithm found"
    else rsaDecrypt ktri.encryptedKey
  else .error "unknown public encryption OID"

/-- `DecryptMessage` (cms.go:200-219) from the decoded CMS structure; `certSerial` is the
certificate's serial number. -/
def DecryptMessage (aes : List UInt8 → BlockCipher)
    (rsaDecrypt : List UInt8 → Except String (List UInt8))
    (parsed : Except String EnvelopedData) (certSerial : Int) : GoOutcome (List UInt8) :=
  match parsed with
  | .error err => .error err
  | .ok ed =>
    match ed.recipientInfos.find? fun r => r.serialNumber = certSerial with
    | none => .error "can't find suiteable recipient"
    | some r =>
      match decryptCMSKey rsaDecrypt r with
      | .error err => .error err
      | .ok dkey => decryptMessage aes ed.encryptedContentInfo dkey

/-! ### Where decryption panics -/

/-- A valid AES key length. -/
def ValidKey (key : List UInt8) : Prop := key.length = 16 ∨ key.length = 24 ∨ key.length = 32

theorem xorBytes_length (a b : List UInt8) : (xorBytes a b).length = min a.length b.length := by
  simp [xorBytes]

theorem cbcBlocks_length (cipher : BlockCipher) :
    ∀ (n : Nat) (previous data : List UInt8), previous.length = blockSize →
      data.length = n * blockSize → (cbcBlocks cipher previous n data).length = data.length
  | 0, _, data, _, sized => by simp at sized; simp [cbcBlocks, sized]
  | n + 1, previous, data, iv, sized => by
    have block : (data.take blockSize).length = blockSize := by
      rw [List.length_take, sized]; simp only [blockSize]; omega
    have rest : (data.drop blockSize).length = n * blockSize := by
      rw [List.length_drop, sized]; simp only [blockSize]; omega
    simp only [cbcBlocks, List.length_append, xorBytes_length, cipher.decrypt_length _ block, iv,
      Nat.min_self, cbcBlocks_length cipher n _ _ block rest]
    rw [rest, sized, Nat.succ_mul, Nat.add_comm]

/-- CBC decryption of whole blocks under a one-block IV keeps the length. -/
theorem cbcDecrypt_ok {cipher : BlockCipher} {iv data : List UInt8} (ivSized : iv.length = 16)
    (whole : data.length % 16 = 0) :
    ∃ outdata, cbcDecrypt cipher iv data = .ok outdata ∧ outdata.length = data.length := by
  refine ⟨cbcBlocks cipher iv (data.length / blockSize) data,
    by simp [cbcDecrypt, blockSize, ivSized, whole], cbcBlocks_length cipher _ _ _ ivSized ?_⟩
  simp only [blockSize]; omega

/-- `removePkcs7Padding` with a positive block length panics exactly on empty input. -/
theorem removePkcs7Padding_panics_iff (input : List UInt8) {blocklen : Nat} (positive : 0 < blocklen) :
    (∃ msg, removePkcs7Padding input blocklen = .panic msg) ↔ input = [] := by
  unfold removePkcs7Padding
  rcases input.eq_nil_or_concat with empty | ⟨front, last, rfl⟩
  · subst empty; simp [Nat.pos_iff_ne_zero.1 positive]
  · simp only [Nat.pos_iff_ne_zero.1 positive, if_false, List.concat_eq_append,
      List.getLast?_concat]
    refine ⟨fun ⟨msg, panicked⟩ => ?_, fun empty => by simp at empty⟩
    split_ifs at panicked

/-! ### What `removePkcs7Padding` accepts -/

/-- PKCS#7 padding of `m` to a whole number of `blocklen`-byte blocks: `p` copies of the byte `p`,
where `p = blocklen - len(m) % blocklen` lies between `1` and `blocklen`. -/
def pkcs7Pad (blocklen : Nat) (m : List UInt8) : List UInt8 :=
  List.replicate (blocklen - m.length % blocklen) (UInt8.ofNat (blocklen - m.length % blocklen))

theorem uint8_ofNat_toNat (x : UInt8) : UInt8.ofNat x.toNat = x :=
  UInt8.toNat.inj (Nat.mod_eq_of_lt x.toNat_lt_size)

/-- A whole number of blocks that ends in `p` copies of the byte `p`, for `1 ≤ p ≤ blocklen`, is
unpadded to what precedes them. -/
theorem removePkcs7Padding_padded {blocklen : Nat} (fits : blocklen ≤ 255) (out : List UInt8)
    {p : Nat} (least : 1 ≤ p) (most : p ≤ blocklen) (whole : (out.length + p) % blocklen = 0) :
    removePkcs7Padding (out ++ List.replicate p (UInt8.ofNat p)) blocklen = .ok out := by
  have byte : (UInt8.ofNat p).toNat = p := Nat.mod_eq_of_lt (by omega)
  have last : (out ++ List.replicate p (UInt8.ofNat p)).getLast? = some (UInt8.ofNat p) := by
    rw [List.getLast?_append, List.getLast?_replicate, if_neg (by omega)]
    rfl
  have front : out.length = out.length + p - p := by omega
  simp only [removePkcs7Padding, List.length_append, List.length_replicate, whole, last, byte,
    if_neg (show blocklen ≠ 0 by omega), if_neg (show ¬(p < 1 ∨ p > blocklen) by omega),
    ne_eq, not_true_eq_false, if_false, ← front, List.drop_left' rfl, List.take_left' rfl]
  rw [if_pos (List.all_eq_true.2 fun x member => by simp [List.eq_of_mem_replicate member])]

/-- `removePkcs7Padding` with a block length from `1` to `255` succeeds exactly on a whole number
of blocks that ends in `p` copies of the byte `p` for some `1 ≤ p ≤ blocklen`, and returns what
precedes them. -/
theorem removePkcs7Padding_ok_iff {blocklen : Nat} (positive : 0 < blocklen) (fits : blocklen ≤ 255)
    (input out : List UInt8) :
    removePkcs7Padding input blocklen = .ok out ↔ input.length % blocklen = 0 ∧
      ∃ p, 1 ≤ p ∧ p ≤ blocklen ∧ input = out ++ List.replicate p (UInt8.ofNat p) := by
  constructor
  · intro ok
    unfold removePkcs7Padding at ok
    rw [if_neg (by omega)] at ok
    split_ifs at ok with whole
    split at ok
    · cases ok
    rename_i last found
    dsimp only at ok
    split_ifs at ok with range uniform
    cases ok
    have nonempty : 0 < input.length := List.length_pos.2 fun empty => by simp [empty] at found
    have long : blocklen ≤ input.length := Nat.le_of_dvd nonempty (Nat.dvd_of_mod_eq_zero (by omega))
    have suffix : input.drop (input.length - last.toNat) =
        List.replicate last.toNat (UInt8.ofNat last.toNat) := by
      rw [uint8_ofNat_toNat, List.eq_replicate_iff]
      exact ⟨by simp only [List.length_drop]; omega, fun x member =>
        of_decide_eq_true (List.all_eq_true.1 uniform x member)⟩
    refine ⟨by omega, last.toNat, by omega, by omega, ?_⟩
    calc input = input.take (input.length - last.toNat) ++ input.drop (input.length - last.toNat) :=
          (List.take_append_drop _ _).symm
      _ = _ := by rw [suffix]
  · rintro ⟨whole, p, least, most, rfl⟩
    refine removePkcs7Padding_padded fits out least most ?_
    simpa using whole

/-- Unpadding inverts PKCS#7 padding for every message and block length from `1` to `255`. -/
theorem removePkcs7Padding_pkcs7Pad {blocklen : Nat} (positive : 0 < blocklen)
    (fits : blocklen ≤ 255) (m : List UInt8) :
    removePkcs7Padding (m ++ pkcs7Pad blocklen m) blocklen = .ok m := by
  have below := Nat.mod_lt m.length positive
  have split := Nat.div_add_mod m.length blocklen
  refine removePkcs7Padding_padded fits m (by omega) (by omega) ?_
  rw [show m.length + (blocklen - m.length % blocklen) = blocklen * (m.length / blocklen + 1) by
    rw [Nat.mul_add, Nat.mul_one]; omega]
  exact Nat.mul_mod_right _ _

/-- The whole contract of `removePkcs7Padding` for block lengths from `1` to `255`: it panics on
empty input and only there, succeeds exactly on padded whole blocks, and inverts padding. -/
theorem removePkcs7Padding_contract {blocklen : Nat} (positive : 1 ≤ blocklen)
    (fits : blocklen ≤ 255) (input : List UInt8) :
    ((∃ msg, removePkcs7Padding input blocklen = .panic msg) ↔ input = []) ∧
      (∀ out, removePkcs7Padding input blocklen = .ok out ↔ input.length % blocklen = 0 ∧
        ∃ p, 1 ≤ p ∧ p ≤ blocklen ∧ input = out ++ List.replicate p (UInt8.ofNat p)) ∧
      ∀ m, removePkcs7Padding (m ++ pkcs7Pad blocklen m) blocklen = .ok m :=
  ⟨removePkcs7Padding_panics_iff input positive, removePkcs7Padding_ok_iff positive fits input,
    removePkcs7Padding_pkcs7Pad positive fits⟩

theorem removePkcs7Padding_contract_at_block_16 :
    1 ≤ 16 ∧ 16 ≤ 255 ∧ removePkcs7Padding [] 16 = .panic "runtime error: index out of range [-1]" ∧
      (((∃ msg, removePkcs7Padding [] 16 = .panic msg) ↔ [] = ([] : List UInt8)) ∧
        (∀ out, removePkcs7Padding [] 16 = .ok out ↔ ([] : List UInt8).length % 16 = 0 ∧
          ∃ p, 1 ≤ p ∧ p ≤ 16 ∧ [] = out ++ List.replicate p (UInt8.ofNat p)) ∧
        ∀ m, removePkcs7Padding (m ++ pkcs7Pad 16 m) 16 = .ok m) :=
  ⟨by decide, by decide, rfl, removePkcs7Padding_contract (by decide) (by decide) []⟩

/-- The decryption and unpadding that both callers run panic, once the IV is one block, exactly
on content that is not a positive number of whole blocks. -/
theorem cbcDecrypt_unpad_panics_iff (cipher : BlockCipher) {iv : List UInt8}
    (ivSized : iv.length = 16) (data : List UInt8) :
    (∃ msg, ((cbcDecrypt cipher iv data).andThen fun outdata =>
        removePkcs7Padding outdata 16) = .panic msg) ↔
      data.length % 16 ≠ 0 ∨ data = [] := by
  by_cases whole : data.length % 16 = 0
  · obtain ⟨outdata, decrypted, sized⟩ := @cbcDecrypt_ok cipher _ _ ivSized whole
    rw [decrypted, GoOutcome.andThen, removePkcs7Padding_panics_iff _ (by decide),
      ← List.length_eq_zero, sized, List.length_eq_zero]
    simp [whole]
  · simp [cbcDecrypt, blockSize, ivSized, whole, GoOutcome.andThen]

/-- `decryptMessage` panics exactly when it reaches `CryptBlocks` or the padding with content
that is not a positive number of whole blocks: the algorithm is AES-256-CBC, the IV is an octet
string of 16 bytes and the key has an AES length. -/
theorem decryptMessage_panics_iff (aes : List UInt8 → BlockCipher) (eci : EncryptedContentInfo)
    (key : List UInt8) :
    (∃ msg, decryptMessage aes eci key = .panic msg) ↔
      eci.algorithm = aes256CbcOid ∧ eci.parametersTag = tagOctetString ∧
        eci.parametersBytes.length = 16 ∧ ValidKey key ∧
        (eci.encryptedContent.length % 16 ≠ 0 ∨ eci.encryptedContent = []) := by
  unfold decryptMessage
  by_cases oid : eci.algorithm = aes256CbcOid
  case neg => simp [oid]
  by_cases tag : eci.parametersTag = tagOctetString
  case neg => simp [oid, tag]
  by_cases ivSized : eci.parametersBytes.length = 16
  case neg => simp [oid, tag, ivSized]
  by_cases validKey : ValidKey key
  case neg =>
    have cipherErr : newCipher aes key = .error _ := if_neg validKey
    simp [oid, tag, ivSized, validKey, cipherErr]
  have cipherOk : newCipher aes key = .ok (aes key) := if_pos validKey
  simp only [oid, tag, ivSized, cipherOk, validKey, ne_eq, not_true_eq_false, if_true, if_false,
    true_and]
  exact cbcDecrypt_unpad_panics_iff (aes key) ivSized _

/-- `decrypt` panics exactly when the algorithm is AES with a valid key and the mode CBC, and
then the IV is not one block, or the file reads back as content that is not a positive number of
whole blocks. -/
theorem decrypt_panics_iff (aes : List UInt8 → BlockCipher) (readAll : Except String (List UInt8))
    (key iv : List UInt8) (cryptoAlg cryptoMode : String) :
    (∃ msg, decrypt aes readAll key iv cryptoAlg cryptoMode = .panic msg) ↔
      (cryptoAlg = "AES128" ∨ cryptoAlg = "AES192" ∨ cryptoAlg = "AES256") ∧ ValidKey key ∧
        cryptoMode = "CBC" ∧
        (iv.length ≠ 16 ∨ ∃ indata, readAll = .ok indata ∧
          (indata.length % 16 ≠ 0 ∨ indata = [])) := by
  unfold decrypt
  by_cases alg : cryptoAlg = "AES128" ∨ cryptoAlg = "AES192" ∨ cryptoAlg = "AES256"
  case neg => simp [alg]
  by_cases validKey : ValidKey key
  case neg =>
    have cipherErr : newCipher aes key = .error _ := if_neg validKey
    simp [alg, validKey, cipherErr]
  have cipherOk : newCipher aes key = .ok (aes key) := if_pos validKey
  by_cases mode : cryptoMode = "CBC"
  case neg => simp [alg, cipherOk, mode]
  simp only [alg, cipherOk, validKey, mode, if_true, true_and, blockSize]
  by_cases ivSized : iv.length = 16
  case neg => simp [ivSized]
  cases readAll with
  | error err => simp [ivSized]
  | ok indata =>
    simp only [ivSized, ne_eq, not_true_eq_false, if_false, false_or, Except.ok.injEq,
      exists_eq_left']
    exact cbcDecrypt_unpad_panics_iff (aes key) ivSized indata

/-- A CMS message whose one recipient matches the certificate and yields a 32-byte key, with
AES-256-CBC content under a 16-byte IV and no encrypted bytes: `CryptBlocks` leaves an empty
buffer, and `removePkcs7Padding` reads `in[len(in)-1]` of it. -/
theorem decryptMessage_panics_on_empty_content (aes : List UInt8 → BlockCipher) :
    DecryptMessage aes (fun _ => .ok (List.replicate 32 0))
      (.ok ⟨[⟨"CN=Aos", 1, rsaEncryptionOid, tagNull, List.replicate 256 0⟩],
        ⟨aes256CbcOid, tagOctetString, List.replicate 16 0, []⟩⟩) 1 =
      .panic "runtime error: index out of range [-1]" := by
  rfl

/-! ### Which recipient `DecryptMessage` uses -/

/-- A certificate of issuer `CN=Aos` with serial number 1. A first recipient of another CA with the
same serial number is taken, its key does not decrypt under the certificate's private key, and
the message fails, though the second recipient is the certificate's own and alone would be used.
A key-agreement recipient (tag 1) before it makes the whole message fail. -/
theorem DecryptMessage_matches_serial_only (aes : List UInt8 → BlockCipher) :
    let rsaDecrypt : List UInt8 → Except String (List UInt8) := fun encryptedKey =>
      if encryptedKey = [2] then .ok (List.replicate 32 0) else .error "crypto/rsa: decryption error"
    let own : KeyTransRecipientInfo := ⟨"CN=Aos", 1, rsaEncryptionOid, tagNull, [2]⟩
    let otherCA : KeyTransRecipientInfo := ⟨"CN=Other", 1, rsaEncryptionOid, tagNull, [1]⟩
    let content : EncryptedContentInfo :=
      ⟨aes256CbcOid, tagOctetString, List.replicate 16 0, List.replicate 16 0⟩
    DecryptMessage aes rsaDecrypt (unmarshallCMS (.ok ⟨envelopedDataOid,
        [⟨16, .ok otherCA⟩, ⟨16, .ok own⟩], content⟩)) 1 = .error "crypto/rsa: decryption error" ∧
      DecryptMessage aes rsaDecrypt (unmarshallCMS (.ok ⟨envelopedDataOid,
        [⟨16, .ok own⟩], content⟩)) 1 = decryptMessage aes content (List.replicate 32 0) ∧
      DecryptMessage aes rsaDecrypt (unmarshallCMS (.ok ⟨envelopedDataOid,
        [⟨1, .error "asn1: structure error: tags don't match"⟩, ⟨16, .ok own⟩], content⟩)) 1 =
        .error "getRecipientInfo: unknown tag" :=
  ⟨rfl, rfl, rfl⟩

end AosServiceManager.Fcrypt
