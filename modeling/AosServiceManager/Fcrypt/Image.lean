/-
Module: AosServiceManager.Fcrypt.Image
Layer: Core and Proofs
Purpose: The image half of package `fcrypt`: `parseCertificates`, `getAndVerifySignCert`,
  `checkSign` and `DecryptImage` (src/fcrypt/fcrypt.go:167-275, 312-348). `DecryptImage` decrypts
  the image into a temporary file with `decrypt` (Fcrypt.Decrypt), whose `fout.Write` is
  unchecked, and then checks the signature over what `io.Copy` reads back from that file. Three
  predicates say what the pipeline is for: the image decrypts to a plaintext, the certificate
  chain verifies, the signature over the bytes the file holds verifies. The main result reads the
  returned name from them, says that the file of a returned name holds exactly bytes whose
  signature verified, and says what the temporary file holds on every path: it is never removed,
  so a plaintext whose signature fails is left behind.
Imports: Mathlib.Data.List.Forall2, AosServiceManager.Fcrypt.Decrypt
Trusted boundary: encoding/pem, crypto/x509 (certificate parsing, the CA pool and chain
  verification), the hash functions and crypto/rsa's verifiers, all fields of `SignEnv`; the
  file-system calls, fields of `ImageFiles`: a write stores a prefix of its bytes, and a read of
  the temporary file after `f.Seek(0, 0)`, whose error is dropped, returns what the file holds or
  fails.
Main exports: SignEnv, parseCertificates, getAndVerifySignCert, checkSign, DecryptImage,
  DecryptsTo, ChainVerifies, SignatureVerifies, decrypt_ok_iff, checkSign_eq_none_iff,
  DecryptImage_contract
-/
import Mathlib.Data.List.Forall2
import AosServiceManager.Fcrypt.Decrypt

namespace AosServiceManager.Fcrypt

/-- A PEM block as `pem.Decode` returns it. -/
structure PemBlock where
  type : String
  headers : List (String × String)
  bytes : List UInt8
deriving Repr, DecidableEq

/-- The hash functions of `crypto` that `checkSign` names. -/
inductive HashFunc where
  | sha1 | sha224 | sha256 | sha384 | sha512 | sha512_224 | sha512_256
deriving Repr, DecidableEq

/-- The calls of `checkSign` into other packages, for certificates of type `Cert` and RSA public
keys of type `Key`: the blocks `pem.Decode` returns one after another until it finds none,
`x509.ParseCertificate`, the `ioutil.ReadFile` of `fcryptCfg.CACert` in `getCaCertPool`
(fcrypt.go:40-51), `Certificate.Verify` of a certificate with its intermediates against the
pool built from that file, `hashFunc.New()` then `Sum(nil)`, the type switch of
`extractKeyFromCert` (fcrypt.go:113-121), `rsa.VerifyPKCS1v15` and `rsa.VerifyPSS`. -/
structure SignEnv (Cert Key : Type) where
  decodePem : String → List PemBlock
  parseCertificate : List UInt8 → Except String Cert
  readCACert : Except String (List UInt8)
  verify : List UInt8 → Cert → List Cert → GoError
  hash : HashFunc → List UInt8 → List UInt8
  rsaPublicKey : Cert → Option Key
  verifyPKCS1v15 : Key → HashFunc → List UInt8 → List UInt8 → GoError
  verifyPSS : Key → HashFunc → List UInt8 → List UInt8 → GoError

/-- The `switch hashAlg` of `checkSign` (fcrypt.go:229-246). -/
def hashFunc : String → Option HashFunc
  | "SHA1" => some .sha1
  | "SHA224" => some .sha224
  | "SHA256" => some .sha256
  | "SHA384" => some .sha384
  | "SHA512" => some .sha512
  | "SHA512/224" => some .sha512_224
  | "SHA512/256" => some .sha512_256
  | _ => none

section Pipeline

variable {Cert Key : Type} (env : SignEnv Cert Key)

/-- `parseCertificates` (fcrypt.go:167-181): every block a `CERTIFICATE` without headers,
parsed in order; the first failure ends the loop. -/
def parseCertificates : List PemBlock → Except String (List Cert)
  | [] => .ok []
  | block :: blocks =>
    if block.type ≠ "CERTIFICATE" ∨ block.headers ≠ [] then .error "Invalid PEM Block"
    else
      match env.parseCertificate block.bytes with
      | .error err => .error err
      | .ok cert =>
        match parseCertificates blocks with
        | .error err => .error err
        | .ok certs => .ok (cert :: certs)

/-- `getAndVerifySignCert` (fcrypt.go:182-217): the first certificate signs, the others are its
intermediates, and the CA file is read after the chain is parsed. -/
def getAndVerifySignCert (certificates : String) : Except String Cert :=
  match parseCertificates env (env.decodePem certificates) with
  | .error err => .error err
  | .ok [] => .error "No certificates found in certificate chain"
  | .ok (signCertificate :: intermediates) =>
    match env.readCACert with
    | .error err => .error err
    | .ok caCert =>
      match env.verify caCert signCertificate intermediates with
      | some err => .error err
      | none => .ok signCertificate

/-- `extractKeyFromCert` (fcrypt.go:113-121). -/
def extractKeyFromCert (cert : Cert) : Except String Key :=
  match env.rsaPublicKey cert with
  | none => .error "Unknown public key type"
  | some key => .ok key

/-- `checkSign` (fcrypt.go:219-275); `contents` is what `io.Copy` into the hash reads from the
file after `f.Seek(0, 0)`, or its error. -/
def checkSign (contents : Except String (List UInt8)) (signatureAlg hashAlg signatureScheme : String)
    (signature : List UInt8) (certificates : String) : GoError :=
  match getAndVerifySignCert env certificates with
  | .error err => some err
  | .ok signCert =>
    match hashFunc hashAlg with
    | none => some ("Unknown hashing algorithm: " ++ hashAlg)
    | some hashFn =>
      match contents with
      | .error err => some err
      | .ok contents =>
        let h := env.hash hashFn contents
        if signatureAlg = "RSA" then
          match extractKeyFromCert env signCert with
          | .error err => some err
          | .ok key =>
            if signatureScheme = "PKCS1v1_5" then env.verifyPKCS1v15 key hashFn h signature
            else if signatureScheme = "PSS" then env.verifyPSS key hashFn h signature
            else some ("Unknown scheme for RSA signature: " ++ signatureScheme)
        else some ("Unknown signature alg: " ++ signatureAlg)

/-- The file-system calls of `DecryptImage`: `ioutil.TempFile("", "fcrypt")` with the name of the
file it creates, `os.Open` of a path, `ioutil.ReadAll` of the opened file, the bytes that the
unchecked `fout.Write(outdata)` of `decrypt` stores, which a short write cuts to a prefix, and the
`io.Copy` of `checkSign` from the temporary file, which reads back what the file holds or fails. -/
structure ImageFiles where
  tempFile : Except String String
  openFile : String → GoError
  readAll : String → Except String (List UInt8)
  written : List UInt8 → List UInt8
  written_prefix : ∀ data, written data <+: data
  copy : List UInt8 → Except String (List UInt8)
  copy_reads : ∀ contents read, copy contents = .ok read → read = contents

/-- A file `DecryptImage` leaves in the temporary directory. -/
structure TempFile where
  name : String
  contents : List UInt8
deriving Repr, DecidableEq

/-- `DecryptImage` (fcrypt.go:312-348): its outcome, the name `fout.Name()` or an error with an
empty name, and the temporary file it leaves, which no path removes. `decrypt` writes to it only
when it succeeds, and `checkSign` hashes what `io.Copy` reads back from it. -/
def DecryptImage (aes : List UInt8 → BlockCipher) (files : ImageFiles) (fname : String)
    (signature key iv : List UInt8)
    (signatureAlg hashAlg signatureScheme cryptoAlg cryptoMode certificates : String) :
    GoOutcome String × Option TempFile :=
  match files.tempFile with
  | .error err => (.error err, none)
  | .ok name =>
    match files.openFile fname with
    | some err => (.error err, some ⟨name, []⟩)
    | none =>
      match decrypt aes (files.readAll fname) key iv cryptoAlg cryptoMode with
      | .error err => (.error err, some ⟨name, []⟩)
      | .panic msg => (.panic msg, some ⟨name, []⟩)
      | .ok outdata =>
        let contents := files.written outdata
        match checkSign env (files.copy contents) signatureAlg hashAlg signatureScheme signature
            certificates with
        | some err => (.error err, some ⟨name, contents⟩)
        | none => (.ok name, some ⟨name, contents⟩)

/-! ### What the pipeline is for -/

/-- `plain` is the image: an AES key and a one-block IV, and the file reads back as whole
blocks whose CBC decryption is `plain` followed by PKCS#7 padding. -/
def DecryptsTo (aes : List UInt8 → BlockCipher) (readAll : Except String (List UInt8))
    (key iv : List UInt8) (cryptoAlg cryptoMode : String) (plain : List UInt8) : Prop :=
  (cryptoAlg = "AES128" ∨ cryptoAlg = "AES192" ∨ cryptoAlg = "AES256") ∧ ValidKey key ∧
    cryptoMode = "CBC" ∧ iv.length = 16 ∧
    ∃ indata, readAll = .ok indata ∧ indata.length % 16 = 0 ∧
      ∃ p, 1 ≤ p ∧ p ≤ 16 ∧ cbcBlocks (aes key) iv (indata.length / 16) indata =
        plain ++ List.replicate p (UInt8.ofNat p)

/-- A PEM block that parses to `cert`. -/
def CertificateBlock (block : PemBlock) (cert : Cert) : Prop :=
  block.type = "CERTIFICATE" ∧ block.headers = [] ∧ env.parseCertificate block.bytes = .ok cert

/-- `cert` heads a verified chain: the PEM text is certificate blocks only, the first parses to
`cert`, the rest to its intermediates, and the chain verifies against the CA file. -/
def ChainVerifies (certificates : String) (cert : Cert) : Prop :=
  ∃ intermediates roots,
    List.Forall₂ (CertificateBlock env) (env.decodePem certificates) (cert :: intermediates) ∧
      env.readCACert = .ok roots ∧ env.verify roots cert intermediates = none

/-- `signature` is an RSA signature, by the RSA key of `cert`, over the hash of `contents` under a
named hash function and scheme. -/
def SignatureVerifies (cert : Cert) (contents : List UInt8)
    (signatureAlg hashAlg signatureScheme : String) (signature : List UInt8) : Prop :=
  signatureAlg = "RSA" ∧ ∃ hashFn key, hashFunc hashAlg = some hashFn ∧
    env.rsaPublicKey cert = some key ∧
    (signatureScheme = "PKCS1v1_5" ∧
        env.verifyPKCS1v15 key hashFn (env.hash hashFn contents) signature = none ∨
      signatureScheme = "PSS" ∧
        env.verifyPSS key hashFn (env.hash hashFn contents) signature = none)

/-! ### Each stage against its predicate -/

/-- `parseCertificates` succeeds exactly when every block parses, in order, to the certificate
at its place. -/
theorem parseCertificates_ok_iff :
    ∀ (blocks : List PemBlock) (certs : List Cert),
      parseCertificates env blocks = .ok certs ↔ List.Forall₂ (CertificateBlock env) blocks certs
  | [], certs => by
    rw [List.forall₂_nil_left_iff, parseCertificates, Except.ok.injEq, eq_comm]
  | block :: blocks, certs => by
    unfold parseCertificates
    by_cases invalid : block.type ≠ "CERTIFICATE" ∨ block.headers ≠ []
    · rw [if_pos invalid]
      refine iff_of_false (by simp) fun chain => ?_
      cases chain with
      | cons head _ => exact invalid.elim (· head.1) (· head.2.1)
    rw [if_neg invalid]
    cases parsed : env.parseCertificate block.bytes with
    | error err => cases certs <;> simp [CertificateBlock, parsed]
    | ok cert =>
      have valid : block.type = "CERTIFICATE" ∧ block.headers = [] := by
        simpa only [not_or, not_not] using invalid
      cases certs with
      | nil => cases parseCertificates env blocks <;> simp
      | cons first rest =>
        rw [List.forall₂_cons, ← parseCertificates_ok_iff blocks rest]
        cases parseCertificates env blocks <;> simp [CertificateBlock, parsed, valid, and_comm]

/-- `getAndVerifySignCert` returns exactly the head of a verified chain. -/
theorem getAndVerifySignCert_ok_iff (certificates : String) (cert : Cert) :
    getAndVerifySignCert env certificates = .ok cert ↔ ChainVerifies env certificates cert := by
  unfold getAndVerifySignCert ChainVerifies
  simp only [← parseCertificates_ok_iff]
  cases parseCertificates env (env.decodePem certificates) with
  | error err => simp
  | ok certs =>
    cases certs with
    | nil => simp
    | cons signCert intermediates =>
      cases env.readCACert with
      | error err => simp
      | ok roots =>
        simp only [Except.ok.injEq, List.cons.injEq]
        constructor
        · intro signed
          cases verified : env.verify roots signCert intermediates <;> simp [verified] at signed
          subst signed
          exact ⟨intermediates, roots, ⟨rfl, rfl⟩, rfl, verified⟩
        · rintro ⟨_, _, ⟨rfl, rfl⟩, rfl, verified⟩
          simp only [verified]

/-- `checkSign` passes exactly when the contents were read, the chain verifies and the signature
over the contents verifies under the key of the chain's first certificate. -/
theorem checkSign_eq_none_iff (contents : Except String (List UInt8))
    (signatureAlg hashAlg signatureScheme : String) (signature : List UInt8)
    (certificates : String) :
    checkSign env contents signatureAlg hashAlg signatureScheme signature certificates = none ↔
      ∃ read, contents = .ok read ∧ ∃ cert, ChainVerifies env certificates cert ∧
        SignatureVerifies env cert read signatureAlg hashAlg signatureScheme signature := by
  simp only [← getAndVerifySignCert_ok_iff]
  unfold checkSign SignatureVerifies extractKeyFromCert
  cases getAndVerifySignCert env certificates with
  | error err => simp
  | ok cert =>
    cases hashFunc hashAlg with
    | none => simp
    | some hashFn =>
      cases contents with
      | error err => simp
      | ok read =>
        by_cases rsa : signatureAlg = "RSA"
        case neg => simp [rsa]
        cases found : env.rsaPublicKey cert with
        | none => simp [rsa, found]
        | some key =>
          by_cases pkcs : signatureScheme = "PKCS1v1_5"
          · simp [rsa, found, pkcs]
          by_cases pss : signatureScheme = "PSS"
          · simp [rsa, found, pss]
          · simp [rsa, found, pkcs, pss]

end Pipeline

/-- CBC decryption then unpadding under a one-block IV succeeds exactly on whole blocks whose
decryption ends in PKCS#7 padding, and returns what precedes it. -/
theorem cbcDecrypt_unpad_ok_iff (cipher : BlockCipher) {iv : List UInt8}
    (ivSized : iv.length = 16) (data plain : List UInt8) :
    ((cbcDecrypt cipher iv data).andThen fun outdata => removePkcs7Padding outdata 16) = .ok plain ↔
      data.length % 16 = 0 ∧ ∃ p, 1 ≤ p ∧ p ≤ 16 ∧ cbcBlocks cipher iv (data.length / 16) data =
        plain ++ List.replicate p (UInt8.ofNat p) := by
  by_cases whole : data.length % 16 = 0
  · have sized : (cbcBlocks cipher iv (data.length / 16) data).length = data.length :=
      cbcBlocks_length cipher _ iv data ivSized (by simp only [blockSize]; omega)
    simp only [cbcDecrypt, blockSize, ivSized, whole, ne_eq, not_true_eq_false, if_false,
      GoOutcome.andThen, removePkcs7Padding_ok_iff (by decide : 0 < 16) (by decide), sized,
      true_and]
  · simp [cbcDecrypt, blockSize, ivSized, whole, GoOutcome.andThen]

/-- `decrypt` returns exactly the plaintext the image decrypts to. -/
theorem decrypt_ok_iff (aes : List UInt8 → BlockCipher) (readAll : Except String (List UInt8))
    (key iv : List UInt8) (cryptoAlg cryptoMode : String) (plain : List UInt8) :
    decrypt aes readAll key iv cryptoAlg cryptoMode = .ok plain ↔
      DecryptsTo aes readAll key iv cryptoAlg cryptoMode plain := by
  unfold decrypt DecryptsTo
  by_cases alg : cryptoAlg = "AES128" ∨ cryptoAlg = "AES192" ∨ cryptoAlg = "AES256"
  case neg => simp [alg]
  by_cases validKey : ValidKey key
  case neg =>
    have cipherErr : newCipher aes key = .error _ := if_neg validKey
    simp [alg, validKey, cipherErr]
  have cipherOk : newCipher aes key = .ok (aes key) := if_pos validKey
  by_cases mode : cryptoMode = "CBC"
  case neg => simp [alg, cipherOk, mode]
  simp only [alg, cipherOk, validKey, mode, if_true, true_and, blockSize]
  by_cases ivSized : iv.length = 16
  case neg => simp [ivSized]
  cases readAll with
  | error err => simp [ivSized]
  | ok indata =>
    simp only [ivSized, ne_eq, not_true_eq_false, if_false, Except.ok.injEq, exists_eq_left',
      true_and]
    exact cbcDecrypt_unpad_ok_iff (aes key) ivSized indata plain

/-! ### `DecryptImage` -/

section Image

variable {Cert Key : Type} (env : SignEnv Cert Key) (aes : List UInt8 → BlockCipher)
  (files : ImageFiles) (fname : String) (signature key iv : List UInt8)
  (signatureAlg hashAlg signatureScheme cryptoAlg cryptoMode certificates : String)

/-- What `io.Copy` reads back is what the file holds, so a read that succeeds is one of the
contents themselves. -/
theorem ImageFiles.exists_copy_iff (files : ImageFiles) (contents : List UInt8)
    (holds : List UInt8 → Prop) :
    (∃ read, files.copy contents = .ok read ∧ holds read) ↔
      files.copy contents = .ok contents ∧ holds contents :=
  ⟨fun ⟨_, copied, held⟩ => by
    obtain rfl := files.copy_reads _ _ copied
    exact ⟨copied, held⟩, fun ⟨copied, held⟩ => ⟨contents, copied, held⟩⟩

/-- `DecryptImage` returns a name exactly when the temporary file was created under it, the
image opened, `decrypt` succeeded and `checkSign` passed on what `io.Copy` read back of what the
write stored. -/
theorem DecryptImage_ok_iff (name : String) :
    (DecryptImage env aes files fname signature key iv signatureAlg hashAlg signatureScheme
        cryptoAlg cryptoMode certificates).1 = .ok name ↔
      files.tempFile = .ok name ∧ files.openFile fname = none ∧
        ∃ plain, decrypt aes (files.readAll fname) key iv cryptoAlg cryptoMode = .ok plain ∧
          checkSign env (files.copy (files.written plain)) signatureAlg hashAlg signatureScheme
            signature certificates = none := by
  unfold DecryptImage
  cases files.tempFile with
  | error err => simp
  | ok created =>
    cases files.openFile fname with
    | some err => simp
    | none =>
      cases decrypt aes (files.readAll fname) key iv cryptoAlg cryptoMode with
      | error err => simp
      | panic msg => simp
      | ok outdata =>
        cases signed : checkSign env (files.copy (files.written outdata)) signatureAlg hashAlg
          signatureScheme signature certificates <;> simp [signed, eq_comm]

/-- Once created, the temporary file is left on every path, holding what the write stored of
what `decrypt` returned when it succeeded. -/
theorem DecryptImage_tempFile (name : String) (created : files.tempFile = .ok name) :
    ∃ contents, (DecryptImage env aes files fname signature key iv signatureAlg hashAlg
        signatureScheme cryptoAlg cryptoMode certificates).2 = some ⟨name, contents⟩ ∧
      ∀ plain, files.openFile fname = none →
        decrypt aes (files.readAll fname) key iv cryptoAlg cryptoMode = .ok plain →
        contents = files.written plain := by
  unfold DecryptImage
  rw [created]
  cases opened : files.openFile fname with
  | some err => exact ⟨[], rfl, fun _ unopened => nomatch unopened⟩
  | none =>
    cases decrypted : decrypt aes (files.readAll fname) key iv cryptoAlg cryptoMode with
    | error err => exact ⟨[], rfl, fun _ _ ok => nomatch ok⟩
    | panic msg => exact ⟨[], rfl, fun _ _ ok => nomatch ok⟩
    | ok outdata =>
      refine ⟨files.written outdata, ?_, fun _ _ ok => congrArg files.written (GoOutcome.ok.inj ok)⟩
      dsimp only
      split <;> rfl

/-- `DecryptImage` returns the temporary file's name exactly when the image decrypts to a
plaintext, the file reads back what the write stored of it, the certificate chain verifies, and
the signature over those bytes verifies under the chain's first certificate; the file of a
returned name therefore holds exactly bytes whose signature verified. Once the temporary file is
created it is left behind on every path, holding what the write stored of the plaintext whenever
decryption succeeded, the signature verified or not; when it cannot be created, nothing is left
and its error is returned. -/
theorem DecryptImage_contract :
    (∀ name, (DecryptImage env aes files fname signature key iv signatureAlg hashAlg
        signatureScheme cryptoAlg cryptoMode certificates).1 = .ok name ↔
      files.tempFile = .ok name ∧ files.openFile fname = none ∧
        ∃ plain, DecryptsTo aes (files.readAll fname) key iv cryptoAlg cryptoMode plain ∧
          files.copy (files.written plain) = .ok (files.written plain) ∧
          ∃ cert, ChainVerifies env certificates cert ∧
            SignatureVerifies env cert (files.written plain) signatureAlg hashAlg
              signatureScheme signature) ∧
      (∀ name, (DecryptImage env aes files fname signature key iv signatureAlg hashAlg
          signatureScheme cryptoAlg cryptoMode certificates).1 = .ok name →
        ∃ contents cert, (DecryptImage env aes files fname signature key iv signatureAlg hashAlg
            signatureScheme cryptoAlg cryptoMode certificates).2 = some ⟨name, contents⟩ ∧
          ChainVerifies env certificates cert ∧
          SignatureVerifies env cert contents signatureAlg hashAlg signatureScheme signature) ∧
      (∀ name, files.tempFile = .ok name →
        ∃ contents, (DecryptImage env aes files fname signature key iv signatureAlg hashAlg
            signatureScheme cryptoAlg cryptoMode certificates).2 = some ⟨name, contents⟩ ∧
          ∀ plain, files.openFile fname = none →
            DecryptsTo aes (files.readAll fname) key iv cryptoAlg cryptoMode plain →
            contents = files.written plain) ∧
      ∀ err, files.tempFile = .error err →
        DecryptImage env aes files fname signature key iv signatureAlg hashAlg signatureScheme
          cryptoAlg cryptoMode certificates = (.error err, none) := by
  refine ⟨fun name => ?_, fun name ok => ?_, fun name created => ?_, fun err failed => ?_⟩
  · rw [DecryptImage_ok_iff]
    simp only [decrypt_ok_iff, checkSign_eq_none_iff, files.exists_copy_iff]
  · rw [DecryptImage_ok_iff] at ok
    obtain ⟨created, opened, plain, decrypted, signed⟩ := ok
    obtain ⟨_, copied, cert, chain, verified⟩ := (checkSign_eq_none_iff env _ _ _ _ _ _).1 signed
    obtain rfl := files.copy_reads _ _ copied
    obtain ⟨contents, leaves, holds⟩ := DecryptImage_tempFile env aes files fname signature key iv
      signatureAlg hashAlg signatureScheme cryptoAlg cryptoMode certificates name created
    exact ⟨contents, cert, leaves, chain, holds plain opened decrypted ▸ verified⟩
  · simpa only [← decrypt_ok_iff] using DecryptImage_tempFile env aes files fname signature key iv
      signatureAlg hashAlg signatureScheme cryptoAlg cryptoMode certificates name created
  · simp only [DecryptImage, failed]

/-- A one-block image that decrypts to `Hi` under an identity cipher, with a chain that verifies
and a signature that does not: the call fails with an empty name, so its caller cannot remove the
temporary file, which holds the unverified plaintext. -/
example :
    let env : SignEnv Unit Unit := ⟨fun _ => [⟨"CERTIFICATE", [], []⟩], fun _ => .ok (), .ok [],
      fun _ _ _ => none, fun _ contents => contents, fun _ => some (),
      fun _ _ _ _ => some "crypto/rsa: verification error",
      fun _ _ _ _ => some "crypto/rsa: verification error"⟩
    let files : ImageFiles :=
      ⟨.ok "/tmp/fcrypt123", fun _ => none, fun _ => .ok ([72, 105] ++ List.replicate 14 14), id,
        List.prefix_refl, .ok, fun _ _ copied => (Except.ok.inj copied).symm⟩
    DecryptImage env (fun _ => ⟨id, fun _ sized => sized⟩) files "image" [] (List.replicate 16 0)
        (List.replicate 16 0) "RSA" "SHA256" "PKCS1v1_5" "AES128" "CBC" "" =
      (.error "crypto/rsa: verification error", some ⟨"/tmp/fcrypt123", [72, 105]⟩) := by
  decide

end Image

end AosServiceManager.Fcrypt
