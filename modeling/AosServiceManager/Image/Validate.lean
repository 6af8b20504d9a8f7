/-
Module: AosServiceManager.Image.Validate
Layer: Core and Proofs
Purpose: `validateDigest` and `validateUnpackedImage` (src/launcher/image.go:133-211): the check
  that an unpacked image's config, service config and root file-system layer hash to the digests
  its manifest declares. A blob is read through `file.Read` into a buffer until an error; every
  sequence of read results is an input. On a read error other than `io.EOF` the loop returns
  the variable `err`, which the successful `os.Open` left `nil`.
Imports: AosServiceManager.Go.Basic
Trusted boundary: the digest algorithm, taken as any function from blob bytes to a hex string.
Main exports: ReadResult, Blob, validateDigest, validateUnpackedImage,
  validateDigest_of_healthy_reads, validateUnpackedImage_accepts_unread_image
-/
import AosServiceManager.Go.Basic

namespace AosServiceManager.Image

/-- The error `file.Read` returns with its bytes. -/
inductive ReadError where
  | eof
  | other (msg : String)
deriving Repr, DecidableEq

/-- One `file.Read(buffer)`: the bytes `buffer[:count]` and the error. -/
structure ReadResult where
  bytes : List UInt8
  err : Option ReadError
deriving Repr, DecidableEq

/-- `digest.Digest`: an algorithm and the hex of the expected hash. -/
structure Digest where
  algorithm : String
  hex : String
deriving Repr, DecidableEq

/-- What `os.Open` of a blob yields: an error, or the results of its successive reads. Reads
past the listed ones return `(0, io.EOF)`. -/
abbrev Blob := Except String (List ReadResult)

/-- The go-digest library as the launcher uses it: `Validate` and the verifier's hash. -/
structure DigestLibrary where
  validate : Digest → GoError
  hash : String → List UInt8 → String

/-- The unpacked image directory: the manifest read and parsed from `manifest.json`, and each
blob under `blobs/<algorithm>/<hex>`. -/
structure ImageDir where
  manifest : Except String (Digest × Option Digest × List Digest)
  blob : Digest → Blob

/-- How the read loop of `validateDigest` (image.go:191-204) ends. -/
inductive ReadLoop where
  /-- `return err` on a read error other than `io.EOF`. -/
  | returned
  /-- `break` after a read with an error, having written `consumed` to the verifier. -/
  | finished (consumed : List UInt8)
deriving Repr, DecidableEq

/-- The read loop, after `consumed` bytes went to the verifier. -/
def readLoop (consumed : List UInt8) : List ReadResult → ReadLoop
  | [] => .finished consumed
  | read :: reads =>
    match read.err with
    | some (.other _) => .returned
    | some .eof => .finished (consumed ++ read.bytes)
    | none => readLoop (consumed ++ read.bytes) reads

/-- `validateDigest` (image.go:177-211). -/
def validateDigest (library : DigestLibrary) (dir : ImageDir) (digest : Digest) : GoError :=
  match library.validate digest with
  | some err => some err
  | none =>
    match dir.blob digest with
    | .error err => some err
    | .ok reads =>
      let err : GoError := none
      match readLoop [] reads with
      | .returned => err
      | .finished consumed =>
        if library.hash digest.algorithm consumed = digest.hex then none
        else some "hash missmach"

/-- `validateUnpackedImage` (image.go:133-162): the image config, the service config when the
manifest names one, and the first layer. -/
def validateUnpackedImage (library : DigestLibrary) (dir : ImageDir) : GoError :=
  match dir.manifest with
  | .error err => some err
  | .ok (config, aosService, layers) =>
    match validateDigest library dir config with
    | some err => some err
    | none =>
      match aosService.bind (validateDigest library dir) with
      | some err => some err
      | none =>
        match layers with
        | [] => some "no layers in image"
        | rootfs :: _ => validateDigest library dir rootfs

/-! ### Reads that end at `io.EOF` -/

/-- Every read returns bytes and no error other than `io.EOF`. -/
def HealthyReads (reads : List ReadResult) : Prop :=
  ∀ read ∈ reads, ∀ msg, read.err ≠ some (.other msg)

/-- The bytes a file yields up to its first `io.EOF`. -/
def content : List ReadResult → List UInt8
  | [] => []
  | read :: reads => if read.err = none then read.bytes ++ content reads else read.bytes

theorem readLoop_of_healthy (consumed : List UInt8) :
    ∀ reads, HealthyReads reads → readLoop consumed reads = .finished (consumed ++ content reads)
  | [], _ => by simp [readLoop, content]
  | read :: reads, healthy => by
    have rest : HealthyReads reads := fun r member => healthy r (List.mem_cons_of_mem _ member)
    obtain ⟨bytes, err⟩ := read
    rcases err with _ | _ | msg
    · simp [readLoop, content, readLoop_of_healthy _ reads rest]
    · simp [readLoop, content]
    · exact absurd rfl (healthy _ (List.mem_cons_self _ _) msg)

/-- When every read ends well, `validateDigest` accepts a blob exactly when its whole content up
to `io.EOF` hashes to the digest. -/
theorem validateDigest_of_healthy_reads (library : DigestLibrary) (dir : ImageDir)
    (digest : Digest) (reads : List ReadResult) (valid : library.validate digest = none)
    (opened : dir.blob digest = .ok reads) (healthy : HealthyReads reads) :
    validateDigest library dir digest = none ↔
      library.hash digest.algorithm (content reads) = digest.hex := by
  simp [validateDigest, valid, opened, readLoop_of_healthy [] reads healthy]

/-- A blob read in one piece up to `io.EOF` is checked against its digest. -/
theorem validateDigest_single_read :
    validateDigest ⟨fun _ => none, fun _ bytes => if bytes = [7] then "h" else ""⟩
        ⟨.error "no manifest", fun _ => .ok [⟨[7], some .eof⟩]⟩ ⟨"sha256", "h"⟩ = none ↔
      (if content [⟨[7], some .eof⟩] = [7] then "h" else "") = "h" :=
  validateDigest_of_healthy_reads _ _ _ _ rfl rfl (by simp [HealthyReads])

theorem readLoop_returned (bytes : List UInt8) (msg : String) (after : List ReadResult) :
    ∀ (consumed : List UInt8) (before : List ReadResult), (∀ read ∈ before, read.err = none) →
      readLoop consumed (before ++ ⟨bytes, some (.other msg)⟩ :: after) = .returned
  | _, [], _ => rfl
  | consumed, read :: before, reading => by
    have rest : ∀ r ∈ before, r.err = none := fun r member => reading r (List.mem_cons_of_mem _ member)
    simp [readLoop, reading read (List.mem_cons_self _ _),
      readLoop_returned bytes msg after _ before rest]

/-- A read error other than `io.EOF`, at any point before the end of the blob, makes
`validateDigest` accept the blob without comparing any hash, whatever the blob, the digest and
the hash. -/
theorem validateDigest_accepts_after_read_error (library : DigestLibrary) (dir : ImageDir)
    (digest : Digest) (before after : List ReadResult) (bytes : List UInt8) (msg : String)
    (valid : library.validate digest = none) (reading : ∀ read ∈ before, read.err = none)
    (opened : dir.blob digest = .ok (before ++ ⟨bytes, some (.other msg)⟩ :: after)) :
    validateDigest library dir digest = none := by
  simp [validateDigest, valid, opened, readLoop_returned bytes msg after [] before reading]

/-- A blob whose first read fails passes under a hash that matches nothing. -/
theorem validateDigest_accepts_failed_first_read :
    validateDigest ⟨fun _ => none, fun _ _ => "never"⟩
      ⟨.error "no manifest", fun _ => .ok [⟨[], some (.other "input/output error")⟩]⟩
      ⟨"sha256", "h"⟩ = none :=
  validateDigest_accepts_after_read_error _ _ _ [] [] [] "input/output error" rfl (by simp) rfl

/-- An image whose three blobs each fail on their first read, under a hash that matches no
content at all: `validateUnpackedImage` accepts it. -/
theorem validateUnpackedImage_accepts_unread_image :
    let library : DigestLibrary := ⟨fun _ => none, fun _ _ => "never"⟩
    let manifest : Digest × Option Digest × List Digest :=
      (⟨"sha256", "c0"⟩, some ⟨"sha256", "a0"⟩, [⟨"sha256", "l0"⟩])
    let dir : ImageDir := ⟨.ok manifest, fun _ => .ok [⟨[], some (.other "input/output error")⟩]⟩
    validateUnpackedImage library dir = none ∧
      ∀ digest ∈ [manifest.1, ⟨"sha256", "a0"⟩, ⟨"sha256", "l0"⟩], ∀ bytes,
        library.hash digest.algorithm bytes ≠ digest.hex := by
  refine ⟨rfl, ?_⟩
  simp

end AosServiceManager.Image
