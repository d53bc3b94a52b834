import TypedYaml.Gzip.Inflate

/-!
# Compressed files

A file starts with a header, whose parts are marked by flags. After the compressed data come the
checksum and the length of what was compressed. Anything after that is left alone.

* `Gzip.checksum`: the checksum of a list of bytes.
* `Gzip.isCompressed`: whether bytes start like such a file.
* `Gzip.decompress`: the contents of a file.
-/

namespace TypedYaml.Gzip

/-! ## Checksums -/

/-- One bit, the lowest, is divided off. -/
def checksumStep (c : UInt32) : UInt32 :=
  if c &&& 1 = 1 then (c >>> 1) ^^^ 0xEDB88320 else c >>> 1

/-- Eight steps for one byte. -/
def checksumByte (c : UInt32) (b : UInt8) : UInt32 :=
  (List.range 8).foldl (fun c _ => checksumStep c) (c ^^^ b.toUInt32)

/-- The cyclic redundancy check of 32 bits. -/
def checksum (bytes : List UInt8) : UInt32 :=
  bytes.foldl checksumByte 0xFFFFFFFF ^^^ 0xFFFFFFFF

/-! ## Header -/

/-- Whether bytes start like a compressed file. -/
def isCompressed : List UInt8 → Bool
  | 0x1f :: 0x8b :: _ => true
  | _ => false

/-- A step on the bytes of a header. -/
abbrev Skip := List UInt8 → Except Fault (List UInt8)

/-- Skips so many bytes. -/
def skip (n : Nat) : Skip := fun bytes =>
  if bytes.length < n then .error .truncated else .ok (bytes.drop n)

/-- Skips a text that ends with a zero byte. -/
def skipText : Skip
  | [] => .error .truncated
  | b :: rest => if b = 0 then .ok rest else skipText rest

/-- Skips a part whose length stands before it. -/
def skipExtra : Skip
  | low :: high :: rest => skip (low.toNat + 256 * high.toNat) rest
  | _ => .error .truncated

/-- Skips a part only if it is there. -/
def skipIf (condition : Bool) (s : Skip) : Skip := fun bytes =>
  if condition then s bytes else .ok bytes

/-- The checksum of a header is the lower half of that of all its bytes. -/
def skipHeaderChecksum (all : List UInt8) : Skip
  | low :: high :: rest =>
    let header := all.take (all.length - rest.length - 2)
    if (checksum header).toNat % 1 <<< 16 = low.toNat + 256 * high.toNat then .ok rest
    else .error .checksum
  | _ => .error .truncated

/-- What follows the header. -/
def afterHeader (all : List UInt8) : Except Fault (List UInt8) :=
  match all with
  | 0x1f :: 0x8b :: 8 :: flags :: rest => do
    let has (i : Nat) : Bool := flags.toNat.testBit i
    if has 5 || has 6 || has 7 then .error .header
    else
      let rest ← skip 6 rest
      let rest ← skipIf (has 2) skipExtra rest
      let rest ← skipIf (has 3) skipText rest
      let rest ← skipIf (has 4) skipText rest
      skipIf (has 1) (skipHeaderChecksum all) rest
  | _ => .error .header

/-! ## Files -/

/-- What is compressed, which must have the checksum and the length that come after it. -/
def contents : Reader Output := do
  let out ← inflate
  align
  let sum ← number 32
  let size ← number 32
  if sum = (checksum out.toList).toNat ∧ size = out.size % 1 <<< 32 then pure out
  else fail .checksum

/-- The contents of a file. -/
def decompress (all : List UInt8) : Except Fault (List UInt8) := do
  let rest ← afterHeader all
  let (out, _) ← contents (Bits.ofBytes rest)
  .ok out.toList

end TypedYaml.Gzip
