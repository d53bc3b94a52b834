/-!
# Decompression

Compressed data is a stream of bits, in which every byte gives its lowest bit first, and consists
of blocks. A block holds bytes as they are, or symbols of a prefix code: bytes, and lengths of
repetitions of what was written before, each with a distance in another code. The codes are fixed,
or their word lengths stand at the start of the block.

In a prefix code each symbol has a code word of its own length, and no code word is the start of
another. The words follow from their lengths: shorter ones come before longer ones, and words of
one length are in the order of their symbols.

* `Bits`, `Reader`: the stream, and steps that read from it.
* `PrefixCode`: a code as a binary tree; `PrefixCode.ofLengths?` is the one with given lengths.
* `stored`, `symbols`: the contents of blocks.
* `Codes`, `Codes.fixed`, `Codes.read`: the codes of a block.
* `inflate`: all blocks.
-/

namespace TypedYaml.Gzip

/-! ## Streams of bits -/

/-- The bits that are left. -/
abbrev Bits := List Bool

/-- The bits of a byte, the lowest first. -/
def Bits.ofByte (b : UInt8) : Bits := (List.range 8).map b.toNat.testBit

/-- The stream that bytes make up. -/
def Bits.ofBytes (bytes : List UInt8) : Bits := bytes.flatMap Bits.ofByte

/-- Why data cannot be decompressed. -/
inductive Fault where
  | truncated
  | header
  | block
  | code
  | distance
  | checksum
deriving DecidableEq

/-- A reading step on the stream. -/
abbrev Reader := StateT Bits (Except Fault)

/-- A step that fails. -/
def fail {α : Type} (fault : Fault) : Reader α := fun _ => .error fault

/-- The next bit. -/
def bit : Reader Bool
  | [] => .error .truncated
  | b :: bits => .ok (b, bits)

/-- A number of so many bits, the lowest first. -/
def number : Nat → Reader Nat
  | 0 => pure 0
  | n + 1 => do
    let b ← bit
    let rest ← number n
    pure (b.toNat + 2 * rest)

/-- Eight bits, which need not be those of one byte of the stream. -/
def byte : Reader UInt8 := (fun n => n.toUInt8) <$> number 8

/-- Skips to the next byte. The stream ends with a whole byte, so what is left over is the rest of
the present one. -/
def align : Reader Unit := fun bits => .ok ((), bits.drop (bits.length % 8))

/-! ## Prefix codes -/

/-- The words of a code by their bits. No word starts with the path to an `absent` tree. -/
inductive PrefixCode where
  | absent
  | word (symbol : Nat)
  | fork (zero one : PrefixCode)

namespace PrefixCode

/-- The symbols whose words have the given length, which is not zero. -/
def symbolsOf (lengths : List Nat) (length : Nat) : List PrefixCode :=
  (lengths.zipIdx.filter fun (l, _) => l = length).map fun (_, symbol) => .word symbol

/-- Joins neighbours. -/
def pairUp : List PrefixCode → List PrefixCode
  | a :: b :: rest => .fork a b :: pairUp rest
  | [a] => [.fork a .absent]
  | [] => []

/-- The trees whose roots are `depth` bits below the root, when `levels` more may follow: the
words that end there, and pairs of what is one level deeper. -/
def forest (lengths : List Nat) : Nat → Nat → List PrefixCode
  | 0, depth => symbolsOf lengths depth
  | levels + 1, depth => symbolsOf lengths depth ++ pairUp (forest lengths levels (depth + 1))

/-- Whether every stream of bits starts with a word, if it is long enough. -/
def isComplete : PrefixCode → Bool
  | .absent => false
  | .word _ => true
  | .fork a b => a.isComplete && b.isComplete

/-- Words have at most fifteen bits; a symbol of length zero has none. Every stream of bits has to
start with a word, unless there is only one word or none. -/
def ofLengths? (lengths : List Nat) : Option PrefixCode :=
  let used := lengths.filter (· ≠ 0)
  match pairUp (forest lengths 14 1) with
  | [] => some .absent
  | [code] => if code.isComplete ∨ used.length ≤ 1 then some code else none
  | _ => none

/-- Follows the bits down to a word. -/
def walk : PrefixCode → Bits → Except Fault (Nat × Bits)
  | .word symbol, bits => .ok (symbol, bits)
  | .fork zero one, b :: bits => if b then walk one bits else walk zero bits
  | .fork _ _, [] => .error .truncated
  | .absent, _ => .error .code

/-- One symbol. -/
def read (code : PrefixCode) : Reader Nat := code.walk

end PrefixCode

/-- The bytes decompressed so far. -/
abbrev Output := Array UInt8

/-! ## Stored blocks -/

/-- So many bytes as they are. -/
def bytes : Nat → Output → Reader Output
  | 0, out => pure out
  | n + 1, out => do
    let b ← byte
    bytes n (out.push b)

/-- The length is given twice, once with all its bits changed. -/
def stored (out : Output) : Reader Output := do
  align
  let length ← number 16
  let complement ← number 16
  if length + complement = 0xFFFF then bytes length out else fail .block

/-! ## Compressed blocks -/

/-- The codes of a block. The lengths of repetitions are among the literals. -/
structure Codes where
  literals : PrefixCode
  distances : PrefixCode

/-- Writes again, so many times, what stands at a distance from the end. -/
def repeatFrom (distance : Nat) : Nat → Output → Output
  | 0, out => out
  | n + 1, out => repeatFrom distance n (out.push (out[out.size - distance]?.getD 0))

/-- The length of a repetition: symbols after the eighth come in fours, each four with one more
bit that is read. -/
def repetitionLength (symbol : Nat) : Reader Nat :=
  let s := symbol - 257
  if s < 8 then pure (s + 3)
  else if s = 28 then pure 258
  else do
    let extra := s / 4 - 1
    let low ← number extra
    pure (3 + (4 + s % 4) <<< extra + low)

/-- A distance: symbols after the fourth come in twos, each two with one more bit that is read. -/
def repetitionDistance (symbol : Nat) : Reader Nat :=
  if symbol < 4 then pure (symbol + 1)
  else do
    let extra := symbol / 2 - 1
    let low ← number extra
    pure (1 + (2 + symbol % 2) <<< extra + low)

/-- A repetition whose length has the given symbol. It cannot reach back before the start. -/
def repetition (codes : Codes) (symbol : Nat) (out : Output) : Reader Output := do
  let length ← repetitionLength symbol
  let d ← codes.distances.read
  if 30 ≤ d then fail .code
  else
    let distance ← repetitionDistance d
    if out.size < distance then fail .distance
    else pure (repeatFrom distance length out)

/-- The symbols of a block up to its end, at most `fuel` of them. -/
def symbols (codes : Codes) : Nat → Output → Reader Output
  | 0, _ => fail .truncated
  | fuel + 1, out => do
    let s ← codes.literals.read
    if s < 256 then symbols codes fuel (out.push s.toUInt8)
    else if s = 256 then pure out
    else if 286 ≤ s then fail .code
    else
      let out ← repetition codes s out
      symbols codes fuel out

/-- Every symbol takes a bit at least. -/
def compressed (codes : Codes) (out : Output) : Reader Output := fun bits =>
  symbols codes bits.length out bits

/-! ## Codes of blocks -/

/-- The code with the given lengths, if there is one. -/
def codeOf (lengths : List Nat) : Reader PrefixCode :=
  match PrefixCode.ofLengths? lengths with
  | some code => pure code
  | none => fail .code

/-- The symbols for which the lengths of the words for lengths are given. -/
def lengthOrder : List Nat :=
  [16, 17, 18, 0, 8, 7, 9, 6, 10, 5, 11, 4, 12, 3, 13, 2, 14, 1, 15]

/-- So many numbers of one width. -/
def numbers (width : Nat) : Nat → Reader (List Nat)
  | 0 => pure []
  | n + 1 => do
    let first ← number width
    let rest ← numbers width n
    pure (first :: rest)

/-- Reads word lengths up to a total, after those read so far, which are given backwards. Three
symbols stand for repetitions: of the last length, and of zero. -/
def wordLengths (code : PrefixCode) (total : Nat) : Nat → List Nat → Reader (List Nat)
  | 0, _ => fail .code
  | fuel + 1, done =>
    if total < done.length then fail .code
    else if done.length = total then pure done.reverse
    else do
      let s ← code.read
      match s, done with
      | 16, last :: _ => do
        let n ← number 2
        wordLengths code total fuel (List.replicate (3 + n) last ++ done)
      | 16, [] => fail .code
      | 17, _ => do
        let n ← number 3
        wordLengths code total fuel (List.replicate (3 + n) 0 ++ done)
      | 18, _ => do
        let n ← number 7
        wordLengths code total fuel (List.replicate (11 + n) 0 ++ done)
      | length, _ => wordLengths code total fuel (length :: done)

namespace Codes

/-- The codes of a block that gives none. -/
def fixed : Reader Codes := do
  let literals ← codeOf <| List.replicate 144 8 ++ List.replicate 112 9 ++
    List.replicate 24 7 ++ List.replicate 8 8
  let distances ← codeOf (List.replicate 32 5)
  pure ⟨literals, distances⟩

/-- The codes that a block gives. The lengths of both stand in one list, which is written in a code
of its own. -/
def read : Reader Codes := do
  let literalCount := (← number 5) + 257
  let distanceCount := (← number 5) + 1
  let lengthCount := (← number 4) + 4
  let given ← numbers 3 lengthCount
  let lengthCode ← codeOf <| (List.range 19).map fun s =>
    ((lengthOrder.zip given).lookup s).getD 0
  let total := literalCount + distanceCount
  let lengths ← wordLengths lengthCode total (total + 1) []
  let literals ← codeOf (lengths.take literalCount)
  let distances ← codeOf (lengths.drop literalCount)
  pure ⟨literals, distances⟩

end Codes

/-! ## Blocks -/

/-- The contents of one block, whose kind its first two bits tell. -/
def block (out : Output) : Reader Output := do
  match ← number 2 with
  | 0 => stored out
  | 1 => do
    let codes ← Codes.fixed
    compressed codes out
  | 2 => do
    let codes ← Codes.read
    compressed codes out
  | _ => fail .block

/-- Blocks up to the one that is marked as the last, at most `fuel` of them. -/
def blocks : Nat → Output → Reader Output
  | 0, _ => fail .truncated
  | fuel + 1, out => do
    let isLast ← bit
    let out ← block out
    if isLast then pure out else blocks fuel out

/-- What the blocks at the start of a stream contain. -/
def inflate : Reader Output := fun bits => blocks bits.length #[] bits

end TypedYaml.Gzip
