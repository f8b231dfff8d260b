/-!
The BLAKE3 digest of a list of bytes: chunks of 1024 bytes are chained block by block, and a binary
tree joins the chunks, where a left subtree holds the greatest power of two of them.
-/

namespace CalcFields

namespace Blake3

/-- The eight words that a part of the input comes down to. -/
abbrev Chain : Type := Vector UInt32 8

/-- Sixteen words of input or of state. -/
abbrev Block : Type := Vector UInt32 16

/-- The initial words. -/
def initial : Chain :=
  #v[0x6A09E667, 0xBB67AE85, 0x3C6EF372, 0xA54FF53A, 0x510E527F, 0x9B05688C, 0x1F83D9AB, 0x5BE0CD19]

/-- Each round takes the words of the one before in this order. -/
def permutation : Vector (Fin 16) 16 :=
  #v[2, 6, 3, 10, 7, 0, 4, 13, 1, 11, 12, 5, 9, 14, 15, 8]

/-- The columns and then the diagonals of the state, which are mixed one after the other. -/
def lanes : Vector (Fin 16 × Fin 16 × Fin 16 × Fin 16) 8 :=
  #v[(0, 4, 8, 12), (1, 5, 9, 13), (2, 6, 10, 14), (3, 7, 11, 15),
    (0, 5, 10, 15), (1, 6, 11, 12), (2, 7, 8, 13), (3, 4, 9, 14)]

/-- Marks the first block of a chunk. -/
def chunkStart : UInt32 := 1

/-- Marks the last block of a chunk. -/
def chunkEnd : UInt32 := 2

/-- Marks the joining of two subtrees. -/
def parent : UInt32 := 4

/-- Marks the last compression of all. -/
def root : UInt32 := 8

/-- Rotates the bits of a word to the right. -/
def rotate (word count : UInt32) : UInt32 :=
  (word >>> count) ||| (word <<< (32 - count))

/-- Mixes two words of input into four words of the state. -/
def mix (state : Block) (lane : Fin 16 × Fin 16 × Fin 16 × Fin 16) (x y : UInt32) : Block :=
  let (ia, ib, ic, id) := lane
  let a := state[ia] + state[ib] + x
  let d := rotate (state[id] ^^^ a) 16
  let c := state[ic] + d
  let b := rotate (state[ib] ^^^ c) 12
  let a := a + b + y
  let d := rotate (d ^^^ a) 8
  let c := c + d
  let b := rotate (b ^^^ c) 7
  (((state.set ia a).set ib b).set ic c).set id d

/-- One round mixes every lane with its two words of input. -/
def round (state words : Block) : Block :=
  (List.finRange 8).foldl (fun state i =>
    mix state lanes[i] (words.get ⟨2 * i.val, by omega⟩)
      (words.get ⟨2 * i.val + 1, by omega⟩)) state

/-- So many rounds, with the words of input permuted between them. -/
def rounds : Nat → Block → Block → Block
  | 0, state, _ => state
  | count + 1, state, words =>
    rounds count (round state words) (permutation.map fun i => words[i])

/-- One compression still to be done: what it takes and the marks on it. -/
structure Output where
  chain : Chain
  words : Block
  counter : UInt64
  length : UInt32
  marks : UInt32

namespace Output

/-- The words that a compression gives. -/
def chained (output : Output) : Chain :=
  let tail : Vector UInt32 8 :=
    #v[initial[0], initial[1], initial[2], initial[3], output.counter.toUInt32,
      (output.counter >>> 32).toUInt32, output.length, output.marks]
  let state := rounds 7 ((output.chain ++ tail).cast rfl) output.words
  Vector.ofFn fun i : Fin 8 =>
    state.get ⟨i.val, by omega⟩ ^^^ state.get ⟨i.val + 8, by omega⟩

end Output

/-- The word of four bytes, the least one first; bytes beyond the end count as zero. -/
def wordAt (bytes : List UInt8) (start : Nat) : UInt32 :=
  let byte (i : Nat) : UInt32 := (bytes.getD (start + i) 0).toUInt32
  byte 0 ||| (byte 1 <<< 8) ||| (byte 2 <<< 16) ||| (byte 3 <<< 24)

/-- The sixteen words of a block of at most 64 bytes. -/
def wordsOf (bytes : List UInt8) : Block :=
  Vector.ofFn fun i : Fin 16 => wordAt bytes (4 * i.val)

/-- The last compression of a chunk, after its other blocks are chained. -/
def chunk (counter : UInt64) (chain : Chain) (marks : UInt32) (bytes : List UInt8) : Output :=
  if bytes.length ≤ 64 then
    ⟨chain, wordsOf bytes, counter, bytes.length.toUInt32, marks ||| chunkEnd⟩
  else
    let block : Output := ⟨chain, wordsOf (bytes.take 64), counter, 64, marks⟩
    chunk counter block.chained 0 (bytes.drop 64)
termination_by bytes.length
decreasing_by
  simp only [List.length_drop]
  omega

/-- The bytes of the left subtree of more than one chunk. -/
def leftLength (size : Nat) : Nat :=
  1024 * Nat.pow 2 (Nat.log2 ((size - 1) / 1024))

/-- Both subtrees of more than one chunk are shorter than the whole. -/
theorem leftLength_lt {size : Nat} (large : 1024 < size) : leftLength size < size := by
  -- The greatest power of two up to the whole chunks before the last byte leaves that byte.
  have chunks : (size - 1) / 1024 ≠ 0 := by omega
  have atMost := Nat.log2_self_le chunks
  simp only [leftLength, Nat.pow_eq]
  omega

/-- The left subtree is not empty. -/
theorem leftLength_pos (size : Nat) : 0 < leftLength size := by
  unfold leftLength
  exact Nat.mul_pos (by decide) (Nat.two_pow_pos _)

/-- The last compression of a tree whose first chunk has the given number. -/
def tree (counter : UInt64) (bytes : List UInt8) : Output :=
  if _large : 1024 < bytes.length then
    let left := leftLength bytes.length
    let first := (tree counter (bytes.take left)).chained
    let second := (tree (counter + (left / 1024).toUInt64) (bytes.drop left)).chained
    ⟨initial, (first ++ second).cast rfl, 0, 64, parent⟩
  else chunk counter initial chunkStart bytes
termination_by bytes.length
decreasing_by
  all_goals
    have := leftLength_lt _large
    have := leftLength_pos bytes.length
    simp only [List.length_take, List.length_drop]
    omega

/-- The four bytes of a word, the least one first. -/
def bytesOf (word : UInt32) : List UInt8 :=
  [word.toUInt8, (word >>> 8).toUInt8, (word >>> 16).toUInt8, (word >>> 24).toUInt8]

/-- The digest of a list of bytes. -/
def digest (bytes : List UInt8) : List UInt8 :=
  let last := tree 0 bytes
  -- The root is compressed once more under its own mark and with no counter.
  let marked : Output := { last with counter := 0, marks := last.marks ||| root }
  marked.chained.toList.flatMap bytesOf

end Blake3

/-- Bytes as pairs of small hexadecimal digits. -/
def hexText (bytes : List UInt8) : String :=
  String.ofList <| bytes.flatMap fun byte =>
    let n := byte.toNat
    [Nat.digitChar (n / 16), Nat.digitChar (n % 16)]

end CalcFields
