import SessionTokens.Hash.Sha2

/-!
# Keyed hashes

HMAC binds a key to a hash.  PBKDF2 stretches a passphrase by iterating it, and
scrypt stretches one through a large table of mixed blocks, so that the work
needs memory as well as time.
-/

namespace SessionTokens.Hash

/-- The key filled up to a block; a key longer than a block is hashed first. -/
def blockKey (hash : Hash) (key : Bytes) : Bytes :=
  let short := if hash.blockSize < key.length then hash.digest key else key
  short ++ List.replicate (hash.blockSize - short.length) 0

def hmac (hash : Hash) (key message : Bytes) : Bytes :=
  let block := hash.blockKey key
  let inner := hash.digest (block.map (· ^^^ 0x36) ++ message)
  hash.digest (block.map (· ^^^ 0x5c) ++ inner)

/-- The exclusive or of a value and its next `count` keyed hashes. -/
def stretch (hash : Hash) (key : Bytes) : (count : Nat) → (value sum : Bytes) → Bytes
  | 0, _, sum => sum
  | count + 1, value, sum =>
      let next := hash.hmac key value
      stretch hash key count next (Bytes.xor sum next)

def pbkdf2 (hash : Hash) (passphrase salt : Bytes) (iterations length : Nat) : Bytes :=
  let parts := (length + hash.size - 1) / hash.size
  let part (index : Nat) :=
    let value := hash.hmac passphrase (salt ++ Bytes.ofNat 4 (index + 1))
    hash.stretch passphrase (iterations - 1) value value
  ((List.range parts).flatMap part).take length

/-! ## Scrypt -/

namespace Scrypt

def rotate (word places : UInt32) : UInt32 :=
  (word <<< places) ||| (word >>> (32 - places))

def mixWord (words : Array UInt32) (target left right : Nat) (places : UInt32) : Array UInt32 :=
  words.setIfInBounds target
    (words.getD target 0 ^^^ rotate (words.getD left 0 + words.getD right 0) places)

def mixFour (words : Array UInt32) (four : Nat × Nat × Nat × Nat) : Array UInt32 :=
  let (a, b, c, d) := four
  let words := mixWord words b a d 7
  let words := mixWord words c b a 9
  let words := mixWord words d c b 13
  mixWord words a d c 18

/-- The columns and then the rows of a four by four square of words. -/
def doubleRound : List (Nat × Nat × Nat × Nat) :=
  [(0, 4, 8, 12), (5, 9, 13, 1), (10, 14, 2, 6), (15, 3, 7, 11),
    (0, 1, 2, 3), (5, 6, 7, 4), (10, 11, 8, 9), (15, 12, 13, 14)]

/-- Four double rounds over sixteen words, added to the words at the start. -/
def core (words : Array UInt32) : Array UInt32 :=
  let mixed := (List.range 4).foldl (fun words _ => doubleRound.foldl mixFour words) words
  Array.zipWith (· + ·) mixed words

/-- Mixes the sixteen-word parts of a block in turn; even parts come first. -/
def mixBlock (parts : Nat) (block : Array UInt32) : Array UInt32 :=
  let part (index : Nat) : Array UInt32 := block.extract (16 * index) (16 * index + 16)
  let step (state : Array UInt32 × Array UInt32 × Array UInt32) (index : Nat) :=
    let (last, even, odd) := state
    let next := core (Array.zipWith (· ^^^ ·) last (part index))
    if index % 2 = 0 then (next, even ++ next, odd) else (next, even, odd ++ next)
  let (_, even, odd) := (List.range parts).foldl step (part (parts - 1), #[], #[])
  even ++ odd

/-- Fills a table with mixed blocks, then mixes through it in an order that depends on the data. -/
def mixTable (cost parts : Nat) (block : Array UInt32) : Array UInt32 :=
  let fill (state : Array UInt32 × Array (Array UInt32)) (_ : Nat) :=
    (mixBlock parts state.1, state.2.push state.1)
  let (block, table) := (List.range cost).foldl fill (block, #[])
  let step (block : Array UInt32) (_ : Nat) :=
    let index := (block.getD (16 * (parts - 1)) 0).toNat % cost
    mixBlock parts (Array.zipWith (· ^^^ ·) block (table.getD index #[]))
  (List.range cost).foldl step block

def wordsOf : Bytes → List UInt32
  | a :: b :: c :: d :: rest =>
      (a.toUInt32 ||| (b.toUInt32 <<< 8) ||| (c.toUInt32 <<< 16) ||| (d.toUInt32 <<< 24))
        :: wordsOf rest
  | _ => []

def octets (word : UInt32) : Bytes :=
  [word.toUInt8, (word >>> 8).toUInt8, (word >>> 16).toUInt8, (word >>> 24).toUInt8]

def derive (passphrase salt : Bytes) (cost blockSize lanes length : Nat) : Bytes :=
  let laneSize := 128 * blockSize
  let start := Hash.sha256.pbkdf2 passphrase salt 1 (lanes * laneSize)
  let mixed := (Hash.blocks laneSize lanes start).flatMap fun lane =>
    (mixTable cost (2 * blockSize) (wordsOf lane).toArray).toList.flatMap octets
  Hash.sha256.pbkdf2 passphrase mixed 1 length

end Scrypt

end SessionTokens.Hash
