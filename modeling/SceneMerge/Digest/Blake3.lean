/-
BLAKE3 with 32 bytes of output. The input is cut into chunks of 1024
bytes and every chunk into blocks of 64; a chunk folds its blocks into a
chaining value, and the chunks' values are joined pairwise up a tree
whose last compression, marked as the root, gives the digest.

The state of the compression is held as four rows of four words, so one
round is two row-wise mixes, one of the columns and one of the
diagonals. Nothing is indexed and everything recurses on data, so small
digests can be evaluated by the kernel.
-/

namespace SceneMerge.Blake3

-- ======================================================== rows of words

/-- Four words side by side. -/
structure Row where
  a : UInt32
  b : UInt32
  c : UInt32
  d : UInt32

namespace Row

def zip (f : UInt32 → UInt32 → UInt32) (x y : Row) : Row :=
  ⟨f x.a y.a, f x.b y.b, f x.c y.c, f x.d y.d⟩

/-- Every word turned right by `n` bits. -/
def rotate (n : UInt32) (x : Row) : Row :=
  let turn (w : UInt32) := (w >>> n) ||| (w <<< (32 - n))
  ⟨turn x.a, turn x.b, turn x.c, turn x.d⟩

/-- The row moved one place to the left, its first word going last. -/
def shift (x : Row) : Row := ⟨x.b, x.c, x.d, x.a⟩

instance : Add Row := ⟨zip (· + ·)⟩
instance : XorOp Row := ⟨zip (· ^^^ ·)⟩

def words (x : Row) : List UInt32 := [x.a, x.b, x.c, x.d]

end Row

/-- A chaining value: eight words. -/
structure Chain where
  upper : Row
  lower : Row

/-- The initial words, from the square roots of the first eight primes. -/
def Chain.initial : Chain :=
  ⟨⟨0x6A09E667, 0xBB67AE85, 0x3C6EF372, 0xA54FF53A⟩,
   ⟨0x510E527F, 0x9B05688C, 0x1F83D9AB, 0x5BE0CD19⟩⟩

def Chain.words (c : Chain) : List UInt32 := c.upper.words ++ c.lower.words

-- ============================================================ messages

/-- The sixteen words of one block. -/
structure Message where
  m0 : UInt32
  m1 : UInt32
  m2 : UInt32
  m3 : UInt32
  m4 : UInt32
  m5 : UInt32
  m6 : UInt32
  m7 : UInt32
  m8 : UInt32
  m9 : UInt32
  m10 : UInt32
  m11 : UInt32
  m12 : UInt32
  m13 : UInt32
  m14 : UInt32
  m15 : UInt32

/-- The order in which the next round takes the words. -/
def Message.permute (m : Message) : Message :=
  ⟨m.m2, m.m6, m.m3, m.m10, m.m7, m.m0, m.m4, m.m13,
   m.m1, m.m11, m.m12, m.m5, m.m9, m.m14, m.m15, m.m8⟩

/-- Word `i` of a block, least significant byte first; a block shorter
than 64 bytes is filled up with zeros. -/
def wordAt (block : List UInt8) (i : Nat) : UInt32 :=
  let byte (j : Nat) : UInt32 := (block.getD (4 * i + j) 0).toUInt32
  byte 0 ||| (byte 1 <<< 8) ||| (byte 2 <<< 16) ||| (byte 3 <<< 24)

def Message.ofBlock (block : List UInt8) : Message :=
  ⟨wordAt block 0, wordAt block 1, wordAt block 2, wordAt block 3,
   wordAt block 4, wordAt block 5, wordAt block 6, wordAt block 7,
   wordAt block 8, wordAt block 9, wordAt block 10, wordAt block 11,
   wordAt block 12, wordAt block 13, wordAt block 14, wordAt block 15⟩

/-- The message of an inner node: its two children's chaining values. -/
def Message.ofChains (l r : Chain) : Message :=
  ⟨l.upper.a, l.upper.b, l.upper.c, l.upper.d,
   l.lower.a, l.lower.b, l.lower.c, l.lower.d,
   r.upper.a, r.upper.b, r.upper.c, r.upper.d,
   r.lower.a, r.lower.b, r.lower.c, r.lower.d⟩

-- ========================================================= compression

structure State where
  r0 : Row
  r1 : Row
  r2 : Row
  r3 : Row

/-- The quarter round on all four columns at once: `x` and `y` are the
two message words of each column. -/
def State.mix (s : State) (x y : Row) : State :=
  let a := s.r0 + s.r1 + x
  let d := (s.r3 ^^^ a).rotate 16
  let c := s.r2 + d
  let b := (s.r1 ^^^ c).rotate 12
  let a := a + b + y
  let d := (d ^^^ a).rotate 8
  let c := c + d
  let b := (b ^^^ c).rotate 7
  ⟨a, b, c, d⟩

/-- Brings the diagonals into the columns. -/
def State.slant (s : State) : State :=
  ⟨s.r0, s.r1.shift, s.r2.shift.shift, s.r3.shift.shift.shift⟩

/-- Undoes `slant`. -/
def State.unslant (s : State) : State :=
  ⟨s.r0, s.r1.shift.shift.shift, s.r2.shift.shift, s.r3.shift⟩

def State.round (s : State) (m : Message) : State :=
  let s := s.mix ⟨m.m0, m.m2, m.m4, m.m6⟩ ⟨m.m1, m.m3, m.m5, m.m7⟩
  (s.slant.mix ⟨m.m8, m.m10, m.m12, m.m14⟩
    ⟨m.m9, m.m11, m.m13, m.m15⟩).unslant

def State.rounds : Nat → State → Message → State
  | 0, s, _ => s
  | n + 1, s, m => State.rounds n (s.round m) m.permute

/-- A compression that is still to run: whether it is the last one, and
so takes the root mark, is known only when the tree is complete. -/
structure Node where
  chain : Chain
  message : Message
  counter : UInt64
  length : UInt32
  flags : UInt32

/-- The first half of the output: the next chaining value. -/
def Node.compress (n : Node) (mark : UInt32) : Chain :=
  let s : State :=
    ⟨n.chain.upper, n.chain.lower, Chain.initial.upper,
     ⟨n.counter.toUInt32, (n.counter >>> 32).toUInt32, n.length,
      n.flags ||| mark⟩⟩
  let s := State.rounds 7 s n.message
  ⟨s.r0 ^^^ s.r2, s.r1 ^^^ s.r3⟩

def chunkStart : UInt32 := 1
def chunkEnd : UInt32 := 2
def parent : UInt32 := 4
def root : UInt32 := 8

-- =============================================================== chunks

/-- Cuts `n` pieces of `size` off the bytes; what is left is the last. -/
def cut (size : Nat) : Nat → List UInt8 → List (List UInt8)
  | 0, bytes => [bytes]
  | n + 1, bytes => bytes.take size :: cut size n (bytes.drop size)

/-- The bytes cut into pieces of `size`, the last one possibly shorter;
no bytes make one empty piece. -/
def pieces (size : Nat) (bytes : List UInt8) : List (List UInt8) :=
  cut size ((bytes.length - 1) / size) bytes

/-- Runs every block of a chunk but the last, which is left to run.
`mark` is the start mark on the chunk's first block and nothing after. -/
def absorb (counter : UInt64) :
    Chain → UInt32 → List UInt8 → List (List UInt8) → Node
  | chain, mark, block, [] =>
      ⟨chain, .ofBlock block, counter, block.length.toUInt32,
       mark ||| chunkEnd⟩
  | chain, mark, block, next :: rest =>
      let node : Node :=
        ⟨chain, .ofBlock block, counter, block.length.toUInt32, mark⟩
      absorb counter (node.compress 0) 0 next rest

def chunk (counter : Nat) (bytes : List UInt8) : Node :=
  match pieces 64 bytes with
  | [] => absorb counter.toUInt64 .initial chunkStart [] []
  | block :: rest =>
      absorb counter.toUInt64 .initial chunkStart block rest

-- ================================================================ tree

def join (l r : Node) : Node :=
  ⟨.initial, .ofChains (l.compress 0) (r.compress 0), 0, 64, parent⟩

/-- One level of the tree: neighbours are joined, and a last node without
a neighbour moves up as it is. -/
def joinPairs : List Node → List Node
  | l :: r :: rest => join l r :: joinPairs rest
  | rest => rest

/-- Joins level by level until one node is left. Each level at least
halves what follows the first node, so `n` equal to the number of nodes
after the first is enough. -/
def joinAll : Nat → Node → List Node → Node
  | n + 1, l, r :: rest => joinAll n (join l r) (joinPairs rest)
  | _, l, _ => l

def rootNode (bytes : List UInt8) : Node :=
  match (pieces 1024 bytes).zipIdx.map fun (c, i) => chunk i c with
  | [] => chunk 0 []
  | first :: rest => joinAll rest.length first rest

/-- The 32-byte digest, each word least significant byte first. -/
def digest (bytes : List UInt8) : Vector UInt8 32 :=
  let words := ((rootNode bytes).compress root).words
  Vector.ofFn fun i : Fin 32 =>
    (words.getD (i.val / 4) 0 >>> (8 * (i.val % 4)).toUInt32).toUInt8

end SceneMerge.Blake3
