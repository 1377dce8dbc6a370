namespace Honeypot.Keccak

/-- Five by five lanes of 64 bits; the lane of column `x` and row `y` stands at `x + 5 * y`. -/
abbrev State := Vector UInt64 25

def rotate (lane : UInt64) (count : Nat) : UInt64 :=
  let amount := count % 64
  if amount = 0 then lane
  else (lane <<< UInt64.ofNat amount) ||| (lane >>> UInt64.ofNat (64 - amount))

def lane (state : State) (x y : Nat) : UInt64 :=
  state[x % 5 + 5 * (y % 5)]

def ofLanes (lanes : Nat → Nat → UInt64) : State :=
  Vector.ofFn fun i => lanes (i.val % 5) (i.val / 5)

def mixColumns (state : State) : State :=
  let parity : Vector UInt64 5 := Vector.ofFn fun x =>
    lane state x 0 ^^^ lane state x 1 ^^^ lane state x 2 ^^^ lane state x 3 ^^^ lane state x 4
  ofLanes fun x y =>
    lane state x y ^^^ parity[(x + 4) % 5] ^^^ rotate parity[(x + 1) % 5] 1

def offsets : Vector Nat 25 :=
  #v[0, 1, 62, 28, 27,
     36, 44, 6, 55, 20,
     3, 10, 43, 25, 39,
     41, 45, 15, 21, 8,
     18, 2, 61, 56, 14]

def rotateAndMove (state : State) : State :=
  ofLanes fun x y =>
    let column := x + 3 * y
    rotate (lane state column x) offsets[column % 5 + 5 * (x % 5)]

def mixRows (state : State) : State :=
  ofLanes fun x y => lane state x y ^^^ (~~~ lane state (x + 1) y &&& lane state (x + 2) y)

def roundConstants : List UInt64 := [
  0x0000000000000001, 0x0000000000008082, 0x800000000000808A, 0x8000000080008000,
  0x000000000000808B, 0x0000000080000001, 0x8000000080008081, 0x8000000000008009,
  0x000000000000008A, 0x0000000000000088, 0x0000000080008009, 0x000000008000000A,
  0x000000008000808B, 0x800000000000008B, 0x8000000000008089, 0x8000000000008003,
  0x8000000000008002, 0x8000000000000080, 0x000000000000800A, 0x800000008000000A,
  0x8000000080008081, 0x8000000000008080, 0x0000000080000001, 0x8000000080008008]

def round (state : State) (constant : UInt64) : State :=
  let mixed := mixRows (rotateAndMove (mixColumns state))
  mixed.set 0 (mixed[0] ^^^ constant)

def permute (state : State) : State := roundConstants.foldl round state

def rate : Nat := 136

/-- Fill up a message to a multiple of the rate. The first byte after the message is one, and the
last bit of the padding is set. -/
def pad (message : List UInt8) : List UInt8 :=
  let missing := rate - message.length % rate
  if missing = 1 then message ++ [0x81]
  else message ++ 0x01 :: (List.replicate (missing - 2) 0x00 ++ [0x80])

def laneOfBytes (bytes : List UInt8) : UInt64 :=
  bytes.foldr (fun byte lane => lane <<< 8 ||| byte.toUInt64) 0

def bytesOfLane (lane : UInt64) : List UInt8 :=
  (List.range 8).map fun i => (lane >>> UInt64.ofNat (8 * i)).toUInt8

def absorb (state : State) (block : List UInt8) : State :=
  permute (Vector.ofFn fun i => state[i] ^^^ laneOfBytes ((block.drop (8 * i.val)).take 8))

def blocks (padded : List UInt8) : List (List UInt8) :=
  (List.range (padded.length / rate)).map fun i => (padded.drop (rate * i)).take rate

/-- The hash of a message, 32 bytes. -/
def hash (message : List UInt8) : List UInt8 :=
  let final := (blocks (pad message)).foldl absorb (Vector.replicate 25 0)
  (final.toList.take 4).flatMap bytesOfLane

def hashText (text : String) : List UInt8 := hash text.toUTF8.toList

end Honeypot.Keccak
