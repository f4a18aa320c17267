namespace Turnstile.Keccak

/-! The Keccak sponge with 256-bit digests. The state is a five by five array of
64-bit lanes, the lane in column `x` and row `y` standing at `x + 5 * y`. Bytes
enter and leave lanes with the lowest byte first. -/

abbrev State := Vector UInt64 25

def State.lane (state : State) (x y : Nat) : UInt64 :=
  have bound : x % 5 + 5 * (y % 5) < 25 := by omega
  state[x % 5 + 5 * (y % 5)]

def State.ofLanes (lane : (x y : Nat) → UInt64) : State :=
  Vector.ofFn fun index : Fin 25 => lane (index.val % 5) (index.val / 5)

def rotate (word : UInt64) (count : UInt64) : UInt64 :=
  if count = 0 then word else word <<< count ||| word >>> (64 - count)

/-! ## The permutation -/

def rotationCounts : State := #v[
  0, 1, 62, 28, 27,
  36, 44, 6, 55, 20,
  3, 10, 43, 25, 39,
  41, 45, 15, 21, 8,
  18, 2, 61, 56, 14]

def roundConstants : List UInt64 := [
  0x0000000000000001, 0x0000000000008082, 0x800000000000808a, 0x8000000080008000,
  0x000000000000808b, 0x0000000080000001, 0x8000000080008081, 0x8000000000008009,
  0x000000000000008a, 0x0000000000000088, 0x0000000080008009, 0x000000008000000a,
  0x000000008000808b, 0x800000000000008b, 0x8000000000008089, 0x8000000000008003,
  0x8000000000008002, 0x8000000000000080, 0x000000000000800a, 0x800000008000000a,
  0x8000000080008081, 0x8000000000008080, 0x0000000080000001, 0x8000000080008008]

/-- Mix into every lane the parities of two neighbouring columns. -/
def theta (state : State) : State :=
  let parity : Vector UInt64 5 := Vector.ofFn fun x =>
    state.lane x 0 ^^^ state.lane x 1 ^^^ state.lane x 2 ^^^ state.lane x 3 ^^^ state.lane x 4
  let column (x : Nat) : UInt64 :=
    have bound : x % 5 < 5 := Nat.mod_lt _ (by decide)
    parity[x % 5]
  .ofLanes fun x y => state.lane x y ^^^ column (x + 4) ^^^ rotate (column (x + 1)) 1

/-- Rotate every lane by its own count and move it to its new place. -/
def rhoPi (state : State) : State :=
  .ofLanes fun x y =>
    rotate (state.lane (x + 3 * y) x) (rotationCounts.lane (x + 3 * y) x)

/-- Combine every lane with the two that follow it in its row. -/
def chi (state : State) : State :=
  .ofLanes fun x y =>
    state.lane x y ^^^ (~~~ state.lane (x + 1) y &&& state.lane (x + 2) y)

def iota (constant : UInt64) (state : State) : State :=
  state.set 0 (state[0] ^^^ constant)

def permute (state : State) : State :=
  roundConstants.foldl (fun state constant => iota constant (chi (rhoPi (theta state)))) state

/-! ## The sponge -/

/-- Bytes absorbed between two permutations. -/
def rate : Nat := 136

def wordOfBytes : List UInt8 → UInt64
  | [] => 0
  | byte :: rest => byte.toUInt64 ||| wordOfBytes rest <<< 8

def bytesOfWord (word : UInt64) : List UInt8 :=
  (List.range 8).map fun index => (word >>> (8 * index).toUInt64).toUInt8

def absorbBlock (state : State) (block : List UInt8) : State :=
  permute <| .ofLanes fun x y =>
    state.lane x y ^^^ wordOfBytes ((block.drop (8 * (x + 5 * y))).take 8)

/-- Fill the last block up, marking its first free and its last bit. -/
def pad (message : List UInt8) : List UInt8 :=
  let free := rate - message.length % rate
  if free = 1 then message ++ [0x81]
  else message ++ [0x01] ++ List.replicate (free - 2) 0x00 ++ [0x80]

def absorb (state : State) : List UInt8 → State
  | [] => state
  | byte :: rest =>
      absorb (absorbBlock state ((byte :: rest).take rate)) (rest.drop (rate - 1))
termination_by bytes => bytes.length
decreasing_by
  rw [List.length_drop, List.length_cons]
  omega

/-- The 32 bytes of a message's digest. -/
def digest (message : List UInt8) : List UInt8 :=
  let state := absorb (.ofLanes fun _ _ => 0) (pad message)
  ((List.range 4).flatMap fun x => bytesOfWord (state.lane x 0))

end Turnstile.Keccak
