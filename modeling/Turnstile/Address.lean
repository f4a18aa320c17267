import Turnstile.Keccak
import Turnstile.Table
import Turnstile.Text.Digits

namespace Turnstile

/-! Account and asset identities: numbers of 160 bits, written as forty
hexadecimal digits. The case of the letters in the written form may carry a
checksum, which readers ignore. -/

/-- The number of addresses, `2 ^ 160`. -/
def Address.count : Nat :=
  0x10000000000000000000000000000000000000000

structure Address where
  toNat : Nat
  isLt : toNat < Address.count
deriving DecidableEq

namespace Address

/-- The null identity: mints come from it and burns go to it, and it never holds a
role. -/
def zero : Address := ⟨0, by decide⟩

instance : Inhabited Address := ⟨zero⟩

theorem ext_toNat {left right : Address} (equal : left.toNat = right.toNat) :
    left = right := by
  cases left
  cases right
  simp only at equal
  subst equal
  rfl

instance : Ranked Address where
  rank := toNat
  rank_injective := ext_toNat

def ofNat? (number : Nat) : Option Address :=
  if bound : number < count then some ⟨number, bound⟩ else none

@[simp] theorem ofNat?_toNat (address : Address) : ofNat? address.toNat = some address :=
  dif_pos address.isLt

/-! ## Written forms -/

def digits (address : Address) : List Char :=
  Text.fixedHex 40 address.toNat

def toHex (address : Address) : String :=
  String.ofList ('0' :: 'x' :: address.digits)

/-- The forty digits whose letters are capital where the digest of the plain digits
has a hexadecimal digit of eight or more. -/
def checksummedDigits (address : Address) : List Char :=
  let digest := Keccak.digest (address.digits.map fun char => char.toNat.toUInt8)
  let halves : List UInt8 := digest.flatMap fun (byte : UInt8) => [byte >>> 4, byte &&& 0x0f]
  address.digits.zipWith (fun char half => if 8 ≤ half then char.toUpper else char) halves

def toChecksummed (address : Address) : String :=
  String.ofList ('0' :: 'x' :: address.checksummedDigits)

def ofDigits? (text : List Char) : Option Address :=
  if text.length = 40 then (Text.ofDigits 16 text).bind ofNat? else none

/-- Read forty hexadecimal digits of either case, with or without a leading `0x`. -/
def ofText? : List Char → Option Address
  | '0' :: 'x' :: text => ofDigits? text
  | '0' :: 'X' :: text => ofDigits? text
  | text => ofDigits? text

theorem ofDigits?_digits (address : Address) : ofDigits? address.digits = some address := by
  have small : address.toNat % Nat.pow 16 40 = address.toNat :=
    Nat.mod_eq_of_lt (Nat.lt_of_lt_of_le address.isLt (by decide))
  rw [ofDigits?, digits, if_pos (Text.length_fixedHex ..), Text.ofDigits,
    Text.appendDigits_fixedHex, small, Nat.zero_mul, Nat.zero_add, Option.bind_some]
  exact ofNat?_toNat address

theorem ofText?_toHex (address : Address) : ofText? address.toHex.toList = some address := by
  rw [toHex, String.toList_ofList]
  exact ofDigits?_digits address

end Address

/-! ## Positions -/

/-- One account in one asset: the key of every balance and of every limiter record.
Positions are ordered by asset and then by account. -/
structure Position where
  asset : Address
  account : Address
deriving DecidableEq, Inhabited

instance : Ranked Position where
  rank position := position.asset.toNat * Address.count + position.account.toNat
  rank_injective {left right} equal := by
    have leftBound := left.account.isLt
    have rightBound := right.account.isLt
    unfold Address.count at equal leftBound rightBound
    have assets : left.asset.toNat = right.asset.toNat := by omega
    have accounts : left.account.toNat = right.account.toNat := by omega
    cases left
    cases right
    simp only at assets accounts
    rw [Address.ext_toNat assets, Address.ext_toNat accounts]

end Turnstile
