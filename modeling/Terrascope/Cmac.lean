import Mathlib.Data.Vector.Basic

/-!
# AES-128-CMAC

The MAC of the crypto service, so that a firmware image can be written down
in full and run. A block – of text, of key or of MAC – is a number below
2^128 whose most significant byte comes first, and a byte of the AES state
is addressed by its place in that order, column by column.
-/

namespace Cmac

/-! ## The block cipher -/

/-- The bytes of the substitution table in a row, first byte first. -/
def sboxTable : ℕ :=
  [0x637c777bf26b6fc53001672bfed7ab76ca82c97dfa5947f0add4a2af9ca472c0,
    0xb7fd9326363ff7cc34a5e5f171d8311504c723c31896059a071280e2eb27b275,
    0x09832c1a1b6e5aa0523bd6b329e32f8453d100ed20fcb15b6acbbe394a4c58cf,
    0xd0efaafb434d338545f9027f503c9fa851a3408f929d38f5bcb6da2110fff3d2,
    0xcd0c13ec5f974417c4a77e3d645d197360814fdc222a908846eeb814de5e0bdb,
    0xe0323a0a4906245cc2d3ac629195e479e7c8376d8dd54ea96c56f4ea657aae08,
    0xba78252e1ca6b4c6e8dd741f4bbd8b8a703eb5664803f60e613557b986c11d9e,
    0xe1f8981169d98e949b1e87e9ce5528df8ca1890dbfe6426841992d0fb054bb16].foldl
  (fun table row => table * 2 ^ 256 + row) 0

/-- The substitution table at a byte. -/
def subByte (b : ℕ) : ℕ := (sboxTable >>> (8 * (255 - b))) % 2 ^ 8

/-- Twice a byte in the field of 256 elements. -/
def xtime (b : ℕ) : ℕ := if b < 2 ^ 7 then 2 * b else (2 * b) ^^^ 0x11b

/-- A byte of a block. -/
def byte (s i : ℕ) : ℕ := (s >>> (8 * (15 - i))) % 2 ^ 8

/-- The block with the given bytes. -/
def ofBytes (f : ℕ → ℕ) : ℕ := (List.range 16).foldl (fun s i => s * 2 ^ 8 + f i) 0

/-- Every byte is substituted. -/
def subBytes (s : ℕ) : ℕ := ofBytes (fun i => subByte (byte s i))

/-- Row `r` goes `r` columns to the left. -/
def shiftRows (s : ℕ) : ℕ := ofBytes (fun i => byte s (5 * i % 16))

/-- A byte is mixed with the three after it in its column, going round. -/
def mixColumns (s : ℕ) : ℕ :=
  ofBytes (fun i =>
    let column (k : ℕ) : ℕ := byte s (i / 4 * 4 + (i + k) % 4)
    xtime (column 0 ^^^ column 1) ^^^ column 1 ^^^ column 2 ^^^ column 3)

/-- The next round key: every word takes in the words before it and the last
one, rotated and substituted. -/
def nextKey (key rcon : ℕ) : ℕ :=
  let last := ofBytes (fun i =>
    subByte (byte key (12 + (i + 1) % 4)) ^^^ (if i % 4 = 0 then rcon else 0))
  last ^^^ key ^^^ (key >>> 32) ^^^ (key >>> 64) ^^^ (key >>> 96)

/-- A round of the cipher, over the round key and the state. -/
def round (ks : ℕ × ℕ) (rcon : ℕ) : ℕ × ℕ :=
  let key := nextKey ks.1 rcon
  (key, mixColumns (shiftRows (subBytes ks.2)) ^^^ key)

/-- **AES with a 128-bit key.** -/
def encrypt (key block : ℕ) : ℕ :=
  let ks := [0x01, 0x02, 0x04, 0x08, 0x10, 0x20, 0x40, 0x80, 0x1b].foldl round
    (key, block ^^^ key)
  shiftRows (subBytes ks.2) ^^^ nextKey ks.1 0x36

/-! ## The MAC -/

/-- Twice a block in the field of 2^128 elements. -/
def double (b : ℕ) : ℕ := if b < 2 ^ 127 then 2 * b else (2 * b) ^^^ (2 ^ 128 + 0x87)

/-- The first sixteen bytes of a text, with zeros where it is shorter. -/
def ofText (text : List UInt8) : ℕ := ofBytes (fun i => (text.getD i 0).toNat)

/-- The chain over a text of so many blocks before the last one, which is
masked with a subkey according to whether it is whole. -/
def chain (key state : ℕ) : ℕ → List UInt8 → ℕ
  | 0, last =>
    let subkey := double (encrypt key 0)
    if last.length = 16 then encrypt key (state ^^^ ofText last ^^^ subkey)
    else encrypt key (state ^^^ ofText (last ++ [0x80]) ^^^ double subkey)
  | n + 1, text =>
    chain key (encrypt key (state ^^^ ofText (text.take 16))) n (text.drop 16)

/-- **The CMAC of a text**, all sixteen bytes of it. -/
def mac (key : ℕ) (text : List UInt8) : Vector UInt8 16 :=
  let tag := chain key 0 ((text.length - 1) / 16) text
  Vector.ofFn (fun i => UInt8.ofNat (byte tag i))

/-- A published test vector of the algorithm: one whole block. -/
example :
    mac 0x2b7e151628aed2a6abf7158809cf4f3c
        [0x6b, 0xc1, 0xbe, 0xe2, 0x2e, 0x40, 0x9f, 0x96,
          0xe9, 0x3d, 0x7e, 0x11, 0x73, 0x93, 0x17, 0x2a]
      = #v[0x07, 0x0a, 0x16, 0xb4, 0x6b, 0x4d, 0x41, 0x44,
          0xf7, 0x9b, 0xdd, 0x9d, 0xd0, 0x4a, 0x28, 0x7c] := by
  decide +kernel

end Cmac
