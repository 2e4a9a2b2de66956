import Mathlib.Data.List.Basic
import Mathlib.Tactic.Common

/-! # SHA-256 and its hexadecimal digest

The hash the broker code stores in place of a plaintext order number.
-/

namespace StockAiPlatform.Python
set_option autoImplicit false

namespace Sha256

def roundConstants : List UInt32 :=
  [0x428a2f98, 0x71374491, 0xb5c0fbcf, 0xe9b5dba5, 0x3956c25b, 0x59f111f1, 0x923f82a4, 0xab1c5ed5,
    0xd807aa98, 0x12835b01, 0x243185be, 0x550c7dc3, 0x72be5d74, 0x80deb1fe, 0x9bdc06a7, 0xc19bf174,
    0xe49b69c1, 0xefbe4786, 0x0fc19dc6, 0x240ca1cc, 0x2de92c6f, 0x4a7484aa, 0x5cb0a9dc, 0x76f988da,
    0x983e5152, 0xa831c66d, 0xb00327c8, 0xbf597fc7, 0xc6e00bf3, 0xd5a79147, 0x06ca6351, 0x14292967,
    0x27b70a85, 0x2e1b2138, 0x4d2c6dfc, 0x53380d13, 0x650a7354, 0x766a0abb, 0x81c2c92e, 0x92722c85,
    0xa2bfe8a1, 0xa81a664b, 0xc24b8b70, 0xc76c51a3, 0xd192e819, 0xd6990624, 0xf40e3585, 0x106aa070,
    0x19a4c116, 0x1e376c08, 0x2748774c, 0x34b0bcb5, 0x391c0cb3, 0x4ed8aa4a, 0x5b9cca4f, 0x682e6ff3,
    0x748f82ee, 0x78a5636f, 0x84c87814, 0x8cc70208, 0x90befffa, 0xa4506ceb, 0xbef9a3f7, 0xc67178f2]

structure Registers where
  a : UInt32
  b : UInt32
  c : UInt32
  d : UInt32
  e : UInt32
  f : UInt32
  g : UInt32
  h : UInt32

def start : Registers :=
  ⟨0x6a09e667, 0xbb67ae85, 0x3c6ef372, 0xa54ff53a, 0x510e527f, 0x9b05688c, 0x1f83d9ab, 0x5be0cd19⟩

def rotateRight (x : UInt32) (n : UInt32) : UInt32 := (x >>> n) ||| (x <<< (32 - n))

def bytesOfNat (width n : Nat) : List UInt8 :=
  (List.range width).reverse.map fun i => UInt8.ofNat (n >>> (8 * i))

/-- The message, one bit, zeros, and the bit length in the last eight bytes. -/
def pad (message : List UInt8) : List UInt8 :=
  message ++ 0x80 :: List.replicate ((119 - message.length % 64) % 64) 0
    ++ bytesOfNat 8 (8 * message.length)

def wordsOf : List UInt8 → List UInt32
  | a :: b :: c :: d :: rest =>
    ((a.toUInt32 <<< 24) ||| (b.toUInt32 <<< 16) ||| (c.toUInt32 <<< 8) ||| d.toUInt32)
      :: wordsOf rest
  | _ => []

/-- The message schedule, latest word first, until `n` more words are in it. -/
def schedule : Nat → List UInt32 → List UInt32
  | 0, latest => latest
  | n + 1, latest =>
    let w := fun i => latest.getD (i - 1) 0
    let s0 := rotateRight (w 15) 7 ^^^ rotateRight (w 15) 18 ^^^ (w 15 >>> 3)
    let s1 := rotateRight (w 2) 17 ^^^ rotateRight (w 2) 19 ^^^ (w 2 >>> 10)
    schedule n ((w 16 + s0 + w 7 + s1) :: latest)

def round (r : Registers) (k w : UInt32) : Registers :=
  let s1 := rotateRight r.e 6 ^^^ rotateRight r.e 11 ^^^ rotateRight r.e 25
  let choice := (r.e &&& r.f) ^^^ (~~~r.e &&& r.g)
  let t1 := r.h + s1 + choice + k + w
  let s0 := rotateRight r.a 2 ^^^ rotateRight r.a 13 ^^^ rotateRight r.a 22
  let majority := (r.a &&& r.b) ^^^ (r.a &&& r.c) ^^^ (r.b &&& r.c)
  ⟨t1 + (s0 + majority), r.a, r.b, r.c, r.d + t1, r.e, r.f, r.g⟩

def compress (r : Registers) (block : List UInt32) : Registers :=
  let words := (schedule 48 block.reverse).reverse
  let t := (roundConstants.zip words).foldl (fun acc kw => round acc kw.1 kw.2) r
  ⟨r.a + t.a, r.b + t.b, r.c + t.c, r.d + t.d, r.e + t.e, r.f + t.f, r.g + t.g, r.h + t.h⟩

/-- `fuel` bounds the number of blocks of sixteen words. -/
def blocks : Nat → Registers → List UInt32 → Registers
  | 0, r, _ => r
  | fuel + 1, r, words =>
    if words.isEmpty then r else blocks fuel (compress r (words.take 16)) (words.drop 16)

def digest (message : List UInt8) : List UInt8 :=
  let words := wordsOf (pad message)
  let r := blocks words.length start words
  [r.a, r.b, r.c, r.d, r.e, r.f, r.g, r.h].flatMap fun w => bytesOfNat 4 w.toNat

def hexDigits : List Char :=
  ['0', '1', '2', '3', '4', '5', '6', '7', '8', '9', 'a', 'b', 'c', 'd', 'e', 'f']

def hexByte (b : UInt8) : List Char :=
  [hexDigits.getD (b.toNat / 16) '0', hexDigits.getD (b.toNat % 16) '0']

end Sha256

/-- `hashlib.sha256(text.encode()).hexdigest()`. -/
def sha256Hexdigest (text : String) : String :=
  String.ofList ((Sha256.digest text.toUTF8.toList).flatMap Sha256.hexByte)

namespace Sha256

theorem length_bytesOfNat (width n : Nat) : (bytesOfNat width n).length = width := by
  simp [bytesOfNat]

theorem length_digest (message : List UInt8) : (digest message).length = 32 := by
  simp only [digest, List.flatMap_cons, List.flatMap_nil, List.length_append, length_bytesOfNat,
    List.length_nil]

theorem length_flatMap_hexByte (bytes : List UInt8) :
    (bytes.flatMap hexByte).length = 2 * bytes.length := by
  induction bytes with
  | nil => rfl
  | cons b bytes ih =>
    rw [List.flatMap_cons, List.length_append, ih, List.length_cons]
    show 2 + 2 * bytes.length = 2 * (bytes.length + 1)
    omega

theorem getD_mem_hexDigits (n : Nat) : hexDigits.getD n '0' ∈ hexDigits := by
  rw [List.getD_eq_getElem?_getD]
  cases hDigit : hexDigits[n]? with
  | none => exact List.mem_cons_self
  | some digit => exact List.mem_of_getElem? hDigit

end Sha256

/-- The digest fits the hash columns and the audit log's bound of 64 characters. -/
theorem length_sha256Hexdigest (text : String) : (sha256Hexdigest text).length = 64 := by
  rw [sha256Hexdigest, String.length_ofList, Sha256.length_flatMap_hexByte, Sha256.length_digest]

theorem mem_sha256Hexdigest {text : String} {c : Char} (h : c ∈ (sha256Hexdigest text).toList) :
    c ∈ Sha256.hexDigits := by
  rw [sha256Hexdigest, String.toList_ofList] at h
  obtain ⟨byte, -, hByte⟩ := List.mem_flatMap.mp h
  rcases List.mem_pair.mp hByte with rfl | rfl
  · exact Sha256.getD_mem_hexDigits _
  · exact Sha256.getD_mem_hexDigits _

example : sha256Hexdigest "abc" =
    "ba7816bf8f01cfea414140de5dae2223b00361a396177a9cb410ff61f20015ad" := by decide +kernel

end StockAiPlatform.Python
