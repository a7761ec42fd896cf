/-!
# A keyed hash of texts

SipHash with one compression and three finalisation rounds, under the zero key. A text is hashed as
its bytes followed by one byte `0xFF`, which keeps a text apart from its extensions.
-/

namespace RenderTrace.Sip

/-- The four lanes of the hash. -/
structure Lanes where
  v0 : UInt64
  v1 : UInt64
  v2 : UInt64
  v3 : UInt64

/-- Rotation to the left by `k` bits, `0 < k < 64`. -/
def rotate (x : UInt64) (k : UInt64) : UInt64 := (x <<< k) ||| (x >>> (64 - k))

/-- One round of mixing. -/
def Lanes.mix (s : Lanes) : Lanes :=
  let v0 := s.v0 + s.v1
  let v1 := rotate s.v1 13 ^^^ v0
  let v0 := rotate v0 32
  let v2 := s.v2 + s.v3
  let v3 := rotate s.v3 16 ^^^ v2
  let v0 := v0 + v3
  let v3 := rotate v3 21 ^^^ v0
  let v2 := v2 + v1
  let v1 := rotate v1 17 ^^^ v2
  let v2 := rotate v2 32
  ⟨v0, v1, v2, v3⟩

/-- The lanes under the zero key. -/
def Lanes.initial : Lanes :=
  ⟨0x736f6d6570736575, 0x646f72616e646f6d, 0x6c7967656e657261, 0x7465646279746573⟩

/-- Takes in one word. -/
def Lanes.absorb (s : Lanes) (word : UInt64) : Lanes :=
  let t := Lanes.mix { s with v3 := s.v3 ^^^ word }
  { t with v0 := t.v0 ^^^ word }

/-- The word of at most eight bytes, lowest byte first. -/
def word : List UInt8 → UInt64
  | [] => 0
  | b :: bs => b.toUInt64 ||| (word bs <<< 8)

/-- Takes in all full words of `bytes`, and last the rest with the length in its top byte. -/
def Lanes.absorbAll (length : Nat) (s : Lanes) : List UInt8 → Lanes
  | b0 :: b1 :: b2 :: b3 :: b4 :: b5 :: b6 :: b7 :: rest =>
    (s.absorb (word [b0, b1, b2, b3, b4, b5, b6, b7])).absorbAll length rest
  | rest => s.absorb (word rest ||| (UInt64.ofNat length <<< 56))

/-- The hash of a sequence of bytes. -/
def hashBytes (bytes : List UInt8) : UInt64 :=
  let s := Lanes.initial.absorbAll bytes.length bytes
  let s := (Lanes.mix (Lanes.mix (Lanes.mix { s with v2 := s.v2 ^^^ 0xff })))
  s.v0 ^^^ s.v1 ^^^ s.v2 ^^^ s.v3

/-- The hash of a text: its bytes, then `0xFF`. -/
def hashText (text : String) : UInt64 :=
  hashBytes (text.toUTF8.toList ++ [0xff])

end RenderTrace.Sip
