import Mathlib.Data.Nat.Notation

/-!
The buffer layout of `experiments/vp9-state/model.py`: alignment, the tiled and compressed
planes, and the size eras.

An `Era` is determined by its number, its coded size and its bit depth; the aligned size, the
pixel format and the plane sizes that the constructor stores are functions of these.
-/

namespace OmarchyM1Video.Vp9State

/-- `ALIGN_W`. -/
def alignW : ℕ := 64

/-- `ALIGN_H`. -/
def alignH : ℕ := 16

/-- `MIN_DIM`. -/
def minDim : ℕ := 64

/-- `TS_SCALE`: a destination's timestamp is `(capture_index + 1) * 1000`. -/
def tsScale : ℕ := 1000

/-- `REG_TS_BASE`: the first default timestamp of a registration. -/
def regTsBase : ℕ := 1000000

def roundUp (n a : ℕ) : ℕ := (n + a - 1) / a * a

/-- `align`, another name of `round_up` in the source. -/
def align (n a : ℕ) : ℕ := roundUp n a

def divRoundUp (n d : ℕ) : ℕ := (n + d - 1) / d

/-- `1 << (n - 1).bit_length()`; the bit length of a positive number is one more than its
binary logarithm. -/
def roundupPowOfTwo (n : ℕ) : ℕ :=
  if n ≤ 1 then (if n = 0 then 0 else 1) else 1 <<< (Nat.log2 (n - 1) + 1)

/-- The bytes of the tiles and of the tile headers of one plane. -/
def calcTileMeta (w h bpb tileDim metaHdrBytes : ℕ) : ℕ × ℕ :=
  let tilesW := divRoundUp w tileDim
  let tilesH := divRoundUp h tileDim
  let tileBytes := tileDim * tileDim * divRoundUp bpb 8
  let tile := align (tilesW * tilesH * tileBytes) 16
  let metaW := roundupPowOfTwo tilesW
  let metaH := roundupPowOfTwo tilesH
  (tile, align (metaW * metaH * metaHdrBytes) 16)

/-- The size and the four plane offsets of the compressed reference. -/
def fillComp (width height bitDepth : ℕ) : ℕ × List ℕ :=
  let (y, yMeta) := calcTileMeta width height bitDepth 32 32
  let (uv, uvMeta) := calcTileMeta (width / 2) (height / 2) (bitDepth * 2) 16 8
  (yMeta + y + uvMeta + uv, [y, 0, y + yMeta + uv, y + yMeta])

def pixelPlane (width height bitDepth : ℕ) : ℕ :=
  let bpp := if bitDepth = 10 then 2 else 1
  width * height * bpp + width * height * bpp / 2

def eraSizeimage (alignedW alignedH bitDepth : ℕ) : ℕ :=
  pixelPlane alignedW alignedH bitDepth + (fillComp alignedW alignedH bitDepth).1

/-- The two pixel formats. -/
inductive Fourcc where
  | P010 | NV12
  deriving DecidableEq, Repr

def fourccFor (bitDepth : ℕ) : Fourcc := if bitDepth = 10 then .P010 else .NV12

/-- One size era of a session. -/
structure Era where
  id : ℕ
  width : ℕ
  height : ℕ
  bitDepth : ℕ
  deriving DecidableEq, Repr

namespace Era

def alignedW (era : Era) : ℕ := roundUp era.width alignW

def alignedH (era : Era) : ℕ := roundUp era.height alignH

def fourcc (era : Era) : Fourcc := fourccFor era.bitDepth

def sizeimage (era : Era) : ℕ := eraSizeimage era.alignedW era.alignedH era.bitDepth

def compSize (era : Era) : ℕ := (fillComp era.alignedW era.alignedH era.bitDepth).1

def compOffsets (era : Era) : List ℕ := (fillComp era.alignedW era.alignedH era.bitDepth).2

def startOffset (era : Era) : ℕ := pixelPlane era.alignedW era.alignedH era.bitDepth

end Era

/-- The numbers that `tests.py` computes for the era `640x360`. -/
example : (Era.mk 0 640 360 8).alignedW = 640 ∧ (Era.mk 0 640 360 8).alignedH = 368 ∧
    (Era.mk 0 640 360 8).fourcc = .NV12 := by decide

end OmarchyM1Video.Vp9State
