import OmarchyM1Video.CommandTrace.Wire
import OmarchyM1Video.Py.Text

/-!
The offline reader of a snapshot of the command recorder: `validate_controls` and `parse_snapshot` of
`experiments/hevc-avd-command-trace/parser.py`.

* `History`, `Window`, `Snapshot`: what is read;
* `validateControls`: the domain of the control values;
* `parseSnapshot`: the reader.
-/

namespace OmarchyM1Video.CommandTrace

open OmarchyM1Video.Py OmarchyM1Video.Recorder

/-! ### The domain of the controls -/

/-- `c[name]` of a scalar. -/
def intField (c : Dict String Json) (name : String) : Except String ℤ :=
  match c.get? name with
  | some (.int n) => .ok n
  | some _ => .error "TypeError"
  | none => .error "KeyError"

/-- The masks of the flags, all of low bits. -/
def flagMasks : List (String × ℤ) :=
  [("sps_flags", 511), ("pps_flags", 0x1FFFFF), ("slice_flags", 1023), ("decode_flags", 7)]

/-- `c[name] & ~mask == 0`. -/
def checkFlags (c : Dict String Json) (name : String) (mask : ℤ) : Except String Unit := do
  let v ← intField c name
  need (0 ≤ v ∧ v ≤ mask) ("unknown control flags: " ++ name)

/-- A value within bounds on both sides. -/
def checkRange (c : Dict String Json) (name : String) (bound : ℤ) (reason : String) :
    Except String Unit := do
  let v ← intField c name
  need (-bound ≤ v ∧ v ≤ bound) reason

/-- The kind of the slice, and that it is one of a picture without tiles. -/
def checkTiles (c : Dict String Json) : Except String Unit := do
  let sliceType ← intField c "slice_type"
  need (sliceType = 0 ∨ sliceType = 1 ∨ sliceType = 2) "unknown slice type"
  let ppsFlags ← intField c "pps_flags"
  let entryPoints ← intField c "num_entry_point_offsets"
  need (ppsFlags / 0x800 % 2 = 0 ∧ entryPoints = 0) "tiles/entry points outside experiment"
  let columns ← intField c "num_tile_columns_minus1"
  let rows ← intField c "num_tile_rows_minus1"
  need (columns = rows ∧ rows = 0) "unexpected inactive tile geometry"

/-- `(n + (1 << log2) - 1) >> log2`. -/
def blocks (n log2 : ℤ) : ℤ := (n + 2 ^ log2.toNat - 1) / 2 ^ log2.toNat

/-- The size of the picture, and where the slice starts in it. -/
def checkGeometry (c : Dict String Json) : Except String Unit := do
  let chroma ← intField c "chroma_format_idc"
  let depth ← intField c "bit_depth_luma_minus8"
  let depthChroma ← intField c "bit_depth_chroma_minus8"
  need (chroma = 1 ∧ (depth = 0 ∨ depth = 2) ∧ depth = depthChroma) "depth/chroma outside experiment"
  let width ← intField c "pic_width_in_luma_samples"
  let height ← intField c "pic_height_in_luma_samples"
  need ((0 < width ∧ width ≤ 16384) ∧ 0 < height ∧ height ≤ 16384) "dimensions outside domain"
  let log2Min ← intField c "log2_min_luma_coding_block_size_minus3"
  let log2Diff ← intField c "log2_diff_max_min_luma_coding_block_size"
  let log2 := 3 + log2Min + log2Diff
  need (3 ≤ log2 ∧ log2 ≤ 6) "invalid CTB size"
  let address ← intField c "slice_segment_addr"
  need (address < blocks width log2 * blocks height log2) "slice start outside picture"

/-- The references, the weights and the extent of the slice. -/
def checkSlice (c : Dict String Json) : Except String Unit := do
  let l0 ← intField c "num_ref_idx_l0_active_minus1"
  let l1 ← intField c "num_ref_idx_l1_active_minus1"
  need (l0 < 16 ∧ l1 < 16) "reference extent"
  let luma ← intField c "luma_log2_weight_denom"
  let chroma ← intField c "delta_chroma_log2_weight_denom"
  need ((0 ≤ luma ∧ luma ≤ 7) ∧ 0 ≤ luma + chroma ∧ luma + chroma ≤ 7) "weight shift outside domain"
  let bitSize ← intField c "bit_size"
  let offset ← intField c "data_byte_offset"
  need (bitSize ≤ 0x7FFFFFFF ∧ 0 ≤ offset ∧ offset < bitSize / 8)
    "coded extent outside source int domain"
  let initQp ← intField c "init_qp_minus26"
  let qpDelta ← intField c "slice_qp_delta"
  let depth ← intField c "bit_depth_luma_minus8"
  need (0 ≤ initQp + 26 + qpDelta ∧ initQp + 26 + qpDelta ≤ 51 + 6 * depth) "QP outside experiment"

/-- `validate_controls(c)`. -/
def validateControls (c : Dict String Json) : Except String Unit := do
  flagMasks.forM fun p => checkFlags c p.1 p.2
  checkTiles c
  checkGeometry c
  checkSlice c
  ["pps_cb_qp_offset", "pps_cr_qp_offset", "slice_cb_qp_offset", "slice_cr_qp_offset"].forM
    fun name => checkRange c name 12 "QP offset outside domain"
  ["slice_beta_offset_div2", "slice_tc_offset_div2"].forM
    fun name => checkRange c name 6 "deblock offset outside domain"

/-! ### Reading -/

/-- A history row. -/
structure History where
  picture : ℕ
  poc : ℤ
  type : ℕ
  target : ℕ
  flags : ℕ
  intra : ℕ
  deriving DecidableEq

/-- A window. -/
structure Window where
  picture : ℕ
  poc : ℤ
  type : ℕ
  nwords : ℕ
  nbytes : ℕ
  inactive : ℕ
  sites : List ℕ
  words : List ℕ
  controls : List UInt8
  decomp : ℕ
  revision : ℕ
  quirks : ℕ
  bytesperline : ℕ
  deriving DecidableEq

/-- What `parse_snapshot` returns. -/
structure Snapshot where
  run : ℕ
  context : ℕ
  pictures : List History
  windows : List Window
  deriving DecidableEq

/-- `unsigned(token, bits)`, where `bound` is `1 << bits`. -/
def unsigned (bound : ℕ) (token : List Char) : Except String ℕ :=
  unsignedToken "noncanonical integer" "integer range/noncanonical spelling" bound token

/-- `signed32(n)`. -/
def signed32 (n : ℕ) : ℤ := if n < 0x80000000 then n else (n : ℤ) - 0x100000000

/-- `WINDOW_SIZE`. -/
def windowSize : ℕ := 7596

/-- `CAPTURE_SIZE`. -/
def captureSize : ℕ := (64 + 300 * 24 + 11 * windowSize + 7) / 8 * 8

/-- The numbers of the header: the run and the context, if the rest is as it should be. -/
def readHeader (expectedRun : ℤ) : List ℕ → Except String (ℕ × ℕ)
  | [version, run, context, phase, errors, pictures, done, cap, first, last, words, size, wsize] => do
      need ((version = 2 ∧ (run : ℤ) = expectedRun ∧ phase = 4 ∧ errors = 0) ∧ 0 < context)
        "wrong run/context/schema or invalid capture"
      need ([pictures, done, cap, first, last, words, size, wsize] =
        [300, 300, 2048, 24, 34, 1024, captureSize, windowSize]) "extent/layout mismatch"
      return (run, context)
  | _ => .error "header shape"

/-- The numbers of a history row. -/
def historyOf (pic : ℕ) : List ℕ → Except String History
  | [number, poc, kind, target, flags, intra] => do
      need (number = pic ∧ (kind = 0 ∨ kind = 1 ∨ kind = 2) ∧ flags &&& 7 = flags ∧
        intra = if kind = 2 then 1 else 0) "history sequence/type/flags"
      return { picture := number, poc := signed32 poc, type := kind, target, flags, intra }
  | _ => .error "history shape"

/-- A line of the history. -/
def readHistory (pic : ℕ) (line : List Char) : Except String History := do
  let p := split line
  need (p.length = 7 ∧ p.head? = some ['P']) "history shape"
  let numbers ← p.tail.mapM (unsigned 0x100000000)
  historyOf pic numbers

/-- `pairs[::2]`, `pairs[1::2]`. -/
def unpair : List ℕ → List ℕ × List ℕ
  | a :: b :: rest => (a :: (unpair rest).1, b :: (unpair rest).2)
  | [a] => ([a], [])
  | [] => ([], [])

/-- The numbers of a window before its words; `tokens` is the number of tokens on its line. -/
def windowOf (h : History) (pic tokens : ℕ) : List ℕ → Except String Window
  | [number, poc, kind, nwords, nbytes, inactive, decomp, revision, quirks, stride] => do
      need (number = pic ∧ (signed32 poc, kind) = (h.poc, h.type)) "window/history binding"
      need (0 < nwords ∧ nwords ≤ 1024 ∧ nbytes = cmdControl ∧ tokens = 11 + 2 * nwords)
        "word/control extent"
      need ((decomp = 0 ∨ decomp = 1) ∧ (revision = 3 ∨ revision = 4) ∧ quirks &&& 3 = quirks ∧
        0 < stride ∧ stride < 0x1000000) "missing/unknown kernel context inputs"
      need (inactive &&& 0x8080000 = inactive) "unknown inactive bits"
      return { picture := pic, poc := signed32 poc, type := kind, nwords, nbytes, inactive, decomp,
               revision, quirks, bytesperline := stride, sites := [], words := [], controls := [] }
  | _ => .error "window shape"

/-- A line of control bytes. -/
def readControls (line : List Char) : Except String (List UInt8) := do
  let raw := split line
  need (raw.length = cmdControl + 1 ∧ raw.head? = some ['C']) "control row shape"
  let numbers ← raw.tail.mapM (unsigned 0x100)
  return numbers.map UInt8.ofNat

/-- The bits that are expected to be inactive. -/
def expectedInactive (spsFlags : ℤ) (kind : ℕ) : ℕ :=
  (if spsFlags / 2 % 2 = 0 then 0x80000 else 0) ||| if kind = 2 then 0x8000000 else 0

/-- The control bytes of a window belong to its job. -/
def bindControls (h : History) (w : Window) (buf : List UInt8) : Except String Unit := do
  let c ← unpackControls buf
  validateControls c
  let poc ← intField c "slice_pic_order_cnt"
  let kind ← intField c "slice_type"
  let flags ← intField c "decode_flags"
  need ((poc, kind, flags) = (w.poc, (w.type : ℤ), (h.flags : ℤ))) "copied controls bound to wrong job"
  let spsFlags ← intField c "sps_flags"
  need (w.inactive = expectedInactive spsFlags w.type) "missing/contradictory inactive state"

/-- The two lines of a window. -/
def readWindow (histories : List History) (pic : ℕ) (line controls : List Char) :
    Except String Window := do
  let tokens := split line
  need (11 ≤ tokens.length ∧ tokens.head? = some ['W']) "window shape"
  let numbers ← (tokens.tail.take 10).mapM (unsigned 0x100000000)
  let h ← found histories[pic - 1]? "IndexError"
  let w ← windowOf h pic tokens.length numbers
  let pairs ← (tokens.drop 11).mapM (unsigned 0x100000000)
  let (sites, words) := unpair pairs
  need (sites.all (fun site => 1 ≤ site ∧ site ≤ 32) = true) "unknown word site"
  let buf ← readControls controls
  bindControls h w buf
  return { w with sites, words, controls := buf }

/-- `parse_snapshot(text, expected_run)`. -/
def parseSnapshot (text : List Char) (expectedRun : ℤ) : Except String Snapshot := do
  need (0 < expectedRun ∧ expectedRun < 0x10000000000000000) "expected run required"
  need (encodedLength text ≤ 524288) "snapshot too large"
  let lines := splitlines text
  need (lines.length = 323) "require header, 300 histories and 11 complete windows"
  let h := split (lines.headD [])
  need (h.length = 14 ∧ h.head? = some ['H']) "header shape"
  let numbers ← h.tail.mapM (unsigned 0x10000000000000000)
  let (run, context) ← readHeader expectedRun numbers
  let pictures ← (((lines.drop 1).take 300).zipIdx 1).mapM fun p => readHistory p.2 p.1
  let windows ← (List.range 11).mapM fun slot => readWindow pictures (24 + slot)
    (lines.getD (301 + slot * 2) []) (lines.getD (302 + slot * 2) [])
  return { run, context, pictures, windows }

end OmarchyM1Video.CommandTrace
