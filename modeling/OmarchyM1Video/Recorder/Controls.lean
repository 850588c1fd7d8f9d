import Mathlib.Algebra.GroupWithZero.Nat
import Mathlib.Data.List.OfFn
import OmarchyM1Video.Py.Bytes
import OmarchyM1Video.Recorder.AvdCmdtrace

/-!
The control structures of a job and the bytes that the command recorder copies of them:
`experiments/hevc-avd-command-trace/kernel/control-layout.inc` and the pack functions of
`avd-cmdtrace.c`.

The structures hold the named fields; reserved bytes are never copied, so they are left out.

* `HevcSps`, `HevcPps`, `HevcScalingMatrix`, `HevcSliceParams`, `HevcDecodeParams`: the structures;
* `Member`, `controlLayout`: the field list, each field with its kind and the member it copies;
* `packControls`: the bytes, field after field;
* `packControls_eq`: they are the bytes of the members, in order, and as many as there is room for.
-/

namespace OmarchyM1Video.Recorder

open OmarchyM1Video.Py

/-- `struct v4l2_ctrl_hevc_sps`. -/
structure HevcSps where
  videoParameterSetId : UInt8 := 0
  seqParameterSetId : UInt8 := 0
  picWidthInLumaSamples : UInt16 := 0
  picHeightInLumaSamples : UInt16 := 0
  bitDepthLumaMinus8 : UInt8 := 0
  bitDepthChromaMinus8 : UInt8 := 0
  log2MaxPicOrderCntLsbMinus4 : UInt8 := 0
  spsMaxDecPicBufferingMinus1 : UInt8 := 0
  spsMaxNumReorderPics : UInt8 := 0
  spsMaxLatencyIncreasePlus1 : UInt8 := 0
  log2MinLumaCodingBlockSizeMinus3 : UInt8 := 0
  log2DiffMaxMinLumaCodingBlockSize : UInt8 := 0
  log2MinLumaTransformBlockSizeMinus2 : UInt8 := 0
  log2DiffMaxMinLumaTransformBlockSize : UInt8 := 0
  maxTransformHierarchyDepthInter : UInt8 := 0
  maxTransformHierarchyDepthIntra : UInt8 := 0
  pcmSampleBitDepthLumaMinus1 : UInt8 := 0
  pcmSampleBitDepthChromaMinus1 : UInt8 := 0
  log2MinPcmLumaCodingBlockSizeMinus3 : UInt8 := 0
  log2DiffMaxMinPcmLumaCodingBlockSize : UInt8 := 0
  numShortTermRefPicSets : UInt8 := 0
  numLongTermRefPicsSps : UInt8 := 0
  chromaFormatIdc : UInt8 := 0
  spsMaxSubLayersMinus1 : UInt8 := 0
  flags : UInt64 := 0

/-- `struct v4l2_ctrl_hevc_pps`. -/
structure HevcPps where
  picParameterSetId : UInt8 := 0
  numExtraSliceHeaderBits : UInt8 := 0
  numRefIdxL0DefaultActiveMinus1 : UInt8 := 0
  numRefIdxL1DefaultActiveMinus1 : UInt8 := 0
  initQpMinus26 : Int8 := 0
  diffCuQpDeltaDepth : UInt8 := 0
  ppsCbQpOffset : Int8 := 0
  ppsCrQpOffset : Int8 := 0
  numTileColumnsMinus1 : UInt8 := 0
  numTileRowsMinus1 : UInt8 := 0
  columnWidthMinus1 : Fin 20 → UInt8 := fun _ => 0
  rowHeightMinus1 : Fin 22 → UInt8 := fun _ => 0
  ppsBetaOffsetDiv2 : Int8 := 0
  ppsTcOffsetDiv2 : Int8 := 0
  log2ParallelMergeLevelMinus2 : UInt8 := 0
  flags : UInt64 := 0

/-- `struct v4l2_ctrl_hevc_scaling_matrix`. -/
structure HevcScalingMatrix where
  scalingList4x4 : Fin 6 → Fin 16 → UInt8 := fun _ _ => 0
  scalingList8x8 : Fin 6 → Fin 64 → UInt8 := fun _ _ => 0
  scalingList16x16 : Fin 6 → Fin 64 → UInt8 := fun _ _ => 0
  scalingList32x32 : Fin 2 → Fin 64 → UInt8 := fun _ _ => 0
  scalingListDcCoef16x16 : Fin 6 → UInt8 := fun _ => 0
  scalingListDcCoef32x32 : Fin 2 → UInt8 := fun _ => 0

/-- `struct v4l2_hevc_pred_weight_table`. -/
structure HevcPredWeightTable where
  lumaLog2WeightDenom : UInt8 := 0
  deltaChromaLog2WeightDenom : Int8 := 0
  deltaLumaWeightL0 : Fin 16 → Int8 := fun _ => 0
  lumaOffsetL0 : Fin 16 → Int8 := fun _ => 0
  deltaChromaWeightL0 : Fin 16 → Fin 2 → Int8 := fun _ _ => 0
  chromaOffsetL0 : Fin 16 → Fin 2 → Int8 := fun _ _ => 0
  deltaLumaWeightL1 : Fin 16 → Int8 := fun _ => 0
  lumaOffsetL1 : Fin 16 → Int8 := fun _ => 0
  deltaChromaWeightL1 : Fin 16 → Fin 2 → Int8 := fun _ _ => 0
  chromaOffsetL1 : Fin 16 → Fin 2 → Int8 := fun _ _ => 0

/-- `struct v4l2_ctrl_hevc_slice_params`. -/
structure HevcSliceParams where
  bitSize : UInt32 := 0
  dataByteOffset : UInt32 := 0
  numEntryPointOffsets : UInt32 := 0
  nalUnitType : UInt8 := 0
  nuhTemporalIdPlus1 : UInt8 := 0
  sliceType : UInt8 := 0
  colourPlaneId : UInt8 := 0
  slicePicOrderCnt : Int32 := 0
  numRefIdxL0ActiveMinus1 : UInt8 := 0
  numRefIdxL1ActiveMinus1 : UInt8 := 0
  collocatedRefIdx : UInt8 := 0
  fiveMinusMaxNumMergeCand : UInt8 := 0
  sliceQpDelta : Int8 := 0
  sliceCbQpOffset : Int8 := 0
  sliceCrQpOffset : Int8 := 0
  sliceActYQpOffset : Int8 := 0
  sliceActCbQpOffset : Int8 := 0
  sliceActCrQpOffset : Int8 := 0
  sliceBetaOffsetDiv2 : Int8 := 0
  sliceTcOffsetDiv2 : Int8 := 0
  picStruct : UInt8 := 0
  sliceSegmentAddr : UInt32 := 0
  refIdxL0 : Fin 16 → UInt8 := fun _ => 0
  refIdxL1 : Fin 16 → UInt8 := fun _ => 0
  shortTermRefPicSetSize : UInt16 := 0
  longTermRefPicSetSize : UInt16 := 0
  flags : UInt64 := 0
  predWeightTable : HevcPredWeightTable := {}

/-- `struct v4l2_ctrl_hevc_decode_params`, the fields that the recorders read. -/
structure HevcDecodeParams where
  picOrderCntVal : Int32 := 0
  numActiveDpbEntries : UInt8 := 0
  flags : UInt64 := 0

/-- The arguments of `pack_controls`. -/
structure Controls where
  sps : HevcSps := {}
  pps : HevcPps := {}
  sc : HevcScalingMatrix := {}
  sl : HevcSliceParams := {}
  flags : UInt64 := 0

/-- The elements of an array of arrays, row after row. -/
def flat {m n : ℕ} {α : Type} (a : Fin m → Fin n → α) (k : Fin (m * n)) : α := a k.divNat k.modNat

/-! ### The field list -/

/-- The kind of a field with the member that it copies. -/
inductive Member where
  | u8 (get : Controls → UInt8)
  | s8 (get : Controls → Int8)
  | u16 (get : Controls → UInt16)
  | u32 (get : Controls → UInt32)
  | s32 (get : Controls → Int32)
  | u64 (get : Controls → UInt64)
  | bytes (count : ℕ) (get : Controls → Fin count → UInt8)

/-- `FIELD(kind, name, member, count)`. -/
structure Field where
  name : String
  member : Member

/-- `control-layout.inc`. -/
def controlLayout : List Field := [
  ⟨"video_parameter_set_id", .u8 (·.sps.videoParameterSetId)⟩,
  ⟨"seq_parameter_set_id", .u8 (·.sps.seqParameterSetId)⟩,
  ⟨"pic_width_in_luma_samples", .u16 (·.sps.picWidthInLumaSamples)⟩,
  ⟨"pic_height_in_luma_samples", .u16 (·.sps.picHeightInLumaSamples)⟩,
  ⟨"bit_depth_luma_minus8", .u8 (·.sps.bitDepthLumaMinus8)⟩,
  ⟨"bit_depth_chroma_minus8", .u8 (·.sps.bitDepthChromaMinus8)⟩,
  ⟨"log2_max_pic_order_cnt_lsb_minus4", .u8 (·.sps.log2MaxPicOrderCntLsbMinus4)⟩,
  ⟨"sps_max_dec_pic_buffering_minus1", .u8 (·.sps.spsMaxDecPicBufferingMinus1)⟩,
  ⟨"sps_max_num_reorder_pics", .u8 (·.sps.spsMaxNumReorderPics)⟩,
  ⟨"sps_max_latency_increase_plus1", .u8 (·.sps.spsMaxLatencyIncreasePlus1)⟩,
  ⟨"log2_min_luma_coding_block_size_minus3", .u8 (·.sps.log2MinLumaCodingBlockSizeMinus3)⟩,
  ⟨"log2_diff_max_min_luma_coding_block_size", .u8 (·.sps.log2DiffMaxMinLumaCodingBlockSize)⟩,
  ⟨"log2_min_luma_transform_block_size_minus2", .u8 (·.sps.log2MinLumaTransformBlockSizeMinus2)⟩,
  ⟨"log2_diff_max_min_luma_transform_block_size", .u8 (·.sps.log2DiffMaxMinLumaTransformBlockSize)⟩,
  ⟨"max_transform_hierarchy_depth_inter", .u8 (·.sps.maxTransformHierarchyDepthInter)⟩,
  ⟨"max_transform_hierarchy_depth_intra", .u8 (·.sps.maxTransformHierarchyDepthIntra)⟩,
  ⟨"pcm_sample_bit_depth_luma_minus1", .u8 (·.sps.pcmSampleBitDepthLumaMinus1)⟩,
  ⟨"pcm_sample_bit_depth_chroma_minus1", .u8 (·.sps.pcmSampleBitDepthChromaMinus1)⟩,
  ⟨"log2_min_pcm_luma_coding_block_size_minus3", .u8 (·.sps.log2MinPcmLumaCodingBlockSizeMinus3)⟩,
  ⟨"log2_diff_max_min_pcm_luma_coding_block_size",
    .u8 (·.sps.log2DiffMaxMinPcmLumaCodingBlockSize)⟩,
  ⟨"num_short_term_ref_pic_sets", .u8 (·.sps.numShortTermRefPicSets)⟩,
  ⟨"num_long_term_ref_pics_sps", .u8 (·.sps.numLongTermRefPicsSps)⟩,
  ⟨"chroma_format_idc", .u8 (·.sps.chromaFormatIdc)⟩,
  ⟨"sps_max_sub_layers_minus1", .u8 (·.sps.spsMaxSubLayersMinus1)⟩,
  ⟨"sps_flags", .u64 (·.sps.flags)⟩,
  ⟨"pic_parameter_set_id", .u8 (·.pps.picParameterSetId)⟩,
  ⟨"num_extra_slice_header_bits", .u8 (·.pps.numExtraSliceHeaderBits)⟩,
  ⟨"num_ref_idx_l0_default_active_minus1", .u8 (·.pps.numRefIdxL0DefaultActiveMinus1)⟩,
  ⟨"num_ref_idx_l1_default_active_minus1", .u8 (·.pps.numRefIdxL1DefaultActiveMinus1)⟩,
  ⟨"init_qp_minus26", .s8 (·.pps.initQpMinus26)⟩,
  ⟨"diff_cu_qp_delta_depth", .u8 (·.pps.diffCuQpDeltaDepth)⟩,
  ⟨"pps_cb_qp_offset", .s8 (·.pps.ppsCbQpOffset)⟩,
  ⟨"pps_cr_qp_offset", .s8 (·.pps.ppsCrQpOffset)⟩,
  ⟨"num_tile_columns_minus1", .u8 (·.pps.numTileColumnsMinus1)⟩,
  ⟨"num_tile_rows_minus1", .u8 (·.pps.numTileRowsMinus1)⟩,
  ⟨"column_width_minus1", .bytes 20 (·.pps.columnWidthMinus1)⟩,
  ⟨"row_height_minus1", .bytes 22 (·.pps.rowHeightMinus1)⟩,
  ⟨"pps_beta_offset_div2", .s8 (·.pps.ppsBetaOffsetDiv2)⟩,
  ⟨"pps_tc_offset_div2", .s8 (·.pps.ppsTcOffsetDiv2)⟩,
  ⟨"log2_parallel_merge_level_minus2", .u8 (·.pps.log2ParallelMergeLevelMinus2)⟩,
  ⟨"pps_flags", .u64 (·.pps.flags)⟩,
  ⟨"scaling_list_4x4", .bytes 96 fun c => flat c.sc.scalingList4x4⟩,
  ⟨"scaling_list_8x8", .bytes 384 fun c => flat c.sc.scalingList8x8⟩,
  ⟨"scaling_list_16x16", .bytes 384 fun c => flat c.sc.scalingList16x16⟩,
  ⟨"scaling_list_32x32", .bytes 128 fun c => flat c.sc.scalingList32x32⟩,
  ⟨"scaling_list_dc_coef_16x16", .bytes 6 (·.sc.scalingListDcCoef16x16)⟩,
  ⟨"scaling_list_dc_coef_32x32", .bytes 2 (·.sc.scalingListDcCoef32x32)⟩,
  ⟨"bit_size", .u32 (·.sl.bitSize)⟩,
  ⟨"data_byte_offset", .u32 (·.sl.dataByteOffset)⟩,
  ⟨"num_entry_point_offsets", .u32 (·.sl.numEntryPointOffsets)⟩,
  ⟨"nal_unit_type", .u8 (·.sl.nalUnitType)⟩,
  ⟨"nuh_temporal_id_plus1", .u8 (·.sl.nuhTemporalIdPlus1)⟩,
  ⟨"slice_type", .u8 (·.sl.sliceType)⟩,
  ⟨"colour_plane_id", .u8 (·.sl.colourPlaneId)⟩,
  ⟨"slice_pic_order_cnt", .s32 (·.sl.slicePicOrderCnt)⟩,
  ⟨"num_ref_idx_l0_active_minus1", .u8 (·.sl.numRefIdxL0ActiveMinus1)⟩,
  ⟨"num_ref_idx_l1_active_minus1", .u8 (·.sl.numRefIdxL1ActiveMinus1)⟩,
  ⟨"collocated_ref_idx", .u8 (·.sl.collocatedRefIdx)⟩,
  ⟨"five_minus_max_num_merge_cand", .u8 (·.sl.fiveMinusMaxNumMergeCand)⟩,
  ⟨"slice_qp_delta", .s8 (·.sl.sliceQpDelta)⟩,
  ⟨"slice_cb_qp_offset", .s8 (·.sl.sliceCbQpOffset)⟩,
  ⟨"slice_cr_qp_offset", .s8 (·.sl.sliceCrQpOffset)⟩,
  ⟨"slice_act_y_qp_offset", .s8 (·.sl.sliceActYQpOffset)⟩,
  ⟨"slice_act_cb_qp_offset", .s8 (·.sl.sliceActCbQpOffset)⟩,
  ⟨"slice_act_cr_qp_offset", .s8 (·.sl.sliceActCrQpOffset)⟩,
  ⟨"slice_beta_offset_div2", .s8 (·.sl.sliceBetaOffsetDiv2)⟩,
  ⟨"slice_tc_offset_div2", .s8 (·.sl.sliceTcOffsetDiv2)⟩,
  ⟨"pic_struct", .u8 (·.sl.picStruct)⟩,
  ⟨"slice_segment_addr", .u32 (·.sl.sliceSegmentAddr)⟩,
  ⟨"ref_idx_l0", .bytes 16 (·.sl.refIdxL0)⟩,
  ⟨"ref_idx_l1", .bytes 16 (·.sl.refIdxL1)⟩,
  ⟨"short_term_ref_pic_set_size", .u16 (·.sl.shortTermRefPicSetSize)⟩,
  ⟨"long_term_ref_pic_set_size", .u16 (·.sl.longTermRefPicSetSize)⟩,
  ⟨"slice_flags", .u64 (·.sl.flags)⟩,
  ⟨"luma_log2_weight_denom", .u8 (·.sl.predWeightTable.lumaLog2WeightDenom)⟩,
  ⟨"delta_chroma_log2_weight_denom", .s8 (·.sl.predWeightTable.deltaChromaLog2WeightDenom)⟩,
  ⟨"delta_luma_weight_l0", .bytes 16 fun c i => (c.sl.predWeightTable.deltaLumaWeightL0 i).toUInt8⟩,
  ⟨"luma_offset_l0", .bytes 16 fun c i => (c.sl.predWeightTable.lumaOffsetL0 i).toUInt8⟩,
  ⟨"delta_chroma_weight_l0",
    .bytes 32 fun c i => (flat c.sl.predWeightTable.deltaChromaWeightL0 i).toUInt8⟩,
  ⟨"chroma_offset_l0", .bytes 32 fun c i => (flat c.sl.predWeightTable.chromaOffsetL0 i).toUInt8⟩,
  ⟨"delta_luma_weight_l1", .bytes 16 fun c i => (c.sl.predWeightTable.deltaLumaWeightL1 i).toUInt8⟩,
  ⟨"luma_offset_l1", .bytes 16 fun c i => (c.sl.predWeightTable.lumaOffsetL1 i).toUInt8⟩,
  ⟨"delta_chroma_weight_l1",
    .bytes 32 fun c i => (flat c.sl.predWeightTable.deltaChromaWeightL1 i).toUInt8⟩,
  ⟨"chroma_offset_l1", .bytes 32 fun c i => (flat c.sl.predWeightTable.chromaOffsetL1 i).toUInt8⟩,
  ⟨"decode_flags", .u64 (·.flags)⟩]

/-! ### The pack functions -/

/-- `pack_bytes`: nothing is written past the end. -/
def packBytes (out p : List UInt8) : List UInt8 :=
  p.foldl (fun out b => if cmdPacked ≤ out.length then out else out ++ [b]) out

def packU16 (out : List UInt8) (v : UInt16) : List UInt8 := out ++ [v.toUInt8, (v >>> 8).toUInt8]

def packU32 (out : List UInt8) (v : UInt32) : List UInt8 :=
  out ++ [v.toUInt8, (v >>> 8).toUInt8, (v >>> 16).toUInt8, (v >>> 24).toUInt8]

def packU64 (out : List UInt8) (v : UInt64) : List UInt8 :=
  out ++ (List.range 8).map fun i => (v >>> UInt64.ofNat (8 * i)).toUInt8

/-- `W_U8` to `W_BYTES`. -/
def Member.pack (c : Controls) (out : List UInt8) : Member → List UInt8
  | u8 get => out ++ [get c]
  | s8 get => out ++ [(get c).toUInt8]
  | u16 get => packU16 out (get c)
  | u32 get => packU32 out (get c)
  | s32 get => packU32 out (get c).toUInt32
  | u64 get => packU64 out (get c)
  | bytes _ get => packBytes out (List.ofFn (get c))

/-- `pack_controls`: the bytes that are written; their number is what it returns. -/
def packControls (c : Controls) : List UInt8 :=
  controlLayout.foldl (fun out f => f.member.pack c out) []

/-! ### What is packed -/

/-- The number of bytes of a field. -/
def Member.count : Member → ℕ
  | u8 _ => 1
  | s8 _ => 1
  | u16 _ => 2
  | u32 _ => 4
  | s32 _ => 4
  | u64 _ => 8
  | bytes count _ => count

/-- The bytes of a member. -/
def Member.chunk (c : Controls) : Member → List UInt8
  | u8 get => natBytes 1 (get c).toNat
  | s8 get => natBytes 1 (get c).toUInt8.toNat
  | u16 get => natBytes 2 (get c).toNat
  | u32 get => natBytes 4 (get c).toNat
  | s32 get => natBytes 4 (get c).toUInt32.toNat
  | u64 get => natBytes 8 (get c).toNat
  | bytes _ get => List.ofFn (get c)

@[simp] lemma Member.length_chunk (c : Controls) (m : Member) : (m.chunk c).length = m.count := by
  cases m <;> simp [Member.chunk, Member.count]

lemma packBytes_eq {out p : List UInt8} (h : out.length + p.length ≤ cmdPacked) :
    packBytes out p = out ++ p := by
  induction p generalizing out with
  | nil => simp [packBytes]
  | cons b p ih =>
      rw [List.length_cons] at h
      have hroom : ¬cmdPacked ≤ out.length := by omega
      have hrest : packBytes (out ++ [b]) p = out ++ [b] ++ p := by
        refine ih ?_
        rw [List.length_append, List.length_singleton]
        omega
      rw [packBytes, List.foldl_cons, if_neg hroom]
      rw [packBytes] at hrest
      rw [hrest, List.append_assoc, List.singleton_append]

lemma packU16_eq (out : List UInt8) (v : UInt16) : packU16 out v = out ++ natBytes 2 v.toNat := by
  have h : (v >>> 8).toUInt8 = UInt8.ofNat (v.toNat / 256) := by
    apply UInt8.toNat_inj.mp
    simp [Nat.shiftRight_eq_div_pow]
  rw [packU16, h]
  rfl

lemma packU32_eq (out : List UInt8) (v : UInt32) : packU32 out v = out ++ natBytes 4 v.toNat := by
  have h₁ : (v >>> 8).toUInt8 = UInt8.ofNat (v.toNat / 256) := by
    apply UInt8.toNat_inj.mp
    simp [Nat.shiftRight_eq_div_pow]
  have h₂ : (v >>> 16).toUInt8 = UInt8.ofNat (v.toNat / 256 / 256) := by
    apply UInt8.toNat_inj.mp
    simp [Nat.shiftRight_eq_div_pow, Nat.div_div_eq_div_mul]
  have h₃ : (v >>> 24).toUInt8 = UInt8.ofNat (v.toNat / 256 / 256 / 256) := by
    apply UInt8.toNat_inj.mp
    simp [Nat.shiftRight_eq_div_pow, Nat.div_div_eq_div_mul]
  rw [packU32, h₁, h₂, h₃]
  rfl

/-- Byte after byte is one division after the other. -/
lemma natBytes_eq_map (w n : ℕ) :
    natBytes w n = (List.range w).map fun i => UInt8.ofNat (n >>> (8 * i)) := by
  induction w generalizing n with
  | zero => rfl
  | succ w ih =>
      rw [natBytes, ih, List.range_succ_eq_map, List.map_cons, List.map_map]
      refine congrArg₂ List.cons rfl (List.map_congr_left fun i _ => ?_)
      have hshift : n >>> (8 * (i + 1)) = (n / 256) >>> (8 * i) := by
        rw [show n / 256 = n >>> 8 by rw [Nat.shiftRight_eq_div_pow], ← Nat.shiftRight_add]
        congr 1
        omega
      rw [Function.comp_apply, hshift]

lemma packU64_eq (out : List UInt8) (v : UInt64) : packU64 out v = out ++ natBytes 8 v.toNat := by
  rw [packU64, natBytes_eq_map]
  refine congrArg (out ++ ·) (List.map_congr_left fun i hi => ?_)
  have hlt : 8 * i < 64 := by
    have := List.mem_range.mp hi
    omega
  apply UInt8.toNat_inj.mp
  rw [UInt64.toNat_toUInt8, UInt64.toNat_shiftRight, UInt8.toNat_ofNat', UInt64.toNat_ofNat',
    Nat.mod_eq_of_lt (show 8 * i < 2 ^ 64 by omega), Nat.mod_eq_of_lt hlt]

/-- A field is packed after what is there, if there is room. -/
lemma Member.pack_eq {c : Controls} {out : List UInt8} {m : Member}
    (h : out.length + m.count ≤ cmdPacked) : m.pack c out = out ++ m.chunk c := by
  cases m with
  | u8 get =>
      rw [Member.pack, Member.chunk, natBytes, natBytes, UInt8.ofNat_toNat]
  | s8 get =>
      rw [Member.pack, Member.chunk, natBytes, natBytes, UInt8.ofNat_toNat]
  | u16 get => exact packU16_eq out _
  | u32 get => exact packU32_eq out _
  | s32 get => exact packU32_eq out _
  | u64 get => exact packU64_eq out _
  | bytes count get =>
      refine packBytes_eq ?_
      rw [List.length_ofFn]
      exact h

/-- The bytes of a list of fields. -/
def layoutSize (fields : List Field) : ℕ := (fields.map fun f => f.member.count).sum

/-- `BUILD_BUG_ON(CMD_PACKED != 1380)`. -/
lemma layoutSize_controlLayout : layoutSize controlLayout = cmdPacked := rfl

lemma foldl_pack {c : Controls} {fields : List Field} {out : List UInt8}
    (h : out.length + layoutSize fields ≤ cmdPacked) :
    fields.foldl (fun out f => f.member.pack c out) out =
      out ++ fields.flatMap fun f => f.member.chunk c := by
  induction fields generalizing out with
  | nil => simp
  | cons f fields ih =>
      simp only [layoutSize, List.map_cons, List.sum_cons] at h
      have hf : f.member.pack c out = out ++ f.member.chunk c := Member.pack_eq (by omega)
      rw [List.foldl_cons, hf, ih, List.flatMap_cons, List.append_assoc]
      rw [List.length_append, Member.length_chunk, layoutSize]
      omega

/-- **The bytes that are packed are those of the members, in order.** -/
theorem packControls_eq (c : Controls) :
    packControls c = controlLayout.flatMap fun f => f.member.chunk c := by
  rw [packControls, foldl_pack (Nat.le_of_eq (Nat.zero_add _)), List.nil_append]

lemma length_flatMap_chunk (c : Controls) (fields : List Field) :
    (fields.flatMap fun f => f.member.chunk c).length = layoutSize fields := by
  rw [List.length_flatMap, layoutSize]
  simp only [Member.length_chunk]

/-- Every byte of the buffer is written. -/
lemma length_packControls (c : Controls) : (packControls c).length = cmdPacked := by
  rw [packControls_eq, length_flatMap_chunk, layoutSize_controlLayout]

end OmarchyM1Video.Recorder
