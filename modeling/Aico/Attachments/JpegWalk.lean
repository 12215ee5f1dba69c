import Aico.Attachments.ImagePixels

/-!
# The walk over a JPEG file

`jpegPixels` jumps from marker to marker by the lengths that the segments declare, and moves on
by one byte where there is no marker. It ends on every body and reads no byte outside of it. It
takes a fill byte in front of a marker for a marker of its own: `jpegPixels_exact_iff` says
before which runs of fill bytes the size is read all the same.
-/

namespace Aico

namespace AttachmentValidator

/-! ## Reads within the buffer -/

/-- `Buffer.prototype.readUInt16BE`, which throws where a byte is missing. -/
def checkedUInt16BE (body : Bytes) (offset : ℕ) : Option ℕ :=
  if offset + 2 ≤ body.length then some (readUInt16BE body offset) else none

/-- How an iteration of the loop ends. -/
inductive JpegStep where
  | next (offset : ℕ)
  | returned (pixels : Option ℕ)
deriving DecidableEq

/-- An iteration of the loop of `jpegPixels`; none where it reads outside of the buffer. -/
def jpegIteration (body : Bytes) (offset : ℕ) : Option JpegStep :=
  if offset + 9 < body.length then do
    let byte ← body[offset]?
    if byte ≠ 0xFF then some (.next (offset + 1))
    else
      let marker ← body[offset + 1]?
      let size ← checkedUInt16BE body (offset + 2)
      if isFrameMarker marker.toNat then
        let height ← checkedUInt16BE body (offset + 5)
        let width ← checkedUInt16BE body (offset + 7)
        some (.returned (some (height * width)))
      else some (.next (offset + (2 + size)))
  else some (.returned none)

def jpegLoop (body : Bytes) : ℕ → ℕ → Option JpegStep
  | 0, offset => some (.next offset)
  | n + 1, offset =>
      match jpegIteration body offset with
      | some (.next offset) => jpegLoop body n offset
      | step => step

theorem jpegIteration_eq (body : Bytes) (offset : ℕ) :
    jpegIteration body offset = some (
      if offset + 9 < body.length then
        if byteAt body offset ≠ 0xFF then .next (offset + 1)
        else if isFrameMarker (byteAt body (offset + 1)) then
          .returned (some (readUInt16BE body (offset + 5) * readUInt16BE body (offset + 7)))
        else .next (offset + (2 + readUInt16BE body (offset + 2)))
      else .returned none) := by
  have hread {i : ℕ} (h : i + 2 ≤ body.length) :
      checkedUInt16BE body i = some (readUInt16BE body i) := if_pos h
  have hbyte {i : ℕ} (h : i < body.length) : body[i]? = some body[i] :=
    List.getElem?_eq_getElem h
  have hat {i : ℕ} (h : i < body.length) : byteAt body i = body[i].toNat := by
    rw [byteAt, hbyte h, Option.getD_some]
  rw [jpegIteration]
  by_cases hlength : offset + 9 < body.length
  · rw [if_pos hlength, if_pos hlength, hbyte (by omega), hbyte (by omega), hread (by omega),
      hread (by omega), hread (by omega), hat (by omega), hat (by omega)]
    have hne : body[offset] ≠ 0xFF ↔ body[offset].toNat ≠ 0xFF :=
      not_congr UInt8.toNat_inj.symm
    simp only [Option.bind_eq_bind, Option.bind_some, hne]
    split
    · rfl
    · split
      · rfl
      · rfl
  · rw [if_neg hlength, if_neg hlength]

/-- Each iteration moves on, so the loop ends before it has passed the body. -/
theorem jpegLoop_eq (body : Bytes) (n : ℕ) (offset : ℕ) (h : body.length ≤ n + offset) :
    jpegLoop body (n + 1) offset = some (.returned (jpegSegment body offset)) := by
  induction n generalizing offset with
  | zero =>
      rw [jpegLoop, jpegIteration_eq, jpegSegment, if_neg (by omega), if_neg (by omega)]
  | succ n ih =>
      rw [jpegLoop, jpegIteration_eq, jpegSegment]
      by_cases hlength : offset + 9 < body.length
      · rw [if_pos hlength, if_pos hlength]
        by_cases hbyte : byteAt body offset ≠ 0xFF
        · rw [if_pos hbyte, if_pos hbyte]
          exact ih _ (by omega)
        · rw [if_neg hbyte, if_neg hbyte]
          by_cases hframe : isFrameMarker (byteAt body (offset + 1))
          · rw [if_pos hframe, if_pos hframe]
          · rw [if_neg hframe, if_neg hframe]
            exact ih _ (by omega)
      · rw [if_neg hlength, if_neg hlength]

/-! ## The walk from a place on -/

def walk (left : Bytes) : Option ℕ := jpegSegment left 0

variable {left : Bytes}

theorem byteAt_drop (body : Bytes) (n i : ℕ) : byteAt body (n + i) = byteAt (body.drop n) i := by
  rw [byteAt, byteAt, List.getElem?_drop]

theorem readUInt16BE_drop (body : Bytes) (n i : ℕ) :
    readUInt16BE body (n + i) = readUInt16BE (body.drop n) i := by
  rw [readUInt16BE, readUInt16BE, List.drop_drop]

/-- The walk sees only what lies ahead. -/
theorem jpegSegment_drop (body : Bytes) (n offset : ℕ) :
    jpegSegment body (n + offset) = jpegSegment (body.drop n) offset := by
  induction hleft : body.length - (n + offset) using Nat.strong_induction_on generalizing offset with
  | _ _ ih =>
      subst hleft
      have hiff : offset + 9 < (body.drop n).length ↔ n + offset + 9 < body.length := by
        rw [List.length_drop]
        omega
      rw [jpegSegment.eq_def body, jpegSegment.eq_def (body.drop n)]
      by_cases hlength : n + offset + 9 < body.length
      · rw [if_pos hlength, if_pos (hiff.mpr hlength)]
        simp only [Nat.add_assoc n offset, byteAt_drop body n, readUInt16BE_drop body n]
        by_cases hbyte : byteAt (body.drop n) offset ≠ 0xFF
        · rw [if_pos hbyte, if_pos hbyte]
          exact ih _ (by omega) _ rfl
        · rw [if_neg hbyte, if_neg hbyte]
          by_cases hframe : isFrameMarker (byteAt (body.drop n) (offset + 1))
          · rw [if_pos hframe, if_pos hframe]
          · rw [if_neg hframe, if_neg hframe]
            exact ih _ (by omega) _ rfl
      · rw [if_neg hlength, if_neg (mt hiff.mp hlength)]

theorem walk_drop (n : ℕ) : walk (left.drop n) = jpegSegment left n :=
  (jpegSegment_drop left n 0).symm

theorem walk_of_length_le (h : left.length ≤ 9) : walk left = none := by
  rw [walk, jpegSegment, if_neg (by omega)]

/-- A byte that opens no marker is passed over. -/
theorem walk_skip {byte : UInt8} (hbyte : byte ≠ 0xFF) : walk (byte :: left) = walk left := by
  by_cases hlength : 9 < (byte :: left).length
  · have hne : byteAt (byte :: left) 0 ≠ 0xFF := fun heq => hbyte (UInt8.toNat_inj.mp heq)
    rw [walk, jpegSegment, if_pos (by omega), if_pos hne]
    exact (walk_drop 1).symm
  · rw [walk_of_length_le (by omega), walk_of_length_le (by rw [List.length_cons] at hlength; omega)]

/-- A marker that opens no frame is left by the length behind it. -/
theorem walk_jump {marker high low : UInt8} (hmarker : isFrameMarker marker.toNat = false) :
    walk (0xFF :: marker :: high :: low :: left) =
      walk ((0xFF :: marker :: high :: low :: left).drop (2 + (256 * high.toNat + low.toNat))) := by
  by_cases hlength : 9 < (0xFF :: marker :: high :: low :: left).length
  · have hopens : ¬ byteAt (0xFF :: marker :: high :: low :: left) 0 ≠ 0xFF := not_not.mpr rfl
    have hframe : ¬ isFrameMarker (byteAt (0xFF :: marker :: high :: low :: left) 1) = true :=
      ne_true_of_eq_false hmarker
    have hsize : readUInt16BE (0xFF :: marker :: high :: low :: left) 2 =
        256 * high.toNat + low.toNat := by
      simp [readUInt16BE, bigEndian]
    rw [walk, jpegSegment, if_pos (by omega), if_neg hopens, Nat.zero_add, if_neg hframe,
      Nat.zero_add, hsize, walk_drop]
  · rw [walk_of_length_le (by omega), walk_of_length_le (by rw [List.length_drop]; omega)]

/-- The marker of a frame ends the walk, where the file goes on long enough. -/
theorem walk_frame {marker : UInt8} (hmarker : isFrameMarker marker.toNat = true)
    (hlength : 8 ≤ left.length) :
    walk (0xFF :: marker :: left) = some (readUInt16BE left 3 * readUInt16BE left 5) := by
  have hopens : ¬ byteAt (0xFF :: marker :: left) 0 ≠ 0xFF := not_not.mpr rfl
  have hframe : isFrameMarker (byteAt (0xFF :: marker :: left) (0 + 1)) = true := hmarker
  rw [walk, jpegSegment, if_pos, if_neg hopens, if_pos hframe]
  · rfl
  · rw [List.length_cons, List.length_cons]
    omega

/-! ## Runs of fill bytes -/

/-- A run of fill bytes, behind which a marker stands. -/
def fillBytes (n : ℕ) : Bytes := List.replicate n 0xFF

/-- The step by which a walk leaves a run of fill bytes that is long enough: two bytes of it
are taken for a length. -/
def fillStride : ℕ := 65537

theorem fillBytes_append_cons (n : ℕ) :
    fillBytes n ++ (0xFF :: left) = 0xFF :: (fillBytes n ++ left) := by
  induction n with
  | zero => rfl
  | succ n ih => exact congrArg (List.cons 0xFF) ih

theorem drop_fillBytes (n k : ℕ) : (fillBytes n ++ left).drop (n + k) = left.drop k := by
  have hlength : (fillBytes n).length = n := List.length_replicate
  rw [← List.drop_drop, List.drop_left' hlength]

theorem isFrameMarker_fill : isFrameMarker (0xFF : UInt8).toNat = false := by decide

theorem walk_fillBytes_stride (n : ℕ) :
    walk (fillBytes (n + fillStride) ++ left) = walk (fillBytes n ++ left) := by
  have hsplit : fillBytes (n + fillStride) =
      0xFF :: 0xFF :: 0xFF :: 0xFF :: fillBytes (n + fillStride - 4) := rfl
  have hdrop : (fillBytes (n + fillStride) ++ left).drop fillStride = fillBytes n ++ left := by
    rw [List.drop_append_of_le_length (by simp [fillBytes]), fillBytes, List.drop_replicate,
      Nat.add_sub_cancel, fillBytes]
  calc walk (fillBytes (n + fillStride) ++ left)
      = walk ((fillBytes (n + fillStride) ++ left).drop fillStride) := by
        rw [hsplit]
        exact walk_jump isFrameMarker_fill
    _ = walk (fillBytes n ++ left) := by rw [hdrop]

/-- Only the remainder of the length of a run matters. -/
theorem walk_fillBytes (n : ℕ) :
    walk (fillBytes n ++ left) = walk (fillBytes (n % fillStride) ++ left) := by
  induction n using Nat.strong_induction_on with
  | _ n ih =>
      rcases lt_or_ge n fillStride with hlt | hge
      · rw [Nat.mod_eq_of_lt hlt]
      · obtain ⟨m, rfl⟩ := Nat.exists_eq_add_of_le' hge
        rw [walk_fillBytes_stride, Nat.add_mod_right]
        exact ih m (by rw [fillStride]; omega)

theorem walk_fillBytes_of_dvd {n : ℕ} (h : fillStride ∣ n) :
    walk (fillBytes n ++ left) = walk left := by
  rw [walk_fillBytes, Nat.mod_eq_zero_of_dvd h]
  rfl

/-! ## Files -/

def uint16 (n : ℕ) : Bytes := [UInt8.ofNat (n / 256), UInt8.ofNat n]

theorem bigEndian_uint16 {n : ℕ} (h : n < 2 ^ 16) : bigEndian (uint16 n) = n := by
  simp only [uint16, bigEndian, List.foldl_cons, List.foldl_nil, UInt8.toNat_ofNat']
  omega

/-- A segment that opens no frame, with the fill bytes before its marker. A marker is neither
0 nor a fill byte. -/
structure MarkerSegment where
  fill : ℕ
  marker : UInt8
  data : Bytes
  marker_ne_zero : marker ≠ 0
  marker_ne_fill : marker ≠ 0xFF
  not_frame : isFrameMarker marker.toNat = false
  length_lt : data.length + 2 < 2 ^ 16

/-- The bytes of a segment from its marker on. The length counts its own two bytes. -/
def MarkerSegment.body (s : MarkerSegment) : Bytes :=
  0xFF :: s.marker :: (uint16 (s.data.length + 2) ++ s.data)

def MarkerSegment.bytes (s : MarkerSegment) : Bytes := fillBytes s.fill ++ s.body

/-- A segment that opens a frame of at least one component, of which three bytes each tell. -/
structure FrameSegment where
  fill : ℕ
  marker : UInt8
  precision : UInt8
  height : UInt16
  width : UInt16
  count : UInt8
  components : Bytes
  is_frame : isFrameMarker marker.toNat = true
  count_pos : 0 < count
  length_components : components.length = 3 * count.toNat

def FrameSegment.body (f : FrameSegment) : Bytes :=
  0xFF :: f.marker :: (uint16 (8 + f.components.length) ++ (f.precision ::
    (uint16 f.height.toNat ++ (uint16 f.width.toNat ++ (f.count :: f.components)))))

def FrameSegment.bytes (f : FrameSegment) : Bytes := fillBytes f.fill ++ f.body

/-- The start of an image, segments, a frame and whatever follows it. -/
def jpegBytes (segments : List MarkerSegment) (frame : FrameSegment) (rest : Bytes) : Bytes :=
  0xFF :: 0xD8 :: (segments.flatMap MarkerSegment.bytes ++ (frame.bytes ++ rest))

theorem jpegPixels_jpegBytes (segments : List MarkerSegment) (frame : FrameSegment)
    (rest : Bytes) : jpegPixels (jpegBytes segments frame rest) =
      walk (segments.flatMap MarkerSegment.bytes ++ (frame.bytes ++ rest)) :=
  (walk_drop 2).symm

theorem walk_segment (s : MarkerSegment) : walk (s.body ++ left) = walk left := by
  have hsize : 256 * (UInt8.ofNat ((s.data.length + 2) / 256)).toNat +
      (UInt8.ofNat (s.data.length + 2)).toNat = s.data.length + 2 := by
    have h := bigEndian_uint16 s.length_lt
    simpa [uint16, bigEndian] using h
  have hdrop : (s.body ++ left).drop (2 + (s.data.length + 2)) = left :=
    List.drop_left' (by simp [MarkerSegment.body, uint16]; omega)
  calc walk (s.body ++ left)
      = walk ((s.body ++ left).drop (2 + (256 * (UInt8.ofNat ((s.data.length + 2) / 256)).toNat +
          (UInt8.ofNat (s.data.length + 2)).toNat))) := walk_jump s.not_frame
    _ = walk left := by rw [hsize, hdrop]

theorem walk_frameSegment (f : FrameSegment) :
    walk (f.body ++ left) = some (f.height.toNat * f.width.toNat) := by
  have hh := take_drop_append (uint16 (8 + f.components.length) ++ [f.precision])
    (uint16 f.height.toNat) (uint16 f.width.toNat ++ (f.count :: (f.components ++ left)))
    (show _ = 3 from rfl) (show _ = 2 from rfl)
  have hw := take_drop_append (uint16 (8 + f.components.length) ++ ([f.precision] ++
    uint16 f.height.toNat)) (uint16 f.width.toNat) (f.count :: (f.components ++ left))
    (show _ = 5 from rfl) (show _ = 2 from rfl)
  simp only [List.append_assoc, List.cons_append, List.nil_append] at hh hw
  have hbody : f.body ++ left = 0xFF :: f.marker :: (uint16 (8 + f.components.length) ++
      (f.precision :: (uint16 f.height.toNat ++ (uint16 f.width.toNat ++
        (f.count :: (f.components ++ left)))))) := by
    simp [FrameSegment.body]
  rw [hbody, walk_frame f.is_frame, readUInt16BE, readUInt16BE, hh, hw,
    bigEndian_uint16 f.height.toNat_lt, bigEndian_uint16 f.width.toNat_lt]
  simp [uint16]

theorem walk_segments {segments : List MarkerSegment}
    (h : ∀ s ∈ segments, fillStride ∣ s.fill) :
    walk (segments.flatMap MarkerSegment.bytes ++ left) = walk left := by
  induction segments with
  | nil => rfl
  | cons s segments ih =>
      obtain ⟨hs, h⟩ := List.forall_mem_cons.mp h
      rw [List.flatMap_cons, List.append_assoc, MarkerSegment.bytes, List.append_assoc,
        walk_fillBytes_of_dvd hs, walk_segment, ih h]

/-! ## A run that is not left at its marker -/

/-- The end of data that is taken for a frame. -/
def decoy : Bytes := [0xFF, 0xC0, 0]

theorem two_le_bigEndian {high : UInt8} (hhigh : 2 ≤ high.toNat) (n : ℕ) :
    2 ≤ bigEndian ((high :: left).take (n + 1)) := by
  have hgrows (bytes : Bytes) (k : ℕ) (hk : 2 ≤ k) :
      2 ≤ bytes.foldl (fun n b => 256 * n + b.toNat) k := by
    induction bytes generalizing k with
    | nil => exact hk
    | cons b bytes ih => exact ih _ (show 2 ≤ 256 * k + b.toNat by omega)
  exact hgrows (left.take n) _ (show 2 ≤ 256 * 0 + high.toNat by omega)

/-- Behind a decoy the height is read from fill bytes, a marker or a length, and none of them
gives a single row. -/
theorem walk_decoy {n : ℕ} {marker high low : UInt8} (hmarker : 2 ≤ marker.toNat)
    (hsize : 2 ≤ 256 * high.toNat + low.toNat) (hlength : 3 ≤ left.length) :
    walk (decoy ++ (fillBytes n ++ (0xFF :: marker :: high :: low :: left))) ≠ some 1 := by
  have hheight : 2 ≤ readUInt16BE (0 :: (fillBytes n ++
      (0xFF :: marker :: high :: low :: left))) 3 := by
    match n with
    | 0 => simpa [readUInt16BE, bigEndian, fillBytes] using hsize
    | 1 => exact two_le_bigEndian hmarker 1
    | 2 => exact two_le_bigEndian (by decide) 1
    | n + 3 => exact two_le_bigEndian (by decide) 1
  have hlong : 8 ≤ (0 :: (fillBytes n ++ (0xFF :: marker :: high :: low :: left))).length := by
    simp only [List.length_cons, List.length_append]
    omega
  intro hone
  have hwalk := (walk_frame (by decide) hlong).symm.trans hone
  have hrow := Nat.eq_one_of_mul_eq_one_right (Option.some.inj hwalk)
  omega

/-- How many bytes stand before the decoy, where the walk comes upon a run whose length
leaves the remainder. A run of one or of two bytes is left by the marker behind it. -/
def decoyOffset (r : ℕ) : ℕ :=
  if r = 1 then 57565 else if r = 2 then 65500 else 65533 - r

def decoyData (r : ℕ) : Bytes := List.replicate (decoyOffset r) 0 ++ decoy

theorem length_decoyData (r : ℕ) : (decoyData r).length = decoyOffset r + 3 := by
  simp [decoyData, decoy]

theorem decoyOffset_le (r : ℕ) (h : r ≠ 0) : decoyOffset r ≤ 65530 := by
  rw [decoyOffset]
  split_ifs <;> omega

/-- A segment with the decoy where the walk comes upon it behind a run of the length. -/
def decoySegment (fill : ℕ) (h : fill % fillStride ≠ 0) : MarkerSegment where
  fill := fill
  marker := 0xE0
  data := decoyData (fill % fillStride)
  marker_ne_zero := by decide
  marker_ne_fill := by decide
  not_frame := by decide
  length_lt := by
    have hle := decoyOffset_le _ h
    rw [length_decoyData]
    omega

/-- The walk goes past the marker behind the run and comes upon the decoy. -/
theorem walk_decoySegment {fill : ℕ} (h : fill % fillStride ≠ 0) :
    walk ((decoySegment fill h).bytes ++ left) = walk (decoy ++ left) := by
  have hlt : fill % fillStride < 65537 := Nat.mod_lt _ (by decide)
  rw [MarkerSegment.bytes, List.append_assoc, walk_fillBytes]
  rw [MarkerSegment.body, decoySegment]
  dsimp only
  generalize fill % fillStride = r at h hlt
  have hland {high low : UInt8} (jump : ℕ) (hjump : r + 4 + decoyOffset r = jump) :
      (fillBytes r ++ (0xFF :: 0xE0 :: high :: low :: (decoyData r ++ left))).drop jump =
        decoy ++ left := by
    have hlist : fillBytes r ++ (0xFF :: 0xE0 :: high :: low :: (decoyData r ++ left)) =
        (fillBytes r ++ ([0xFF, 0xE0, high, low] ++ List.replicate (decoyOffset r) 0)) ++
          (decoy ++ left) := by
      simp [decoyData]
    rw [hlist]
    exact List.drop_left' (by simp [fillBytes]; omega)
  match r with
  | 0 => exact absurd rfl h
  | 1 =>
      -- the length is read from the marker and the first byte of the length behind it
      have hsize : uint16 ((decoyData 1).length + 2) = [224, 226] := by
        rw [length_decoyData]
        rfl
      rw [hsize]
      exact (walk_jump isFrameMarker_fill).trans (congrArg walk (hland 57570 rfl))
  | 2 =>
      -- the length is read from the second byte of the run and the marker
      exact (walk_jump isFrameMarker_fill).trans (congrArg walk (hland 65506 rfl))
  | r + 3 =>
      have hjump (rest : Bytes) : walk (fillBytes (r + 3) ++ (0xFF :: rest)) =
          walk ((fillBytes (r + 3) ++ (0xFF :: rest)).drop 65537) := by
        rw [fillBytes_append_cons]
        exact walk_jump isFrameMarker_fill
      have hoffset : decoyOffset (r + 3) = 65530 - r := by
        rw [decoyOffset, if_neg (by omega), if_neg (by omega)]
        omega
      refine (hjump _).trans ?_
      rcases le_or_gt r 65530 with hle | hgt
      · exact congrArg walk (hland 65537 (by omega))
      · -- the walk lands on the last bytes before the data
        have hzero : decoyOffset (r + 3) = 0 := by omega
        have hdata : decoyData (r + 3) = decoy := by rw [decoyData, hzero]; rfl
        obtain rfl | rfl | rfl : r = 65531 ∨ r = 65532 ∨ r = 65533 := by omega
        · rw [hdata]
          exact (congrArg walk (drop_fillBytes 65534 3)).trans (walk_skip (by decide))
        · rw [hdata]
          refine (congrArg walk (drop_fillBytes 65535 2)).trans ?_
          exact (walk_skip (by decide)).trans (walk_skip (by decide))
        · rw [hdata]
          refine (congrArg walk (drop_fillBytes 65536 1)).trans ?_
          exact (walk_skip (by decide)).trans ((walk_skip (by decide)).trans (walk_skip (by decide)))

/-- A walk that comes upon a run goes past the marker behind it. -/
theorem exists_walk_drop {r : ℕ} (h : r ≠ 0) (hlt : r < fillStride) (marker high : UInt8)
    (rest : Bytes) : ∃ k, walk (fillBytes r ++ (0xFF :: marker :: high :: rest)) =
      walk ((marker :: high :: rest).drop k) := by
  have hdrop (n k : ℕ) : (fillBytes n ++ (0xFF :: marker :: high :: rest)).drop (n + 1 + k) =
      (marker :: high :: rest).drop k := by
    rw [Nat.add_assoc, drop_fillBytes, Nat.add_comm 1 k, List.drop_succ_cons]
  rw [fillStride] at hlt
  match r with
  | 0 => exact absurd rfl h
  | 1 =>
      refine ⟨256 * marker.toNat + high.toNat, ?_⟩
      rw [← hdrop 1]
      exact walk_jump isFrameMarker_fill
  | 2 =>
      refine ⟨65279 + marker.toNat, ?_⟩
      rw [← hdrop 2, show 2 + 1 + (65279 + marker.toNat) = 2 + (256 * 255 + marker.toNat) by omega]
      exact walk_jump isFrameMarker_fill
  | r + 3 =>
      refine ⟨65533 - r, ?_⟩
      rw [← hdrop (r + 3), show r + 3 + 1 + (65533 - r) = 65537 by omega, fillBytes_append_cons]
      exact walk_jump isFrameMarker_fill

theorem walk_of_forall_ne (h : ∀ byte ∈ left, byte ≠ 0xFF) : walk left = none := by
  induction left with
  | nil => exact walk_of_length_le (Nat.zero_le 9)
  | cons byte left ih =>
      obtain ⟨hbyte, h⟩ := List.forall_mem_cons.mp h
      rw [walk_skip hbyte, ih h]

/-! ## Which files are read -/

def plainSegment (fill : ℕ) : MarkerSegment where
  fill := fill
  marker := 0xE0
  data := []
  marker_ne_zero := by decide
  marker_ne_fill := by decide
  not_frame := by decide
  length_lt := by decide

def pixelFrame (fill : ℕ) : FrameSegment where
  fill := fill
  marker := 0xC0
  precision := 8
  height := 1
  width := 1
  count := 1
  components := [1, 0x11, 0]
  is_frame := by decide
  count_pos := by decide
  length_components := by decide

theorem plainSegment_bytes (fill : ℕ) :
    (plainSegment fill).bytes = fillBytes fill ++ [0xFF, 0xE0, 0, 2] :=
  congrArg (fillBytes fill ++ ·) (show (plainSegment 0).body = _ by decide)

theorem pixelFrame_bytes (fill : ℕ) : (pixelFrame fill).bytes =
    fillBytes fill ++ [0xFF, 0xC0, 0, 11, 8, 0, 1, 0, 1, 1, 1, 0x11, 0] :=
  congrArg (fillBytes fill ++ ·) (show (pixelFrame 0).body = _ by decide)

theorem walk_pixelFrame {fill : ℕ} (h : fill % fillStride ≠ 0) :
    walk ((pixelFrame fill).bytes ++ []) = none := by
  rw [List.append_nil, pixelFrame_bytes, walk_fillBytes]
  obtain ⟨k, hwalk⟩ := exists_walk_drop h (Nat.mod_lt fill (by decide)) 0xC0 0
    [11, 8, 0, 1, 0, 1, 1, 1, 0x11, 0]
  have hnone : ([0xC0, 0, 11, 8, 0, 1, 0, 1, 1, 1, 0x11, 0] : Bytes).all (· ≠ 0xFF) := by
    decide
  apply hwalk.trans
  apply walk_of_forall_ne
  intro byte hbyte
  exact of_decide_eq_true (List.all_eq_true.mp hnone byte (List.mem_of_mem_drop hbyte))

/-- A run that is not left at its marker spoils the reading of some file. -/
theorem exists_misread {fills : List ℕ} {frameFill : ℕ}
    (h : ∃ fill ∈ frameFill :: fills, ¬ fillStride ∣ fill) :
    ∃ segments : List MarkerSegment, segments.map MarkerSegment.fill = fills ∧
      walk (segments.flatMap MarkerSegment.bytes ++ ((pixelFrame frameFill).bytes ++ [])) ≠
        some 1 := by
  induction fills with
  | nil =>
      obtain ⟨fill, hmem, hfill⟩ := h
      obtain rfl := List.mem_singleton.mp hmem
      refine ⟨[], rfl, ?_⟩
      rw [List.flatMap_nil, List.nil_append, walk_pixelFrame (mt Nat.dvd_of_mod_eq_zero hfill)]
      exact nofun
  | cons fill fills ih =>
      by_cases hfill : fillStride ∣ fill
      · obtain ⟨segments, hfills, hne⟩ := ih (by
          obtain ⟨other, hmem, hother⟩ := h
          refine ⟨other, ?_, hother⟩
          have hne : other ≠ fill := fun heq => hother (heq ▸ hfill)
          simpa [hne] using hmem)
        refine ⟨plainSegment fill :: segments, congrArg (List.cons fill) hfills, ?_⟩
        rw [List.flatMap_cons, List.append_assoc, MarkerSegment.bytes, List.append_assoc]
        rwa [walk_fillBytes_of_dvd (show fillStride ∣ (plainSegment fill).fill from hfill),
          walk_segment]
      · refine ⟨decoySegment fill (mt Nat.dvd_of_mod_eq_zero hfill) :: fills.map plainSegment,
          congrArg (List.cons fill) (by simp [Function.comp_def, plainSegment]), ?_⟩
        rw [List.flatMap_cons, List.append_assoc, walk_decoySegment]
        -- behind the decoy comes a segment or the frame
        cases fills with
        | nil =>
            rw [pixelFrame_bytes, List.append_nil]
            exact walk_decoy (by decide) (by decide) (by decide)
        | cons next fills =>
            rw [List.map_cons, List.flatMap_cons, plainSegment_bytes, List.append_assoc,
              List.append_assoc]
            refine walk_decoy (by decide) (by decide) ?_
            simp [pixelFrame_bytes]
            omega

/-- For all files with fill bytes in given places, the walk ends within the body and finds the
size of the frame if and only if each run of fill bytes is one that it leaves at its marker. -/
theorem jpegPixels_exact_iff (fills : List ℕ) (frameFill : ℕ) :
    (∀ body : Bytes, jpegLoop body (body.length + 1) 2 = some (.returned (jpegPixels body))) ∧
      ((∀ (segments : List MarkerSegment) (frame : FrameSegment) (rest : Bytes),
        segments.map MarkerSegment.fill = fills → frame.fill = frameFill →
          jpegPixels (jpegBytes segments frame rest) =
            some (frame.height.toNat * frame.width.toNat)) ↔
        ∀ fill ∈ frameFill :: fills, fillStride ∣ fill) := by
  refine ⟨fun body => jpegLoop_eq body _ 2 (by omega), ?_, ?_⟩
  · intro hread
    by_contra hfill
    obtain ⟨segments, hfills, hne⟩ :=
      exists_misread (by simpa only [not_forall, exists_prop] using hfill)
    exact hne ((jpegPixels_jpegBytes segments _ []).symm.trans
      (hread segments (pixelFrame frameFill) [] hfills rfl))
  · intro hstride segments frame rest hfills hframe
    subst hfills hframe
    obtain ⟨hlast, hfill⟩ := List.forall_mem_cons.mp hstride
    have hsegments : ∀ s ∈ segments, fillStride ∣ s.fill :=
      fun s hs => hfill _ (List.mem_map_of_mem hs)
    rw [jpegPixels_jpegBytes, walk_segments hsegments, FrameSegment.bytes, List.append_assoc,
      walk_fillBytes_of_dvd hlast, walk_frameSegment]

/-- A single fill byte before the frame of an image of one pixel. -/
theorem jpegPixels_exact_fails :
    ¬ ∀ (segments : List MarkerSegment) (frame : FrameSegment) (rest : Bytes),
      jpegPixels (jpegBytes segments frame rest) =
        some (frame.height.toNat * frame.width.toNat) := by
  intro hread
  have hone := hread [] (pixelFrame 1) []
  rw [jpegPixels_jpegBytes, List.flatMap_nil, List.nil_append, walk_pixelFrame (by decide)] at hone
  exact absurd hone nofun

end AttachmentValidator

end Aico
