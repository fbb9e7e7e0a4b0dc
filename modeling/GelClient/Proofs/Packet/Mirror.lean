import GelClient.Proofs.Packet.Parts
import Mathlib.Algebra.Group.Nat.Defs

/-!
# The reader mirrors the writer

Every operation of a writer has its counterpart on a reader. To choose it a reader must know the layout of
what was written, but none of its values: which kind of value stands where, how many bytes without a length
there are, and how many parts are in a block. `Part.Layout.read` runs the counterparts; for a block it splits
off a reader of its own, reads the parts of the block with it and notes what is left over.

The bytes of a part, wherever they stand, are read as the part that was written (`Part.reads_of_bytes?`), by
induction on the part. Of a whole packet, `Part.readEach_of_finish` says that each operation of the reader
gives what was written and leaves the reader where the writer stood, and that nothing is left over, at any
depth.
-/

namespace GelClient.Packet

open GetM (Reads)

namespace Datum

/-- What a reader must know of a value to read it. -/
inductive Layout where
  | uint8
  | uint16
  | uint32
  | uint64
  | int8
  | int16
  | int32
  | int64
  | bool
  | float32
  | float64
  | uuid
  | raw (size : Nat)
  | block
  | optional
  | text
  | texts
  | annotations
  | attributes
  deriving DecidableEq

/-- The layout of a value. Flags are read as the number that holds them. -/
def layout : Datum → Layout
  | uint8 _ => .uint8
  | uint16 _ => .uint16
  | uint32 _ => .uint32
  | uint64 _ => .uint64
  | int8 _ => .int8
  | int16 _ => .int16
  | int32 _ => .int32
  | int64 _ => .int64
  | bool _ => .bool
  | float32 _ => .float32
  | float64 _ => .float64
  | uuid _ => .uuid
  | flags _ => .uint64
  | raw bytes => .raw bytes.length
  | block _ => .block
  | optional _ => .optional
  | text _ => .text
  | texts _ => .texts
  | annotations _ => .annotations
  | attributes _ => .attributes

/-- Reads a value of a layout. -/
def Layout.read : Layout → Get Datum
  | uint8 => return .uint8 (← Get.uint8)
  | uint16 => return .uint16 (← Get.uint16)
  | uint32 => return .uint32 (← Get.uint32)
  | uint64 => return .uint64 (← Get.uint64)
  | int8 => return .int8 (← Get.int8)
  | int16 => return .int16 (← Get.int16)
  | int32 => return .int32 (← Get.int32)
  | int64 => return .int64 (← Get.int64)
  | bool => return .bool (← Get.bool)
  | float32 => return .float32 (← Get.float32)
  | float64 => return .float64 (← Get.float64)
  | uuid => return .uuid (← Get.uuid)
  | raw size => return .raw (← Get.raw size)
  | block => return .block (← Get.block)
  | optional => return .optional (← Get.block?)
  | text => return .text (← Get.text)
  | texts => return .texts (← Get.texts)
  | annotations => return .annotations (← Get.annotations)
  | attributes => return .attributes (← Get.attributes)

/-- What is found where a value was written: the value, and for flags their union. -/
def found : Datum → Datum
  | flags sets => uint64 (sets.foldl (· ||| ·) 0)
  | d => d

/-- The bytes and the texts in a value fit signed lengths. -/
def Fits : Datum → Prop
  | block bytes => bytes.length < 2 ^ 31
  | optional bytes => ∀ b ∈ bytes, b.length < 2 ^ 31
  | text s => (Utf8.encode s).length < 2 ^ 31
  | texts items => ∀ s ∈ items, (Utf8.encode s).length < 2 ^ 31
  | annotations items => ∀ a ∈ items, (Utf8.encode a.1).length < 2 ^ 31 ∧ (Utf8.encode a.2).length < 2 ^ 31
  | attributes items => ∀ a ∈ items, a.2.length < 2 ^ 31
  | _ => True

end Datum

/-- A count that was written fits its width. -/
theorem Put.lt_of_count {width : CountWidth} {n : Nat} {b : Bytes} (h : (count width n).bytes? = .ok b) :
    n < width.limit := by
  cases width with
  | two | four =>
    rw [count] at h
    split at h
    next hn => exact hn
    next => cases h

/-- The number of items that were written behind it fits its width. -/
theorem Put.lt_of_counted {α : Type} (width : CountWidth) {items : List α} {item : α → Put Unit} {b : Bytes}
    (hu : ∀ a ∈ items, (item a).IsUniform)
    (h : (PutM.counted width items item : Put Unit).bytes? = .ok b) :
    items.length < width.limit := by
  rw [counted_eq, PutM.bytes?_bind_eq_ok (isUniform_count width _) (PutM.isUniform_forM items hu)] at h
  obtain ⟨p, -, hp, -⟩ := h
  exact lt_of_count hp

/-- What is conveyed is read from the bytes that were written. -/
theorem Conveys.reads {ε ε' α : Type} {write : PutM ε Unit} {read : GetM ε' α} {a : α} {b : Bytes}
    (h : Conveys write read a) (hb : write.bytes? = .ok b) : Reads read b a := by
  obtain ⟨-, p, hp, hr⟩ := h
  obtain rfl := Except.ok.inj (hp.symm.trans hb)
  exact hr

/-- A value that was written is conveyed to its layout. -/
theorem Datum.conveys {d : Datum} (hfits : d.Fits) {b : Bytes} (h : d.write.bytes? = .ok b) :
    Conveys d.write d.layout.read d.found := by
  cases d with
  | uint8 n => exact (Conveys.of_raw (Get.reads_uint8 n)).bind_pure
  | uint16 n => exact (Put.conveys_uint16 n).bind_pure
  | uint32 n => exact (Put.conveys_uint32 n).bind_pure
  | uint64 n => exact (Put.conveys_uint64 n).bind_pure
  | int8 n => exact (Conveys.of_raw (Get.reads_int8 n)).bind_pure
  | int16 n => exact (Conveys.of_raw (Get.reads_int16 n)).bind_pure
  | int32 n => exact (Conveys.of_raw (Get.reads_int32 n)).bind_pure
  | int64 n => exact (Conveys.of_raw (Get.reads_int64 n)).bind_pure
  | bool b => exact (Conveys.of_raw (Get.reads_bool b)).bind_pure
  | float32 bits => exact (Put.conveys_uint32 bits).bind_pure
  | float64 bits => exact (Put.conveys_uint64 bits).bind_pure
  | uuid id => exact (Put.conveys_uuid id).bind_pure
  | flags sets => exact (Put.conveys_uint64 _).bind_pure
  | raw bytes => exact (Conveys.of_raw (Get.reads_raw bytes)).bind_pure
  | block bytes => exact (Put.conveys_block hfits).bind_pure
  | optional bytes =>
    cases bytes with
    | none => exact (Conveys.of_raw Get.reads_block?_none).bind_pure
    | some bytes =>
      have hlt : bytes.length < 2 ^ 31 := hfits bytes rfl
      exact (Put.conveys_block_of_reads (by omega) (Get.reads_block? hlt)).bind_pure
  | text s => exact (Put.conveys_text hfits).bind_pure
  | texts items =>
    have hcount := Put.lt_of_counted .four (fun s _ => Put.isUniform_block _) h
    exact (Put.conveys_texts ⟨hcount, hfits⟩).bind_pure
  | annotations items =>
    have hcount := Put.lt_of_counted .two
      (fun a _ => (Put.isUniform_block _).bind fun _ => Put.isUniform_block _) h
    exact (Put.conveys_annotations ⟨hcount, hfits⟩).bind_pure
  | attributes items =>
    have hcount := Put.lt_of_counted .two
      (fun a _ => (PutM.isUniform_raw _).bind fun _ => Put.isUniform_block _) h
    exact (Put.conveys_attributes ⟨hcount, hfits⟩).bind_pure

/-- Reads a count of items in the given width. -/
def Get.count : CountWidth → Get Nat
  | .two => return (← uint16).toNat
  | .four => return (← uint32).toNat

/-- A count that was written is conveyed. -/
theorem Put.conveys_count {width : CountWidth} {n : Nat} {b : Bytes} (h : (count width n).bytes? = .ok b) :
    Conveys (count width n) (Get.count width) n := by
  have hlt := lt_of_count h
  cases width with
  | two =>
    have hc := (conveys_count_two hlt).bind_pure (f := UInt16.toNat)
    rwa [UInt16.toNat_ofNat_of_lt' hlt] at hc
  | four =>
    have hc := (conveys_count_four hlt).bind_pure (f := UInt32.toNat)
    rwa [UInt32.toNat_ofNat_of_lt' hlt] at hc

namespace Part

/-- What a reader must know of a part to read it. -/
inductive Layout where
  | datum (d : Datum.Layout)
  | several (parts : List Layout)
  | counted (width : CountWidth) (items : List Layout)
  | block (parts : List Layout)

/-- What a reader finds. -/
inductive Found where
  | datum (d : Datum)
  | several (parts : List Found)
  /-- A count, and what stands behind it. -/
  | counted (count : Nat) (items : List Found)
  /-- What the reader of a block finds, and the bytes that it leaves over. -/
  | block (parts : List Found) (unread : Bytes)
  /-- A negative length in place of a block. -/
  | absent

mutual

/-- The layout of a part. -/
def layout : Part → Layout
  | datum d => .datum d.layout
  | several parts => .several (layouts parts)
  | counted width items => .counted width (layouts items)
  | block parts => .block (layouts parts)

/-- The layouts of parts. -/
def layouts : List Part → List Layout
  | [] => []
  | p :: parts => layout p :: layouts parts

end

mutual

/-- Reads a part of a layout. -/
def Layout.read : Layout → Get Found
  | datum d => return .datum (← d.read)
  | several parts => return .several (← readAll parts)
  | counted width items => do
    let count ← Get.count width
    return .counted count (← readAll items)
  | block parts => do
    match ← Get.window? with
    | none => return .absent
    | some own => GetM.onReader own do
      let inner ← readAll parts
      return .block inner (← get).rest

/-- Reads parts one after the other. -/
def Layout.readAll : List Layout → Get (List Found)
  | [] => return []
  | l :: layouts => do
    let f ← read l
    return f :: (← readAll layouts)

end

mutual

/-- What is found where a part was written: its values, and in a block nothing else. -/
def found : Part → Found
  | datum d => .datum d.found
  | several parts => .several (foundAll parts)
  | counted _ items => .counted items.length (foundAll items)
  | block parts => .block (foundAll parts) []

/-- What is found where parts were written. -/
def foundAll : List Part → List Found
  | [] => []
  | p :: parts => found p :: foundAll parts

end

/-- The bytes and the texts in a part fit signed lengths, at any depth. -/
inductive Fits : Part → Prop
  | datum {d : Datum} : d.Fits → Fits (.datum d)
  | several {parts : List Part} : (∀ p ∈ parts, Fits p) → Fits (.several parts)
  | counted {width : CountWidth} {items : List Part} : (∀ p ∈ items, Fits p) → Fits (.counted width items)
  | block {parts : List Part} : (∀ p ∈ parts, Fits p) → Fits (.block parts)

/-- Parts are read one after the other if each of them is read from its bytes. -/
theorem reads_readAll {parts : List Part}
    (h : ∀ p ∈ parts, ∀ b, p.write.bytes? = .ok b → Reads p.layout.read b p.found) {b : Bytes}
    (hb : (writeAll parts).bytes? = .ok b) : Reads (Layout.readAll (layouts parts)) b (foundAll parts) := by
  induction parts generalizing b with
  | nil =>
    rw [writeAll, PutM.bytes?_pure] at hb
    cases hb
    rw [layouts, Layout.readAll, foundAll]
    exact GetM.reads_pure []
  | cons p parts ih =>
    obtain ⟨hp, hparts⟩ := List.forall_mem_cons.mp h
    rw [writeAll, PutM.bytes?_bind_eq_ok p.isUniform_write (isUniform_writeAll parts)] at hb
    obtain ⟨b₁, b₂, hb₁, hb₂, rfl⟩ := hb
    rw [layouts, Layout.readAll, foundAll]
    exact (hp b₁ hb₁).bind (ih hparts hb₂).bind_pure

/-- A block is read with a reader of its own, which finds nothing but its parts. -/
theorem reads_block {layouts : List Layout} {inner : List Found} {p : Bytes}
    (h : Reads (Layout.readAll layouts) p inner) (hlength : p.length < 2 ^ 31) :
    Reads (Layout.block layouts).read (BigEndian.encode 4 p.length ++ p) (.block inner []) := by
  have hown : GetM.ReadsAll (do let inner ← Layout.readAll layouts; return Found.block inner (← get).rest)
      p (.block inner []) := by
    intro n
    exact ⟨⟨[], n + p.length⟩, Actions.bind_of_ok (h.eq_ok n), rfl⟩
  rw [Layout.read]
  exact (Get.reads_window? hlength).bind_nil hown.onReader

/-- The bytes of a part are read as the part that was written, wherever they stand. -/
theorem reads_of_bytes? {p : Part} (hfits : p.Fits) {b : Bytes} (h : p.write.bytes? = .ok b) :
    Reads p.layout.read b p.found := by
  induction p generalizing b with
  | datum d =>
    cases hfits with
    | datum hd =>
      rw [write] at h
      rw [layout, Layout.read, found]
      exact ((d.conveys hd h).reads h).bind_pure
  | several parts ih =>
    cases hfits with
    | several hparts =>
      rw [write] at h
      rw [layout, Layout.read, found]
      exact (reads_readAll (fun p hp b hb => ih p hp (hparts p hp) hb) h).bind_pure
  | counted width items ih =>
    cases hfits with
    | counted hitems =>
      rw [write, PutM.bytes?_bind_eq_ok (Put.isUniform_count width _) (isUniform_writeAll items)] at h
      obtain ⟨b₁, b₂, hcount, hb, rfl⟩ := h
      rw [layout, Layout.read, found]
      apply ((Put.conveys_count hcount).reads hcount).bind
      exact (reads_readAll (fun p hp b hb => ih p hp (hitems p hp) hb) hb).bind_pure
  | block parts ih =>
    cases hfits with
    | block hparts =>
      rw [write, PutM.bytes?_withLength_eq_ok (isUniform_writeAll parts)] at h
      obtain ⟨body, hbody, hlength, rfl⟩ := h
      rw [layout, found]
      exact reads_block (reads_readAll (fun p hp b hb => ih p hp (hparts p hp) hb) hbody) hlength

/-- Writes parts one after the other, and notes the size of the packet behind each of them. -/
def writeEach (parts : List Part) : Put (List Nat) :=
  parts.mapM fun p => do
    p.write
    return (← get).size

/-- Reads parts one after the other, and notes the position behind each of them. -/
def Layout.readEach (layouts : List Layout) : Get (List (Found × Nat)) :=
  layouts.mapM fun l => do
    let f ← l.read
    return (f, (← get).consumed)

/-- Behind each part the reader stands where the writer stood, whatever was written before. -/
theorem readEach_of_writeEach {parts : List Part} (hfits : ∀ p ∈ parts, p.Fits) {w v : Writer}
    (hw : w.IsOpen) {sizes : List Nat} (h : writeEach parts w = .ok sizes v) :
    ∃ bytes, v = w.append bytes ∧ ∀ tail,
      Layout.readEach (layouts parts) ⟨bytes ++ tail, w.size⟩ =
        .ok ((foundAll parts).zip sizes) ⟨tail, v.size⟩ := by
  induction parts generalizing w sizes with
  | nil =>
    cases h
    exact ⟨[], by simp, fun tail => rfl⟩
  | cons p parts ih =>
    obtain ⟨hp, hparts⟩ := List.forall_mem_cons.mp hfits
    rw [writeEach, List.mapM_cons] at h
    obtain ⟨size, t, hsize, hrest⟩ := Actions.bind_eq_ok.mp h
    obtain ⟨⟨⟩, u, hwrite, hget⟩ := Actions.bind_eq_ok.mp hsize
    cases hget
    obtain ⟨rest, x, heach, hpure⟩ := Actions.bind_eq_ok.mp hrest
    cases hpure
    obtain ⟨b, hb, rfl⟩ := p.isUniform_write.exists_bytes? hw hwrite
    obtain ⟨bytes, rfl, hreads⟩ := ih hparts (hw.append b) heach
    refine ⟨b ++ bytes, Writer.append_append w b bytes, fun tail => ?_⟩
    have hfound : p.layout.read ⟨b ++ (bytes ++ tail), w.size⟩ =
        .ok p.found ⟨bytes ++ tail, (w.append b).size⟩ := by
      rw [Writer.size_append]
      exact reads_of_bytes? hp hb (bytes ++ tail) w.size
    rw [layouts, Layout.readEach, List.mapM_cons, List.append_assoc, bind_assoc, Actions.bind_of_ok hfound]
    exact Actions.bind_of_ok (hreads tail)

/-- Parts that are written to an empty writer, which then hands out its bytes, are read from these one by one.
Each is found as it was written, and the reader stands behind it where the writer stood. No bytes are left
over, neither by the reader nor by those of the blocks. -/
theorem readEach_of_finish {parts : List Part} (hfits : ∀ p ∈ parts, p.Fits) {sizes : List Nat}
    {bytes : Bytes} {w : Writer}
    (h : (do let sizes ← writeEach parts; return (sizes, ← Put.finish) : Put (List Nat × Bytes)) Writer.empty =
      .ok (sizes, bytes) w) :
    Layout.readEach (layouts parts) (Reader.ofBytes bytes) =
      .ok ((foundAll parts).zip sizes) { rest := [], consumed := bytes.length } := by
  obtain ⟨sizes', v, heach, hfinish⟩ := Actions.bind_eq_ok.mp h
  obtain ⟨written, hv, hreads⟩ := readEach_of_writeEach hfits Writer.isOpen_empty heach
  subst hv
  cases hfinish
  have hbytes : (Writer.empty.append written).toBytes = written := by simp
  have hsize : (Writer.empty.append written).size = written.length := by
    rw [Writer.size_eq_length, hbytes]
  have hall := hreads []
  rw [List.append_nil, hsize] at hall
  rw [hbytes]
  exact hall

/-- A byte, a block with a text and another block in it, an absent value, and annotations. -/
def nestedParts : List Part :=
  [.datum (.uint8 9), .block [.datum (.text "ab"), .block [.datum (.int16 (-2))], .block []],
    .datum (.optional none), .datum (.annotations [("k", "v")])]

/-- The bytes of `nestedParts`: the length of the outer block covers the inner ones and their lengths. -/
def nestedBytes : Bytes :=
  [9, 0, 0, 0, 16, 0, 0, 0, 2, 97, 98, 0, 0, 0, 2, 255, 254, 0, 0, 0, 0, 255, 255, 255, 255] ++
    [0, 1, 0, 0, 0, 1, 107, 0, 0, 0, 1, 118]

/-- Nested blocks are read back, and none of the three readers of blocks leaves a byte over. -/
theorem readEach_of_finish_nested :
    Layout.readEach (layouts nestedParts) (Reader.ofBytes nestedBytes) =
      .ok [(.datum (.uint8 9), 1),
          (.block [.datum (.text "ab"), .block [.datum (.int16 (-2))] [], .block [] []] [], 21),
          (.datum (.optional none), 25), (.datum (.annotations [("k", "v")]), 37)]
        { rest := [], consumed := 37 } := by
  have htext : Fits (.datum (.text "ab")) := .datum (by decide : (Utf8.encode "ab").length < 2 ^ 31)
  have hnumbers : ∀ p ∈ [datum (.int16 (-2))], p.Fits := List.forall_mem_singleton.mpr (.datum trivial)
  have hempty : ∀ p ∈ ([] : List Part), p.Fits := List.forall_mem_nil _
  have houter : ∀ p ∈ [datum (.text "ab"), block [.datum (.int16 (-2))], block []], p.Fits := by
    simp only [List.forall_mem_cons]
    exact ⟨htext, .block hnumbers, .block hempty, hempty⟩
  have habsent : Datum.Fits (.optional none) := by simp [Datum.Fits]
  have hnotes : Datum.Fits (.annotations [("k", "v")]) :=
    List.forall_mem_singleton.mpr (by decide)
  have hfits : ∀ p ∈ nestedParts, p.Fits := by
    simp only [nestedParts, List.forall_mem_cons]
    exact ⟨.datum trivial, .block houter, .datum habsent, .datum hnotes, hempty⟩
  have hwrite : (do let sizes ← writeEach nestedParts; return (sizes, ← Put.finish) : Put _) Writer.empty =
      .ok ([1, 21, 25, 37], nestedBytes) { closed := true } := by
    rfl
  exact readEach_of_finish hfits hwrite

end Part

end GelClient.Packet
