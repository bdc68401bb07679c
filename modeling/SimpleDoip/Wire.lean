import Mathlib.Data.Vector.Basic

/-!
# The wire-codec layer the crate stands on

`automotive_wire_codec` reads and writes big-endian fields and `embedded_io` writes bytes into a
slice or a vector. Both are foreign crates, so they enter as a parameter: `WireCodec` holds their
functions together with the behaviour `src/` relies on, one named law per function. `plainWire` is
a concrete instance.

A fixed-size array `[u8; N]` is a `List.Vector UInt8 N`, a slice is a `List UInt8`, and an encoder
is an `EStateM` program over its writer: like a `&mut impl Write`, the writer keeps what was
written before a failure.
-/

namespace SimpleDoip

/-- `[u8; N]`: the length is part of the type, so that an identifier field cannot have a wrong
one. -/
abbrev U8Array (n : Nat) := List.Vector UInt8 n

/-! ## Big-endian fields -/

/-- The two bytes of a `u16` in network order, the high byte first. -/
def u16Be (x : UInt16) : List UInt8 :=
  [UInt8.ofNat (x.toNat / 256), UInt8.ofNat x.toNat]

/-- The four bytes of a `u32` in network order, the high byte first. -/
def u32Be (x : UInt32) : List UInt8 :=
  [UInt8.ofNat (x.toNat / 16777216), UInt8.ofNat (x.toNat / 65536),
    UInt8.ofNat (x.toNat / 256), UInt8.ofNat x.toNat]

@[simp] theorem length_u16Be (x : UInt16) : (u16Be x).length = 2 := rfl

/-- The value that two bytes in network order spell, as `u16::from_be_bytes` computes it. -/
def ofU16Be (hi lo : UInt8) : UInt16 := UInt16.ofNat (256 * hi.toNat + lo.toNat)

/-- The value that four bytes in network order spell, as `u32::from_be_bytes` computes it. -/
def ofU32Be (a b c d : UInt8) : UInt32 :=
  UInt32.ofNat (16777216 * a.toNat + 65536 * b.toNat + 256 * c.toNat + d.toNat)

/-- Any two bytes are those of the `u16` they spell, so that reading a field loses nothing. -/
theorem u16Be_ofU16Be (hi lo : UInt8) : u16Be (ofU16Be hi lo) = [hi, lo] := by
  have h1 := hi.toNat_lt
  have h2 := lo.toNat_lt
  have hx : (ofU16Be hi lo).toNat = 256 * hi.toNat + lo.toNat := by
    simp only [ofU16Be, UInt16.toNat_ofNat']; omega
  simp only [u16Be, hx, List.cons.injEq, and_true]
  refine ⟨UInt8.toNat_inj.mp ?_, UInt8.toNat_inj.mp ?_⟩ <;>
    simp only [UInt8.toNat_ofNat'] <;> omega

/-- Any four bytes are those of the `u32` they spell, so that reading a field loses nothing. -/
theorem u32Be_ofU32Be (a b c d : UInt8) : u32Be (ofU32Be a b c d) = [a, b, c, d] := by
  have h1 := a.toNat_lt
  have h2 := b.toNat_lt
  have h3 := c.toNat_lt
  have h4 := d.toNat_lt
  have hx : (ofU32Be a b c d).toNat =
      16777216 * a.toNat + 65536 * b.toNat + 256 * c.toNat + d.toNat := by
    simp only [ofU32Be, UInt32.toNat_ofNat']; omega
  simp only [u32Be, hx, List.cons.injEq, and_true]
  refine ⟨UInt8.toNat_inj.mp ?_, UInt8.toNat_inj.mp ?_, UInt8.toNat_inj.mp ?_,
    UInt8.toNat_inj.mp ?_⟩ <;> simp only [UInt8.toNat_ofNat'] <;> omega

/-- A `u16` is the value its own bytes spell, so that writing a field loses nothing. -/
theorem ofU16Be_u16Be (x : UInt16) :
    ofU16Be (UInt8.ofNat (x.toNat / 256)) (UInt8.ofNat x.toNat) = x := by
  have h := x.toNat_lt
  apply UInt16.toNat_inj.mp
  simp only [ofU16Be, UInt16.toNat_ofNat', UInt8.toNat_ofNat']
  omega

theorem u16Be_injective : Function.Injective u16Be := by
  intro x y h
  simp only [u16Be, List.cons.injEq, and_true] at h
  rw [← ofU16Be_u16Be x, ← ofU16Be_u16Be y, h.1, h.2]

/-- A `u32` is the value its own bytes spell, so that writing a field loses nothing. -/
theorem ofU32Be_u32Be (x : UInt32) :
    ofU32Be (UInt8.ofNat (x.toNat / 16777216)) (UInt8.ofNat (x.toNat / 65536))
      (UInt8.ofNat (x.toNat / 256)) (UInt8.ofNat x.toNat) = x := by
  have h := x.toNat_lt
  apply UInt32.toNat_inj.mp
  simp only [ofU32Be, UInt32.toNat_ofNat', UInt8.toNat_ofNat']
  omega

/-! ## Writers -/

/-- `embedded_io::ErrorKind`: the short write, and everything else. The encoders pass the kind on
and do not look at it. -/
inductive ErrorKind where
  | writeZero
  | other
deriving DecidableEq, Repr

/-- `embedded_io::Write`, as the encoders use it. An encoder may be handed any writer, so no law is
asked for here: what a slice and a vector do with a `write_all` is said in `WireCodec`. -/
class Write (ω : Type) where
  writeAll : List UInt8 → EStateM ErrorKind ω Unit

/-- A `&mut [u8]` of `n` bytes used as a writer: the part filled so far and the part still free. -/
structure SliceWriter (n : Nat) where
  filled : List UInt8
  free : List UInt8
  size : filled.length + free.length = n

namespace SliceWriter
variable {n : Nat}

/-- A writer at the start of a buffer: everything is free, and the old contents are what is
there. -/
def start (buf : U8Array n) : SliceWriter n := ⟨[], buf.toList, by simp⟩

/-- The whole slice behind a writer: what was written over its front, and the old contents behind
that. -/
def buffer (w : SliceWriter n) : U8Array n := ⟨w.filled ++ w.free, by simpa using w.size⟩

/-- Fill what fits of `bs`, and lose the rest. A `write_all` of more than fits is an error, so that
the loss is never silent. -/
def fill (w : SliceWriter n) (bs : List UInt8) : SliceWriter n where
  filled := w.filled ++ bs.take w.free.length
  free := w.free.drop bs.length
  size := by
    have := w.size
    simp only [List.length_append, List.length_take, List.length_drop]
    omega

@[simp] theorem fill_nil (w : SliceWriter n) : w.fill [] = w := by
  obtain ⟨filled, free, size⟩ := w
  simp only [fill, List.take_nil, List.append_nil, List.length_nil, List.drop_zero]

theorem length_free_fill (w : SliceWriter n) (bs : List UInt8) :
    (w.fill bs).free.length = w.free.length - bs.length :=
  List.length_drop

/-- Two fills in a row are one, as long as the first one fits. This is why an encoder that writes
field by field writes one byte string. -/
theorem fill_fill {w : SliceWriter n} {as : List UInt8} (h : as.length ≤ w.free.length)
    (bs : List UInt8) : (w.fill as).fill bs = w.fill (as ++ bs) := by
  simp only [fill, mk.injEq]
  constructor
  · rw [List.take_append, List.take_of_length_le h, List.append_assoc, List.length_drop]
  · rw [List.drop_drop, List.length_append]

end SliceWriter

/-! ## The foreign crates -/

/-- The functions of `automotive_wire_codec` and the writers of `embedded_io`, with the behaviour
the crate relies on. `ι` is the `Incomplete` error; its contents are never looked at.

A reader returns the field and the rest of the buffer, and fails with `Incomplete` exactly on
short input. A writer puts out the big-endian bytes. The slice writer takes everything or reports an
error, and nothing is said about what a refused write leaves in the slice; the vector writer
appends. -/
class WireCodec (ι : outParam Type) where
  readU8 : List UInt8 → Except ι (UInt8 × List UInt8)
  readU16Be : List UInt8 → Except ι (UInt16 × List UInt8)
  readU32Be : List UInt8 → Except ι (UInt32 × List UInt8)
  readArray : (n : Nat) → List UInt8 → Except ι (U8Array n × List UInt8)
  readOptionalArray : (n : Nat) → List UInt8 → Option (U8Array n) × List UInt8
  take : List UInt8 → Nat → Except ι (List UInt8 × List UInt8)
  writeU8 : {ω : Type} → [Write ω] → UInt8 → EStateM ErrorKind ω Unit
  writeU16Be : {ω : Type} → [Write ω] → UInt16 → EStateM ErrorKind ω Unit
  writeU32Be : {ω : Type} → [Write ω] → UInt32 → EStateM ErrorKind ω Unit
  writeAll : {ω : Type} → [Write ω] → List UInt8 → EStateM ErrorKind ω Unit
  sliceWriteAll : {n : Nat} → List UInt8 → EStateM ErrorKind (SliceWriter n) Unit
  vecWriteAll : List UInt8 → EStateM ErrorKind (List UInt8) Unit
  readU8_cons : ∀ b rest, readU8 (b :: rest) = .ok (b, rest)
  readU8_short : ∃ e, readU8 [] = .error e
  readU16Be_append : ∀ x rest, readU16Be (u16Be x ++ rest) = .ok (x, rest)
  readU16Be_short : ∀ buf, buf.length < 2 → ∃ e, readU16Be buf = .error e
  readU32Be_append : ∀ x rest, readU32Be (u32Be x ++ rest) = .ok (x, rest)
  readU32Be_short : ∀ buf, buf.length < 4 → ∃ e, readU32Be buf = .error e
  readArray_append : ∀ n (v : U8Array n) rest, readArray n (v.toList ++ rest) = .ok (v, rest)
  readArray_short : ∀ n buf, buf.length < n → ∃ e, readArray n buf = .error e
  readOptionalArray_append : ∀ n (v : U8Array n) rest,
    readOptionalArray n (v.toList ++ rest) = (some v, rest)
  readOptionalArray_short : ∀ n buf, buf.length < n → readOptionalArray n buf = (none, buf)
  take_append : ∀ xs rest, take (xs ++ rest) xs.length = .ok (xs, rest)
  take_short : ∀ buf n, buf.length < n → ∃ e, take buf n = .error e
  writeU8_eq : ∀ {ω : Type} [Write ω] b,
    (writeU8 b : EStateM ErrorKind ω Unit) = Write.writeAll [b]
  writeU16Be_eq : ∀ {ω : Type} [Write ω] x,
    (writeU16Be x : EStateM ErrorKind ω Unit) = Write.writeAll (u16Be x)
  writeU32Be_eq : ∀ {ω : Type} [Write ω] x,
    (writeU32Be x : EStateM ErrorKind ω Unit) = Write.writeAll (u32Be x)
  writeAll_eq : ∀ {ω : Type} [Write ω] bs,
    (writeAll bs : EStateM ErrorKind ω Unit) = Write.writeAll bs
  sliceWriteAll_fits : ∀ {n : Nat} {bs} {w : SliceWriter n}, bs.length ≤ w.free.length →
    sliceWriteAll bs w = .ok () (w.fill bs)
  sliceWriteAll_short : ∀ {n : Nat} {bs} {w : SliceWriter n}, w.free.length < bs.length →
    ∃ kind w', sliceWriteAll bs w = .error kind w'
  vecWriteAll_eq : ∀ bs v, vecWriteAll bs v = .ok () (v ++ bs)

section
variable {ι : Type} [WireCodec ι]

/-- The slice writer, as `embedded_io` gives it for `&mut [u8]`. Its laws are those of
`WireCodec`. -/
instance {n : Nat} : Write (SliceWriter n) where
  writeAll := WireCodec.sliceWriteAll

/-- The vector writer, as `embedded_io` gives it for `Vec<u8>`. It appends, and cannot fail. -/
instance : Write (List UInt8) where
  writeAll := WireCodec.vecWriteAll

end

/-! ## A concrete codec -/

/-- `Incomplete`, as a bare marker: what the foreign type carries is not looked at by the crate. -/
inductive Incomplete where
  | incomplete
deriving DecidableEq, Repr

/-- The first `n` elements of a list that is long enough, as an array of that length. -/
def takeArray (n : Nat) (buf : List UInt8) (h : n ≤ buf.length) : U8Array n :=
  ⟨buf.take n, by simp [h]⟩

theorem takeArray_append {n : Nat} (v : U8Array n) (rest : List UInt8)
    (h : n ≤ (v.toList ++ rest).length) : takeArray n (v.toList ++ rest) h = v :=
  Subtype.ext (List.take_left' v.toList_length)

/-- The foreign crates as plain list functions. It shows that the laws of `WireCodec` can be met,
and it is what the runs on fixed bytes are evaluated with. -/
@[reducible] def plainWire : WireCodec Incomplete where
  readU8
    | b :: rest => .ok (b, rest)
    | [] => .error .incomplete
  readU16Be
    | hi :: lo :: rest => .ok (ofU16Be hi lo, rest)
    | _ => .error .incomplete
  readU32Be
    | a :: b :: c :: d :: rest => .ok (ofU32Be a b c d, rest)
    | _ => .error .incomplete
  readArray n buf :=
    if h : n ≤ buf.length then .ok (takeArray n buf h, buf.drop n) else .error .incomplete
  readOptionalArray n buf :=
    if h : n ≤ buf.length then (some (takeArray n buf h), buf.drop n) else (none, buf)
  take buf n := if n ≤ buf.length then .ok (buf.take n, buf.drop n) else .error .incomplete
  writeU8 b := Write.writeAll [b]
  writeU16Be x := Write.writeAll (u16Be x)
  writeU32Be x := Write.writeAll (u32Be x)
  writeAll bs := Write.writeAll bs
  sliceWriteAll bs w :=
    if bs.length ≤ w.free.length then .ok () (w.fill bs) else .error .writeZero w
  vecWriteAll bs v := .ok () (v ++ bs)
  readU8_cons _ _ := rfl
  readU8_short := ⟨_, rfl⟩
  readU16Be_append x rest := by
    simp only [u16Be, List.cons_append, List.nil_append, ofU16Be_u16Be]
  readU16Be_short
    | [], _ => ⟨_, rfl⟩
    | [_], _ => ⟨_, rfl⟩
  readU32Be_append x rest := by
    simp only [u32Be, List.cons_append, List.nil_append, ofU32Be_u32Be]
  readU32Be_short
    | [], _ => ⟨_, rfl⟩
    | [_], _ => ⟨_, rfl⟩
    | [_, _], _ => ⟨_, rfl⟩
    | [_, _, _], _ => ⟨_, rfl⟩
  readArray_append n v rest := by
    rw [dif_pos (by simp), takeArray_append, List.drop_left' v.toList_length]
  readArray_short n buf h := ⟨_, dif_neg (by omega)⟩
  readOptionalArray_append n v rest := by
    rw [dif_pos (by simp), takeArray_append, List.drop_left' v.toList_length]
  readOptionalArray_short n buf h := dif_neg (by omega)
  take_append xs rest := by simp
  take_short buf n h := ⟨_, if_neg (by omega)⟩
  writeU8_eq _ := rfl
  writeU16Be_eq _ := rfl
  writeU32Be_eq _ := rfl
  writeAll_eq _ := rfl
  sliceWriteAll_fits h := if_pos h
  sliceWriteAll_short h := ⟨_, _, if_neg (Nat.not_le.mpr h)⟩
  vecWriteAll_eq _ _ := rfl

end SimpleDoip
