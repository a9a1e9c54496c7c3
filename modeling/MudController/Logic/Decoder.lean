import Mathlib.Data.List.Basic

/-!
# `Logic.Decoder` — decoding bytes to text, a piece at a time

A streaming decoder is called again and again with some bytes and some space: it reads a prefix of the bytes,
writes whole characters into the space, and says whether it stopped for want of bytes or of space. `Transducer`
is such a decoder; `Lawful` says what its calls have to do with the text that the bytes stand for, of which
nothing else is assumed. Space is text itself, to be overwritten, and is counted in bytes of UTF-8.
`singleByte` is the decoder of a character set with one byte for each character.
-/

namespace Logic

/-! ## Text by bytes -/

@[simp] theorem utf8ByteSize_ofList_cons (c : Char) (cs : List Char) :
    (String.ofList (c :: cs)).utf8ByteSize = c.utf8Size + (String.ofList cs).utf8ByteSize := by
  rw [← List.singleton_append, String.ofList_append, String.utf8ByteSize_append, ← String.singleton_eq_ofList,
    String.utf8ByteSize_singleton]

/-- The characters before and after the byte `n`: none beyond the end, and none inside of a character. -/
def splitChars : List Char → Nat → Option (List Char × List Char)
  | cs, 0 => some ([], cs)
  | [], _ + 1 => none
  | c :: cs, n + 1 =>
    if c.utf8Size ≤ n + 1 then
      (splitChars cs (n + 1 - c.utf8Size)).map fun (before, after) => (c :: before, after)
    else none

/-- A text before and after the byte `n`. -/
def splitAtByte (s : String) (n : Nat) : Option (String × String) :=
  (splitChars s.toList n).map fun (before, after) => (String.ofList before, String.ofList after)

theorem splitChars_append (before after : List Char) :
    splitChars (before ++ after) (String.ofList before).utf8ByteSize = some (before, after) := by
  induction before with
  | nil => rw [String.ofList_nil, String.utf8ByteSize_empty, List.nil_append, splitChars]
  | cons c cs ih =>
      have hpos : 0 < c.utf8Size := c.utf8Size_pos
      obtain ⟨n, hn⟩ : ∃ n, c.utf8Size + (String.ofList cs).utf8ByteSize = n + 1 :=
        ⟨c.utf8Size + (String.ofList cs).utf8ByteSize - 1, by omega⟩
      have hrest : n + 1 - c.utf8Size = (String.ofList cs).utf8ByteSize := by omega
      rw [utf8ByteSize_ofList_cons, hn, List.cons_append, splitChars, if_pos (by omega), hrest, ih,
        Option.map_some]

/-- A text splits where two texts were joined. -/
theorem splitAtByte_append (before after : String) :
    splitAtByte (before ++ after) before.utf8ByteSize = some (before, after) := by
  have hsplit := splitChars_append before.toList after.toList
  rw [String.ofList_toList] at hsplit
  rw [splitAtByte, String.toList_append, hsplit]
  simp only [Option.map_some, String.ofList_toList]

theorem utf8ByteSize_ascii {cs : List Char} (h : ∀ c ∈ cs, c.utf8Size = 1) :
    (String.ofList cs).utf8ByteSize = cs.length := by
  induction cs with
  | nil => rfl
  | cons c cs ih =>
      have hrest := ih fun c' hc' => h c' (List.mem_cons_of_mem c hc')
      rw [utf8ByteSize_ofList_cons, h c List.mem_cons_self, hrest, List.length_cons, Nat.add_comm]

/-- Between ASCII characters a text splits everywhere, up to its end. -/
theorem splitChars_ascii {cs : List Char} (h : ∀ c ∈ cs, c.utf8Size = 1) (n : Nat) :
    splitChars cs n = if n ≤ cs.length then some (cs.take n, cs.drop n) else none := by
  induction cs generalizing n with
  | nil => cases n <;> simp [splitChars]
  | cons c cs ih =>
      cases n with
      | zero => simp [splitChars]
      | succ n =>
          have hrest := ih (fun c' hc' => h c' (List.mem_cons_of_mem c hc')) n
          rw [splitChars, h c List.mem_cons_self, if_pos (by omega), Nat.add_sub_cancel, hrest]
          by_cases hn : n ≤ cs.length <;> simp [hn]

/-- What is left of a space when its first `n` bytes are overwritten: of a character of which only some bytes
    are, the others become NULs. -/
def restChars : List Char → Nat → List Char
  | cs, 0 => cs
  | [], _ + 1 => []
  | c :: cs, n + 1 =>
    if c.utf8Size ≤ n + 1 then restChars cs (n + 1 - c.utf8Size)
    else List.replicate (c.utf8Size - (n + 1)) '\x00' ++ cs

theorem utf8ByteSize_replicate (n : Nat) (c : Char) :
    (String.ofList (List.replicate n c)).utf8ByteSize = n * c.utf8Size := by
  induction n with
  | zero => simp
  | succ n ih => rw [List.replicate_succ, utf8ByteSize_ofList_cons, ih, Nat.succ_mul, Nat.add_comm]

theorem utf8ByteSize_restChars {cs : List Char} {n : Nat} (h : n ≤ (String.ofList cs).utf8ByteSize) :
    (String.ofList (restChars cs n)).utf8ByteSize = (String.ofList cs).utf8ByteSize - n := by
  induction cs generalizing n with
  | nil => cases n <;> simp_all [restChars]
  | cons c cs ih =>
      cases n with
      | zero => rfl
      | succ n =>
          rw [utf8ByteSize_ofList_cons] at h ⊢
          rw [restChars]
          split
          · rw [ih (by omega)]
            omega
          · next hinside =>
            have hnul : Char.utf8Size '\x00' = 1 := by decide
            rw [String.ofList_append, String.utf8ByteSize_append, utf8ByteSize_replicate, hnul]
            omega

/-! ## Streaming decoders -/

/-- Why a call ended: all bytes are read, or the space left is too small for what comes next. -/
inductive CoderResult where
  | inputEmpty
  | outputFull
  deriving DecidableEq

/-- What a call of a decoder gives back. -/
structure Decoded (D : Type) where
  result : CoderResult
  /-- How many bytes it has read. -/
  read : Nat
  /-- The text at the front of the space. -/
  text : String
  /-- What the space holds after that text. -/
  rest : String
  /-- Some bytes did not stand for a character. -/
  hadErrors : Bool
  /-- The decoder for the next call. -/
  next : D

/-- A streaming decoder with states in `D`: it is called with bytes, with space, and with whether the bytes are
    the last. -/
abbrev Transducer (D : Type) := D → List UInt8 → String → Bool → Decoded D

/-- What a decoder is meant to do: the states in which it may be called, and the text that bytes stand for if
    they are all that comes in such a state. -/
structure Meaning (D : Type) where
  usable : D → Prop
  text : D → List UInt8 → String

variable {D : Type}

/-- The calls in usable states do what is meant, and `space` bytes are never too few for what comes next. After
    an error nothing is said, and after the call that ends the text the decoder is not usable. -/
structure Transducer.Lawful (decode : Transducer D) (m : Meaning D) (space : Nat) : Prop where
  read_le : ∀ {d : D}, m.usable d → ∀ src dst last, (decode d src dst last).read ≤ src.length
  fits : ∀ {d : D}, m.usable d → ∀ src dst last,
    ((decode d src dst last).text ++ (decode d src dst last).rest).utf8ByteSize = dst.utf8ByteSize
  /-- `InputEmpty` only when the input is consumed. -/
  consumed : ∀ {d : D} {src dst last}, m.usable d → (decode d src dst last).hadErrors = false →
    (decode d src dst last).result = .inputEmpty → (decode d src dst last).read = src.length
  /-- `OutputFull` only if the space was too small. -/
  progress : ∀ {d : D} {src dst last}, m.usable d → (decode d src dst last).hadErrors = false →
    (decode d src dst last).result = .outputFull → space ≤ dst.utf8ByteSize →
    0 < (decode d src dst last).read ∨ (decode d src dst last).text ≠ ""
  /-- More bytes may follow: a call writes what comes first, whatever they are. -/
  feeds : ∀ {d : D} {src dst}, m.usable d → (decode d src dst false).hadErrors = false →
    m.usable (decode d src dst false).next ∧
    ∀ more, m.text d (src ++ more) = (decode d src dst false).text ++
      m.text (decode d src dst false).next (src.drop (decode d src dst false).read ++ more)
  /-- No more bytes follow, but what is pending did not fit. -/
  flushes : ∀ {d : D} {src dst}, m.usable d → (decode d src dst true).hadErrors = false →
    (decode d src dst true).result = .outputFull →
    m.usable (decode d src dst true).next ∧
    m.text d src = (decode d src dst true).text ++
      m.text (decode d src dst true).next (src.drop (decode d src dst true).read)
  /-- No more bytes follow, and nothing is left pending. -/
  ends : ∀ {d : D} {src dst}, m.usable d → (decode d src dst true).hadErrors = false →
    (decode d src dst true).result = .inputEmpty → m.text d src = (decode d src dst true).text

/-! ## Character sets with one byte for each character -/

/-- The space that must be left before a character is written: an ASCII character is copied, for others there
    must be three bytes. -/
def spaceNeeded (c : Char) : Nat := if c.utf8Size = 1 then 1 else 3

/-- The characters that `bytes` stand for, as long as there is space. -/
def fittingChars (table : UInt8 → Char) : List UInt8 → Nat → List Char
  | [], _ => []
  | b :: bytes, space =>
    if spaceNeeded (table b) ≤ space then table b :: fittingChars table bytes (space - (table b).utf8Size)
    else []

/-- The decoder of a character set with one byte for each character; it has no state and knows no errors. -/
def singleByte (table : UInt8 → Char) : Transducer Unit := fun _ src dst _ =>
  let written := fittingChars table src dst.utf8ByteSize
  { result := if written.length = src.length then .inputEmpty else .outputFull
    read := written.length
    text := String.ofList written
    rest := String.ofList (restChars dst.toList (String.ofList written).utf8ByteSize)
    hadErrors := false
    next := () }

/-- Every byte is its character. -/
def singleByteMeaning (table : UInt8 → Char) : Meaning Unit where
  usable _ := True
  text _ src := String.ofList (src.map table)

variable {table : UInt8 → Char}

theorem utf8Size_le_spaceNeeded {c : Char} (h : c.utf8Size ≤ 3) : c.utf8Size ≤ spaceNeeded c := by
  unfold spaceNeeded
  split <;> omega

/-- What is written is a prefix of the text, and it fits. -/
theorem fittingChars_spec (h : ∀ b, (table b).utf8Size ≤ 3) (bytes : List UInt8) (space : Nat) :
    ∃ read left, bytes = read ++ left ∧ fittingChars table bytes space = read.map table ∧
      (String.ofList (read.map table)).utf8ByteSize ≤ space := by
  induction bytes generalizing space with
  | nil => exact ⟨[], [], rfl, rfl, by simp⟩
  | cons b bytes ih =>
      rw [fittingChars]
      split
      · next hspace =>
        have hsize := utf8Size_le_spaceNeeded (h b)
        obtain ⟨read, left, hsplit, hchars, hfits⟩ := ih (space - (table b).utf8Size)
        refine ⟨b :: read, left, by rw [hsplit, List.cons_append], by rw [hchars, List.map_cons], ?_⟩
        rw [List.map_cons, utf8ByteSize_ofList_cons]
        omega
      · exact ⟨[], b :: bytes, rfl, rfl, by simp⟩

/-- A text whose bytes are ASCII is written whole if there is space for it. -/
theorem fittingChars_ascii {bytes : List UInt8} {space : Nat} (h : ∀ b ∈ bytes, (table b).utf8Size = 1)
    (hspace : bytes.length ≤ space) : fittingChars table bytes space = bytes.map table := by
  induction bytes generalizing space with
  | nil => rfl
  | cons b bytes ih =>
      have hb : (table b).utf8Size = 1 := h b List.mem_cons_self
      have hlength : bytes.length + 1 ≤ space := hspace
      have hneeded : spaceNeeded (table b) = 1 := if_pos hb
      have hrest := ih (fun b' hb' => h b' (List.mem_cons_of_mem b hb')) (by omega : bytes.length ≤ space - 1)
      rw [fittingChars, hneeded, if_pos (by omega), hb, hrest, List.map_cons]

/-- With three bytes of space a character is written. -/
theorem fittingChars_ne_nil {bytes : List UInt8} {space : Nat} (hbytes : bytes ≠ []) (hspace : 3 ≤ space) :
    fittingChars table bytes space ≠ [] := by
  obtain ⟨b, bytes, rfl⟩ := List.exists_cons_of_ne_nil hbytes
  have hneeded : spaceNeeded (table b) ≤ space := by
    unfold spaceNeeded
    split <;> omega
  rw [fittingChars, if_pos hneeded]
  exact List.cons_ne_nil _ _

/-- A call reads the bytes whose characters it writes. -/
theorem singleByte_call (h : ∀ b, (table b).utf8Size ≤ 3) (d : Unit) (src : List UInt8) (dst : String)
    (last : Bool) :
    ∃ read left, src = read ++ left ∧ (singleByte table d src dst last).read = read.length ∧
      (singleByte table d src dst last).text = String.ofList (read.map table) ∧
      ((singleByte table d src dst last).result = .inputEmpty ↔ left = []) ∧
      ((singleByte table d src dst last).text ++ (singleByte table d src dst last).rest).utf8ByteSize =
        dst.utf8ByteSize := by
  obtain ⟨read, left, rfl, hchars, hfits⟩ := fittingChars_spec h src dst.utf8ByteSize
  have hlength : (read.map table).length = (read ++ left).length ↔ left = [] := by simp
  refine ⟨read, left, rfl, ?_, ?_, ?_, ?_⟩
  · show (fittingChars table (read ++ left) dst.utf8ByteSize).length = _
    rw [hchars, List.length_map]
  · show String.ofList (fittingChars table (read ++ left) dst.utf8ByteSize) = _
    rw [hchars]
  · show (if (fittingChars table (read ++ left) dst.utf8ByteSize).length = (read ++ left).length then
      CoderResult.inputEmpty else .outputFull) = .inputEmpty ↔ _
    rw [hchars, ← hlength]
    split <;> simp_all
  · show (String.ofList (fittingChars table (read ++ left) dst.utf8ByteSize) ++
      String.ofList (restChars dst.toList
        (String.ofList (fittingChars table (read ++ left) dst.utf8ByteSize)).utf8ByteSize)).utf8ByteSize = _
    have hrest := @utf8ByteSize_restChars dst.toList (String.ofList (read.map table)).utf8ByteSize
      (by rwa [String.ofList_toList])
    rw [String.ofList_toList] at hrest
    rw [hchars, String.utf8ByteSize_append, hrest]
    omega

/-- A decoder of single bytes is lawful if it has three bytes of space. -/
theorem singleByte_lawful (h : ∀ b, (table b).utf8Size ≤ 3) {space : Nat} (hspace : 3 ≤ space) :
    (singleByte table).Lawful (singleByteMeaning table) space where
  read_le {d} _ src dst last := by
    obtain ⟨read, left, rfl, hread, -⟩ := singleByte_call h d src dst last
    rw [hread, List.length_append]
    exact Nat.le_add_right _ _
  fits {d} _ src dst last := by
    obtain ⟨_, _, -, -, -, -, hfits⟩ := singleByte_call h d src dst last
    exact hfits
  consumed {d src dst last} _ _ hresult := by
    obtain ⟨read, left, rfl, hread, -, hempty, -⟩ := singleByte_call h d src dst last
    rw [hread, hempty.mp hresult, List.append_nil]
  progress {d src dst last} _ _ hresult hdst := by
    have hsrc : src ≠ [] := by
      rintro rfl
      cases hresult
    have hwritten : fittingChars table src dst.utf8ByteSize ≠ [] :=
      fittingChars_ne_nil hsrc (Nat.le_trans hspace hdst)
    exact .inl (List.length_pos_iff.mpr hwritten)
  feeds {d src dst} _ _ := by
    obtain ⟨read, left, rfl, hread, htext, -⟩ := singleByte_call h d src dst false
    refine ⟨trivial, fun more => ?_⟩
    rw [hread, htext, List.drop_left]
    show String.ofList ((read ++ left ++ more).map table) = _ ++ String.ofList ((left ++ more).map table)
    rw [← String.ofList_append, List.append_assoc, List.map_append]
  flushes {d src dst} _ _ _ := by
    obtain ⟨read, left, rfl, hread, htext, -⟩ := singleByte_call h d src dst true
    refine ⟨trivial, ?_⟩
    rw [hread, htext, List.drop_left]
    show String.ofList ((read ++ left).map table) = _ ++ String.ofList (left.map table)
    rw [← String.ofList_append, List.map_append]
  ends {d src dst} _ _ hresult := by
    obtain ⟨read, left, rfl, hread, htext, hempty, -⟩ := singleByte_call h d src dst true
    rw [htext, hempty.mp hresult, List.append_nil]
    rfl

end Logic
